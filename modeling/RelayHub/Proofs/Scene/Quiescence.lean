import RelayHub.Proofs.Hub.Serving
import RelayHub.Proofs.Scene.Effect

/-! Once every event has been applied and every close call has come to its end, the indexes hold open
clients only, and a group holds a client only as it is registered. -/
namespace RelayHub.Scene
open Hub (Accounted)

theorem takeQueueOutline (s : Scene) (h : Handle) : (s.takeQueue h).hub.outline = s.hub.outline := by
  rcases s.takeQueueCases h with same | ⟨c, found, -, shape⟩
  · rw [same]
  · rw [shape]
    refine Hub.outlineUpdate fun x held => ?_
    cases found.symm.trans held
    rfl

/- What the events do not say of a shut client, a close call that is half done owes. -/
def Settling (s : Scene) : Prop := Accounted s.closing s.hub

theorem settlingStart (c : HubConfig) : Settling (opening c) := Accounted.ofVacant rfl rfl

theorem settlingStep {s s' : Scene} {a : Action} (before : s.Settling) (effect : Effect s a s') :
    s'.Settling := by
  cases effect with
  | build p => exact Accounted.build before p.client
  | register h _ => exact Accounted.register before h
  | beginClose h _ => exact Accounted.beginClose before h
  | finishClose h _ => exact Accounted.finishClose before h
  | takeQueue h _ =>
    have closing : (s.takeQueue h).closing = s.closing := by
      unfold takeQueue
      split
      · rfl
      · rfl
    rw [Settling, closing]
    exact Accounted.same before (takeQueueOutline s h)
  | markStarted h _ => exact Accounted.same before (Hub.outlineUpdate fun _ _ => rfl)
  | attach h sink _ => exact before
  | setMetadata h key value _ => exact Accounted.same before (Hub.outlineUpdate fun _ _ => rfl)
  | flush => exact Accounted.flush before
  | shutdown => exact Accounted.shutdown before
  | run => exact Accounted.run before
  | setSink h mode => exact before
  | pass nanos => exact before
  | begin began => exact Accounted.beginRun before began
  | loop stepped => exact Accounted.loopStep before (Hub.loopSteps stepped)
  | write _ _ step =>
    rcases Session.writeOutline step with same | closed
    · exact Accounted.same before same
    · exact (Accounted.close before _).same closed
  | call _ aside => exact Accounted.calls before aside.hub

/-- The states of all runs. A close call inside another call may also come to rest between its two steps,
before the next event is submitted. -/
inductive Reached (c : HubConfig) : Scene → Prop where
  | start : Reached c (opening c)
  | act {s s' : Scene} {a : Action} (before : Reached c s) (acted : s.act? a = some s') : Reached c s'
  | late {s : Scene} {h : Handle} {events : List Event} (before : Reached c s)
      (last : s.hub.events = events ++ [.unregister h]) (shut : s.hub.isOpen h = false) :
      Reached c { s.onHub (fun hub => { hub with events }) with closing := h :: s.closing }

theorem Reached.run {c : HubConfig} {s s' : Scene} {as : List Action} (reached : Reached c s)
    (ran : s.run? as = some s') : Reached c s' :=
  runInduction reached (fun _ _ _ _ before acted => .act before acted) ran

theorem reachedRun {c : HubConfig} {s : Scene} {as : List Action}
    (ran : (opening c).run? as = some s) : Reached c s := Reached.run .start ran

theorem settling {c : HubConfig} {s : Scene} (reached : Reached c s) : s.Settling := by
  induction reached with
  | start => exact settlingStart c
  | act _ acted before => exact settlingStep before (effect acted)
  | late _ last _ before => exact Accounted.owe before last

/-- Nobody who is shut stays behind in an index. -/
theorem quietIndexesHoldOpenClients {c : HubConfig} {s : Scene} (reached : Reached c s)
    (applied : s.hub.events = []) (closed : s.closing = []) :
    (∀ u i m, s.hub.registry.client? u i = some m → s.hub.isOpen m.handle = true) ∧
    (∀ g u i m, s.hub.registry.groupMember? g u i = some m →
      s.hub.isOpen m.handle = true ∧ s.hub.registry.client? u i = some m) := by
  have a := settling reached
  have isOpen : ∀ u i m, s.hub.registry.Holds u i m → s.hub.isOpen m.handle = true := by
    intro u i m held
    cases open' : s.hub.isOpen m.handle with
    | true => rfl
    | false =>
      rcases a.told u i m held open' with waits | owes
      · rw [applied] at waits
        contradiction
      · rw [closed] at owes
        contradiction
  refine ⟨fun u i m held => isOpen u i m (.inl held), fun g u i m held => ?_⟩
  have stillOpen := isOpen u i m (.inr ⟨g, held⟩)
  exact ⟨stillOpen, a.shared g u i m held stillOpen⟩

def takeover : List Action := [
  .build { id := "c", user := "u", tenant := "t" }, .build { id := "c", user := "u", tenant := "t" },
  .run, .turn .run, .register 0, .turn .loop, .join "g" 0, .register 1, .turn .loop, .join "g" 0,
  .turn .loop, .join "g" 1]

theorem quietAfterTakeover : ∃ s, (opening {}).run? takeover = some s ∧ s.hub.isOpen 0 = false ∧
    s.hub.registry.groupMember? "g" "u" "c" = some ⟨1, "u", "c", "t"⟩ ∧ s.hub.isOpen 1 = true ∧
    s.hub.registry.client? "u" "c" = some ⟨1, "u", "c", "t"⟩ := by
  have shown : ((opening {}).run? takeover).map (fun s => (s.hub.events, s.closing, s.hub.isOpen 0,
      s.hub.registry.groupMember? "g" "u" "c")) = some ([], [], false, some ⟨1, "u", "c", "t"⟩) := by
    rfl
  obtain ⟨s, ran, shown⟩ := Option.map_eq_some_iff.mp shown
  simp only [Prod.mk.injEq] at shown
  obtain ⟨applied, closed, shut, member⟩ := shown
  have quiet := quietIndexesHoldOpenClients (reachedRun ran) applied closed
  exact ⟨s, ran, shut, member, quiet.2 "g" "u" "c" _ member⟩

end RelayHub.Scene
