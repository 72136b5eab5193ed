import RelayHub.Proofs.Hub.Admission
import RelayHub.Proofs.Scene.Stir

/-! The time for which a client is registered is one stretch of a run. A client enters the index once at
most and leaves it once at most; whoever has left is shut for good and gets into no index again. -/
namespace RelayHub
open Hub (Admits Calls LoopStep)

namespace Hub

def lists (hub : Hub) (h : Handle) : Bool := hub.registry.members.any (·.handle = h)

theorem listsIff (hub : Hub) (h : Handle) : hub.lists h = true ↔ hub.Held h := by
  simp only [lists, List.any_eq_true, decide_eq_true_eq, Held]
  constructor
  · rintro ⟨m, listed, handle⟩
    obtain ⟨u, i, found⟩ := (Users.memMembers _ m).mp listed
    exact ⟨u, i, m, found, handle⟩
  · rintro ⟨u, i, m, found, handle⟩
    exact ⟨m, (Users.memMembers _ m).mpr ⟨u, i, found⟩, handle⟩

def enters (h : Handle) (hub hub' : Hub) : Bool := !hub.lists h && hub'.lists h
def leaves (h : Handle) (hub hub' : Hub) : Bool := hub.lists h && !hub'.lists h

namespace Stir
variable {hub hub' : Hub} {a : Action} {k : Handle}

theorem keeps (stir : hub.Stir a hub') (held : hub.Held k) (isOpen : hub'.isOpen k = true) : hub'.Held k := by
  cases stir with
  | quiet _ _ stays _ => exact stays k isOpen held
  | loop step => exact held.loopStep step isOpen
  | build | flush | lateFlush | shutdown | lateShutdown | run | begin | turnAway => exact held

theorem shuts (stir : hub.Stir a hub') (known : k < hub.clients.length) (shut : hub.isOpen k = false) :
    hub'.isOpen k = false := by
  have stays : (hub'.isOpen k = true → hub.isOpen k = true) → hub'.isOpen k = false := by
    intro before
    cases isOpen : hub'.isOpen k with
    | false => rfl
    | true => exact absurd (shut.symm.trans (before isOpen)) (by simp)
  cases stir with
  | quiet _ quiet => exact stays (quiet.isOpen k)
  | loop step => exact stays (Hub.loopShuts step)
  | build p =>
    have same : (hub.build p.client).2.client? k = hub.client? k := List.getElem?_append_left known
    rw [Hub.isOpen, same]
    exact shut
  | flush | lateFlush | shutdown | lateShutdown | run | begin | turnAway => exact shut

end Stir
end Hub

namespace Scene

def tally (s : Scene) (kind : Hub → Hub → Bool) : List Action → Nat
  | [] => 0
  | a :: rest =>
    match s.act? a with
    | some next => (if kind s.hub next.hub then 1 else 0) + next.tally kind rest
    | none => 0

theorem tallyStep {s next : Scene} {a : Action} (acted : s.act? a = some next) (kind : Hub → Hub → Bool)
    (rest : List Action) :
    s.tally kind (a :: rest) = (if kind s.hub next.hub then 1 else 0) + next.tally kind rest := by
  simp [tally, acted]

theorem loopTurn {s s' : Scene} (acted : s.act? (.turn .loop) = some s') : LoopStep s.hub s'.hub := by
  obtain ⟨session, taken, rfl⟩ := Option.map_eq_some_iff.mp acted
  obtain ⟨hub, stepped, rfl⟩ := Option.map_eq_some_iff.mp taken
  exact Hub.loopSteps stepped

theorem indexMoves {s s' : Scene} {a : Action} (effect : Effect s a s') :
    s'.hub.registry = s.hub.registry ∨ Calls (a.asked s.hub) s.hub s'.hub ∨
      a = .turn .loop ∧ LoopStep s.hub s'.hub := by
  cases effect with
  | build | beginClose | markStarted | attach | setMetadata | run | setSink | pass => exact .inl rfl
  | register h _ => exact .inl (Hub.registerRegistry s.hub h)
  | finishClose h _ => exact .inl (congrArg Outline.registry (Hub.finishCloseOutline s.hub h))
  | takeQueue h _ => exact .inl (Hub.sameRegistry (takeQueueOutline s h))
  | flush => exact .inl (Hub.flushRegistry s.hub)
  | shutdown => exact .inl (Hub.shutdownRegistry s.hub)
  | begin began =>
    cases Hub.begun began with
    | first | another => exact .inl rfl
  | loop stepped => exact .inr (.inr ⟨rfl, Hub.loopSteps stepped⟩)
  | write _ _ step =>
    rcases Session.writeOutline step with same | closed
    · exact .inl (Hub.sameRegistry same)
    · exact .inl ((Hub.sameRegistry closed).trans (Hub.closeRegistry _ _))
  | call _ aside => exact .inr (.inl aside.hub)

theorem admits {s s' : Scene} {a : Action} (effect : Effect s a s') : Admits s.hub s'.hub := by
  rcases indexMoves effect with same | calls | ⟨-, step⟩
  · exact .same same
  · exact .calls calls
  · exact .loopStep step

/- A client that has left: how it stands from then on, in a later state `s` as against the one `t` just
behind its departure. -/
structure Departed (h : Handle) (t s : Scene) : Prop where
  shut : s.hub.isOpen h = false
  unlisted : s.hub.lists h = false
  groups : ∀ g u i m, m.handle = h → s.hub.registry.groupMember? g u i = some m →
    t.hub.registry.groupMember? g u i = some m

theorem departs {h : Handle} {s s' : Scene} {as : List Action} (known : s.has h = true)
    (shut : s.hub.isOpen h = false) (unlisted : s.hub.lists h = false) (ran : s.run? as = some s') :
    s.tally (Hub.enters h) as = 0 ∧ s.tally (Hub.leaves h) as = 0 ∧ Departed h s s' := by
  induction as generalizing s with
  | nil =>
    cases ran
    exact ⟨rfl, rfl, shut, unlisted, fun _ _ _ _ _ held => held⟩
  | cons a rest ih =>
    obtain ⟨next, acted, later⟩ := Option.bind_eq_some_iff.mp ran
    have stir := stir (effect acted)
    have admits := admits (effect acted)
    have inside : h < s.hub.clients.length := by simpa [has] using known
    have unlisted' : next.hub.lists h = false := by
      cases listed : next.hub.lists h with
      | false => rfl
      | true =>
        obtain ⟨u, i, m, found, rfl⟩ := (Hub.listsIff _ h).mp listed
        have before := (Hub.listsIff s.hub m.handle).mpr ⟨u, i, m, admits.client u i m shut found, rfl⟩
        exact absurd (unlisted.symm.trans before) (by simp)
    have known' : next.has h = true := by simpa [has] using Settles.knownStep inside stir
    obtain ⟨entered, left, departed⟩ := ih known' (stir.shuts inside shut) unlisted' later
    refine ⟨?_, ?_, departed.shut, departed.unlisted, ?_⟩
    · simp [tallyStep acted, entered, Hub.enters, unlisted']
    · simp [tallyStep acted, left, Hub.leaves, unlisted]
    · rintro g u i m rfl held
      exact admits.group g u i m shut (departed.groups g u i m rfl held)

theorem listedKnown {h : Handle} {s : Scene} (settling : s.Settling) (listed : s.hub.lists h = true) :
    s.has h = true := by
  obtain ⟨u, i, m, found, rfl⟩ := (Hub.listsIff s.hub h).mp listed
  obtain ⟨c, held, -⟩ := Option.map_eq_some_iff.mp (settling.known u i m (.inl found)).1
  simpa [has] using (List.getElem?_eq_some_iff.mp held).1

theorem leavingShuts {h : Handle} {s s' : Scene} {a : Action} (acted : s.act? a = some s')
    (listed : s.hub.lists h = true) (unlisted : s'.hub.lists h = false) : s'.hub.isOpen h = false := by
  cases isOpen : s'.hub.isOpen h with
  | false => rfl
  | true =>
    have stays := (stir (effect acted)).keeps ((Hub.listsIff s.hub h).mp listed) isOpen
    exact absurd (unlisted.symm.trans ((Hub.listsIff s'.hub h).mpr stays)) (by simp)

theorem leavesOnce {h : Handle} {s s' : Scene} {as : List Action} (settling : s.Settling)
    (listed : s.hub.lists h = true) (ran : s.run? as = some s') :
    s.tally (Hub.enters h) as = 0 ∧ s.tally (Hub.leaves h) as ≤ 1 := by
  induction as generalizing s with
  | nil => exact ⟨rfl, Nat.zero_le 1⟩
  | cons a rest ih =>
    obtain ⟨next, acted, later⟩ := Option.bind_eq_some_iff.mp ran
    have settling' := settlingStep settling (effect acted)
    rw [tallyStep acted, tallyStep acted]
    cases listed' : next.hub.lists h with
    | true =>
      obtain ⟨entered, left⟩ := ih settling' listed' later
      simp [entered, left, Hub.enters, Hub.leaves, listed, listed']
    | false =>
      have inside : h < s.hub.clients.length := by simpa [has] using listedKnown settling listed
      have known' : next.has h = true := by
        simpa [has] using Settles.knownStep inside (stir (effect acted))
      obtain ⟨entered, left, -⟩ := departs known' (leavingShuts acted listed listed') listed' later
      simp [entered, left, Hub.enters, Hub.leaves, listed, listed']

theorem entersOnce {h : Handle} {s s' : Scene} {as : List Action} (settling : s.Settling)
    (unlisted : s.hub.lists h = false) (ran : s.run? as = some s') :
    s.tally (Hub.enters h) as ≤ 1 ∧ s.tally (Hub.leaves h) as ≤ 1 := by
  induction as generalizing s with
  | nil => exact ⟨Nat.zero_le 1, Nat.zero_le 1⟩
  | cons a rest ih =>
    obtain ⟨next, acted, later⟩ := Option.bind_eq_some_iff.mp ran
    have settling' := settlingStep settling (effect acted)
    rw [tallyStep acted, tallyStep acted]
    cases listed' : next.hub.lists h with
    | false =>
      obtain ⟨entered, left⟩ := ih settling' listed' later
      simp [entered, left, Hub.enters, Hub.leaves, unlisted, listed']
    | true =>
      obtain ⟨entered, left⟩ := leavesOnce settling' listed' later
      simp [entered, left, Hub.enters, Hub.leaves, unlisted, listed']

/-- Every client has one stretch of a run for which it is registered. The step that ends it leaves the
client shut, out of the index and in no more groups than before, for the rest of the run; and no step
ever gives an entry in an index to a client that is not open. -/
theorem registeredForOneStretch {c : HubConfig} {s : Scene} {as : List Action}
    (ran : (opening c).run? as = some s) (h : Handle) :
    (opening c).tally (Hub.enters h) as ≤ 1 ∧ (opening c).tally (Hub.leaves h) as ≤ 1 ∧
    ∀ front a back t t', as = front ++ a :: back → (opening c).run? front = some t → t.act? a = some t' →
      (t.hub.leaves h t'.hub = true → Departed h t' s) ∧
      (t.hub.isOpen h = false → ∀ m, m.handle = h →
        (∀ u i, t'.hub.registry.client? u i = some m → t.hub.registry.client? u i = some m) ∧
        (∀ g u i, t'.hub.registry.groupMember? g u i = some m →
          t.hub.registry.groupMember? g u i = some m)) := by
  obtain ⟨entered, left⟩ := entersOnce (h := h) (settlingStart c) rfl ran
  refine ⟨entered, left, fun front a back t t' split before acted => ⟨fun leaves => ?_, fun shut => ?_⟩⟩
  · rw [split, runAppend, before, Option.bind_some, run?, acted, Option.bind_some] at ran
    obtain ⟨listed, unlisted⟩ : t.hub.lists h = true ∧ t'.hub.lists h = false := by
      simpa [Hub.leaves] using leaves
    have settled := settling (reachedRun before)
    have inside : h < t.hub.clients.length := by simpa [has] using listedKnown settled listed
    have known : t'.has h = true := by simpa [has] using Settles.knownStep inside (stir (effect acted))
    exact (departs known (leavingShuts acted listed unlisted) unlisted ran).2.2
  · rintro m rfl
    have admits := admits (effect acted)
    exact ⟨fun u i => admits.client u i m shut, fun g u i => admits.group g u i m shut⟩

def registeredTwice : List Action := [
  .build { id := "c", user := "u", tenant := "t" }, .build { id := "c", user := "u", tenant := "t" },
  .run, .turn .run, .register 0, .turn .loop, .register 0, .register 1, .turn .loop]

def triedAgain : List Action := [.join "g" 0, .turn .loop, .register 0, .turn .loop, .join "g" 0]

theorem replacedEndsItsStretch : ∃ t t' s, (opening {}).run? registeredTwice = some t ∧
    t.act? (.turn .loop) = some t' ∧ t'.run? triedAgain = some s ∧ t.hub.leaves 0 t'.hub = true ∧
    (opening {}).tally (Hub.enters 0) (registeredTwice ++ .turn .loop :: triedAgain) = 1 ∧
    (opening {}).tally (Hub.leaves 0) (registeredTwice ++ .turn .loop :: triedAgain) = 1 ∧
    t'.hub.isOpen 0 = false ∧ Departed 0 t' s := by
  have shown : ((opening {}).run? registeredTwice).bind (fun t => (t.act? (.turn .loop)).bind fun t' =>
      (t'.run? triedAgain).map fun _ => (t.hub.leaves 0 t'.hub, t'.hub.isOpen 0)) = some (true, false) := by
    rfl
  obtain ⟨t, front, shown⟩ := Option.bind_eq_some_iff.mp shown
  obtain ⟨t', acted, shown⟩ := Option.bind_eq_some_iff.mp shown
  obtain ⟨s, later, shown⟩ := Option.map_eq_some_iff.mp shown
  obtain ⟨leaves, shut⟩ := Prod.mk.inj shown
  have whole : (opening {}).run? (registeredTwice ++ .turn .loop :: triedAgain) = some s := by
    simp only [runAppend, front, Option.bind_some, run?, acted, later]
  obtain ⟨-, -, parts⟩ := registeredForOneStretch whole 0
  have departed := (parts registeredTwice (.turn .loop) triedAgain t t' rfl front acted).1 leaves
  exact ⟨t, t', s, front, acted, later, leaves, by decide, by decide, shut, departed⟩

end Scene
end RelayHub
