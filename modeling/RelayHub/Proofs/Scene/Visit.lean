import RelayHub.Proofs.Client.Intake
import RelayHub.Proofs.Scene.Lives
import RelayHub.Proofs.Scene.Relaying
import RelayHub.Session.Accept

/-! A connection that is being accepted, among all else that happens to its hub. The steps of the accepting task come
in their order, and between any two of them there may be any actions of others. Only the start call of the new
client, once begun, is not for others to carry on. -/
namespace RelayHub

def ConnectParams.profile (p : ConnectParams) (id peer : String) : Profile where
  id
  user := p.user
  tenant := p.tenant
  token := p.token
  metadata := Table.empty.insert "peer_addr" (.string peer)
  onMessage := some .relay

namespace Acceptance

def client? : Acceptance → Option Handle
  | .building .. | .failed => none
  | .registering h | .flushing h | .waiting h _ | .taking h | .marking h | .attaching h | .greeting h
  | .done h => some h

def owns : Acceptance → Action → Bool
  | .marking h, .markStarted k | .attaching h, .attach k _ => h = k
  | _, _ => false

def book (s : Scene) (session : Session) : Acceptance → Scene
  | .marking h => { s with session, taken := h :: s.taken }
  | .attaching h => { s with session, taken := s.taken.erase h, marked := h :: s.marked }
  | .greeting h => { s with session, marked := s.marked.erase h }
  | _ => { s with session }

def Booked (s : Scene) : Acceptance → Prop
  | .marking h => h ∈ s.taken
  | .attaching h => h ∈ s.marked
  | _ => True

end Acceptance

structure Visit where
  stage : Acceptance
  scene : Scene

namespace Visit

inductive Move where
  | own
  | other (a : Action)

def own? (v : Visit) : Option Visit :=
  (v.stage.step? v.scene.session).map fun (stage, session) => ⟨stage, stage.book v.scene session⟩

def other? (v : Visit) (a : Action) : Option Visit :=
  if v.stage.owns a then none else (v.scene.act? a).map fun scene => { v with scene }

def move? (v : Visit) : Move → Option Visit
  | .own => v.own?
  | .other a => v.other? a

def run? (v : Visit) : List Move → Option Visit
  | [] => some v
  | m :: rest => (v.move? m).bind (·.run? rest)

theorem otherActs {v v' : Visit} {a : Action} (moved : v.other? a = some v') :
    v.stage.owns a = false ∧ v.scene.act? a = some v'.scene ∧ v'.stage = v.stage := by
  unfold other? at moved
  split at moved
  · contradiction
  · rename_i foreign
    obtain ⟨scene, acted, rfl⟩ := Option.map_eq_some_iff.mp moved
    exact ⟨by simpa using foreign, acted, rfl⟩

theorem runInduction {P : Visit → Prop} {v v' : Visit} {ms : List Move} (start : P v)
    (step : ∀ t m t', P t → t.move? m = some t' → P t') (ran : v.run? ms = some v') : P v' := by
  induction ms generalizing v with
  | nil =>
    cases ran
    exact start
  | cons m rest ih =>
    obtain ⟨next, moved, later⟩ := Option.bind_eq_some_iff.mp ran
    exact ih (step v m next start moved) later

theorem runTurns {P : Visit → Prop} {v v' : Visit} {ms : List Move} (ran : v.run? ms = some v') (before : ¬ P v)
    (after : P v') : ∃ front m back t t', ms = front ++ m :: back ∧ v.run? front = some t ∧ t.move? m = some t' ∧
      t'.run? back = some v' ∧ ¬ P t ∧ P t' := by
  induction ms generalizing v with
  | nil =>
    cases ran
    exact absurd after before
  | cons m rest ih =>
    obtain ⟨next, moved, later⟩ := Option.bind_eq_some_iff.mp ran
    by_cases here : P next
    · exact ⟨[], m, rest, v, next, rfl, rfl, moved, later, before, here⟩
    · obtain ⟨front, m', back, t, t', split, reached, moved', later', before', after'⟩ := ih later here
      refine ⟨m :: front, m', back, t, t', by rw [split, List.cons_append], ?_, moved', later', before', after'⟩
      simp [run?, moved, reached]

end Visit

namespace Scene
variable {config : HubConfig} {s s' : Scene} {a : Action}

inductive Own (s : Scene) : Acceptance → Acceptance → Scene → Prop where
  | build (params : ConnectParams) (id peer : String) :
      Own s (.building params id peer) (.registering s.hub.clients.length) (s.build (params.profile id peer))
  | register (h : Handle) : Own s (.registering h) (.flushing h) (s.onHub (·.register h))
  | flush (h : Handle) : Own s (.flushing h) (.waiting h s.hub.flush.1) (s.onHub fun hub => hub.flush.2)
  | flushed (h : Handle) (ticket : Nat) : Own s (.waiting h ticket) (.taking h) s
  | lost (h : Handle) (ticket : Nat) (entry : Client → Log.Entry) :
      Own s (.waiting h ticket) .failed (s.onHub (·.note h entry))
  | take (h : Handle) (given : h ∈ (s.takeQueue h).taken) : Own s (.taking h) (.marking h) (s.takeQueue h)
  | refused (h : Handle) (entry : Client → Log.Entry) :
      Own s (.taking h) .failed (s.onHub fun hub => (hub.note h entry).close h)
  | mark (h : Handle) : Own s (.marking h) (.attaching h) (s.markStarted h)
  | attach (h : Handle) : Own s (.attaching h) (.greeting h) (s.attach h .ok)
  | greet (h : Handle) : Own s (.greeting h) (.done h) { s with session := Acceptance.greet s.session h }

theorem own {v v' : Visit} (moved : v.own? = some v') : Own v.scene v.stage v'.stage v'.scene := by
  obtain ⟨stage, s⟩ := v
  obtain ⟨⟨stage', session⟩, stepped, rfl⟩ := Option.map_eq_some_iff.mp moved
  cases stage with
  | building params id peer =>
    cases Option.some.inj stepped
    exact .build params id peer
  | registering h =>
    cases Option.some.inj stepped
    exact .register h
  | flushing h =>
    cases Option.some.inj stepped
    exact .flush h
  | waiting h ticket =>
    simp only [Acceptance.step?] at stepped
    split at stepped
    · contradiction
    · cases Option.some.inj stepped
      exact .flushed h ticket
    · cases Option.some.inj stepped
      exact .lost h ticket _
  | taking h =>
    simp only [Acceptance.step?] at stepped
    split at stepped
    · rename_i taken
      cases Option.some.inj stepped
      have shape : s.takeQueue h = { s with session, taken := h :: s.taken } := by rw [takeQueue, taken]
      have given := Own.take (s := s) h (shape ▸ List.mem_cons_self)
      rw [shape] at given
      exact given
    · cases Option.some.inj stepped
      exact .refused h _
  | marking h =>
    cases Option.some.inj stepped
    exact .mark h
  | attaching h =>
    cases Option.some.inj stepped
    exact .attach h
  | greeting h =>
    cases Option.some.inj stepped
    exact .greet h
  | done h => contradiction
  | failed => contradiction

section Own
variable {stage stage' : Acceptance} (own : Own s stage stage' s')
include own

theorem Own.effect (known : ∀ h, stage.client? = some h → s.has h = true) (booked : stage.Booked s) :
    s' = s ∨ ∃ a, Effect s a s' := by
  cases own with
  | build params id peer => exact .inr ⟨_, .build (params.profile id peer)⟩
  | register h => exact .inr ⟨_, .register h (known h rfl)⟩
  | flush h => exact .inr ⟨_, .flush⟩
  | flushed h ticket => exact .inl rfl
  | lost h ticket entry => exact .inr ⟨.send h [], callOnHub rfl (.note s.hub h entry)⟩
  | take h _ => exact .inr ⟨_, .takeQueue h (known h rfl)⟩
  | refused h entry => exact .inr ⟨.send h [], callOnHub rfl ((Hub.Calls.note s.hub h entry).trans (.close _ h))⟩
  | mark h => exact .inr ⟨_, .markStarted h booked⟩
  | attach h => exact .inr ⟨_, .attach h .ok booked⟩
  | greet h =>
    unfold Acceptance.greet
    split
    · exact .inl rfl
    · exact .inr ⟨.send h [], callOnHub rfl (.send s.hub h _)⟩

theorem Own.books : stage'.Booked s' := by
  cases own with
  | take h given => exact given
  | mark h => exact List.mem_cons_self
  | build | register | flush | flushed | lost | refused | attach | greet => trivial

theorem Own.client {h : Handle} (mine : stage.client? = some h) : stage'.client? = some h ∨ stage' = .failed := by
  cases own with
  | build => contradiction
  | lost | refused => exact .inr rfl
  | register | flush | flushed | take | mark | attach | greet => exact .inl mine

end Own

theorem bookedOther {stage : Acceptance} (booked : stage.Booked s) (foreign : stage.owns a = false)
    (effect : Effect s a s') : stage.Booked s' := by
  cases stage with
  | marking h =>
    have booked : h ∈ s.taken := booked
    show h ∈ s'.taken
    cases effect with
    | takeQueue k _ =>
      rcases s.takeQueueCases k with same | ⟨c, -, -, shape⟩
      · rwa [same]
      · rw [shape]
        exact List.mem_cons_of_mem _ booked
    | markStarted k _ => exact (List.mem_erase_of_ne (of_decide_eq_false foreign)).mpr booked
    | _ => exact booked
  | attaching h =>
    have booked : h ∈ s.marked := booked
    show h ∈ s'.marked
    cases effect with
    | takeQueue k _ =>
      rcases s.takeQueueCases k with same | ⟨c, -, -, shape⟩
      · rwa [same]
      · rwa [shape]
    | markStarted k _ => exact List.mem_cons_of_mem _ booked
    | attach k sink _ => exact (List.mem_erase_of_ne (of_decide_eq_false foreign)).mpr booked
    | _ => exact booked
  | _ => trivial

structure Sound (config : HubConfig) (s : Scene) : Prop where
  settling : s.Settling
  truthful : s.hub.Truthful
  conform : Conform (fun _ => False) s
  peopled : Peopled config s

theorem sound {as : List Action} (ran : (opening config).run? as = some s) : Sound config s where
  settling := Scene.settling (reachedRun ran)
  truthful := Scene.truthful (reachedRun ran)
  conform := (Scene.peopled ran).1
  peopled := (Scene.peopled ran).2

namespace Sound
variable (sound : Sound config s)
include sound

theorem step (effect : Effect s a s') : Sound config s' where
  settling := settlingStep sound.settling effect
  truthful := truthfulStep sound.truthful effect
  conform := sound.conform.onward effect
  peopled := peopledStep sound.conform sound.peopled effect

theorem onward (effect : Effect s a s') {k : Handle} {c : Client} (found : s.hub.client? k = some c) :
    ∃ c', s'.hub.client? k = some c' ∧ c.Onward c' := by
  obtain ⟨l, -, lives⟩ := sound.peopled.lives k c found
  cases Option.some.inj (lives.client.symm.trans found)
  obtain ⟨l', later, lives', -⟩ := lives.step sound.conform rfl effect
  exact ⟨l'.client, lives'.client, Life.laterOnward later⟩

theorem firstSend (valid : config.fault? = none) {k : Handle} {c : Client} (found : s.hub.client? k = some c)
    (fresh : c.arrived = []) (sending : c.sender = true) (m : Bytes) :
    ∃ c', (s.hub.send k m).2.client? k = some c' ∧ c'.arrived = [m] := by
  obtain ⟨-, -, -, room, -⟩ := HubConfig.faultless.mp valid
  obtain ⟨l, lived, lives⟩ := sound.peopled.lives k c found
  cases Option.some.inj (lives.client.symm.trans found)
  have accepted := Life.firstOffer lived room fresh sending m
  obtain ⟨answer, -⟩ := sendOffers found m
  rw [sound.peopled.settings] at answer
  obtain ⟨c', found', arrived⟩ := Hub.sendResult found m
  rw [if_pos (answer.mpr accepted), fresh] at arrived
  exact ⟨c', found', arrived⟩

end Sound

end Scene
end RelayHub
