import RelayHub.Hub.Loop
import RelayHub.Proofs.Hub.Accounting

/-! The event loop keeps the account: an event that is applied settles what its notice stood for, and
the shutdown leaves nobody to account for. -/
namespace RelayHub

def Event.parting : Event → List Handle
  | .unregister h => [h]
  | .register _ | .flush _ | .shutdown => []

namespace Hub

inductive LoopStep (hub : Hub) : Hub → Prop where
  | applied {e : Event} {rest : List Event} (serving : hub.loop = .serving)
      (next : hub.events = e :: rest) : LoopStep hub ({ hub with events := rest }.apply e)
  | drains (stopping : hub.loop = .stopping) : LoopStep hub { hub with loop := .draining }
  | discarded {e : Event} {rest : List Event} (draining : hub.loop = .draining)
      (next : hub.events = e :: rest) : LoopStep hub ({ hub with events := rest }.discard e)
  | stopped (draining : hub.loop = .draining) (none : hub.events = []) :
      LoopStep hub ({ hub with loop := .stopped, runs := hub.runs.map returnActive }.write
        ⟨.info, .hub, "Hub event loop stopped", [("component", component)]⟩)

theorem loopSteps {hub hub' : Hub} (stepped : hub.loopStep? = some hub') : LoopStep hub hub' := by
  unfold loopStep? at stepped
  split at stepped
  · contradiction
  · contradiction
  · rename_i serving
    split at stepped
    · contradiction
    · rename_i e rest next
      cases Option.some.inj stepped
      exact .applied serving next
  · rename_i stopping
    cases Option.some.inj stepped
    exact .drains stopping
  · rename_i draining
    split at stepped
    · rename_i e rest next
      cases Option.some.inj stepped
      exact .discarded draining next
    · rename_i none
      cases Option.some.inj stepped
      exact .stopped draining none

/- A run call that begins: the first one ever has the events from then on, another one returns at once. -/
inductive Begun (hub : Hub) : Hub → Prop where
  | first {i : Nat} (waits : hub.waitingRun? = some i) (idle : hub.loop = .idle) (entry : Log.Entry) :
      Begun hub ({ hub with loop := .serving, runs := hub.runs.set i .active }.write entry)
  | another {i : Nat} (waits : hub.waitingRun? = some i) (begun : hub.loop ≠ .idle) :
      Begun hub { hub with runs := hub.runs.set i (.returned (.error .alreadyRunning)) }

theorem begun {hub hub' : Hub} (began : hub.beginRun? = some hub') : Begun hub hub' := by
  obtain ⟨i, waits, began⟩ := Option.bind_eq_some_iff.mp began
  split at began
  · rename_i idle
    cases Option.some.inj began
    exact .first waits idle _
  · rename_i begun
    cases Option.some.inj began
    exact .another waits begun

def displaced (hub : Hub) (m : Member) : List Handle :=
  match hub.registry.client? m.user m.id with
  | some p => if p.handle = m.handle then [] else [p.handle]
  | none => []

theorem memDisplaced (hub : Hub) (m : Member) (k : Handle) : k ∈ hub.displaced m ↔
    k ≠ m.handle ∧ ∃ p, hub.registry.client? m.user m.id = some p ∧ p.handle = k := by
  unfold displaced
  cases hub.registry.client? m.user m.id with
  | none => simp
  | some p =>
    by_cases own : p.handle = m.handle
    · simp only [own, if_true, List.not_mem_nil, Option.some.injEq, exists_eq_left', false_iff]
      rintro ⟨differs, handle⟩
      exact differs handle.symm
    · simp only [own, if_false, List.mem_singleton, Option.some.injEq, exists_eq_left']
      constructor
      · rintro rfl
        exact ⟨own, rfl⟩
      · rintro ⟨-, handle⟩
        exact handle.symm

theorem registerOutline {hub : Hub} {h : Handle} {c : Client} (found : hub.client? h = some c)
    (isOpen : c.isOpen = true) : (hub.applyRegister h).outline =
      { (hub.closeAll (hub.displaced (c.member h))).outline with
        registry := (hub.registry.insert (c.member h)).2 } := by
  let m := c.member h
  have lookup : (hub.registry.insert m).1 = hub.registry.client? m.user m.id := rfl
  have handle : m.handle = h := rfl
  unfold applyRegister displaced
  simp only [found, isOpen, Bool.not_true, Bool.false_eq_true, if_false, m, lookup, handle]
  cases hub.registry.client? m.user m.id with
  | none => rfl
  | some p =>
    by_cases own : p.handle = h
    · simp only [own, if_true]
      rfl
    · simp only [own, if_false, closeAll, List.foldl_cons, List.foldl_nil]
      rw [closeOutline hub]
      exact (closeOutline _ p.handle).trans rfl

theorem registerShut {hub : Hub} {h : Handle} (shut : hub.isOpen h = false) :
    (hub.applyRegister h).outline = hub.outline := by
  unfold applyRegister
  cases found : hub.client? h with
  | none => rfl
  | some c =>
    have closed : c.isOpen = false := by simpa [isOpen, found] using shut
    simp only [closed, Bool.not_false, if_true]
    rfl

theorem unregisterOutline {hub : Hub} {h : Handle} {c : Client} (found : hub.client? h = some c) :
    (hub.applyUnregister h).outline =
      (Hub.close { hub with registry := (hub.registry.remove (c.member h)).2 } h).outline := by
  unfold applyUnregister
  simp only [found]
  split <;> rfl

theorem shutdownOutline (hub : Hub) : hub.applyShutdown.outline =
    { (closeAll { hub with registry := {} } (hub.registry.members.map (·.handle))).outline with
      loop := .stopping } := rfl

theorem closeAllKeeps {β : Type} {f : Hub → β} (kept : ∀ hub h, f (hub.close h) = f hub) (hub : Hub)
    (hs : List Handle) : f (hub.closeAll hs) = f hub := by
  induction hs generalizing hub with
  | nil => rfl
  | cons h rest ih => exact (ih (hub.close h)).trans (kept hub h)

theorem closeAllRegistry (hub : Hub) (hs : List Handle) : (hub.closeAll hs).registry = hub.registry :=
  closeAllKeeps closeRegistry hub hs

theorem closeAllLoop (hub : Hub) (hs : List Handle) : (hub.closeAll hs).loop = hub.loop :=
  closeAllKeeps closeLoop hub hs

theorem closeAllMember (hub : Hub) (hs : List Handle) (k : Handle) :
    (hub.closeAll hs).member? k = hub.member? k :=
  closeAllKeeps (f := (·.member? k)) (fun hub h => closeMember hub h k) hub hs

theorem closeAllOpen (hub : Hub) (hs : List Handle) (k : Handle) :
    (hub.closeAll hs).isOpen k = (hub.isOpen k && k ∉ hs) := by
  induction hs generalizing hub with
  | nil => simp [closeAll]
  | cons h rest ih =>
    refine (ih (hub.close h)).trans ?_
    rw [closeOpen]
    by_cases here : k = h
    · simp [here]
    · simp [here]

namespace Accounted
variable {owed : List Handle} {hub hub' : Hub}

theorem taken (a : Accounted owed hub) {e : Event} {rest : List Event} (next : hub.events = e :: rest) :
    Accounted (e.parting ++ owed) { hub with events := rest } := by
  refine a.keep rfl rfl rfl (fun _ _ own => own) (fun _ _ _ isOpen => isOpen) ?_
  intro _ k told shut
  rcases told shut with waits | owes
  · rw [next] at waits
    rcases List.mem_cons.mp waits with here | later
    · subst here
      exact .inr List.mem_cons_self
    · exact .inl later
  · exact .inr (List.mem_append_right _ owes)

theorem applyRegister (a : Accounted owed hub) (serving : hub.loop.ended = false) (h : Handle) :
    Accounted owed (hub.applyRegister h) := by
  cases isOpen : hub.isOpen h with
  | false => exact a.same (registerShut isOpen)
  | true =>
    obtain ⟨c, found, open'⟩ := (Option.any_eq_true ..).mp isOpen
    have known : hub.member? h = some (c.member h) := by simp [member?, found]
    have closed := a.closeAll (hub.displaced (c.member h))
    have stays : (hub.closeAll (hub.displaced (c.member h))).isOpen h = true := by
      simp [closeAllOpen, isOpen, memDisplaced, Client.member]
    -- whoever was found under the key is closed by now, unless it is the client itself
    have free : ∀ p, (hub.closeAll (hub.displaced (c.member h))).registry.client?
        (c.member h).user (c.member h).id = some p →
        p = c.member h ∨ (hub.closeAll (hub.displaced (c.member h))).isOpen p.handle = false := by
      intro p held
      rw [closeAllRegistry] at held
      by_cases own : p.handle = h
      · have same := (a.known _ _ p (.inl held)).1
        rw [own, known] at same
        exact .inl (Option.some.inj same).symm
      · right
        have member : p.handle ∈ hub.displaced (c.member h) :=
          (memDisplaced hub _ _).mpr ⟨own, p, held, rfl⟩
        simp [closeAllOpen, member]
    have serving' : (hub.closeAll (hub.displaced (c.member h))).loop.ended = false := by
      rw [closeAllLoop, serving]
    have inserted := closed.inserted (m := c.member h) ((closeAllMember hub _ h).trans known) stays serving' free
    refine inserted.same ((registerOutline found open').trans ?_)
    rw [closeAllRegistry]
    rfl

theorem strangerGone (a : Accounted owed hub) {h : Handle} (unknown : hub.client? h = none) (u i : String)
    (m : Member) (held : hub.registry.Holds u i m) : m.handle ≠ h := by
  rintro rfl
  have own := (a.known u i m held).1
  simp [member?, unknown] at own

theorem removedGone (a : Accounted owed hub) {h : Handle} {c : Client} (found : hub.client? h = some c)
    (u i : String) (m : Member) (held : (hub.registry.remove (c.member h)).2.Holds u i m) :
    m.handle ≠ h := by
  rintro rfl
  obtain ⟨known, rfl, rfl⟩ := (a.removed (c.member m.handle)).known u i m held
  have own : hub.member? m.handle = some m := known
  have self : c.member m.handle = m := by simpa [member?, found] using own
  rw [self] at held
  exact Registry.removeHolds hub.registry m held

theorem applyUnregister {h : Handle} (a : Accounted (h :: owed) hub) :
    Accounted owed (hub.applyUnregister h) := by
  cases found : hub.client? h with
  | none =>
    have same : (hub.applyUnregister h).outline = hub.outline := by simp [Hub.applyUnregister, found]
    exact (a.forget (a.strangerGone found)).same same
  | some c =>
    exact (((a.removed (c.member h)).forget (a.removedGone found)).close h).same (unregisterOutline found)

theorem applyShutdown (a : Accounted owed hub) : Accounted owed hub.applyShutdown := by
  have cleared : Accounted owed { hub with registry := {} } := ofVacant a.owned rfl
  have closed := cleared.closeAll (hub.registry.members.map (·.handle))
  exact ofVacant closed.owned (closeAllRegistry _ _)

theorem discard (a : Accounted owed hub) (ended : hub.loop.ended = true) (e : Event) :
    Accounted owed (hub.discard e) := by
  cases e with
  | register h => exact a.close h
  | flush ticket => exact ofVacant a.owned (a.ended ended)
  | unregister h => exact a
  | shutdown => exact a

theorem apply {e : Event} (a : Accounted (e.parting ++ owed) hub) (serving : hub.loop.ended = false) :
    Accounted owed (hub.apply e) := by
  cases e with
  | register h => exact applyRegister a serving h
  | unregister h => exact applyUnregister a
  | flush ticket =>
    exact a.keep rfl rfl rfl (fun _ _ own => own) (fun _ _ _ isOpen => isOpen)
      (fun _ _ told shut => told shut)
  | shutdown => exact applyShutdown a

theorem loopStep (a : Accounted owed hub) (step : LoopStep hub hub') : Accounted owed hub' := by
  cases step with
  | applied serving next => exact apply (a.taken next) (by simp [serving, LoopState.ended])
  | drains stopping => exact ofVacant a.owned (a.ended (by simp [stopping, LoopState.ended]))
  | @discarded e rest draining next =>
    have ended : hub.loop.ended = true := by simp [draining, LoopState.ended]
    have popped : Accounted owed { hub with events := rest } := ofVacant a.owned (a.ended ended)
    exact popped.discard ended e
  | stopped draining _ => exact ofVacant a.owned (a.ended (by simp [draining, LoopState.ended]))

theorem beginRun (a : Accounted owed hub) (began : hub.beginRun? = some hub') : Accounted owed hub' := by
  cases begun began with
  | first _ idle =>
    exact a.keep rfl rfl (by simp [idle, LoopState.ended, write]) (fun _ _ own => own)
      (fun _ _ _ isOpen => isOpen) (fun _ _ told shut => told shut)
  | another =>
    exact a.keep rfl rfl rfl (fun _ _ own => own) (fun _ _ _ isOpen => isOpen)
      (fun _ _ told shut => told shut)

end Accounted
end Hub
end RelayHub
