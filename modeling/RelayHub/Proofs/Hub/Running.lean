import RelayHub.Proofs.Hub.Standing

/-! Who takes the events, and in which order. The first run call that begins has the events until the loop
stops; every other one is turned away. Events leave the queue at its head and join it at its end. -/
namespace RelayHub.Hub

def TurnedAway (r : RunState) : Prop := r = .waiting ∨ r = .returned (.error .alreadyRunning)

inductive Manned (hub : Hub) : Prop where
  | idle (loop : hub.loop = .idle) (waiting : ∀ r ∈ hub.runs, r = .waiting)
  | running {rest : List RunState}
      (loop : hub.loop = .serving ∨ hub.loop = .stopping ∨ hub.loop = .draining)
      (runs : hub.runs = .active :: rest) (others : ∀ r ∈ rest, TurnedAway r)
  | stopped {rest : List RunState} (loop : hub.loop = .stopped)
      (runs : hub.runs = .returned (.ok ()) :: rest) (others : ∀ r ∈ rest, TurnedAway r)

def next (hub : Hub) : List Event :=
  match hub.loop with
  | .serving | .draining => hub.events.take 1
  | .idle | .stopping | .stopped => []

namespace Manned
variable {hub hub' : Hub}

theorem same (m : Manned hub) (loop : hub'.loop = hub.loop) (runs : hub'.runs = hub.runs) :
    Manned hub' := by
  cases m with
  | idle idle waiting => exact .idle (loop.trans idle) (runs ▸ waiting)
  | running busy first others => exact .running (loop ▸ busy) (runs.trans first) others
  | stopped stopped first others => exact .stopped (loop.trans stopped) (runs.trans first) others

theorem quiet (m : Manned hub) (quiet : Quiet hub hub') : Manned hub' := m.same quiet.loop quiet.runs

theorem run (m : Manned hub) : Manned hub.run := by
  have join : ∀ {P : RunState → Prop} {rest : List RunState}, P .waiting → (∀ r ∈ rest, P r) →
      ∀ r ∈ rest ++ [.waiting], P r := by
    intro P rest new before r member
    rcases List.mem_append.mp member with old | last
    · exact before r old
    · rw [List.mem_singleton.mp last]
      exact new
  cases m with
  | idle loop waiting => exact .idle loop (join rfl waiting)
  | running loop runs others => exact .running loop (by simp [Hub.run, runs]) (join (.inl rfl) others)
  | stopped loop runs others => exact .stopped loop (by simp [Hub.run, runs]) (join (.inl rfl) others)

theorem stillAway {rest : List RunState} (others : ∀ r ∈ rest, TurnedAway r) (i : Nat) :
    ∀ r ∈ rest.set i (.returned (.error .alreadyRunning)), TurnedAway r := by
  intro r member
  rcases List.mem_or_eq_of_mem_set member with old | new
  · exact others r old
  · exact .inr new

theorem secondWaiting {first : RunState} {rest : List RunState} {i : Nat} (runs : hub.runs = first :: rest)
    (begun : first ≠ .waiting) (found : hub.waitingRun? = some i) (r : RunState) :
    ∃ j, hub.runs.set i r = first :: rest.set j r := by
  have later : ∃ j, i = j + 1 := by
    rw [waitingRun?, runs, List.findIdx?_cons] at found
    cases first with
    | waiting => exact absurd rfl begun
    | active =>
      obtain ⟨j, -, rfl⟩ := Option.map_eq_some_iff.mp found
      exact ⟨j, rfl⟩
    | returned _ =>
      obtain ⟨j, -, rfl⟩ := Option.map_eq_some_iff.mp found
      exact ⟨j, rfl⟩
  obtain ⟨j, rfl⟩ := later
  exact ⟨j, by rw [runs, List.set_cons_succ]⟩

theorem begin (m : Manned hub) {i : Nat} (waits : hub.waitingRun? = some i) (idle : hub.loop = .idle)
    (entry : Log.Entry) :
    Manned ({ hub with loop := .serving, runs := hub.runs.set i .active }.write entry) := by
  cases m with
  | idle _ waiting =>
    cases runs : hub.runs with
    | nil => simp [waitingRun?, runs] at waits
    | cons first rest =>
      have firstWaits : first = .waiting := waiting first (by simp [runs])
      subst firstWaits
      have here : i = 0 := by
        rw [waitingRun?, runs, List.findIdx?_cons] at waits
        simpa using waits.symm
      subst here
      have others : ∀ r ∈ rest, TurnedAway r := fun r member => .inl (waiting r (by simp [runs, member]))
      exact .running (.inl rfl) (by simp [write]) others
  | running loop _ _ => simp [idle] at loop
  | stopped loop _ _ => simp [idle] at loop

theorem turnAway (m : Manned hub) {i : Nat} (waits : hub.waitingRun? = some i) (begun : hub.loop ≠ .idle) :
    Manned { hub with runs := hub.runs.set i (.returned (.error .alreadyRunning)) } := by
  cases m with
  | idle loop waiting => exact absurd loop begun
  | running loop runs others =>
    obtain ⟨j, set⟩ := secondWaiting runs (by simp) waits (.returned (.error .alreadyRunning))
    exact .running loop set (stillAway others j)
  | stopped loop runs others =>
    obtain ⟨j, set⟩ := secondWaiting runs (by simp) waits (.returned (.error .alreadyRunning))
    exact .stopped loop set (stillAway others j)

theorem returnOthers {rest : List RunState} (others : ∀ r ∈ rest, TurnedAway r) :
    rest.map returnActive = rest := by
  refine (List.map_congr_left fun r member => ?_).trans (List.map_id rest)
  rcases others r member with rfl | rfl
  · rfl
  · rfl

theorem loopStep (m : Manned hub) (step : LoopStep hub hub') : Manned hub' := by
  cases m with
  | idle loop waiting =>
    cases step with
    | applied serving | drains serving | discarded serving | stopped serving => simp [loop] at serving
  | stopped loop runs others =>
    cases step with
    | applied serving | drains serving | discarded serving | stopped serving => simp [loop] at serving
  | running loop runs others =>
    cases step with
    | @applied e rest serving next =>
      have popped : Manned { hub with events := rest } := .running loop runs others
      cases e with
      | register h => exact popped.quiet (Noticed.applyRegister _ h).toQuiet
      | unregister h => exact popped.quiet (Noticed.applyUnregister _ h).toQuiet
      | flush ticket => exact .running loop runs others
      | shutdown =>
        have same := (Noticed.clearAll { hub with events := rest }).runs
        exact .running (.inr (.inl rfl)) (same.trans runs) others
    | drains stopping => exact .running (.inr (.inr rfl)) runs others
    | @discarded e rest draining next =>
      have popped : Manned { hub with events := rest } := .running loop runs others
      cases e with
      | register h => exact popped.quiet (Noticed.close _ h).toQuiet
      | unregister h => exact popped
      | flush ticket => exact .running loop runs others
      | shutdown => exact popped
    | stopped draining none =>
      refine .stopped rfl ?_ others
      simp only [write, runs, List.map_cons, returnActive]
      rw [returnOthers others]

theorem other (m : Manned hub) {r : RunState} {i : Nat} (found : hub.runs[i + 1]? = some r) : TurnedAway r := by
  cases m with
  | idle loop waiting => exact .inl (waiting r (List.mem_of_getElem? found))
  | running loop runs others =>
    rw [runs, List.getElem?_cons_succ] at found
    exact others r (List.mem_of_getElem? found)
  | stopped loop runs others =>
    rw [runs, List.getElem?_cons_succ] at found
    exact others r (List.mem_of_getElem? found)

theorem onlyFirst (m : Manned hub) {i : Nat} (active : hub.runs[i]? = some .active) : i = 0 := by
  cases i with
  | zero => rfl
  | succ i =>
    rcases m.other active with waits | failed
    · contradiction
    · contradiction

theorem taker (m : Manned hub) (takes : hub.next ≠ []) : hub.runs[0]? = some .active := by
  cases m with
  | idle loop waiting => exact absurd (by simp [Hub.next, loop]) takes
  | running loop runs others => simp [runs]
  | stopped loop runs others => exact absurd (by simp [Hub.next, loop]) takes

theorem stoppedFirst (m : Manned hub) (stopped : hub.loop = .stopped) :
    hub.runs[0]? = some (.returned (.ok ())) := by
  cases m with
  | idle loop waiting => simp [loop] at stopped
  | running loop runs others => simp [stopped] at loop
  | stopped loop runs others => simp [runs]

theorem succeeded (m : Manned hub) {call : Nat} (returned : hub.runResult? call = some (.ok ())) :
    call = 0 ∧ hub.loop = .stopped := by
  have found : hub.runs[call]? = some (.returned (.ok ())) := by
    unfold runResult? at returned
    split at returned
    · cases returned
      assumption
    · contradiction
  have first : call = 0 := by
    cases call with
    | zero => rfl
    | succ i =>
      rcases m.other found with waits | failed
      · contradiction
      · cases failed
  subst first
  cases m with
  | idle loop waiting =>
    have waits := waiting _ (List.mem_of_getElem? found)
    contradiction
  | running loop runs others => simp [runs] at found
  | stopped loop runs others => exact ⟨rfl, loop⟩

end Manned

theorem beginLate {hub : Hub} {i : Nat} (begun : hub.loop ≠ .idle) (found : hub.waitingRun? = some i) :
    ∃ hub', hub.beginRun? = some hub' ∧ hub'.runResult? i = some (.error .alreadyRunning) := by
  refine ⟨{ hub with runs := hub.runs.set i (.returned (.error .alreadyRunning)) }, ?_, ?_⟩
  · simp [beginRun?, found, begun]
  · obtain ⟨called, -⟩ := List.findIdx?_eq_some_iff_getElem.mp found
    simp [runResult?, called]

theorem applyEvents (hub : Hub) (e : Event) : ∃ new, (hub.apply e).events = hub.events ++ new := by
  cases e with
  | register h =>
    obtain ⟨new, events, -⟩ := (Noticed.applyRegister hub h).events
    exact ⟨new, events⟩
  | unregister h =>
    obtain ⟨new, events, -⟩ := (Noticed.applyUnregister hub h).events
    exact ⟨new, events⟩
  | flush ticket => exact ⟨[], (List.append_nil _).symm⟩
  | shutdown =>
    obtain ⟨new, events, -⟩ := (Noticed.clearAll hub).events
    exact ⟨new, events⟩

theorem discardEvents (hub : Hub) (e : Event) : ∃ new, (hub.discard e).events = hub.events ++ new := by
  cases e with
  | register h =>
    obtain ⟨new, events, -⟩ := (Noticed.close hub h).events
    exact ⟨new, events⟩
  | unregister _ | flush _ | shutdown => exact ⟨[], (List.append_nil _).symm⟩

theorem applyLoop (hub : Hub) (e : Event) : (hub.apply e).loop = hub.loop ∨ (hub.apply e).loop = .stopping := by
  cases e with
  | register h => exact .inl (Noticed.applyRegister hub h).loop
  | unregister h => exact .inl (Noticed.applyUnregister hub h).loop
  | flush ticket => exact .inl rfl
  | shutdown => exact .inr rfl

theorem discardLoop (hub : Hub) (e : Event) : (hub.discard e).loop = hub.loop := by
  cases e with
  | register h => exact closeLoop hub h
  | unregister _ | flush _ | shutdown => rfl

theorem loopLengths {hub hub' : Hub} (step : LoopStep hub hub') :
    hub'.flushes.length = hub.flushes.length ∧ hub'.runs.length = hub.runs.length := by
  have quiet : ∀ {rest : List Event} {hub' : Hub}, Quiet { hub with events := rest } hub' →
      hub'.flushes.length = hub.flushes.length ∧ hub'.runs.length = hub.runs.length :=
    fun quiet => ⟨congrArg List.length quiet.flushes, congrArg List.length quiet.runs⟩
  cases step with
  | @applied e rest serving next =>
    cases e with
    | register h => exact quiet (Noticed.applyRegister _ h).toQuiet
    | unregister h => exact quiet (Noticed.applyUnregister _ h).toQuiet
    | flush ticket => exact ⟨List.length_set, rfl⟩
    | shutdown =>
      have cleared := Noticed.clearAll { hub with events := rest }
      exact ⟨congrArg List.length cleared.flushes, congrArg List.length cleared.runs⟩
  | drains => exact ⟨rfl, rfl⟩
  | @discarded e rest draining next =>
    cases e with
    | register h => exact quiet (Noticed.close _ h).toQuiet
    | flush ticket => exact ⟨List.length_set, rfl⟩
    | unregister _ | shutdown => exact ⟨rfl, rfl⟩
  | stopped => exact ⟨rfl, List.length_map _⟩

theorem loopStops {hub hub' : Hub} (step : LoopStep hub hub') (stopped : hub'.loop = .stopped) :
    hub'.events = [] := by
  cases step with
  | @applied e rest serving next =>
    rcases applyLoop { hub with events := rest } e with same | stopping
    · exact absurd (same.symm.trans stopped) (by simp [serving])
    · exact absurd (stopping.symm.trans stopped) (by simp)
  | drains => contradiction
  | @discarded e rest draining next =>
    exact absurd ((discardLoop { hub with events := rest } e).symm.trans stopped) (by simp [draining])
  | stopped _ none => exact none

theorem loopTakes {hub hub' : Hub} (step : LoopStep hub hub') :
    ∃ new, hub.events ++ new = hub.next ++ hub'.events := by
  cases step with
  | @applied e rest serving next =>
    obtain ⟨new, events⟩ := applyEvents { hub with events := rest } e
    have taken : hub.next = [e] := by simp [Hub.next, serving, next]
    exact ⟨new, by rw [taken, next, events]; rfl⟩
  | drains stopping => exact ⟨[], by simp [Hub.next, stopping]⟩
  | @discarded e rest draining next =>
    obtain ⟨new, events⟩ := discardEvents { hub with events := rest } e
    have taken : hub.next = [e] := by simp [Hub.next, draining, next]
    exact ⟨new, by rw [taken, next, events]; rfl⟩
  | stopped draining none => exact ⟨[], by simp [Hub.next, draining, none, write]⟩

/- The event that is taken may be a notice itself; the end of a client gives rise to another one. -/
theorem loopRemovals {hub hub' : Hub} (step : LoopStep hub hub') (k : Handle) :
    hub'.removals k + hub.next.count (.unregister k) =
      hub.removals k + partings hub.isHeard (hub.isOpen k) (hub'.isOpen k) := by
  have popped : ∀ {e : Event} {rest : List Event}, hub.events = e :: rest → hub.next = [e] →
      hub'.removals k = ({ hub with events := rest } : Hub).removals k +
        partings hub.isHeard (hub.isOpen k) (hub'.isOpen k) →
      hub'.removals k + hub.next.count (.unregister k) =
        hub.removals k + partings hub.isHeard (hub.isOpen k) (hub'.isOpen k) := by
    intro e rest next taken left
    have waiting : hub.removals k = [e].count (.unregister k) + rest.count (.unregister k) := by
      rw [removals, next, ← List.count_append, List.singleton_append]
    have behind : ({ hub with events := rest } : Hub).removals k = rest.count (.unregister k) := rfl
    rw [taken]
    omega
  have same : ∀ {hub' : Hub}, hub'.events = hub.events → hub'.isOpen k = hub.isOpen k →
      hub'.removals k = hub.removals k + partings hub.isHeard (hub.isOpen k) (hub'.isOpen k) := by
    intro hub' events isOpen
    rw [isOpen, partingsSame, removals, events]
    rfl
  cases step with
  | @applied e rest serving next =>
    refine popped next (by simp [Hub.next, serving, next]) ?_
    cases e with
    | register h => exact (Noticed.applyRegister { hub with events := rest } h).removals k
    | unregister h => exact (Noticed.applyUnregister { hub with events := rest } h).removals k
    | flush ticket => simp [apply, settleFlush, removals, isOpen, client?, partingsSame]
    | shutdown => exact (Noticed.clearAll { hub with events := rest }).removals k
  | drains stopping =>
    have nothing : hub.next = [] := by simp [Hub.next, stopping]
    rw [nothing]
    exact same rfl rfl
  | @discarded e rest draining next =>
    refine popped next (by simp [Hub.next, draining, next]) ?_
    cases e with
    | register h => exact (Noticed.close { hub with events := rest } h).removals k
    | flush ticket => simp [discard, settleFlush, removals, isOpen, client?, partingsSame]
    | unregister | shutdown => simp [discard, removals, isOpen, client?, partingsSame]
  | stopped draining none =>
    have nothing : hub.next = [] := by simp [Hub.next, draining, none]
    rw [nothing]
    exact same rfl rfl

theorem LoopStep.taken {hub hub' : Hub} (step : LoopStep hub hub') {e : Event} (next : hub.next = [e]) :
    ∃ rest, hub.events = e :: rest ∧ hub' = if hub.loop.ended then discard { hub with events := rest } e
      else apply { hub with events := rest } e := by
  cases step with
  | @applied e' rest serving waits =>
    have here : e' = e := by simpa [Hub.next, serving, waits] using next
    subst here
    exact ⟨rest, waits, by simp [serving, LoopState.ended]⟩
  | drains stopping => simp [Hub.next, stopping] at next
  | @discarded e' rest draining waits =>
    have here : e' = e := by simpa [Hub.next, draining, waits] using next
    subst here
    exact ⟨rest, waits, by simp [draining, LoopState.ended]⟩
  | stopped draining none => simp [Hub.next, draining, none] at next

end RelayHub.Hub
