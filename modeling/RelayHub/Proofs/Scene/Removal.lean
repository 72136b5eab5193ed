import RelayHub.Proofs.Scene.Registration
import RelayHub.Proofs.Scene.Shutdown
import RelayHub.Proofs.Scene.Speaking

/-! What becomes of a client that is passed for removal. Its event gets its turn when all that waited before it
has been taken. By then the hub serves, and the client is closed, or a shutdown was called before, and the event
is thrown away. A hub that takes no events closes the client at once. -/
namespace RelayHub
open Hub (LoopStep)

namespace Hub
variable {hub hub' : Hub} {h : Handle} {a : Action} {e : Event}

theorem nextOne (hub : Hub) : hub.next = [] ∨ ∃ e rest, hub.next = [e] ∧ hub.events = e :: rest := by
  unfold next
  split
  · cases hub.events with
    | nil => exact .inl rfl
    | cons e rest => exact .inr ⟨e, rest, rfl, rfl⟩
  · cases hub.events with
    | nil => exact .inl rfl
    | cons e rest => exact .inr ⟨e, rest, rfl, rfl⟩
  all_goals exact .inl rfl

theorem takenOne (hub : Hub) (a : Action) : hub.takenBy a = [] ∨ a = .turn .loop ∧ ∃ e, hub.next = [e] := by
  unfold takenBy
  split
  · rcases hub.nextOne with nothing | ⟨e, -, taken, -⟩
    · exact .inl nothing
    · exact .inr ⟨rfl, e, taken⟩
  · exact .inl rfl

theorem applyEnded (hub : Hub) (e : Event) :
    (hub.apply e).loop.ended = (hub.loop.ended || decide (e = .shutdown)) := by
  cases e with
  | register h => simp [(Noticed.applyRegister hub h).loop, apply]
  | unregister h => simp [(Noticed.applyUnregister hub h).loop, apply]
  | flush ticket => simp [apply, settleFlush]
  | shutdown => simp [apply, applyShutdown, write, LoopState.ended]

theorem LoopStep.ended (step : LoopStep hub hub') :
    hub'.loop.ended = (hub.loop.ended || decide (.shutdown ∈ hub.next)) := by
  cases step with
  | @applied e rest serving next =>
    have taken : hub.next = [e] := by simp [Hub.next, serving, next]
    rw [applyEnded, taken]
    simp [eq_comm]
  | drains stopping => simp [stopping, LoopState.ended]
  | discarded draining _ => simp [discardLoop, draining, LoopState.ended]
  | stopped draining _ => simp [write, draining, LoopState.ended]

theorem Stir.ended (stir : hub.Stir a hub') :
    hub'.loop.ended = (hub.loop.ended || decide (.shutdown ∈ hub.takenBy a)) := by
  cases stir with
  | quiet plain quiet =>
    have nothing : hub.takenBy a = [] := (hub.takenOne a).resolve_right fun taken => plain.loop taken.1
    simp [nothing, quiet.loop]
  | build | flush | lateFlush | shutdown | lateShutdown | run | turnAway => exact (Bool.or_false _).symm
  | begin _ idle => simp [takenBy, write, idle, LoopState.ended]
  | loop step => exact step.ended

theorem applyUnregisterShuts (hub : Hub) (h : Handle) : (hub.applyUnregister h).isOpen h = false := by
  cases found : hub.client? h with
  | none => simp [applyUnregister, found, isOpen]
  | some c =>
    rw [isOpenFace, unregisterOutline found, ← isOpenFace, closeOpen]
    simp

theorem LoopStep.removes (step : LoopStep hub hub') (next : hub.next = [.unregister h]) :
    if hub.loop.ended then hub' = { hub with events := hub.events.tail } else hub'.isOpen h = false := by
  obtain ⟨rest, waits, rfl⟩ := step.taken next
  cases ended : hub.loop.ended with
  | true => simp only [if_true, discard, waits, List.tail_cons]
  | false =>
    simp only [Bool.false_eq_true, if_false]
    exact applyUnregisterShuts _ h

end Hub

namespace Scene
variable {config : HubConfig} {as more : List Action} {s s' t : Scene} {h : Handle}

theorem endedAlong (ran : s.run? as = some t) :
    t.hub.loop.ended = (s.hub.loop.ended || decide (.shutdown ∈ s.takes as)) := by
  induction as generalizing s with
  | nil =>
    cases ran
    simp [takes]
  | cons a rest ih =>
    obtain ⟨next, acted, later⟩ := Option.bind_eq_some_iff.mp ran
    rw [ih later, (stir (effect acted)).ended]
    simp [takes, acted, Bool.or_assoc]

theorem shutdownCalled (ran : (opening config).run? as = some s) :
    as.any Action.isShutdown = (s.hub.loop.ended || decide (.shutdown ∈ s.hub.events)) := by
  obtain ⟨ahead, behind, f⟩ := (Settles.run ran).answering
  cases ended : s.hub.loop.ended with
  | true => exact (f.ended ended).1
  | false =>
    have events := f.events
    rw [ended, Bool.not_false, Bool.and_true] at events
    cases called : as.any Action.isShutdown with
    | true => simp [events, called]
    | false =>
      obtain ⟨none, -⟩ := f.uncalled called
      simp [events, called, none, f.first]

theorem turnComes {before after : List Event} {e : Event} (ran : s.run? as = some t)
    (taken : s.takes as = before ++ e :: after) : ∃ front back u u', as = front ++ .turn .loop :: back ∧
      s.run? front = some u ∧ s.takes front = before ∧ u.hub.next = [e] ∧ u.act? (.turn .loop) = some u' ∧
      u'.run? back = some t := by
  induction as generalizing s before with
  | nil => simp [takes] at taken
  | cons a rest ih =>
    obtain ⟨next, acted, later⟩ := Option.bind_eq_some_iff.mp ran
    have on : ∀ {before'}, before = s.hub.takenBy a ++ before' → next.takes rest = before' ++ e :: after →
        ∃ front back u u', a :: rest = front ++ .turn .loop :: back ∧ s.run? front = some u ∧
          s.takes front = before ∧ u.hub.next = [e] ∧ u.act? (.turn .loop) = some u' ∧ u'.run? back = some t := by
      intro before' whole taken
      obtain ⟨front, back, u, u', rfl, ran', taken', turn⟩ := ih later taken
      refine ⟨a :: front, back, u, u', rfl, ?_, ?_, turn⟩
      · rw [run?, acted, Option.bind_some, ran']
      · simp only [takes, acted, taken', whole]
    simp only [takes, acted] at taken
    rcases s.hub.takenOne a with nothing | ⟨rfl, e', first⟩
    · rw [nothing, List.nil_append] at taken
      exact on (by rw [nothing, List.nil_append]) taken
    · have first' : s.hub.takenBy (.turn .loop) = [e'] := first
      rw [first', List.singleton_append] at taken
      cases before with
      | nil =>
        obtain ⟨rfl, -⟩ := List.cons.inj taken
        exact ⟨[], rest, s, next, rfl, rfl, rfl, first, acted, later⟩
      | cons e'' before' =>
        obtain ⟨same, behind⟩ := List.cons.inj taken
        exact on (by rw [first', same]; rfl) behind

theorem stoppedEmpty {call : Nat} (ran : (opening config).run? as = some s)
    (returned : s.hub.runResult? call = some (.ok ())) : s.hub.events = [] :=
  have settles := Settles.run ran
  settles.emptied (settles.manned.succeeded returned).2

theorem unregistered (acted : s.act? (.unregister h) = some s') :
    s.has h = true ∧ s'.hub = s.hub.unregister h := by
  obtain ⟨known, rfl⟩ := onClientSome acted
  exact ⟨known, rfl⟩

/-- Every client that is passed for removal to a hub that has come to its end by some time. A hub that takes no
events closes it at once. Otherwise the event gets its turn when all that waited before it has been taken: it closes
the client if no shutdown had been called before, and is thrown away without any other effect if one had. So the
client is not open in the end if it was passed before the first shutdown call or after the hub takes events, and not
either if it is ever passed for registration. -/
theorem removalTakesItsTurn {call : Nat} (ran : (opening config).run? as = some s)
    (acted : s.act? (.unregister h) = some s') (on : s'.run? more = some t)
    (returned : t.hub.runResult? call = some (.ok ())) :
    (s.hub.accepting = false → s'.hub.isOpen h = false) ∧
    (s.hub.accepting = true → ∃ front back u u', more = front ++ .turn .loop :: back ∧ s'.run? front = some u ∧
      s'.takes front = s.hub.events ∧ u.hub.next = [.unregister h] ∧ u.act? (.turn .loop) = some u' ∧
      if as.any Action.isShutdown then u'.hub = { u.hub with events := u.hub.events.tail }
      else u'.hub.isOpen h = false) ∧
    (as.any Action.isShutdown = false ∨ s.hub.accepting = false ∨ .register h ∈ as ++ more →
      t.hub.isOpen h = false) := by
  obtain ⟨known, called⟩ := unregistered acted
  have whole : (opening config).run? (as ++ .unregister h :: more) = some t := by
    rw [runAppend, ran, Option.bind_some, run?, acted, Option.bind_some, on]
  have refused : s.hub.accepting = false → s'.hub.isOpen h = false := by
    intro refusing
    simp [called, Hub.unregister, refusing, Hub.closeOpen]
  have taken : s.hub.accepting = true → ∃ front back u u', more = front ++ .turn .loop :: back ∧
      s'.run? front = some u ∧ s'.takes front = s.hub.events ∧ u.hub.next = [.unregister h] ∧
      u.act? (.turn .loop) = some u' ∧ u'.run? back = some t ∧
      u.hub.loop.ended = as.any Action.isShutdown := by
    intro accepting
    have submitted : s'.hub = s.hub.submit (.unregister h) := by simp [called, Hub.unregister, accepting]
    -- nothing waits any more in the end, so whatever has waited was taken, and in its order
    have queue : s'.hub.events ++ s'.joins more = s'.takes more ++ t.hub.events := takesRun on
    rw [stoppedEmpty whole returned, List.append_nil, submitted, Hub.submit, List.append_assoc] at queue
    obtain ⟨front, back, u, u', split, before, first, next, turn, later⟩ := turnComes on queue.symm
    refine ⟨front, back, u, u', split, before, first, next, turn, later, ?_⟩
    rw [endedAlong before, first, shutdownCalled ran, submitted]
    rfl
  have shutThen : ∀ {u : Scene} {rest : List Action}, h < u.hub.clients.length → u.hub.isOpen h = false →
      u.run? rest = some t → t.hub.isOpen h = false :=
    fun inside shut rest => shutStays (List.getElem?_eq_getElem inside) shut rest
  have inside : h < s'.hub.clients.length :=
    Settles.knownStep (of_decide_eq_true known) (stir (effect acted))
  refine ⟨refused, fun accepting => ?_, ?_⟩
  · obtain ⟨front, back, u, u', split, before, first, next, turn, -, ended⟩ := taken accepting
    have removes := (loopTurn turn).removes next
    rw [ended] at removes
    exact ⟨front, back, u, u', split, before, first, next, turn, removes⟩
  · rintro (early | refusing | passed)
    · cases accepting : s.hub.accepting with
      | false => exact shutThen inside (refused accepting) on
      | true =>
        obtain ⟨front, back, u, u', -, before, -, next, turn, later, ended⟩ := taken accepting
        have removes := (loopTurn turn).removes next
        rw [ended, early] at removes
        have inside' := (knownAlong (P := fun _ => True) inside trivial (fun _ _ _ _ _ _ => trivial) before).1
        exact shutThen (Settles.knownStep inside' (stir (effect turn))) removes later
    · exact shutThen inside (refused refusing) on
    · have settles := Settles.run whole
      have stopped := (settles.manned.succeeded returned).2
      have ended : t.hub.loop.ended = true := by rw [stopped]; rfl
      have passed : .register h ∈ as ++ .unregister h :: more := by
        rcases List.mem_append.mp passed with before | after
        · exact List.mem_append_left _ before
        · exact List.mem_append_right _ (List.mem_cons_of_mem _ after)
      exact emptyShut (settles.asked h passed).2 (settles.emptied stopped) ((settling (reachedRun whole)).ended ended)

def neverRegistered : List Action := [.build { id := "a", user := "u", tenant := "t" }, .run, .turn .run, .flush]

def turnsOfLoop (n : Nat) : List Action := List.replicate n (.turn .loop)

theorem removedEarlyIsShut : ∃ s s' t, (opening {}).run? neverRegistered = some s ∧
    s.act? (.unregister 0) = some s' ∧ s'.run? (.shutdown :: turnsOfLoop 6) = some t ∧
    t.hub.runResult? 0 = some (.ok ()) ∧ t.hub.isOpen 0 = false := by
  have shown : (((opening {}).run? neverRegistered).bind fun s => (s.act? (.unregister 0)).bind fun s' =>
      (s'.run? (.shutdown :: turnsOfLoop 6)).map fun t => t.hub.runResult? 0) = some (some (.ok ())) := by rfl
  obtain ⟨s, ran, shown⟩ := Option.bind_eq_some_iff.mp shown
  obtain ⟨s', acted, shown⟩ := Option.bind_eq_some_iff.mp shown
  obtain ⟨t, on, returned⟩ := Option.map_eq_some_iff.mp shown
  exact ⟨s, s', t, ran, acted, on, returned, (removalTakesItsTurn ran acted on returned).2.2 (.inl (by rfl))⟩

/- A removal between the shutdown call and its turn is lost. -/
theorem removedLateStaysOpen : ¬ ∀ config as s h s' more t call, (opening config).run? as = some s →
    s.act? (.unregister h) = some s' → s'.run? more = some t → t.hub.runResult? call = some (.ok ()) →
    t.hub.isOpen h = false := by
  intro closes
  have shown : (((opening {}).run? (neverRegistered ++ [.shutdown])).bind fun s =>
      (s.act? (.unregister 0)).bind fun s' => (s'.run? (turnsOfLoop 5)).map fun t =>
        (t.hub.runResult? 0, t.hub.isOpen 0)) = some (some (.ok ()), true) := by rfl
  obtain ⟨s, ran, shown⟩ := Option.bind_eq_some_iff.mp shown
  obtain ⟨s', acted, shown⟩ := Option.bind_eq_some_iff.mp shown
  obtain ⟨t, on, shown⟩ := Option.map_eq_some_iff.mp shown
  obtain ⟨returned, isOpen⟩ := Prod.mk.inj shown
  exact absurd (isOpen.symm.trans (closes {} _ s 0 s' _ t 0 ran acted on returned)) (by simp)

end Scene
end RelayHub
