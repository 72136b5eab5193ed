import RelayHub.Proofs.Scene.Stir

/-! A run call that has returned has left nothing behind and nothing open: the indexes stay empty, whoever
was to be registered is closed, every flush has its answer, and no other call ever took an event. -/
namespace RelayHub
open Hub (Answering)

def Hub.takenBy (hub : Hub) : Action → List Event
  | .turn .loop => hub.next
  | _ => []

def Hub.joinedBy (hub : Hub) (a : Action) (hub' : Hub) : List Event :=
  hub'.events.drop (hub.events.length - (hub.takenBy a).length)

theorem Hub.takenInside (hub : Hub) (a : Action) : (hub.takenBy a).length ≤ hub.events.length := by
  unfold takenBy next
  split
  · split
    · exact List.length_take_le' 1 _
    · exact List.length_take_le' 1 _
    all_goals exact Nat.zero_le _
  · exact Nat.zero_le _

theorem Hub.Stir.queue {hub hub' : Hub} {a : Action} (stir : hub.Stir a hub') :
    ∃ new, hub.events ++ new = hub.takenBy a ++ hub'.events := by
  cases stir with
  | quiet plain quiet =>
    obtain ⟨more, events, -⟩ := quiet.events
    have nothing : hub.takenBy a = [] := by
      unfold Hub.takenBy
      split
      · exact absurd rfl plain.loop
      · rfl
    exact ⟨more, by rw [nothing, events, List.nil_append]⟩
  | flush | shutdown => exact ⟨_, rfl⟩
  | build | lateFlush | lateShutdown | run | begin | turnAway => exact ⟨[], List.append_nil _⟩
  | loop step => exact Hub.loopTakes step

theorem Hub.Stir.joined {hub hub' : Hub} {a : Action} (stir : hub.Stir a hub') :
    hub.events ++ hub.joinedBy a hub' = hub.takenBy a ++ hub'.events := by
  obtain ⟨new, queue⟩ := stir.queue
  have left : hub'.events = hub.events.drop (hub.takenBy a).length ++ new := by
    have behind := congrArg (List.drop (hub.takenBy a).length) queue
    rw [List.drop_left, List.drop_append_of_le_length (hub.takenInside a)] at behind
    exact behind.symm
  have joined : hub.joinedBy a hub' = new := by
    rw [Hub.joinedBy, left, ← List.length_drop, List.drop_left]
  rw [joined, queue]

namespace Scene

def takes (s : Scene) : List Action → List Event
  | [] => []
  | a :: rest =>
    s.hub.takenBy a ++
      match s.act? a with
      | some next => next.takes rest
      | none => []

def joins (s : Scene) : List Action → List Event
  | [] => []
  | a :: rest =>
    match s.act? a with
    | some next => s.hub.joinedBy a next.hub ++ next.joins rest
    | none => []

theorem takesRun {s s' : Scene} {as : List Action} (ran : s.run? as = some s') :
    s.hub.events ++ s.joins as = s.takes as ++ s'.hub.events := by
  induction as generalizing s with
  | nil =>
    cases ran
    exact List.append_nil _
  | cons a rest ih =>
    obtain ⟨next, acted, later⟩ := Option.bind_eq_some_iff.mp ran
    have here := (stir (effect acted)).joined
    calc s.hub.events ++ s.joins (a :: rest)
        = s.hub.events ++ s.hub.joinedBy a next.hub ++ next.joins rest := by
          simp only [joins, acted, List.append_assoc]
      _ = s.hub.takenBy a ++ (next.takes rest ++ s'.hub.events) := by
          rw [here, List.append_assoc, ih later]
      _ = s.takes (a :: rest) ++ s'.hub.events := by
          simp only [takes, acted, List.append_assoc]

theorem stoppedRun {s s' : Scene} {as : List Action} (stopped : s.hub.loop = .stopped)
    (ran : s.run? as = some s') : s'.hub.loop = .stopped :=
  runInduction (P := fun s => s.hub.loop = .stopped) stopped
    (fun _ _ _ _ before acted => (Settles.stoppedStep before (stir (effect acted))).1) ran

structure Concluded (c : HubConfig) (as : List Action) (s : Scene) : Prop where
  vacant : s.hub.registry = {}
  refuses : ∀ group h, (s.hub.joinGroup group h).1 = false
  shut : ∀ h, .register h ∈ as → s.hub.isOpen h = false
  issued : s.hub.flushes.length = as.countP Action.isFlush
  answered : ∀ ticket < s.hub.flushes.length, s.hub.flushResult? ticket =
    some (if ticket < flushesBefore as then .ok () else .error .hubClosed)
  called : s.hub.runs.length = as.countP Action.isRun
  first : s.hub.runResult? 0 = some (.ok ())
  others : ∀ i r, s.hub.runs[i + 1]? = some r → r = .waiting ∨ r = .returned (.error .alreadyRunning)
  late : ∀ i, s.hub.waitingRun? = some i → ∃ s', s.act? (.turn .run) = some s' ∧
    s'.hub.runResult? i = some (.error .alreadyRunning)
  oneTaker : ∀ front back t, as = front ++ back → (opening c).run? front = some t → t.hub.next ≠ [] →
    ∀ i, t.hub.runs[i]? = some .active ↔ i = 0
  inOrder : ∀ front back t, as = front ++ back → (opening c).run? front = some t →
    t.hub.events ++ t.joins back = t.takes back

theorem emptyRefuses {hub : Hub} (vacant : hub.registry = {}) (group : String) (h : Handle) :
    (hub.joinGroup group h).1 = false := by
  unfold Hub.joinGroup
  cases hub.client? h with
  | none => rfl
  | some c =>
    have unregistered : hub.registry.contains (c.member h) = false := by
      rw [vacant]
      rfl
    simp [unregistered]

theorem emptyShut {hub : Hub} {h : Handle} (asked : hub.Asked h) (empty : hub.events = [])
    (vacant : hub.registry = {}) : hub.isOpen h = false := by
  cases isOpen : hub.isOpen h with
  | false => rfl
  | true =>
    rcases asked isOpen with waits | ⟨u, i, m, held, -⟩
    · rw [empty] at waits
      contradiction
    · rw [vacant] at held
      exact absurd (.inl held) (Registry.emptyHolds u i m)

theorem stoppedAnswers {called : Bool} {bound : Nat} {hub : Hub} (answering : Answering called bound hub)
    (ended : hub.loop.ended = true) (empty : hub.events = []) {ticket : Nat}
    (issued : ticket < hub.flushes.length) : hub.flushResult? ticket =
      some (if ticket < bound then .ok () else .error .hubClosed) := by
  obtain ⟨ahead, behind, f⟩ := answering
  obtain ⟨early, late⟩ := f.settled ended empty
  by_cases inside : ticket < bound
  · rw [if_pos inside, Hub.flushResult?, early ticket inside]
  · rw [if_neg inside, Hub.flushResult?, late ticket (Nat.le_of_not_lt inside) issued]

/-- What is behind the shutdown, in the queue and in time, fares no better than what it found. -/
theorem shutdownIsFinal {c : HubConfig} {s s' : Scene} {as more : List Action} {call : Nat}
    (ran : (opening c).run? as = some s) (returned : s.hub.runResult? call = some (.ok ()))
    (later : s.run? more = some s') :
    call = 0 ∧ as.any Action.isShutdown = true ∧ Concluded c (as ++ more) s' := by
  have before := Settles.run ran
  obtain ⟨first, stopped⟩ := before.manned.succeeded returned
  have whole : (opening c).run? (as ++ more) = some s' := by rw [runAppend, ran, Option.bind_some, later]
  have after := Settles.run whole
  have stops := stoppedRun stopped later
  have ended : s'.hub.loop.ended = true := by rw [stops]; rfl
  have empty := after.emptied stops
  have vacant := (settling (reachedRun whole)).ended ended
  have called : as.any Action.isShutdown = true := by
    obtain ⟨ahead, behind, f⟩ := before.answering
    exact (f.ended (by rw [stopped]; rfl)).1
  refine ⟨first, called, ?_⟩
  exact {
    vacant
    refuses := emptyRefuses vacant
    shut h passed := emptyShut (after.asked h passed).2 empty vacant
    issued := after.issued
    answered ticket issued := stoppedAnswers after.answering ended empty issued
    called := after.called
    first := by
      rw [Hub.runResult?, after.manned.stoppedFirst stops]
    others i r found := after.manned.other found
    late i waits := by
      obtain ⟨hub, began, refused⟩ := Hub.beginLate (by simp [stops]) waits
      refine ⟨{ s' with session := { s'.session with hub } }, ?_, refused⟩
      have began : s'.session.hub.beginRun? = some hub := began
      simp [act?, Session.take?, began]
    oneTaker front back t split ran takes i := by
      have manned := (Settles.run ran).manned
      constructor
      · exact manned.onlyFirst
      · rintro rfl
        exact manned.taker takes
    inOrder front back t split ran := by
      rw [split, runAppend, ran] at whole
      have queue := takesRun whole
      rwa [empty, List.append_nil] at queue }

def untilShutdown : List Action := [
  .build { id := "a", user := "u", tenant := "t" }, .build { id := "b", user := "u", tenant := "t" },
  .run, .turn .run, .register 0, .flush, .turn .loop, .run, .turn .run, .shutdown, .register 1, .flush,
  .turn .loop, .turn .loop, .turn .loop, .turn .loop, .turn .loop, .turn .loop, .turn .loop]

def afterShutdown : List Action := [
  .build { id := "c", user := "v", tenant := "t" }, .register 2, .flush, .run, .turn .run]

theorem lateCallsConcluded : ∃ s s', (opening {}).run? untilShutdown = some s ∧
    s.hub.runResult? 0 = some (.ok ()) ∧ s.run? afterShutdown = some s' ∧ s'.hub.clients.length = 3 ∧
    s'.hub.flushes = [.done, .closed, .closed] ∧ Concluded {} (untilShutdown ++ afterShutdown) s' := by
  have closes : ((opening {}).run? untilShutdown).map (fun s => s.hub.runResult? 0) = some (some (.ok ())) := by
    rfl
  obtain ⟨s, ran, returned⟩ := Option.map_eq_some_iff.mp closes
  have goesOn : ((opening {}).run? (untilShutdown ++ afterShutdown)).map
      (fun s => (s.hub.clients.length, s.hub.flushes)) = some (3, [.done, .closed, .closed]) := by
    rfl
  obtain ⟨s', whole, shown⟩ := Option.map_eq_some_iff.mp goesOn
  rw [runAppend, ran] at whole
  obtain ⟨clients, flushes⟩ := Prod.mk.injEq _ _ _ _ ▸ shown
  exact ⟨s, s', ran, returned, whole, clients, flushes, (shutdownIsFinal ran returned whole).2.2⟩

end Scene
end RelayHub
