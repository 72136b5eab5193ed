import RelayHub.Proofs.Hub.Standing

/-! The fate of every flush is settled by its place in the queue: one that waits before the first shutdown
is answered when its turn comes, one behind it is refused, and so is one that comes too late. -/
namespace RelayHub

def Event.answered (s : FlushState) (flushes : List FlushState) : Event → List FlushState
  | .flush ticket => flushes.set ticket s
  | .register _ | .unregister _ | .shutdown => flushes

theorem Event.answeredAt {e : Event} {s : FlushState} {flushes : List FlushState} {ticket : Nat}
    (here : e = .flush ticket) (issued : ticket < flushes.length) :
    (e.answered s flushes)[ticket]? = some s := by
  subst here
  simp [answered, issued]

theorem Event.unanswered {e : Event} {s : FlushState} {flushes : List FlushState} {ticket : Nat}
    (other : e ≠ .flush ticket) : (e.answered s flushes)[ticket]? = flushes[ticket]? := by
  cases e with
  | flush t =>
    have differs : t ≠ ticket := fun same => other (congrArg Event.flush same)
    simp [answered, differs]
  | register _ | unregister _ | shutdown => rfl

theorem Event.answeredLength (e : Event) (s : FlushState) (flushes : List FlushState) :
    (e.answered s flushes).length = flushes.length := by
  cases e <;> simp [answered]

def FlushState.Due (s : FlushState) (waiting : List Event) (flushes : List FlushState) (ticket : Nat) : Prop :=
  flushes[ticket]? = some s ∨ flushes[ticket]? = some .pending ∧ .flush ticket ∈ waiting

namespace FlushState.Due
variable {s : FlushState} {waiting : List Event} {flushes : List FlushState} {ticket : Nat}

theorem more (due : s.Due waiting flushes ticket) (new : List Event) : s.Due (waiting ++ new) flushes ticket := by
  rcases due with answered | ⟨pending, waits⟩
  · exact .inl answered
  · exact .inr ⟨pending, List.mem_append_left new waits⟩

theorem issue (due : s.Due waiting flushes ticket) (issued : ticket < flushes.length) (fresh : FlushState) :
    s.Due waiting (flushes ++ [fresh]) ticket := by
  rwa [Due, List.getElem?_append_left issued]

theorem take {e : Event} (due : s.Due (e :: waiting) flushes ticket) (issued : ticket < flushes.length) :
    s.Due waiting (e.answered s flushes) ticket := by
  by_cases here : e = .flush ticket
  · exact .inl (Event.answeredAt here issued)
  · rw [Due, Event.unanswered here]
    rcases due with answered | ⟨pending, waits⟩
    · exact .inl answered
    · exact .inr ⟨pending, (List.mem_cons.mp waits).resolve_left (Ne.symm here)⟩

theorem pass {e : Event} {other : FlushState} (due : s.Due waiting flushes ticket) (apart : e ≠ .flush ticket) :
    s.Due waiting (e.answered other flushes) ticket := by
  rwa [Due, Event.unanswered apart]

end FlushState.Due

namespace Hub

/-- The tickets below `bound` were issued before the first shutdown call, if there was one. Of the events
that wait, `ahead` will be applied; `behind` is what lies behind the shutdown. -/
structure Flushing (called : Bool) (bound : Nat) (ahead behind : List Event) (hub : Hub) : Prop where
  events : hub.events = ahead ++ if called && !hub.loop.ended then .shutdown :: behind else behind
  first : .shutdown ∉ ahead
  ended : hub.loop.ended = true → called = true ∧ ahead = []
  uncalled : called = false → behind = [] ∧ bound = hub.flushes.length
  within : bound ≤ hub.flushes.length
  aheadOf : ∀ t, .flush t ∈ ahead → t < bound
  behindOf : ∀ t, .flush t ∈ behind → bound ≤ t
  early : ∀ t < bound, FlushState.done.Due ahead hub.flushes t
  late : ∀ t, bound ≤ t → t < hub.flushes.length → FlushState.closed.Due behind hub.flushes t

def Answering (called : Bool) (bound : Nat) (hub : Hub) : Prop :=
  ∃ ahead behind, Flushing called bound ahead behind hub

namespace Flushing
variable {called : Bool} {bound : Nat} {ahead behind : List Event} {hub hub' : Hub}

theorem start (events : hub.events = []) (serving : hub.loop.ended = false) (flushes : hub.flushes = []) :
    Flushing false 0 [] [] hub where
  events := by simp [events]
  first := by simp
  ended stops := by simp [serving] at stops
  uncalled _ := ⟨rfl, by simp [flushes]⟩
  within := Nat.zero_le _
  aheadOf := by simp
  behindOf := by simp
  early := by simp
  late := by simp [flushes]

theorem same (f : Flushing called bound ahead behind hub) (events : hub'.events = hub.events)
    (ended : hub'.loop.ended = hub.loop.ended) (flushes : hub'.flushes = hub.flushes) :
    Flushing called bound ahead behind hub' where
  events := by rw [events, ended, f.events]
  first := f.first
  ended := by
    rw [ended]
    exact f.ended
  uncalled := by
    rw [flushes]
    exact f.uncalled
  within := by
    rw [flushes]
    exact f.within
  aheadOf := f.aheadOf
  behindOf := f.behindOf
  early := by
    rw [flushes]
    exact f.early
  late := by
    rw [flushes]
    exact f.late

theorem append (f : Flushing called bound ahead behind hub) {more : List Event}
    (plain : ∀ e ∈ more, e.isNotice = true) :
    Answering called bound { hub with events := hub.events ++ more } := by
  have noFlush : ∀ t, .flush t ∉ more := by
    intro t member
    have notice := plain _ member
    contradiction
  cases called with
  | false =>
    obtain ⟨rfl, -⟩ := f.uncalled rfl
    have events : hub.events = ahead := by simpa using f.events
    have first : .shutdown ∉ ahead ++ more := by
      intro member
      rcases List.mem_append.mp member with early | fresh
      · exact f.first early
      · exact absurd (plain _ fresh) (by simp [Event.isNotice])
    refine ⟨ahead ++ more, [], ?_, first, ?_, f.uncalled, f.within, ?_, f.behindOf, ?_, f.late⟩
    · simp [events]
    · intro ended
      exact absurd (f.ended ended).1 (by simp)
    · intro t member
      exact f.aheadOf t ((List.mem_append.mp member).resolve_right (noFlush t))
    · exact fun t inside => (f.early t inside).more more
  | true =>
    refine ⟨ahead, behind ++ more, ?_, f.first, f.ended, by simp, f.within, f.aheadOf, ?_, f.early, ?_⟩
    · have events := f.events
      simp only [events]
      split
      · simp
      · simp
    · intro t member
      exact f.behindOf t ((List.mem_append.mp member).resolve_right (noFlush t))
    · exact fun t outside inside => (f.late t outside inside).more more

theorem quiet (f : Flushing called bound ahead behind hub) (quiet : Quiet hub hub') :
    Answering called bound hub' := by
  obtain ⟨more, events, notices, -⟩ := quiet.events
  obtain ⟨ahead', behind', f'⟩ := f.append notices
  exact ⟨ahead', behind', f'.same events (by rw [quiet.loop]) quiet.flushes⟩

theorem takeAhead {e : Event} {rest : List Event} (f : Flushing called bound (e :: ahead) behind hub)
    (next : hub.events = e :: rest) : Flushing called bound ahead behind
      { hub with events := rest, flushes := e.answered .done hub.flushes } where
  events := by
    have events := next.symm.trans f.events
    rw [List.cons_append] at events
    exact (List.cons.inj events).2
  first member := f.first (List.mem_cons_of_mem e member)
  ended ended := absurd (f.ended ended).2 (by simp)
  uncalled uncalled := by
    rw [Event.answeredLength]
    exact f.uncalled uncalled
  within := by
    rw [Event.answeredLength]
    exact f.within
  aheadOf t member := f.aheadOf t (List.mem_cons_of_mem e member)
  behindOf := f.behindOf
  early t inside := (f.early t inside).take (Nat.lt_of_lt_of_le inside f.within)
  late t outside inside := by
    rw [Event.answeredLength] at inside
    have other : e ≠ .flush t := by
      rintro rfl
      exact absurd (f.aheadOf t List.mem_cons_self) (Nat.not_lt.mpr outside)
    exact (f.late t outside inside).pass other

theorem dropBehind {e : Event} {rest : List Event} (f : Flushing called bound ahead behind hub)
    (ended : hub.loop.ended = true) (next : hub.events = e :: rest) : Flushing called bound [] rest
      { hub with events := rest, flushes := e.answered .closed hub.flushes } := by
  obtain ⟨rfl, rfl⟩ := f.ended ended
  have events : behind = e :: rest := by
    have events := f.events
    rw [next, ended] at events
    simpa using events.symm
  subst events
  exact {
    events := by simp [ended]
    first := by simp
    ended := fun _ => ⟨rfl, rfl⟩
    uncalled := by simp
    within := by
      rw [Event.answeredLength]
      exact f.within
    aheadOf := by simp
    behindOf := fun t member => f.behindOf t (List.mem_cons_of_mem e member)
    early := by
      intro t inside
      have other : e ≠ .flush t := by
        rintro rfl
        exact absurd (f.behindOf t List.mem_cons_self) (Nat.not_le.mpr inside)
      exact (f.early t inside).pass other
    late := by
      intro t outside inside
      rw [Event.answeredLength] at inside
      exact (f.late t outside inside).take inside }

theorem applyShutdown {rest : List Event} (f : Flushing called bound [] behind hub)
    (serving : hub.loop = .serving) (next : hub.events = .shutdown :: rest) :
    Answering called bound (Hub.applyShutdown { hub with events := rest }) := by
  cases called with
  | false =>
    obtain ⟨rfl, -⟩ := f.uncalled rfl
    have events := f.events
    simp [next] at events
  | true =>
    have behindRest : behind = rest := by
      have events := f.events
      rw [next, serving] at events
      simpa [LoopState.ended] using events.symm
    subst behindRest
    have stopping : Flushing true bound [] behind { hub with events := behind, loop := .stopping } :=
      ⟨rfl, f.first, fun _ => ⟨rfl, rfl⟩, by simp, f.within, f.aheadOf, f.behindOf, f.early, f.late⟩
    have closed := Noticed.clearAll { hub with events := behind }
    obtain ⟨more, events, notices, -⟩ := closed.events
    obtain ⟨ahead', behind', f'⟩ := stopping.append notices
    exact ⟨ahead', behind', f'.same events rfl closed.flushes⟩

theorem applied {e : Event} {rest : List Event} (f : Flushing called bound ahead behind hub)
    (serving : hub.loop = .serving) (next : hub.events = e :: rest) :
    Answering called bound (Hub.apply { hub with events := rest } e) := by
  cases ahead with
  | cons x ahead =>
    have same : x = e := by
      have events := next.symm.trans f.events
      rw [List.cons_append] at events
      exact (List.cons.inj events).1.symm
    subst same
    have taken := f.takeAhead next
    cases x with
    | register h => exact taken.quiet (Noticed.applyRegister _ h).toQuiet
    | unregister h => exact taken.quiet (Noticed.applyUnregister _ h).toQuiet
    | flush ticket => exact ⟨ahead, behind, taken⟩
    | shutdown => exact absurd List.mem_cons_self f.first
  | nil =>
    have isShutdown : e = .shutdown := by
      have events := next.symm.trans f.events
      cases called with
      | false =>
        obtain ⟨rfl, -⟩ := f.uncalled rfl
        contradiction
      | true =>
        rw [serving] at events
        exact (List.cons.inj events).1
    subst isShutdown
    exact f.applyShutdown serving next

theorem discarded {e : Event} {rest : List Event} (f : Flushing called bound ahead behind hub)
    (ended : hub.loop.ended = true) (next : hub.events = e :: rest) :
    Answering called bound (Hub.discard { hub with events := rest } e) := by
  have dropped := f.dropBehind ended next
  cases e with
  | register h => exact dropped.quiet (Noticed.close _ h).toQuiet
  | unregister _ | shutdown => exact ⟨[], rest, dropped⟩
  | flush ticket => exact ⟨[], rest, dropped⟩

theorem flushAhead (f : Flushing false bound ahead behind hub) : Answering false (bound + 1)
    { hub.submit (.flush hub.flushes.length) with flushes := hub.flushes ++ [.pending] } := by
  obtain ⟨rfl, rfl⟩ := f.uncalled rfl
  have events : hub.events = ahead := by simpa using f.events
  refine ⟨ahead ++ [.flush hub.flushes.length], [], ?_, ?_, ?_, ?_, ?_, ?_, by simp, ?_, ?_⟩
  · simp [submit, events]
  · simp [f.first]
  · exact fun ended => absurd (f.ended ended).1 (by simp)
  · simp
  · simp
  · intro t member
    rcases List.mem_append.mp member with before | here
    · exact Nat.lt_succ_of_lt (f.aheadOf t before)
    · cases List.mem_singleton.mp here
      exact Nat.lt_succ_self _
  · intro t inside
    rcases Nat.lt_succ_iff_lt_or_eq.mp inside with before | rfl
    · exact ((f.early t before).issue before .pending).more _
    · exact .inr ⟨by simp, by simp⟩
  · intro t outside inside
    have length : (hub.flushes ++ [FlushState.pending]).length = hub.flushes.length + 1 := by simp
    exact absurd (Nat.lt_of_le_of_lt outside (length ▸ inside)) (Nat.lt_irrefl _)

theorem flushBehind (f : Flushing true bound ahead behind hub) : Answering true bound
    { hub.submit (.flush hub.flushes.length) with flushes := hub.flushes ++ [.pending] } := by
  have length : (hub.flushes ++ [FlushState.pending]).length = hub.flushes.length + 1 := by simp
  refine ⟨ahead, behind ++ [.flush hub.flushes.length], ?_, f.first, f.ended, by simp, ?_, f.aheadOf, ?_,
    ?_, ?_⟩
  · simp only [submit, f.events]
    split
    · simp
    · simp
  · exact length.symm ▸ Nat.le_succ_of_le f.within
  · intro t member
    rcases List.mem_append.mp member with before | here
    · exact f.behindOf t before
    · cases List.mem_singleton.mp here
      exact f.within
  · exact fun t inside => (f.early t inside).issue (Nat.lt_of_lt_of_le inside f.within) .pending
  · intro t outside inside
    rcases Nat.lt_succ_iff_lt_or_eq.mp (length ▸ inside) with before | rfl
    · exact ((f.late t outside before).issue before .pending).more _
    · exact .inr ⟨by simp, by simp⟩

theorem flushRefused (f : Flushing true bound ahead behind hub) :
    Flushing true bound ahead behind { hub with flushes := hub.flushes ++ [.closed] } where
  events := f.events
  first := f.first
  ended := f.ended
  uncalled := by simp
  within := by
    have grown : (hub.flushes ++ [FlushState.closed]).length = hub.flushes.length + 1 := by simp
    exact grown.symm ▸ Nat.le_succ_of_le f.within
  aheadOf := f.aheadOf
  behindOf := f.behindOf
  early t inside := (f.early t inside).issue (Nat.lt_of_lt_of_le inside f.within) .closed
  late t outside inside := by
    have grown : (hub.flushes ++ [FlushState.closed]).length = hub.flushes.length + 1 := by simp
    rcases Nat.lt_succ_iff_lt_or_eq.mp (grown ▸ inside) with before | rfl
    · exact (f.late t outside before).issue before .closed
    · exact .inl (by simp)

theorem calledRefusing (f : Flushing called bound ahead behind hub) (refusing : hub.accepting = false) :
    called = true := (f.ended (endedOfRefusing refusing)).1

theorem shutdown (f : Flushing called bound ahead behind hub) : Answering true bound (hub.submit .shutdown) := by
  cases called with
  | false =>
    obtain ⟨rfl, same⟩ := f.uncalled rfl
    have serving : hub.loop.ended = false := by
      cases ended : hub.loop.ended with
      | false => rfl
      | true => exact absurd (f.ended ended).1 (by simp)
    have events : hub.events = ahead := by simpa using f.events
    refine ⟨ahead, [], ?_, f.first, ?_, by simp, f.within, f.aheadOf, f.behindOf, f.early, f.late⟩
    · simp [submit, events, serving]
    · intro ended
      exact absurd (serving.symm.trans ended) (by simp)
  | true =>
    refine ⟨ahead, behind ++ [.shutdown], ?_, f.first, f.ended, by simp, f.within, f.aheadOf, ?_,
      f.early, ?_⟩
    · simp only [submit, f.events]
      split
      · simp
      · simp
    · intro t member
      exact f.behindOf t (by simpa using member)
    · exact fun t outside inside => (f.late t outside inside).more _

theorem loopStep (f : Flushing called bound ahead behind hub) (step : LoopStep hub hub') :
    Answering called bound hub' := by
  cases step with
  | applied serving next => exact f.applied serving next
  | drains stopping => exact ⟨ahead, behind, f.same rfl (by simp [stopping, LoopState.ended]) rfl⟩
  | discarded draining next => exact f.discarded (by simp [draining, LoopState.ended]) next
  | stopped draining _ =>
    exact ⟨ahead, behind, f.same rfl (by simp [write, draining, LoopState.ended]) rfl⟩

theorem settled (f : Flushing called bound ahead behind hub) (ended : hub.loop.ended = true)
    (taken : hub.events = []) : (∀ t < bound, hub.flushes[t]? = some .done) ∧
      ∀ t, bound ≤ t → t < hub.flushes.length → hub.flushes[t]? = some .closed := by
  obtain ⟨rfl, rfl⟩ := f.ended ended
  have nothing : behind = [] := by
    have events := f.events
    rw [taken, ended] at events
    simpa using events.symm
  subst nothing
  constructor
  · intro t inside
    exact (f.early t inside).resolve_right (by simp)
  · intro t outside inside
    exact (f.late t outside inside).resolve_right (by simp)

end Flushing
end Hub
end RelayHub
