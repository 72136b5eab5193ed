import RelayHub.Proofs.Hub.Admission
import RelayHub.Proofs.Hub.Flushing
import RelayHub.Proofs.Hub.Running

/-! A flush vouches for the registrations that were submitted before it. Until it is answered each of them
waits ahead of it; an answer that is not a refusal comes when all have been applied. -/
namespace RelayHub

theorem Event.refused {e : Event} {flushes : List FlushState} {ticket : Nat}
    (open' : flushes[ticket]? ≠ some .done) : (e.answered .closed flushes)[ticket]? ≠ some .done := by
  by_cases here : e = .flush ticket
  · subst here
    simp only [answered, List.getElem?_set]
    split
    · split
      · simp
      · simp
    · exact open'
  · rwa [Event.unanswered here]

namespace Hub

theorem applyFlushes (hub : Hub) (e : Event) : (hub.apply e).flushes = e.answered .done hub.flushes := by
  cases e with
  | register h => exact (Noticed.applyRegister hub h).flushes
  | unregister h => exact (Noticed.applyUnregister hub h).flushes
  | flush ticket => rfl
  | shutdown => exact (Noticed.clearAll hub).flushes

theorem discardFlushes (hub : Hub) (e : Event) :
    (hub.discard e).flushes = e.answered .closed hub.flushes := by
  cases e with
  | register h => exact (Noticed.close hub h).flushes
  | unregister _ | flush _ | shutdown => rfl

theorem flushTicket (hub : Hub) : hub.flush.1 = hub.flushes.length := by
  unfold flush
  split
  · rfl
  · rfl

theorem flushAccepted {hub : Hub} (accepting : hub.accepting = true) : hub.flush.2 =
    { hub.submit (.flush hub.flushes.length) with flushes := hub.flushes ++ [.pending] } := by
  simp [flush, accepting]

def aheadOf (hub : Hub) (ticket : Nat) : List Event := hub.events.takeWhile (· ≠ .flush ticket)

theorem aheadMore {hub hub' : Hub} {more : List Event} (events : hub'.events = hub.events ++ more)
    {ticket : Nat} {e : Event} (ahead : e ∈ hub.aheadOf ticket) : e ∈ hub'.aheadOf ticket := by
  rw [aheadOf, events, List.takeWhile_append]
  split
  · exact List.mem_append_left _ ((List.takeWhile_sublist _).subset ahead)
  · exact ahead

/- An open client that was to be registered before the flush: it is registered, or the flush has not been
answered yet and will be refused, or comes behind the registration. -/
def Covered (h : Handle) (ticket : Nat) (hub : Hub) : Prop :=
  hub.isOpen h = true → hub.Held h ∨ hub.flushes[ticket]? ≠ some .done ∧
    (hub.loop.ended = true ∨ .register h ∈ hub.aheadOf ticket)

namespace Covered
variable {hub hub' : Hub} {h : Handle} {ticket : Nat}

theorem loopStep (covered : Covered h ticket hub) (step : LoopStep hub hub') : Covered h ticket hub' := by
  intro isOpen
  rcases covered (loopShuts step isOpen) with held | ⟨unanswered, waits⟩
  · exact .inl (held.loopStep step isOpen)
  · cases step with
    | @applied e rest serving next =>
      have waits := waits.resolve_left (by simp [serving, LoopState.ended])
      rw [aheadOf, next, List.takeWhile_cons] at waits
      split at waits
      · rename_i other
        rcases List.mem_cons.mp waits with rfl | waits
        · exact .inl (Held.applyRegister (.inl rfl) isOpen)
        · obtain ⟨new, events⟩ := applyEvents { hub with events := rest } e
          refine .inr ⟨?_, .inr (aheadMore events waits)⟩
          rwa [applyFlushes, Event.unanswered (of_decide_eq_true other)]
      · contradiction
    | drains => exact .inr ⟨unanswered, .inl rfl⟩
    | @discarded e rest draining next =>
      refine .inr ⟨?_, .inl ?_⟩
      · rw [discardFlushes]
        exact Event.refused unanswered
      · rw [discardLoop]
        exact congrArg LoopState.ended draining
    | stopped => exact .inr ⟨unanswered, .inl rfl⟩

theorem atFlush (asked : hub.Asked h) (numbered : ∀ t, .flush t ∈ hub.events → t < hub.flushes.length) :
    Covered h hub.flushes.length hub.flush.2 := by
  have apart : ∀ e ∈ hub.events, decide (e ≠ .flush hub.flushes.length) = true := by
    intro e member
    refine decide_eq_true ?_
    rintro rfl
    exact Nat.lt_irrefl _ (numbered _ member)
  unfold Hub.flush
  split
  · intro isOpen
    rcases asked isOpen with waits | held
    · refine .inr ⟨by simp, .inr ?_⟩
      simp only [aheadOf, submit, List.takeWhile_append_of_pos apart]
      exact List.mem_append_left _ waits
    · exact .inl held
  · rename_i refusing
    intro _
    have ended : hub.loop.ended = true := endedOfRefusing (by simpa using refusing)
    exact .inr ⟨by simp, .inl ended⟩

theorem answered (covered : Covered h ticket hub) (resolved : hub.flushResult? ticket = some (.ok ()))
    (isOpen : hub.isOpen h = true) : hub.Held h := by
  have done : hub.flushes[ticket]? = some .done := by
    unfold flushResult? at resolved
    split at resolved
    · assumption
    · contradiction
    · contradiction
  exact (covered isOpen).resolve_right fun unanswered => unanswered.1 done

end Covered

structure Assured (hub : Hub) (h : Handle) (c : Client) : Prop where
  known : hub.client? h = some c
  found : c.isOpen = true → hub.getClient c.user c.id = some h
  once : c.isOpen = true → (hub.registry.members.map (·.handle)).count h = 1
  joins : c.isOpen = true → ∀ g,
    (hub.joinGroup g h).1 = true ∧ (hub.joinGroup g h).2.isGroupMember g h = true
  refused : c.isOpen = false → ∀ g,
    (hub.joinGroup g h).1 = false ∧ { (hub.joinGroup g h).2 with log := hub.log } = hub

namespace Accounted
variable {owed : List Handle} {hub : Hub}

theorem ownKey (a : Accounted owed hub) {h : Handle} {m : Member} (known : hub.member? h = some m)
    (held : hub.Held h) : hub.registry.client? m.user m.id = some m := by
  obtain ⟨u, i, x, found, rfl⟩ := held
  obtain ⟨own, rfl, rfl⟩ := a.known u i x (.inl found)
  cases known.symm.trans own
  exact found

theorem memMembers (a : Accounted owed hub) (m : Member) :
    m ∈ hub.registry.members ↔ hub.registry.client? m.user m.id = some m := by
  constructor
  · intro listed
    obtain ⟨u, i, found⟩ := (Users.memMembers _ m).mp listed
    obtain ⟨rfl, rfl⟩ := a.filed.keyed u i m found
    exact found
  · exact fun found => (Users.memMembers _ m).mpr ⟨_, _, found⟩

theorem assured (a : Accounted owed hub) {h : Handle} {c : Client} (known : hub.client? h = some c)
    (held : hub.isOpen h = true → hub.Held h) : hub.Assured h c := by
  have own : hub.member? h = some (c.member h) := by simp [member?, known]
  have open' : hub.isOpen h = c.isOpen := by simp [Hub.isOpen, known]
  have registered : c.isOpen = true → hub.registry.client? c.user c.id = some (c.member h) :=
    fun isOpen => a.ownKey own (held (open'.trans isOpen))
  have contains : c.isOpen = true → hub.registry.contains (c.member h) = true := by
    intro isOpen
    have found : hub.registry.client? (c.member h).user (c.member h).id = some (c.member h) :=
      registered isOpen
    simp [Registry.containsIff, found]
  refine ⟨known, fun isOpen => ?_, fun isOpen => ?_, fun isOpen g => ?_, fun shut g => ?_⟩
  · simp [getClient, registered isOpen, Client.member]
  · have listed := (a.memMembers (c.member h)).mpr (registered isOpen)
    exact List.count_eq_one_of_mem a.filed.handlesNodup (List.mem_map.mpr ⟨_, listed, rfl⟩)
  · obtain ⟨accepted, e, after⟩ := joinAccepted known isOpen (contains isOpen) g
    refine ⟨accepted, ?_⟩
    have still : (hub.joinGroup g h).2.client? h = some c := after ▸ known
    rw [isGroupMember, still, Option.any_some, after, Registry.isMemberIff]
    simp [write, Registry.joinGroupMember]
  · obtain ⟨refused, e, after⟩ := joinRefused known (.inl shut) g
    exact ⟨refused, after ▸ rfl⟩

end Accounted
end Hub
end RelayHub
