import RelayHub.Client

/-! The parts of the calls on one client, by their outcomes. -/
namespace RelayHub.Client

theorem offerCases (c : Client) (capacity : Nat) (m : Bytes) :
    c.sender = false ∧ c.offer capacity m = (.closed, c) ∨
    c.sender = true ∧ c.queue.length < capacity ∧
      c.offer capacity m = (.accepted, { c with queue := c.queue ++ [m], accepted := m :: c.accepted }) ∨
    c.sender = true ∧ ¬ c.queue.length < capacity ∧ c.offer capacity m = (.full, c) := by
  cases sender : c.sender with
  | false => exact .inl ⟨rfl, by simp [offer, sender]⟩
  | true =>
    by_cases free : c.queue.length < capacity
    · exact .inr (.inl ⟨rfl, free, by simp [offer, sender, free]⟩)
    · exact .inr (.inr ⟨rfl, free, by simp [offer, sender, free]⟩)

theorem offerKeeps (c : Client) (capacity : Nat) (m : Bytes) :
    ∃ queue accepted, (c.offer capacity m).2 = { c with queue, accepted } := by
  rcases c.offerCases capacity m with ⟨-, offered⟩ | ⟨-, -, offered⟩ | ⟨-, -, offered⟩
  · exact ⟨_, _, congrArg Prod.snd offered⟩
  · exact ⟨_, _, congrArg Prod.snd offered⟩
  · exact ⟨_, _, congrArg Prod.snd offered⟩

theorem offerRoom {c : Client} {capacity : Nat} (room : c.queue.length ≤ capacity) (m : Bytes) :
    (c.offer capacity m).2.queue.length ≤ capacity := by
  rcases c.offerCases capacity m with ⟨-, offered⟩ | ⟨-, free, offered⟩ | ⟨-, -, offered⟩
  · rwa [offered]
  · rw [offered, List.length_append]
    exact free
  · rwa [offered]

theorem takeQueueGiven {c c' : Client} (given : c.takeQueue = some c') :
    c.queueTaken = false ∧ c' = { c with queueTaken := true } := by
  unfold takeQueue at given
  split at given
  · contradiction
  · rename_i free
    exact ⟨by simpa using free, (Option.some.inj given).symm⟩

theorem dequeueTaken {c c' : Client} {m : Bytes} (taken : c.dequeue = some (m, c')) :
    ∃ rest, c.queue = m :: rest ∧ c' = { c with queue := rest } := by
  unfold dequeue at taken
  split at taken
  · contradiction
  · rename_i waiting
    cases Option.some.inj taken
    exact ⟨_, waiting, rfl⟩

end RelayHub.Client
