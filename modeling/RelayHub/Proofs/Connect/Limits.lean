import Mathlib.Algebra.Order.BigOperators.Group.List
import Mathlib.Algebra.Order.Group.Nat
import Mathlib.Algebra.GroupWithZero.Nat
import RelayHub.Connect.Transport

/-! How large an inbound message may be. A connection takes a message frame by frame under two limits. A hub
configuration sets the one of the whole message; the one of a single frame stays as it is, and where it is the smaller
one the way a message is cut decides. -/
namespace RelayHub

namespace Transport
variable {t : Transport}

/- One frame more, put to the octets held. The size of a frame is looked at before it is read, and that of the message
before the frame is put to the rest. -/
def take? (t : Transport) (held size : Nat) : Option Nat :=
  if t.maxFrame < size then none
  else if t.maxMessage < held + size then none
  else some (held + size)

def takeAll? (t : Transport) (held : Nat) (frames : List Nat) : Option Nat := frames.foldlM t.take? held

theorem takenIff {held size now : Nat} : t.take? held size = some now ↔
    size ≤ t.maxFrame ∧ now ≤ t.maxMessage ∧ held + size = now := by
  grind [take?]

theorem acceptsIff {frames : List Nat} : t.accepts frames = true ↔
    frames.sum ≤ t.maxMessage ∧ ∀ size ∈ frames, size ≤ t.maxFrame := by
  simp [accepts, List.sum_eq_foldl, and_comm]

theorem takenAllIff {held now : Nat} {frames : List Nat} (room : held ≤ t.maxMessage) :
    t.takeAll? held frames = some now ↔
      (∀ size ∈ frames, size ≤ t.maxFrame) ∧ now ≤ t.maxMessage ∧ held + frames.sum = now := by
  induction frames generalizing held with
  | nil =>
    have none : t.takeAll? held [] = some held := rfl
    have empty : ([] : List Nat).sum = 0 := rfl
    grind
  | cons size frames ih =>
    rw [takeAll?, List.foldlM_cons, Option.bind_eq_bind, Option.bind_eq_some_iff, List.sum_cons, List.forall_mem_cons]
    constructor
    · rintro ⟨next, taken, rest⟩
      obtain ⟨frame, within, rfl⟩ := takenIff.mp taken
      obtain ⟨frames, message, sum⟩ := (ih within).mp rest
      exact ⟨⟨frame, frames⟩, message, by omega⟩
    · rintro ⟨⟨frame, frames⟩, message, sum⟩
      have within : held + size ≤ t.maxMessage := by omega
      exact ⟨held + size, takenIff.mpr ⟨frame, within, rfl⟩, (ih within).mpr ⟨frames, message, by omega⟩⟩

theorem acceptsTaken (t : Transport) (frames : List Nat) :
    t.takeAll? 0 frames = if t.accepts frames then some frames.sum else none := by
  refine Option.ext fun now => ?_
  rw [takenAllIff (Nat.zero_le _), Option.ite_none_right_eq_some, acceptsIff, Option.some.injEq, Nat.zero_add]
  grind

theorem octetsAccepted {n : Nat} (frame : 0 < t.maxFrame) (message : n ≤ t.maxMessage) :
    (List.replicate n 1).sum = n ∧ t.accepts (List.replicate n 1) = true := by
  have sum : (List.replicate n 1).sum = n := by rw [List.sum_replicate_nat, Nat.mul_one]
  refine ⟨sum, acceptsIff.mpr ⟨sum.symm ▸ message, fun size member => ?_⟩⟩
  rw [List.eq_of_mem_replicate member]
  exact frame

end Transport

namespace HubConfig

/-- What comes through a connection of a hub: the messages within the limit of the configuration none of whose frames
is larger than 16 MiB, and a message that does not come through is turned down at one of its frames. So the limit of
the configuration alone decides just in case it is at most that of a frame. Above it every message that it allows still
comes through in small frames, and those that are larger than a frame may be do not come through in one. -/
theorem framesLimitMessages (c : HubConfig) :
    c.transport.maxFrame = 16 * 1024 * 1024 ∧
    (∀ frames, c.transport.accepts frames = true ↔
      frames.sum ≤ c.maxMessageSize ∧ ∀ size ∈ frames, size ≤ c.transport.maxFrame) ∧
    (∀ frames, c.transport.takeAll? 0 frames = if c.transport.accepts frames then some frames.sum else none) ∧
    ((∀ frames, c.transport.accepts frames = true ↔ frames.sum ≤ c.maxMessageSize) ↔
      c.maxMessageSize ≤ c.transport.maxFrame) ∧
    ∀ n ≤ c.maxMessageSize,
      (∃ frames, frames.sum = n ∧ c.transport.accepts frames = true) ∧
      (c.transport.accepts [n] = true ↔ n ≤ c.transport.maxFrame) := by
  have frame : 0 < c.transport.maxFrame := show 0 < 16 * 1024 * 1024 by decide
  have whole : ∀ n ≤ c.maxMessageSize, c.transport.accepts [n] = true ↔ n ≤ c.transport.maxFrame := by
    intro n message
    rw [Transport.acceptsIff, List.forall_mem_singleton]
    exact and_iff_right message
  refine ⟨rfl, fun _ => Transport.acceptsIff, Transport.acceptsTaken _, ⟨fun alone => ?_, fun small frames => ?_⟩,
    fun n message => ⟨⟨_, Transport.octetsAccepted frame message⟩, whole n message⟩⟩
  · exact (whole _ (Nat.le_refl _)).mp ((alone [c.maxMessageSize]).mpr (Nat.le_refl _))
  · refine Transport.acceptsIff.trans (and_iff_left_iff_imp.mpr fun message size member => ?_)
    exact Nat.le_trans (Nat.le_trans (List.le_sum_of_mem member) message) small

def twiceTheFrame : HubConfig := { maxMessageSize := 32 * 1024 * 1024 }

theorem piecesAccepted : twiceTheFrame.fault? = none ∧
    (∃ frames, frames.sum = 17 * 1024 * 1024 ∧ twiceTheFrame.transport.accepts frames = true) ∧
    ¬ twiceTheFrame.transport.accepts [17 * 1024 * 1024] = true := by
  obtain ⟨-, -, -, -, cut⟩ := framesLimitMessages twiceTheFrame
  obtain ⟨pieces, whole⟩ := cut (17 * 1024 * 1024) (by decide)
  exact ⟨rfl, pieces, fun accepted => absurd (whole.mp accepted) (by decide)⟩

theorem singleFrameRefused : ¬ ∀ (c : HubConfig) (frames : List Nat), c.fault? = none →
    (c.transport.accepts frames = true ↔ frames.sum ≤ c.maxMessageSize) := by
  intro alone
  have accepted := (alone twiceTheFrame [17 * 1024 * 1024] rfl).mpr (by decide)
  exact absurd accepted (by decide)

end HubConfig
end RelayHub
