import RelayHub.Message.Client
import RelayHub.Message.Server
import RelayHub.Proofs.Message.Equality
import RelayHub.Proofs.Message.Schema

/-! The messages of both directions survive the wire: what was encoded is decoded as itself. -/
namespace RelayHub

/- A payload as it is held, all its numbers integers of 64 bits, that fits below one more level. -/
structure Json.Carried (p : Json) : Prop where
  canonical : p.canonical = p
  integral : p.Integral
  shallow : p.levels ≤ 126

namespace Message

theorem plainText {name : String} (other : name ≠ tagName) (s : String) : Plain (name, .string s) :=
  ⟨other, trivial, Nat.zero_le _⟩

theorem plainFlag {name : String} (other : name ≠ tagName) (b : Bool) : Plain (name, .bool b) :=
  ⟨other, trivial, Nat.zero_le _⟩

theorem plainSize {name : String} (other : name ≠ tagName) {n : Nat} (small : n ≤ maxWord64) :
    Plain (name, .integer n) :=
  ⟨other, ⟨by omega, by omega⟩, Nat.zero_le _⟩

theorem plainPayload {name : String} (other : name ≠ tagName) {p : Json} (carried : p.Carried) :
    Plain (name, p) :=
  ⟨other, carried.integral, carried.shallow⟩

end Message

namespace ClientMessage
open Message

def payload? : ClientMessage → Option Json
  | .join _ | .leave _ => none
  | .group _ p _ | .direct _ p | .tenant p | .broadcast p => some p

theorem spelling {m : ClientMessage} (carried : ∀ p ∈ m.payload?, p.Carried) :
    ∃ tag v ms, Spelling schema tag v ms m.toJson m := by
  cases m with
  | join g => exact ⟨_, _, _, rfl, rfl, List.forall_mem_singleton.mpr (plainText (by decide) g), rfl⟩
  | leave g => exact ⟨_, _, _, rfl, rfl, List.forall_mem_singleton.mpr (plainText (by decide) g), rfl⟩
  | group g p e =>
    have carried := carried p rfl
    refine ⟨_, _, _, rfl, rfl, ?_, congrArg (fun q => Except.ok (group g q e)) carried.canonical⟩
    simp only [List.forall_mem_cons]
    exact ⟨plainText (by decide) g, plainPayload (by decide) carried, plainFlag (by decide) e, by simp⟩
  | direct u p =>
    have carried := carried p rfl
    refine ⟨_, _, _, rfl, rfl, ?_, congrArg (fun q => Except.ok (direct u q)) carried.canonical⟩
    simp only [List.forall_mem_cons]
    exact ⟨plainText (by decide) u, plainPayload (by decide) carried, by simp⟩
  | tenant p =>
    have carried := carried p rfl
    refine ⟨_, _, _, rfl, rfl, ?_, congrArg (fun q => Except.ok (tenant q)) carried.canonical⟩
    exact List.forall_mem_singleton.mpr (plainPayload (by decide) carried)
  | broadcast p =>
    have carried := carried p rfl
    refine ⟨_, _, _, rfl, rfl, ?_, congrArg (fun q => Except.ok (broadcast q)) carried.canonical⟩
    exact List.forall_mem_singleton.mpr (plainPayload (by decide) carried)

theorem readEncoded {m : ClientMessage} (carried : ∀ p ∈ m.payload?, p.Carried) : read m.encode = .ok m := by
  obtain ⟨_, _, _, spelling⟩ := spelling carried
  exact readSpelt schema spelling

theorem readCarries {raw : Bytes} {m : ClientMessage} (ran : read raw = .ok m)
    (integral : ∀ p ∈ m.payload?, p.Integral) : ∀ p ∈ m.payload?, p.Carried := by
  obtain ⟨v, listed, values, kept, rfl⟩ := readKept ran
  simp only [schema, List.mem_cons, List.not_mem_nil, or_false] at listed
  rcases listed with rfl | rfl | rfl | rfl | rfl | rfl
  · exact nofun
  · exact nofun
  · obtain ⟨-, ⟨canonical, shallow⟩, -, -⟩ := kept
    rintro p ⟨⟩
    exact ⟨canonical, integral _ rfl, shallow⟩
  · obtain ⟨-, ⟨canonical, shallow⟩, -⟩ := kept
    rintro p ⟨⟩
    exact ⟨canonical, integral _ rfl, shallow⟩
  · obtain ⟨⟨canonical, shallow⟩, -⟩ := kept
    rintro p ⟨⟩
    exact ⟨canonical, integral _ rfl, shallow⟩
  · obtain ⟨⟨canonical, shallow⟩, -⟩ := kept
    rintro p ⟨⟩
    exact ⟨canonical, integral _ rfl, shallow⟩

end ClientMessage

namespace ServerMessage
open Message

def payload? : ServerMessage → Option Json
  | .delivery _ _ p => some p
  | .welcome _ _ | .joined _ | .left _ | .receipt _ _ | .error _ => none

def delivered? : ServerMessage → Option Nat
  | .receipt _ n => some n
  | .welcome _ _ | .joined _ | .left _ | .delivery _ _ _ | .error _ => none

theorem spelling {m : ServerMessage} (carried : ∀ p ∈ m.payload?, p.Carried)
    (counted : ∀ n ∈ m.delivered?, n ≤ maxWord64) : ∃ tag v ms, Spelling schema tag v ms m.toJson m := by
  cases m with
  | welcome c u =>
    refine ⟨_, _, _, rfl, rfl, ?_, rfl⟩
    simp only [List.forall_mem_cons]
    exact ⟨plainText (by decide) c, plainText (by decide) u, by simp⟩
  | joined g => exact ⟨_, _, _, rfl, rfl, List.forall_mem_singleton.mpr (plainText (by decide) g), rfl⟩
  | left g => exact ⟨_, _, _, rfl, rfl, List.forall_mem_singleton.mpr (plainText (by decide) g), rfl⟩
  | delivery s t p =>
    have carried := carried p rfl
    refine ⟨_, _, _, rfl, rfl, ?_, congrArg (fun q => Except.ok (delivery s t q)) carried.canonical⟩
    simp only [List.forall_mem_cons]
    exact ⟨plainText (by decide) s, plainText (by decide) t, plainPayload (by decide) carried, by simp⟩
  | receipt t n =>
    have counted := counted n rfl
    refine ⟨_, _, _, rfl, rfl, ?_, rfl⟩
    simp only [List.forall_mem_cons]
    exact ⟨plainText (by decide) t, plainSize (by decide) counted, by simp⟩
  | error text => exact ⟨_, _, _, rfl, rfl, List.forall_mem_singleton.mpr (plainText (by decide) text), rfl⟩

theorem readEncoded {m : ServerMessage} (carried : ∀ p ∈ m.payload?, p.Carried)
    (counted : ∀ n ∈ m.delivered?, n ≤ maxWord64) : read m.encode = .ok m := by
  obtain ⟨_, _, _, spelling⟩ := spelling carried counted
  exact readSpelt schema spelling

theorem readCarries {raw : Bytes} {m : ServerMessage} (ran : read raw = .ok m)
    (integral : ∀ p ∈ m.payload?, p.Integral) :
    (∀ p ∈ m.payload?, p.Carried) ∧ ∀ n ∈ m.delivered?, n ≤ maxWord64 := by
  obtain ⟨v, listed, values, kept, rfl⟩ := readKept ran
  simp only [schema, List.mem_cons, List.not_mem_nil, or_false] at listed
  rcases listed with rfl | rfl | rfl | rfl | rfl | rfl
  · exact ⟨nofun, nofun⟩
  · exact ⟨nofun, nofun⟩
  · exact ⟨nofun, nofun⟩
  · obtain ⟨-, -, ⟨canonical, shallow⟩, -⟩ := kept
    refine ⟨?_, nofun⟩
    rintro p ⟨⟩
    exact ⟨canonical, integral _ rfl, shallow⟩
  · obtain ⟨-, small, -⟩ := kept
    refine ⟨nofun, ?_⟩
    rintro n ⟨⟩
    exact small
  · exact ⟨nofun, nofun⟩

end ServerMessage

namespace Message

/-- Messages survive the wire. What was encoded is decoded as itself, whatever its texts: a payload of integers
that leaves one level, a count of one word. A text that was accepted and is of such integers need not be the
encoding of what it says; but what it says is encoded in a way that a second pass leaves alone. -/
theorem survivesTheWire :
    (∀ m : ClientMessage, (∀ p ∈ m.payload?, p.Carried) → ClientMessage.read m.encode = .ok m) ∧
    (∀ m : ServerMessage, (∀ p ∈ m.payload?, p.Carried) → (∀ n ∈ m.delivered?, n ≤ maxWord64) →
      ServerMessage.read m.encode = .ok m) ∧
    (∀ raw (m : ClientMessage), ClientMessage.read raw = .ok m → (∀ p ∈ m.payload?, p.Integral) →
      (ClientMessage.read m.encode).map ClientMessage.encode = .ok m.encode) ∧
    ∀ raw (m : ServerMessage), ServerMessage.read raw = .ok m → (∀ p ∈ m.payload?, p.Integral) →
      (ServerMessage.read m.encode).map ServerMessage.encode = .ok m.encode := by
  refine ⟨fun m => ClientMessage.readEncoded, fun m => ServerMessage.readEncoded, ?_, ?_⟩
  · intro raw m ran integral
    rw [ClientMessage.readEncoded (ClientMessage.readCarries ran integral)]
    rfl
  · intro raw m ran integral
    obtain ⟨carried, counted⟩ := ServerMessage.readCarries ran integral
    rw [ServerMessage.readEncoded carried counted]
    rfl

def extremes : Json := .object [
  ("\"\\\n\x01", .array [.integer (-9223372036854775808), .integer 18446744073709551615]),
  ("𝄞", .object [("", .null)])]

theorem extremesCarried : extremes.Carried := by
  refine ⟨by rfl, ?_, by decide⟩
  simp [extremes, Json.Integral, Json.ItemsIntegral, Json.MembersIntegral, Json.FitsWord, maxSigned64, maxWord64]

def spaced : Bytes := Utf8.encode "\x7b \"payload\": \x7b\"b\":0, \"a\":1, \"b\":2\x7d, \"type\": \"tenant\"\x7d"

theorem spacedRead :
    ClientMessage.read spaced = .ok (.tenant (.object [("a", .integer 1), ("b", .integer 2)])) :=
  ClientMessage.readsAs (by decide +kernel)

theorem extremesSurvive :
    ClientMessage.read (ClientMessage.group "\"\\" extremes true).encode = .ok (.group "\"\\" extremes true) ∧
    ServerMessage.read (ServerMessage.receipt "all" maxWord64).encode = .ok (.receipt "all" maxWord64) ∧
    (∃ m, ClientMessage.read spaced = .ok m ∧ m.encode ≠ spaced ∧
      (ClientMessage.read m.encode).map ClientMessage.encode = .ok m.encode) ∧
    (ServerMessage.read (ServerMessage.delivery "𝄞" "all" extremes).encode).map ServerMessage.encode =
      .ok (ServerMessage.delivery "𝄞" "all" extremes).encode := by
  obtain ⟨client, server, clientTwice, serverTwice⟩ := survivesTheWire
  have delivered := server (.delivery "𝄞" "all" extremes)
    (fun p here => Option.some.inj here ▸ extremesCarried) nofun
  refine ⟨client _ fun p here => Option.some.inj here ▸ extremesCarried, ?_, ⟨_, spacedRead, by decide, ?_⟩, ?_⟩
  · exact server _ nofun fun n here => Nat.le_of_eq (Option.some.inj here).symm
  · refine clientTwice spaced _ spacedRead fun p here => ?_
    cases Option.some.inj here
    simp [Json.Integral, Json.MembersIntegral, Json.FitsWord, maxSigned64, maxWord64]
  · exact serverTwice _ _ delivered fun p here => Option.some.inj here ▸ extremesCarried.integral

end Message
end RelayHub
