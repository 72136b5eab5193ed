import RelayHub.Message.Schema
import RelayHub.Proofs.Json.Nesting
import RelayHub.Proofs.Json.RoundTrip

/-! Any schema: a written message is read from the values of its fields, and what is read holds values in the
form in which they are kept. -/
namespace RelayHub.Message
open Utf8 (encodeChars)

section Written
variable {M : Type} (schema : Schema M)

theorem tagRead {tag : String} {v : Variant M} (found : schema.find? tag = some v) (rest : Bytes) :
    schema.readTag (encodeChars (Json.writeString tag) ++ rest) = .ok (v, rest) := by
  have quote : ∀ s, Json.skipBlank (0x22 :: s) = 0x22 :: s := Json.skipNothing ⟨rfl, by decide⟩
  rw [Json.stringShape, Schema.readTag, quote]
  simp only [if_true, Json.stringRead, liftFault, Except.mapError, bind, Except.bind, found]
  rfl

theorem membersWritten {room : Nat} {ms : List (String × Json)} (plain : ∀ m ∈ ms, m.1 ≠ tagName)
    (each : ∀ m ∈ ms, Json.Reads (Json.value room (Json.maxDepth - 1)) m.2) {fuel : Nat}
    (enough : ms.length < fuel) (tag : Option (Variant M)) (rest : Bytes) :
    schema.readMembers room fuel false tag (encodeChars (Json.writeMembers false ms) ++ rest) =
      .ok (tag, ms, rest) := by
  induction ms generalizing fuel with
  | nil =>
    cases fuel with
    | zero => contradiction
    | succ fuel => rfl
  | cons m ms ih =>
    obtain ⟨name, v⟩ := m
    cases fuel with
    | zero => contradiction
    | succ fuel =>
      obtain ⟨other, plain⟩ := List.forall_mem_cons.mp plain
      obtain ⟨⟨-, reads⟩, each⟩ := List.forall_mem_cons.mp each
      have here := reads _ (Json.membersFollow ms rest)
      have later := ih plain each (Nat.lt_of_succ_lt_succ enough)
      have stop : ∀ s : Bytes, Json.colon (0x3A :: s) = .ok s := fun _ => rfl
      rw [Json.membersShape, Schema.readMembers, Json.nextMemberRead]
      simp only [liftFault, Except.mapError, bind, Except.bind, Json.stringRead, stop, here, later]
      rw [if_neg other]
      rfl

theorem encodeWritten (v : Json) : Utf8.encode v.write = encodeChars v.writeChars := by
  rw [Utf8.encode, Json.write, String.toList_ofList]

structure Plain (m : String × Json) : Prop where
  other : m.1 ≠ tagName
  integral : m.2.Integral
  shallow : m.2.levels ≤ Json.maxDepth - 1

structure Spelling (tag : String) (v : Variant M) (ms : List (String × Json)) (spelt : Json) (m : M) : Prop where
  shape : spelt = .object ((tagName, .string tag) :: ms)
  found : schema.find? tag = some v
  plain : ∀ m ∈ ms, Plain m
  made : v.ofMembers ms = .ok m

theorem readSpelt {tag : String} {v : Variant M} {ms : List (String × Json)} {spelt : Json} {m : M}
    (spelling : Spelling schema tag v ms spelt m) : schema.read (Utf8.encode spelt.write) = .ok m := by
  obtain ⟨rfl, found, plain, made⟩ := spelling
  have integral : ∀ m ∈ ms, m.2.Integral := fun m member => (plain m member).integral
  have all : ∀ m ∈ (tagName, Json.string tag) :: ms, m.2.Integral :=
    List.forall_mem_cons.mpr ⟨trivial, integral⟩
  obtain ⟨count, long⟩ := Json.membersLong true all
  have octets := Json.encodeLength (Json.writeMembers true ((tagName, Json.string tag) :: ms))
  obtain ⟨text, spelt⟩ : ∃ text, text = encodeChars (Json.writeMembers true ((tagName, Json.string tag) :: ms)) :=
    ⟨_, rfl⟩
  rw [← spelt] at octets
  have shape : Utf8.encode (Json.object ((tagName, .string tag) :: ms)).write = 0x7B :: text := by
    rw [encodeWritten, spelt]
    rfl
  have members : schema.readMembers (text.length + 1) (text.length + 1) true none text =
      .ok (some v, ms, []) := by
    have each : ∀ m ∈ ms, Json.Reads (Json.value (text.length + 1) (Json.maxDepth - 1)) m.2 := by
      intro m member
      have below := long m (List.mem_cons_of_mem _ member)
      exact Json.valueReads (integral m member) (plain m member).shallow (by omega)
    have enough : ms.length < text.length := by
      rw [List.length_cons] at count
      omega
    have other : ∀ m ∈ ms, m.1 ≠ tagName := fun m member => (plain m member).other
    have later := membersWritten schema other each enough (some v) []
    have stop : ∀ s : Bytes, Json.colon (0x3A :: s) = .ok s := fun _ => rfl
    have stands := Json.membersShape true tagName (Json.string tag) ms []
    rw [← spelt, List.append_nil] at stands
    rw [Schema.readMembers]
    rw [show Json.nextMember true text = .ok (.more _) from stands ▸ Json.nextMemberRead true _]
    simp only [liftFault, Except.mapError, bind, Except.bind, Json.stringRead, stop, if_true, Json.writeChars,
      tagRead schema found, later]
  have brace : Json.skipBlank (0x7B :: text) = 0x7B :: text := Json.skipNothing ⟨rfl, by decide⟩ text
  rw [Schema.read, shape, Schema.readValue, brace]
  simp only [if_true, members, bind, Except.bind, made]
  rfl

end Written

/- The form in which values are kept: payloads canonical and nested no deeper than below a message, sizes within
a word. -/
def FieldKind.Kept : (kind : FieldKind) → kind.Value → Prop
  | .payload, p => p.canonical = p ∧ p.levels ≤ Json.maxDepth - 1
  | .size, n => n ≤ maxWord64
  | .text, _ => True
  | .flag, _ => True

def Values.Kept : (fs : List Field) → Values fs → Prop
  | [], _ => True
  | f :: fs, (v, rest) => f.kind.Kept v ∧ Values.Kept fs rest

def Slots.Kept : (fs : List Field) → Slots fs → Prop
  | [], _ => True
  | f :: fs, (seen, rest) => (∀ v ∈ seen, f.kind.Kept v) ∧ Slots.Kept fs rest

theorem keptRead {kind : FieldKind} {v : Json} (within : Json.Within (Json.maxDepth - 1) v) {x : kind.Value}
    (ran : kind.read v = .ok x) : kind.Kept x := by
  cases kind with
  | text => trivial
  | flag => trivial
  | payload =>
    cases ran
    exact ⟨Json.canonicalTwice v, Json.canonicalLevels within.shallow⟩
  | size =>
    cases v with
    | integer n =>
      have word := (within.word n rfl).2
      simp only [FieldKind.read] at ran
      split at ran
      · cases ran
        exact Int.toNat_le.mpr word
      · exact nomatch ran
    | null | bool | real | string | array | object => exact nomatch ran

theorem keptAbsent {kind : FieldKind} {x : kind.Value} (absent : kind.absent? = some x) : kind.Kept x := by
  cases kind with
  | text | payload | size => exact nomatch absent
  | flag => trivial

theorem keptEmpty (fs : List Field) : Slots.Kept fs (Slots.empty fs) := by
  induction fs with
  | nil => trivial
  | cons f fs ih => exact ⟨fun v none => absurd none (by simp), ih⟩

theorem keptPut {name : String} {v : Json} (within : Json.Within (Json.maxDepth - 1) v) {fs : List Field}
    {slots after : Slots fs} (before : Slots.Kept fs slots) (ran : Slots.put name v fs slots = .ok after) :
    Slots.Kept fs after := by
  induction fs with
  | nil => trivial
  | cons f fs ih =>
    obtain ⟨seen, rest⟩ := slots
    obtain ⟨here, later⟩ := before
    simp only [Slots.put] at ran
    split at ran
    · cases seen with
      | some _ => exact nomatch ran
      | none =>
        obtain ⟨x, read, ran⟩ := Json.okBind ran
        cases ran
        refine ⟨fun y mine => ?_, later⟩
        cases Option.some.inj mine
        exact keptRead within read
    · obtain ⟨rest', put, ran⟩ := Json.okBind ran
      cases ran
      exact ⟨here, ih later put⟩

theorem keptPutAll {fs : List Field} {ms : List (String × Json)}
    (within : ∀ m ∈ ms, Json.Within (Json.maxDepth - 1) m.2) {slots after : Slots fs}
    (before : Slots.Kept fs slots) (ran : putAll fs ms slots = .ok after) : Slots.Kept fs after := by
  induction ms generalizing slots with
  | nil =>
    cases ran
    exact before
  | cons m ms ih =>
    obtain ⟨here, within⟩ := List.forall_mem_cons.mp within
    obtain ⟨next, put, ran⟩ := Json.okBind ran
    exact ih within (keptPut here before put) ran

theorem keptValues {fs : List Field} {slots : Slots fs} {values : Values fs} (before : Slots.Kept fs slots)
    (ran : Slots.values fs slots = .ok values) : Values.Kept fs values := by
  induction fs with
  | nil => trivial
  | cons f fs ih =>
    obtain ⟨seen, rest⟩ := slots
    obtain ⟨here, later⟩ := before
    simp only [Slots.values] at ran
    split at ran
    · rename_i x found
      obtain ⟨xs, others, ran⟩ := Json.okBind ran
      cases ran
      refine ⟨?_, ih later others⟩
      cases seen with
      | some y =>
        cases Option.some.inj found
        exact here _ rfl
      | none => exact keptAbsent found
    · exact nomatch ran

theorem keptElements {whole : String} {fs : List Field} {index count : Nat} {items : List Json}
    {values : Values fs} (within : ∀ v ∈ items, Json.Within (Json.maxDepth - 1) v)
    (ran : takeElements whole fs index items = .ok (values, count)) : Values.Kept fs values := by
  induction fs generalizing index items with
  | nil => trivial
  | cons f fs ih =>
    cases items with
    | nil =>
      simp only [takeElements] at ran
      split at ran
      · rename_i x absent
        obtain ⟨⟨xs, count⟩, others, ran⟩ := Json.okBind ran
        cases ran
        exact ⟨keptAbsent absent, ih within others⟩
      · exact nomatch ran
    | cons v items =>
      obtain ⟨here, within⟩ := List.forall_mem_cons.mp within
      obtain ⟨x, read, ran⟩ := Json.okBind ran
      obtain ⟨⟨xs, count⟩, others, ran⟩ := Json.okBind ran
      cases ran
      exact ⟨keptRead here read, ih within others⟩

section Accepted
variable {M : Type} {schema : Schema M} {v : Variant M}

theorem liftOk {α : Type} {r : Except Json.Fault α} {a : α} (ran : liftFault r = .ok a) : r = .ok a := by
  cases r with
  | error fault => exact nomatch ran
  | ok b =>
    cases ran
    rfl

theorem unplacedOk {α : Type} {r : Except Problem α} {a : α} (ran : unplaced r = .ok a) : r = .ok a := by
  cases r with
  | error problem => exact nomatch ran
  | ok b =>
    cases ran
    rfl

theorem tagListed {s rest : Bytes} (ran : schema.readTag s = .ok (v, rest)) : v ∈ schema.variants := by
  unfold Schema.readTag at ran
  split at ran
  · exact nomatch ran
  · split at ran
    · obtain ⟨⟨name, rest⟩, -, ran⟩ := Json.okBind ran
      simp only at ran
      split at ran
      · rename_i found
        cases ran
        exact List.mem_of_find?_eq_some found
      · exact nomatch ran
    · split at ran
      · exact nomatch ran
      · split at ran
        · exact nomatch ran
        · obtain ⟨⟨name, rest⟩, -, ran⟩ := Json.okBind ran
          exact nomatch ran

theorem membersListed {room fuel : Nat} {first : Bool} {before after : Option (Variant M)} {s rest : Bytes}
    {ms : List (String × Json)} (listed : ∀ v ∈ before, v ∈ schema.variants)
    (ran : schema.readMembers room fuel first before s = .ok (after, ms, rest)) :
    (∀ v ∈ after, v ∈ schema.variants) ∧ ∀ m ∈ ms, Json.Within (Json.maxDepth - 1) m.2 := by
  induction fuel generalizing first before s ms with
  | zero => exact nomatch ran
  | succ fuel ih =>
    obtain ⟨next, -, ran⟩ := Json.okBind ran
    cases next with
    | done rest =>
      cases ran
      exact ⟨listed, fun m none => absurd none List.not_mem_nil⟩
    | more s =>
      obtain ⟨⟨name, s⟩, -, ran⟩ := Json.okBind ran
      simp only at ran
      split at ran
      · cases before with
        | some _ => exact nomatch ran
        | none =>
          obtain ⟨s, -, ran⟩ := Json.okBind ran
          obtain ⟨⟨v, s⟩, tag, ran⟩ := Json.okBind ran
          refine ih (fun w mine => ?_) ran
          cases Option.some.inj mine
          exact tagListed tag
      · obtain ⟨s, -, ran⟩ := Json.okBind ran
        obtain ⟨⟨v, s⟩, here, ran⟩ := Json.okBind ran
        obtain ⟨⟨tag, later, s⟩, there, ran⟩ := Json.okBind ran
        cases ran
        obtain ⟨listed, within⟩ := ih listed there
        have value := Json.valueGrants _ _ _ _ _ (liftOk here)
        exact ⟨listed, List.forall_mem_cons.mpr ⟨value, within⟩⟩

theorem readKept {raw : Bytes} {m : M} (ran : schema.read raw = .ok m) :
    ∃ v ∈ schema.variants, ∃ values, Values.Kept v.fields values ∧ m = v.build values := by
  obtain ⟨⟨m, rest⟩, read, ran⟩ := Json.okBind ran
  obtain ⟨_, -, ran⟩ := Json.okBind ran
  cases ran
  unfold Schema.readValue at read
  split at read
  · exact nomatch read
  · split at read
    · obtain ⟨⟨tag, ms, rest⟩, members, read⟩ := Json.okBind read
      have unread : ∀ v ∈ (none : Option (Variant M)), v ∈ schema.variants := by simp
      obtain ⟨listed, within⟩ := membersListed unread members
      cases tag with
      | none => exact nomatch read
      | some v =>
        obtain ⟨m, made, read⟩ := Json.okBind read
        cases read
        obtain ⟨values, found, made⟩ := Json.okBind (unplacedOk made)
        cases made
        obtain ⟨slots, put, found⟩ := Json.okBind found
        exact ⟨v, listed v rfl, values, keptValues (keptPutAll within (keptEmpty _) put) found, rfl⟩
    · split at read
      · obtain ⟨next, -, read⟩ := Json.okBind read
        cases next with
        | done rest => exact nomatch read
        | more s =>
          obtain ⟨⟨v, s⟩, tag, read⟩ := Json.okBind read
          obtain ⟨⟨items, s⟩, elements, read⟩ := Json.okBind read
          obtain ⟨m, made, read⟩ := Json.okBind read
          cases read
          obtain ⟨⟨values, count⟩, taken, made⟩ := Json.okBind (unplacedOk made)
          simp only at made
          split at made
          · exact nomatch made
          · cases made
            have within := Json.elementsGrant (Json.valueGrants _ _) (liftOk elements)
            exact ⟨v, tagListed tag, values, keptElements within taken, rfl⟩
      · obtain ⟨⟨v, rest⟩, -, read⟩ := Json.okBind read
        exact nomatch read

end Accepted

end RelayHub.Message
