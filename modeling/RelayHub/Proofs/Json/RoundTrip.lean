import RelayHub.Proofs.Json.Canonical
import RelayHub.Proofs.Json.Integers
import RelayHub.Proofs.Json.Strings

/-! A value that was written is read as that value, and what stands behind it is left. All its numbers have to
be integers that fit 64 bits, and it must not be nested deeper than the reader goes. -/
namespace RelayHub.Json
open Utf8 (encodeChar encodeChars)

mutual
def Integral : Json → Prop
  | .integer n => FitsWord n
  | .real _ => False
  | .array items => ItemsIntegral items
  | .object members => MembersIntegral members
  | _ => True

def ItemsIntegral : List Json → Prop
  | [] => True
  | v :: rest => Integral v ∧ ItemsIntegral rest

def MembersIntegral : List (String × Json) → Prop
  | [] => True
  | (_, v) :: rest => Integral v ∧ MembersIntegral rest
end

theorem itemsIntegralIff {items : List Json} : ItemsIntegral items ↔ ∀ v ∈ items, Integral v := by
  induction items with
  | nil => simp [ItemsIntegral]
  | cons v rest ih => simp [ItemsIntegral, ih]

theorem membersIntegralIff {members : List (String × Json)} :
    MembersIntegral members ↔ ∀ m ∈ members, Integral m.2 := by
  induction members with
  | nil => simp [MembersIntegral]
  | cons m rest ih => simp only [MembersIntegral, ih, List.forall_mem_cons]

theorem encodeAppend (cs ds : List Char) : encodeChars (cs ++ ds) = encodeChars cs ++ encodeChars ds :=
  List.flatMap_append

theorem encodeLength (cs : List Char) : cs.length ≤ (encodeChars cs).length := by
  induction cs with
  | nil => exact Nat.le_refl 0
  | cons c cs ih =>
    have some : 1 ≤ (encodeChar c).length := by
      simp only [encodeChar]
      split
      · simp
      split
      · simp
      split
      · simp
      · simp
    have shape : encodeChars (c :: cs) = encodeChar c ++ encodeChars cs := rfl
    rw [shape, List.length_append, List.length_cons, Nat.add_comm]
    exact Nat.add_le_add some ih

def Begins (b : UInt8) : Prop := isBlank b = false ∧ b ≠ 0x5D

theorem skipNothing {b : UInt8} (begins : Begins b) (rest : Bytes) : skipBlank (b :: rest) = b :: rest := by
  simp [skipBlank, begins.1]

theorem digitBegins {b : UInt8} (digit : b = 0x2D ∨ isDigit b = true) :
    Begins b ∧ b ≠ 0x5B ∧ b ≠ 0x7B := by
  have other : ∀ {a : UInt8}, isDigit a = false → a ≠ 0x2D → b ≠ a := by
    rintro a letter sign rfl
    rcases digit with minus | digit
    · exact sign minus
    · exact absurd (letter.symm.trans digit) (by simp)
  refine ⟨⟨?_, other rfl (by decide)⟩, other rfl (by decide), other rfl (by decide)⟩
  simp only [isBlank, Bool.or_eq_false_iff, decide_eq_false_iff_not]
  exact ⟨⟨⟨other rfl (by decide), other rfl (by decide)⟩, other rfl (by decide)⟩, other rfl (by decide)⟩

theorem valueScalar (room depth : Nat) {b : UInt8} (begins : Begins b) (notArray : b ≠ 0x5B)
    (notObject : b ≠ 0x7B) (rest : Bytes) : value room depth (b :: rest) = scalar b rest := by
  unfold value
  rw [skipNothing begins]
  simp only [notArray, notObject, if_false]

theorem valueArray {room depth : Nat} {items : List Json} {s rest : Bytes}
    (read : elements (value room depth) room true s = .ok (items, rest)) :
    value room (depth + 1) (0x5B :: s) = .ok (.array items, rest) := by
  unfold value
  rw [skipNothing ⟨rfl, by decide⟩]
  simp only [if_true, read]
  rfl

theorem valueObject {room depth : Nat} {ms : List (String × Json)} {s rest : Bytes}
    (read : members (value room depth) room true s = .ok (ms, rest)) :
    value room (depth + 1) (0x7B :: s) = .ok (.object ms, rest) := by
  unfold value
  rw [skipNothing ⟨rfl, by decide⟩]
  have other : ¬ (0x7B : UInt8) = 0x5B := by decide
  simp only [other, if_false, if_true, read]
  rfl

def comma (first : Bool) : List Char := if first then [] else [',']

theorem nextElementRead (first : Bool) {b : UInt8} (begins : Begins b) (rest : Bytes) :
    nextElement first (encodeChars (comma first) ++ b :: rest) = .ok (.more (b :: rest)) := by
  cases first with
  | true =>
    have shape : encodeChars (comma true) ++ b :: rest = b :: rest := rfl
    rw [shape, nextElement, skipNothing begins]
    simp [begins.2]
  | false =>
    have shape : encodeChars (comma false) ++ b :: rest = 0x2C :: b :: rest := rfl
    rw [shape, nextElement, skipNothing ⟨rfl, by decide⟩]
    simp [skipNothing begins, begins.2]

theorem nextMemberRead (first : Bool) (rest : Bytes) :
    nextMember first (encodeChars (comma first) ++ 0x22 :: rest) = .ok (.more rest) := by
  cases first with
  | true => rfl
  | false => rfl

theorem itemsFollow (items : List Json) (rest : Bytes) :
    Follows (encodeChars (writeItems false items) ++ rest) := by
  cases items with
  | nil => exact followsHead (.inr (.inl rfl)) rest
  | cons v items => exact followsHead (.inl rfl) _

theorem membersFollow (ms : List (String × Json)) (rest : Bytes) :
    Follows (encodeChars (writeMembers false ms) ++ rest) := by
  cases ms with
  | nil => exact followsHead (.inr (.inr rfl)) rest
  | cons m ms => exact followsHead (.inl rfl) _

theorem itemsShape (first : Bool) (v : Json) (items : List Json) (rest : Bytes) :
    encodeChars (writeItems first (v :: items)) ++ rest = encodeChars (comma first) ++
      (encodeChars v.writeChars ++ (encodeChars (writeItems false items) ++ rest)) := by
  simp only [writeItems, encodeAppend, List.append_assoc]
  rfl

theorem stringShape (s : String) (rest : Bytes) : encodeChars (writeString s) ++ rest =
    0x22 :: (encodeChars (s.toList.flatMap escapeChar) ++ 0x22 :: rest) := by
  have shape : encodeChars (writeString s) = 0x22 :: encodeChars (s.toList.flatMap escapeChar ++ ['"']) := rfl
  rw [shape, encodeAppend, List.cons_append, List.append_assoc]
  rfl

theorem membersShape (first : Bool) (name : String) (v : Json) (ms : List (String × Json)) (rest : Bytes) :
    encodeChars (writeMembers first ((name, v) :: ms)) ++ rest = encodeChars (comma first) ++
      0x22 :: (encodeChars (name.toList.flatMap escapeChar) ++ 0x22 :: 0x3A ::
        (encodeChars v.writeChars ++ (encodeChars (writeMembers false ms) ++ rest))) := by
  have colon : ∀ cs, encodeChars (':' :: cs) = 0x3A :: encodeChars cs := fun _ => rfl
  simp only [writeMembers, encodeAppend, List.append_assoc, List.cons_append, colon, stringShape]
  rfl

def Reads (read : Bytes → Except Fault (Json × Bytes)) (v : Json) : Prop :=
  (∃ b bs, encodeChars v.writeChars = b :: bs ∧ Begins b) ∧
    ∀ rest, Follows rest → read (encodeChars v.writeChars ++ rest) = .ok (v, rest)

theorem elementsRead {read : Bytes → Except Fault (Json × Bytes)} {items : List Json}
    (each : ∀ v ∈ items, Reads read v) {fuel : Nat} (enough : items.length < fuel) (first : Bool) (rest : Bytes) :
    elements read fuel first (encodeChars (writeItems first items) ++ rest) = .ok (items, rest) := by
  induction items generalizing fuel first with
  | nil =>
    cases fuel with
    | zero => contradiction
    | succ fuel => rfl
  | cons v items ih =>
    cases fuel with
    | zero => contradiction
    | succ fuel =>
      obtain ⟨⟨b, bs, spelt, begins⟩, reads⟩ := each v List.mem_cons_self
      have next := nextElementRead first begins (bs ++ (encodeChars (writeItems false items) ++ rest))
      rw [← List.cons_append, ← spelt] at next
      have here := reads _ (itemsFollow items rest)
      have later := ih (fun w member => each w (List.mem_cons_of_mem _ member))
        (Nat.lt_of_succ_lt_succ enough) false
      rw [itemsShape, elements, next]
      simp only [bind, Except.bind, here, later]
      rfl

theorem membersRead {read : Bytes → Except Fault (Json × Bytes)} {ms : List (String × Json)}
    (each : ∀ m ∈ ms, Reads read m.2) {fuel : Nat} (enough : ms.length < fuel) (first : Bool) (rest : Bytes) :
    members read fuel first (encodeChars (writeMembers first ms) ++ rest) = .ok (ms, rest) := by
  induction ms generalizing fuel first with
  | nil =>
    cases fuel with
    | zero => contradiction
    | succ fuel => rfl
  | cons m ms ih =>
    obtain ⟨name, v⟩ := m
    cases fuel with
    | zero => contradiction
    | succ fuel =>
      have here := (each (name, v) List.mem_cons_self).2 _ (membersFollow ms rest)
      have later := ih (fun w member => each w (List.mem_cons_of_mem _ member))
        (Nat.lt_of_succ_lt_succ enough) false
      have stop : ∀ s : Bytes, colon (0x3A :: s) = .ok s := fun _ => rfl
      rw [membersShape, members, nextMemberRead]
      simp only [bind, Except.bind, stringRead, stop, here, later]
      rfl

theorem writtenBegins {v : Json} (integral : v.Integral) :
    ∃ b bs, encodeChars v.writeChars = b :: bs ∧ Begins b := by
  cases v with
  | null => exact ⟨0x6E, _, rfl, rfl, by decide⟩
  | bool b =>
    cases b with
    | true => exact ⟨0x74, _, rfl, rfl, by decide⟩
    | false => exact ⟨0x66, _, rfl, rfl, by decide⟩
  | integer n =>
    obtain ⟨b, bs, spelt, digit, -⟩ := integerRead integral followsEnd
    exact ⟨b, bs, spelt, (digitBegins digit).1⟩
  | real x => exact absurd integral (by simp [Integral])
  | string s => exact ⟨0x22, _, rfl, rfl, by decide⟩
  | array items => exact ⟨0x5B, _, rfl, rfl, by decide⟩
  | object ms => exact ⟨0x7B, _, rfl, rfl, by decide⟩

theorem writtenSome {v : Json} (integral : v.Integral) : 1 ≤ v.writeChars.length := by
  obtain ⟨b, bs, spelt, -⟩ := writtenBegins integral
  cases shape : v.writeChars with
  | nil => simp [shape, encodeChars] at spelt
  | cons c cs => simp

theorem itemsLong (first : Bool) {items : List Json} (integral : ∀ v ∈ items, v.Integral) :
    items.length < (writeItems first items).length ∧
      ∀ v ∈ items, v.writeChars.length ≤ (writeItems first items).length := by
  induction items generalizing first with
  | nil => simp [writeItems]
  | cons v items ih =>
    obtain ⟨here, later⟩ := List.forall_mem_cons.mp integral
    obtain ⟨count, each⟩ := ih false later
    have some := writtenSome here
    simp only [writeItems, List.length_append, List.length_cons, List.forall_mem_cons]
    refine ⟨by omega, by omega, fun w member => ?_⟩
    have below := each w member
    omega

theorem membersLong (first : Bool) {ms : List (String × Json)} (integral : ∀ m ∈ ms, m.2.Integral) :
    ms.length < (writeMembers first ms).length ∧
      ∀ m ∈ ms, m.2.writeChars.length ≤ (writeMembers first ms).length := by
  induction ms generalizing first with
  | nil => simp [writeMembers]
  | cons m ms ih =>
    obtain ⟨name, v⟩ := m
    obtain ⟨here, later⟩ := List.forall_mem_cons.mp integral
    obtain ⟨count, each⟩ := ih false later
    have some := writtenSome here
    simp only [writeMembers, List.length_append, List.length_cons, List.forall_mem_cons]
    refine ⟨by omega, by omega, fun w member => ?_⟩
    have below := each w member
    omega

theorem wordRead (word : String) (rest : Bytes) :
    ident (letters word) (letters word ++ rest) = .ok rest := by
  induction letters word with
  | nil => rfl
  | cons b bs ih => simpa [ident] using ih

theorem wordReads (room depth : Nat) {v : Json} {b : UInt8} {word : String}
    (spelt : encodeChars v.writeChars = b :: letters word) (begins : Begins b) (notArray : b ≠ 0x5B)
    (notObject : b ≠ 0x7B)
    (reads : ∀ s, scalar b s = (ident (letters word) s >>= fun rest => .ok (v, rest))) (rest : Bytes) :
    value room depth (encodeChars v.writeChars ++ rest) = .ok (v, rest) := by
  rw [spelt, List.cons_append, valueScalar room depth begins notArray notObject, reads, wordRead]
  rfl

theorem valueReads {room : Nat} {v : Json} (integral : v.Integral) {depth : Nat} (shallow : v.levels ≤ depth)
    (enough : v.writeChars.length ≤ room) : Reads (value room depth) v := by
  refine ⟨writtenBegins integral, ?_⟩
  induction v using Json.induction generalizing depth with
  | null =>
    intro rest _
    have spelt : encodeChars Json.null.writeChars = 0x6E :: letters "ull" := rfl
    exact wordReads room depth spelt ⟨rfl, by decide⟩ (by decide) (by decide) (fun _ => rfl) rest
  | bool b =>
    intro rest _
    cases b with
    | true =>
      have spelt : encodeChars (Json.bool true).writeChars = 0x74 :: letters "rue" := rfl
      exact wordReads room depth spelt ⟨rfl, by decide⟩ (by decide) (by decide) (fun _ => rfl) rest
    | false =>
      have spelt : encodeChars (Json.bool false).writeChars = 0x66 :: letters "alse" := rfl
      exact wordReads room depth spelt ⟨rfl, by decide⟩ (by decide) (by decide) (fun _ => rfl) rest
  | integer n =>
    intro rest follows
    obtain ⟨b, bs, spelt, digit, read⟩ := integerRead integral follows
    have spelt : encodeChars (Json.integer n).writeChars = b :: bs := spelt
    obtain ⟨begins, notArray, notObject⟩ := digitBegins digit
    rw [spelt, List.cons_append, valueScalar room depth begins notArray notObject, read]
  | real x => exact absurd integral (by simp [Integral])
  | string s =>
    intro rest _
    rw [writeChars, stringShape, valueScalar room depth ⟨rfl, by decide⟩ (by decide) (by decide)]
    have quoted : ∀ s, scalar 0x22 s = (stringTail s >>= fun t => .ok (.string t.1, t.2)) := fun _ => rfl
    rw [quoted, stringRead]
    rfl
  | array items ih =>
    intro rest _
    cases depth with
    | zero => simp [levels] at shallow
    | succ depth =>
      have integral := itemsIntegralIff.mp integral
      have shallow := itemLevelsIff.mp (Nat.succ_le_succ_iff.mp shallow)
      have enough := Nat.le_of_succ_le enough
      obtain ⟨count, each⟩ := itemsLong true integral
      refine valueArray (elementsRead (fun v member => ?_) (count.trans_le enough) true rest)
      exact ⟨writtenBegins (integral v member),
        ih v member (integral v member) (shallow v member) ((each v member).trans enough)⟩
  | object ms ih =>
    intro rest _
    cases depth with
    | zero => simp [levels] at shallow
    | succ depth =>
      have integral := membersIntegralIff.mp integral
      have shallow := memberLevelsIff.mp (Nat.succ_le_succ_iff.mp shallow)
      have enough := Nat.le_of_succ_le enough
      obtain ⟨count, each⟩ := membersLong true integral
      refine valueObject (membersRead (fun m member => ?_) (count.trans_le enough) true rest)
      exact ⟨writtenBegins (integral m member),
        ih m member (integral m member) (shallow m member) ((each m member).trans enough)⟩

end RelayHub.Json
