import RelayHub.Proofs.Json.Numerals
import RelayHub.Proofs.Json.RoundTrip

/-! The reader takes every spelling of a value: it gives back the value, whatever blanks, escapes and numerals the
text has. The value must not be nested deeper than the reader goes. -/
namespace RelayHub.Json
open Utf8 (encodeChar encodeChars)

section Strings
variable {octets rest : Bytes}

theorem fourDigits {n : Nat} {ds : Bytes} (digits : IsCode n ds) :
    ∃ a b c d, ds = [a, b, c, d] ∧ hexNumber [a, b, c, d] = some n := by
  obtain ⟨four, value⟩ := digits
  match ds, four with
  | [a, b, c, d], _ => exact ⟨a, b, c, d, rfl, value⟩

theorem codeBegun {a b c d : UInt8} (high : Option Nat) (octets rest : Bytes) :
    stringFrom (.hex [] high) octets (a :: b :: c :: d :: rest) =
      stringFrom (.hex [a, b, c] high) octets (d :: rest) := rfl

theorem escapeTaken {c : Char} {s : Bytes} (escape : Escape c s) (octets rest : Bytes) :
    stringFrom .plain octets (s ++ rest) = stringFrom .plain (escaped octets c) rest := by
  cases escape with
  | @short _ b letter =>
    have begun : stringFrom .plain octets ([0x5C, b] ++ rest) = stringFrom .escape octets (b :: rest) := rfl
    rw [begun, stringFrom, letter]
  | @code n ds digits high low =>
    obtain ⟨a, b, c, d, rfl, value⟩ := fourDigits digits
    have begun : stringFrom .plain octets (0x5C :: 0x75 :: [a, b, c, d] ++ rest) =
        stringFrom (.hex [] none) octets (a :: b :: c :: d :: rest) := rfl
    have notLow : ¬ (0xDC00 ≤ n ∧ n ≤ 0xDFFF) := low
    have notHigh : ¬ (0xD800 ≤ n ∧ n ≤ 0xDBFF) := high
    rw [begun, codeBegun]
    simp [stringFrom, value, notLow, notHigh]
  | @pair high low ds es first isHigh second isLow =>
    obtain ⟨a, b, c, d, rfl, highValue⟩ := fourDigits first
    obtain ⟨e, f, g, h, rfl, lowValue⟩ := fourDigits second
    have begun : stringFrom .plain octets
        (0x5C :: 0x75 :: ([a, b, c, d] ++ 0x5C :: 0x75 :: [e, f, g, h]) ++ rest) =
          stringFrom (.hex [] none) octets (a :: b :: c :: d :: 0x5C :: 0x75 :: e :: f :: g :: h :: rest) := rfl
    have half : ∀ s, stringFrom (.lowSlash high) octets (0x5C :: 0x75 :: s) =
        stringFrom (.hex [] (some high)) octets s := fun _ => rfl
    have notLow : ¬ (0xDC00 ≤ high ∧ high ≤ 0xDFFF) := fun range => by
      have below := isHigh.2
      omega
    have isHigh : 0xD800 ≤ high ∧ high ≤ 0xDBFF := isHigh
    have isLow : 0xDC00 ≤ low ∧ low ≤ 0xDFFF := isLow
    have paired : ∀ s, stringFrom (.hex [a, b, c] none) octets (d :: s) =
        stringFrom (.lowSlash high) octets s := fun s => by simp [stringFrom, highValue, notLow, isHigh]
    rw [begun, codeBegun, paired, half, codeBegun]
    simp [stringFrom, lowValue, isLow]

theorem charRead {c : Char} {s : Bytes} (spelt : CharSpelt c s) (octets rest : Bytes) :
    stringFrom .plain octets (s ++ rest) = stringFrom .plain (escaped octets c) rest := by
  cases spelt with
  | plain quote slash control =>
    have ordinary := ordinaryPlain (fun same => quote (Char.toNat_inj.mp same))
      (fun same => slash (Char.toNat_inj.mp same)) (Nat.not_lt.mpr control)
    exact plainRead ordinary octets rest
  | escape escape => exact escapeTaken escape octets rest

theorem speltCharsRead {cs : List Char} {s : Bytes} (spelt : CharsSpelt cs s) (octets rest : Bytes) :
    stringFrom .plain octets (s ++ 0x22 :: rest) = endString ((encodeChars cs).reverse ++ octets) rest := by
  induction cs generalizing s octets with
  | nil =>
    cases spelt
    rfl
  | cons c cs ih =>
    obtain ⟨here, later, first, others, rfl⟩ := spelt
    rw [List.append_assoc, charRead first, ih others]
    simp [encodeChars, escaped]

theorem quotedRead {text : String} {inside : Bytes} (spelt : CharsSpelt text.toList inside) (rest : Bytes) :
    stringTail (inside ++ 0x22 :: rest) = .ok (text, rest) := by
  have decoded : Utf8.decode (encodeChars text.toList) = some text := Utf8.decodeIff.mpr rfl
  rw [stringTail, speltCharsRead spelt, endString, List.append_nil, List.reverse_reverse, decoded]

end Strings

section Gaps

theorem skipBlanks {gap : Bytes} (blank : Blank gap) (s : Bytes) : skipBlank (gap ++ s) = skipBlank s := by
  induction gap with
  | nil => rfl
  | cons b gap ih =>
    obtain ⟨here, later⟩ := List.forall_mem_cons.mp blank
    have ih := ih later
    simp only [skipBlank] at ih ⊢
    rw [List.cons_append, List.dropWhile_cons_of_pos here, ih]

theorem skipTo {gap : Bytes} (blank : Blank gap) {b : UInt8} (mark : isBlank b = false) (s : Bytes) :
    skipBlank (gap ++ b :: s) = b :: s := by
  rw [skipBlanks blank]
  simp [skipBlank, mark]

theorem valueSkips (room depth : Nat) {gap : Bytes} (blank : Blank gap) (s : Bytes) :
    value room depth (gap ++ s) = value room depth s := by
  unfold value
  rw [skipBlanks blank]

theorem endsNil : Ends [] := ⟨noDigitNil, noLetterNil, noPointNil⟩

theorem endsCons {b : UInt8} (other : isDigit b = false ∧ b ≠ 0x2E ∧ isExponentLetter b = false) (s : Bytes) :
    Ends (b :: s) := by
  obtain ⟨digit, point, letter⟩ := other
  exact ⟨by simpa [NoDigit] using digit, by simpa [NoLetter] using letter, by simpa [NoPoint] using point⟩

theorem blankEnds {b : UInt8} (blank : isBlank b = true) :
    isDigit b = false ∧ b ≠ 0x2E ∧ isExponentLetter b = false := by
  simp only [isBlank, Bool.or_eq_true, decide_eq_true_eq] at blank
  rcases blank with ((rfl | rfl) | rfl) | rfl
  all_goals decide

theorem gapEnds {gap : Bytes} (blank : Blank gap) {s : Bytes} (ends : Ends s) : Ends (gap ++ s) := by
  cases gap with
  | nil => exact ends
  | cons b gap => exact endsCons (blankEnds (blank b List.mem_cons_self)) _

end Gaps

section Numbers
variable {rest : Bytes}

theorem okOfSome {α ε : Type} {r : Except ε α} {a : α} (shown : r.toOption = some a) : r = .ok a := by
  cases r with
  | error e => cases shown
  | ok b => exact congrArg Except.ok (Option.some.inj shown)

theorem numeralShape (n : Numeral) : ∃ b bs, n.text = b :: bs ∧ (b = 0x2D ∨ isDigit b = true) ∧
    ∀ rest, scalar b (bs ++ rest) = numeral n.negative (n.whole ++ (n.tail ++ rest)) := by
  cases sign : n.negative with
  | true =>
    refine ⟨0x2D, n.whole ++ n.tail, by simp [Numeral.text, sign], .inl rfl, fun rest => ?_⟩
    rw [List.append_assoc]
    rfl
  | false =>
    cases shape : n.whole with
    | nil => exact absurd shape n.nonempty
    | cons d ds =>
      obtain ⟨digit, -⟩ := digitsCons (shape ▸ n.decimal)
      have other : ∀ {a : UInt8}, isDigit a = false → d ≠ a := fun letter => otherThanDigit letter digit
      refine ⟨d, ds ++ n.tail, by simp [Numeral.text, sign, shape], .inr digit, fun rest => ?_⟩
      rw [List.append_assoc, scalar, if_neg (other rfl), if_neg (other rfl), if_neg (other rfl),
        if_neg (other rfl), if_pos digit]
      rfl

theorem numberRead (room depth : Nat) {v : Json} {n : Numeral} (value : n.value? = some v) (ends : Ends rest) :
    Json.value room depth (n.text ++ rest) = .ok (v, rest) := by
  obtain ⟨b, bs, spelt, digit, read⟩ := numeralShape n
  obtain ⟨begins, notArray, notObject⟩ := digitBegins digit
  have shown := numeralRead n (endsStops ends n)
  rw [value] at shown
  rw [spelt, List.cons_append, valueScalar room depth begins notArray notObject, read]
  exact okOfSome shown

end Numbers

theorem speltBegins {v : Json} {s : Bytes} (spelt : Spelt v s) : ∃ b bs, s = b :: bs ∧ Begins b := by
  have number : ∀ n : Numeral, ∃ b bs, n.text = b :: bs ∧ Begins b := by
    intro n
    obtain ⟨b, bs, shape, digit, -⟩ := numeralShape n
    exact ⟨b, bs, shape, (digitBegins digit).1⟩
  cases v with
  | null => exact ⟨0x6E, _, spelt, rfl, by decide⟩
  | bool b =>
    cases b with
    | true => exact ⟨0x74, _, spelt, rfl, by decide⟩
    | false => exact ⟨0x66, _, spelt, rfl, by decide⟩
  | integer i =>
    obtain ⟨n, -, rfl⟩ := spelt
    exact number n
  | real x =>
    obtain ⟨n, -, rfl⟩ := spelt
    exact number n
  | string text =>
    obtain ⟨inside, -, rfl⟩ := spelt
    exact ⟨0x22, _, rfl, rfl, by decide⟩
  | array items =>
    obtain ⟨inside, -, rfl⟩ := spelt
    exact ⟨0x5B, _, rfl, rfl, by decide⟩
  | object members =>
    obtain ⟨inside, -, rfl⟩ := spelt
    exact ⟨0x7B, _, rfl, rfl, by decide⟩

section Lists
variable {first : Bool} {rest : Bytes}

theorem nextElementSpelt {lead : Bytes} (leads : Lead first lead) {b : UInt8} (begins : Begins b) (rest : Bytes) :
    nextElement first (lead ++ b :: rest) = .ok (.more (b :: rest)) := by
  cases first with
  | true => simp [nextElement, skipTo leads begins.1, begins.2]
  | false =>
    obtain ⟨before, after, blank, blank', rfl⟩ := leads
    have comma : isBlank 0x2C = false := rfl
    rw [List.append_assoc, List.cons_append]
    simp [nextElement, skipTo blank comma, skipTo blank' begins.1, begins.2]

theorem nextElementClose {gap : Bytes} (blank : Blank gap) (first : Bool) (rest : Bytes) :
    nextElement first (gap ++ 0x5D :: rest) = .ok (.done rest) := by
  have mark : isBlank 0x5D = false := rfl
  simp [nextElement, skipTo blank mark]

theorem nextMemberSpelt {lead : Bytes} (leads : Lead first lead) (rest : Bytes) :
    nextMember first (lead ++ 0x22 :: rest) = .ok (.more rest) := by
  have quote : isBlank 0x22 = false := rfl
  cases first with
  | true => simp [nextMember, skipTo leads quote]
  | false =>
    obtain ⟨before, after, blank, blank', rfl⟩ := leads
    have comma : isBlank 0x2C = false := rfl
    rw [List.append_assoc, List.cons_append]
    simp [nextMember, skipTo blank comma, skipTo blank' quote]

theorem nextMemberClose {gap : Bytes} (blank : Blank gap) (first : Bool) (rest : Bytes) :
    nextMember first (gap ++ 0x7D :: rest) = .ok (.done (0x7D :: rest)) := by
  have mark : isBlank 0x7D = false := rfl
  simp [nextMember, skipTo blank mark]

theorem colonSpelt {gap : Bytes} (blank : Blank gap) (rest : Bytes) : colon (gap ++ 0x3A :: rest) = .ok rest := by
  have mark : isBlank 0x3A = false := rfl
  simp [colon, skipTo blank mark]

theorem leadEnds {lead : Bytes} (leads : Lead false lead) (s : Bytes) : Ends (lead ++ s) := by
  obtain ⟨before, after, blank, -, rfl⟩ := leads
  rw [List.append_assoc, List.cons_append]
  exact gapEnds blank (endsCons (by decide) _)

theorem itemsEnd {items : List Json} {s : Bytes} (spelt : ItemsSpelt false items s) (rest : Bytes) :
    Ends (s ++ rest) := by
  cases items with
  | nil =>
    obtain ⟨gap, blank, rfl⟩ := spelt
    rw [List.append_assoc]
    exact gapEnds blank (endsCons (by decide) _)
  | cons v items =>
    obtain ⟨lead, here, later, leads, -, -, rfl⟩ := spelt
    rw [List.append_assoc]
    exact leadEnds leads _

theorem membersEnd {members : List (String × Json)} {s : Bytes} (spelt : MembersSpelt false members s)
    (rest : Bytes) : Ends (s ++ rest) := by
  cases members with
  | nil =>
    obtain ⟨gap, blank, rfl⟩ := spelt
    rw [List.append_assoc]
    exact gapEnds blank (endsCons (by decide) _)
  | cons m members =>
    obtain ⟨lead, key, gap, space, here, later, leads, -, -, -, -, -, rfl⟩ := spelt
    rw [List.append_assoc]
    exact leadEnds leads _

def TakesSpelt (room : Nat) (read : Bytes → Except Fault (Json × Bytes)) (v : Json) : Prop :=
  ∀ s, Spelt v s → s.length ≤ room → ∀ rest, Ends rest → read (s ++ rest) = .ok (v, rest)

variable {room fuel : Nat} {read : Bytes → Except Fault (Json × Bytes)}

theorem speltElements {items : List Json} (each : ∀ v ∈ items, TakesSpelt room read v) {s : Bytes}
    (spelt : ItemsSpelt first items s) (roomy : s.length ≤ room) (enough : s.length ≤ fuel) (rest : Bytes) :
    elements read fuel first (s ++ rest) = .ok (items, rest) := by
  induction items generalizing fuel first s with
  | nil =>
    obtain ⟨gap, blank, rfl⟩ := spelt
    cases fuel with
    | zero => simp at enough
    | succ fuel =>
      rw [List.append_assoc, elements, List.singleton_append, nextElementClose blank]
      rfl
  | cons v items ih =>
    obtain ⟨takes, each⟩ := List.forall_mem_cons.mp each
    obtain ⟨lead, here, later, leads, speltHere, speltLater, rfl⟩ := spelt
    obtain ⟨b, bs, shape, begins⟩ := speltBegins speltHere
    simp only [List.length_append] at roomy enough
    have some : 1 ≤ here.length := by simp [shape]
    cases fuel with
    | zero => omega
    | succ fuel =>
      have next := nextElementSpelt leads begins (bs ++ (later ++ rest))
      rw [← List.cons_append, ← shape] at next
      have value := takes here speltHere (by omega) (later ++ rest) (itemsEnd speltLater rest)
      have others := @ih false fuel each later speltLater (by omega) (by omega)
      rw [List.append_assoc, List.append_assoc, elements, next]
      simp only [bind, Except.bind, value, others]
      rfl

theorem memberOpens {name : String} {lead key gap : Bytes} (leads : Lead first lead) (quoted : Quoted name key)
    (blank : Blank gap) (rest : Bytes) : ∃ inside after,
      nextMember first (lead ++ (key ++ (gap ++ 0x3A :: rest))) = .ok (.more inside) ∧
      stringTail inside = .ok (name, after) ∧ colon after = .ok rest := by
  obtain ⟨inside, spelt, rfl⟩ := quoted
  refine ⟨inside ++ 0x22 :: (gap ++ 0x3A :: rest), gap ++ 0x3A :: rest, ?_, quotedRead spelt _, colonSpelt blank _⟩
  have shape : 0x22 :: (inside ++ [0x22]) ++ (gap ++ 0x3A :: rest) =
      0x22 :: (inside ++ 0x22 :: (gap ++ 0x3A :: rest)) := by simp
  rw [shape]
  exact nextMemberSpelt leads _

theorem speltMembers {ms : List (String × Json)} (each : ∀ m ∈ ms, TakesSpelt room read m.2)
    (skips : ∀ gap s, Blank gap → read (gap ++ s) = read s) {s : Bytes} (spelt : MembersSpelt first ms s)
    (roomy : s.length ≤ room) (enough : s.length ≤ fuel) (rest : Bytes) :
    members read fuel first (s ++ rest) = .ok (ms, rest) := by
  induction ms generalizing fuel first s with
  | nil =>
    obtain ⟨gap, blank, rfl⟩ := spelt
    cases fuel with
    | zero => simp at enough
    | succ fuel =>
      rw [List.append_assoc, members, List.singleton_append, nextMemberClose blank]
      rfl
  | cons m ms ih =>
    obtain ⟨name, v⟩ := m
    obtain ⟨takes, each⟩ := List.forall_mem_cons.mp each
    obtain ⟨lead, key, gap, space, here, later, leads, quoted, blank, blank', speltHere, speltLater, rfl⟩ := spelt
    simp only [List.length_append, List.length_cons] at roomy enough
    cases fuel with
    | zero => omega
    | succ fuel =>
      obtain ⟨inside, after, next, key, mark⟩ :=
        memberOpens leads quoted blank (space ++ (here ++ (later ++ rest)))
      have value := takes here speltHere (by omega) (later ++ rest) (membersEnd speltLater rest)
      have others := @ih false fuel each later speltLater (by omega) (by omega)
      simp only [List.append_assoc, List.cons_append]
      rw [members, next]
      simp only [bind, Except.bind, key, mark, skips space _ blank', value, others]
      rfl

end Lists

theorem speltWord (room depth : Nat) {v : Json} {b : UInt8} {word : String} (begins : Begins b)
    (notArray : b ≠ 0x5B) (notObject : b ≠ 0x7B)
    (reads : ∀ s, scalar b s = (ident (letters word) s >>= fun rest => .ok (v, rest))) (rest : Bytes) :
    value room depth (b :: letters word ++ rest) = .ok (v, rest) := by
  rw [List.cons_append, valueScalar room depth begins notArray notObject, reads, wordRead]
  rfl

theorem speltRead {room : Nat} {v : Json} {depth : Nat} (shallow : v.levels ≤ depth) :
    TakesSpelt room (value room depth) v := by
  -- the levels go down with the nesting; the room is the same throughout
  induction v using Json.induction generalizing depth with
  | null =>
    intro s spelt _ rest _
    rw [show s = 0x6E :: letters "ull" from spelt]
    exact speltWord room depth ⟨rfl, by decide⟩ (by decide) (by decide) (fun _ => rfl) rest
  | bool b =>
    intro s spelt _ rest _
    cases b with
    | true =>
      rw [show s = 0x74 :: letters "rue" from spelt]
      exact speltWord room depth ⟨rfl, by decide⟩ (by decide) (by decide) (fun _ => rfl) rest
    | false =>
      rw [show s = 0x66 :: letters "alse" from spelt]
      exact speltWord room depth ⟨rfl, by decide⟩ (by decide) (by decide) (fun _ => rfl) rest
  | integer i =>
    rintro s ⟨n, shown, rfl⟩ _ rest ends
    exact numberRead room depth shown ends
  | real x =>
    rintro s ⟨n, shown, rfl⟩ _ rest ends
    exact numberRead room depth shown ends
  | string text =>
    rintro s ⟨inside, spelt, rfl⟩ _ rest _
    have quoted : ∀ s, scalar 0x22 s = (stringTail s >>= fun t => .ok (.string t.1, t.2)) := fun _ => rfl
    rw [List.cons_append, List.append_assoc, valueScalar room depth ⟨rfl, by decide⟩ (by decide) (by decide),
      quoted, List.singleton_append, quotedRead spelt]
    rfl
  | array items ih =>
    rintro s ⟨inside, spelt, rfl⟩ roomy rest _
    cases depth with
    | zero => simp [levels] at shallow
    | succ depth =>
      have shallow := itemLevelsIff.mp (Nat.succ_le_succ_iff.mp shallow)
      have roomy := Nat.le_of_succ_le roomy
      exact valueArray (speltElements (fun v member => ih v member (shallow v member)) spelt roomy roomy rest)
  | object ms ih =>
    rintro s ⟨inside, spelt, rfl⟩ roomy rest _
    cases depth with
    | zero => simp [levels] at shallow
    | succ depth =>
      have shallow := memberLevelsIff.mp (Nat.succ_le_succ_iff.mp shallow)
      have roomy := Nat.le_of_succ_le roomy
      exact valueObject (speltMembers (fun m member => ih m member (shallow m member))
        (fun gap s blank => valueSkips room depth blank s) spelt roomy roomy rest)

end RelayHub.Json
