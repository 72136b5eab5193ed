import RelayHub.Text.Utf8
import Mathlib.Data.List.Induction

/-! The decoder accepts exactly the octets of some text, and gives that text. -/
namespace RelayHub.Utf8

theorem octetNat {n : Nat} (small : n < 256) : (octet n).toNat = n := by
  simp only [octet, UInt8.toNat_ofNat']
  omega

theorem octetOf {n : Nat} {b : UInt8} (same : n = b.toNat) : octet n = b := by
  rw [same, octet, UInt8.ofNat_toNat]

inductive Begins : Bytes → Pending → Prop where
  | two {b : UInt8} (low : 0xC2 ≤ b.toNat) (high : b.toNat < 0xE0) :
      Begins [b] ⟨0, b.toNat - 0xC0, 0x80, 0xBF⟩
  | three {b : UInt8} (low : 0xE0 ≤ b.toNat) (high : b.toNat < 0xF0) :
      Begins [b] ⟨1, b.toNat - 0xE0, if b.toNat = 0xE0 then 0xA0 else 0x80,
        if b.toNat = 0xED then 0x9F else 0xBF⟩
  | four {b : UInt8} (low : 0xF0 ≤ b.toNat) (high : b.toNat ≤ 0xF4) :
      Begins [b] ⟨2, b.toNat - 0xF0, if b.toNat = 0xF0 then 0x90 else 0x80,
        if b.toNat = 0xF4 then 0x8F else 0xBF⟩
  | more {bs : Bytes} {p : Pending} {owed : Nat} {b : UInt8} (begun : Begins bs p)
      (owes : p.owed = owed + 1) (above : p.low ≤ b.toNat) (below : b.toNat ≤ p.high) :
      Begins (bs ++ [b]) ⟨owed, p.bits * 64 + b.toNat % 64, 0x80, 0xBF⟩

theorem charValue {n : Nat} (valid : n.isValidChar) : (Char.ofNat n).toNat = n := by
  unfold Char.ofNat
  rw [dif_pos valid]
  rfl

theorem openingWhole {b : UInt8} {c : Char} (opens : opening b = .whole c) :
    encodeChar c = [b] := by
  simp only [opening] at opens
  split at opens
  · rename_i small
    cases opens
    have value := charValue (n := b.toNat) (by left; omega)
    simp only [encodeChar, value, small, if_true]
    rw [octetOf rfl]
  all_goals
    repeat' split at opens
    all_goals contradiction

theorem openingBegun {b : UInt8} {p : Pending} (opens : opening b = .begun p) : Begins [b] p := by
  simp only [opening] at opens
  repeat' split at opens
  all_goals cases opens
  · exact .two (by omega) (by omega)
  · rename_i lead
    have begun := Begins.three (b := b) (by omega) (by omega)
    simpa [lead] using begun
  · rename_i lead
    have begun := Begins.three (b := b) (by omega) (by omega)
    simpa [lead] using begun
  · rename_i notLow notHigh below
    have begun := Begins.three (b := b) (by omega) (by omega)
    simpa [notLow, notHigh] using begun
  · rename_i lead
    have begun := Begins.four (b := b) (by omega) (by omega)
    simpa [lead] using begun
  · rename_i notLow below
    have begun := Begins.four (b := b) (by omega) (by omega)
    have notHigh : ¬ b.toNat = 0xF4 := by omega
    simpa [notLow, notHigh] using begun
  · rename_i lead
    have begun := Begins.four (b := b) (by omega) (by omega)
    simpa [lead] using begun

theorem owedSmall {bs : Bytes} {p : Pending} (begun : Begins bs p) : p.owed ≤ 2 := by
  induction begun with
  | two | three | four => simp
  | more _ owes _ _ ih =>
    rw [owes] at ih
    exact Nat.le_of_succ_le ih

theorem spellTwo {a b : UInt8} (lead : 0xC2 ≤ a.toNat ∧ a.toNat < 0xE0)
    (tail : 0x80 ≤ b.toNat ∧ b.toNat ≤ 0xBF) :
    encodeChar (Char.ofNat ((a.toNat - 0xC0) * 64 + b.toNat % 64)) = [a, b] := by
  generalize shape : (a.toNat - 0xC0) * 64 + b.toNat % 64 = n
  have value := charValue (n := n) (by left; omega)
  have notOne : ¬ n < 0x80 := by omega
  have inTwo : n < 0x800 := by omega
  simp only [encodeChar, value, notOne, inTwo, if_false, if_true]
  rw [octetOf (b := a) (by omega), octetOf (b := b) (by omega)]

theorem spellThree {a b c : UInt8} (lead : 0xE0 ≤ a.toNat ∧ a.toNat < 0xF0)
    (next : 0x80 ≤ b.toNat ∧ b.toNat ≤ 0xBF) (long : a.toNat = 0xE0 → 0xA0 ≤ b.toNat)
    (scalar : a.toNat = 0xED → b.toNat ≤ 0x9F) (tail : 0x80 ≤ c.toNat ∧ c.toNat ≤ 0xBF) :
    encodeChar (Char.ofNat (((a.toNat - 0xE0) * 64 + b.toNat % 64) * 64 + c.toNat % 64)) =
      [a, b, c] := by
  generalize shape : ((a.toNat - 0xE0) * 64 + b.toNat % 64) * 64 + c.toNat % 64 = n
  have value := charValue (n := n) (by
    by_cases low : n < 0xD800
    · exact .inl low
    · right; omega)
  have notOne : ¬ n < 0x80 := by omega
  have notTwo : ¬ n < 0x800 := by omega
  have inThree : n < 0x10000 := by omega
  simp only [encodeChar, value, notOne, notTwo, inThree, if_false, if_true]
  rw [octetOf (b := a) (by omega), octetOf (b := b) (by omega), octetOf (b := c) (by omega)]

theorem spellFour {a b c d : UInt8} (lead : 0xF0 ≤ a.toNat ∧ a.toNat ≤ 0xF4)
    (next : 0x80 ≤ b.toNat ∧ b.toNat ≤ 0xBF) (long : a.toNat = 0xF0 → 0x90 ≤ b.toNat)
    (last : a.toNat = 0xF4 → b.toNat ≤ 0x8F) (third : 0x80 ≤ c.toNat ∧ c.toNat ≤ 0xBF)
    (tail : 0x80 ≤ d.toNat ∧ d.toNat ≤ 0xBF) :
    encodeChar (Char.ofNat ((((a.toNat - 0xF0) * 64 + b.toNat % 64) * 64 + c.toNat % 64) * 64 +
      d.toNat % 64)) = [a, b, c, d] := by
  generalize shape : (((a.toNat - 0xF0) * 64 + b.toNat % 64) * 64 + c.toNat % 64) * 64 +
    d.toNat % 64 = n
  have value := charValue (n := n) (by right; omega)
  have notOne : ¬ n < 0x80 := by omega
  have notTwo : ¬ n < 0x800 := by omega
  have notThree : ¬ n < 0x10000 := by omega
  simp only [encodeChar, value, notOne, notTwo, notThree, if_false]
  rw [octetOf (b := a) (by omega), octetOf (b := b) (by omega), octetOf (b := c) (by omega),
    octetOf (b := d) (by omega)]

theorem completes {bs : Bytes} {p : Pending} {b : UInt8} (begun : Begins bs p) (last : p.owed = 0)
    (above : p.low ≤ b.toNat) (below : b.toNat ≤ p.high) :
    encodeChar (Char.ofNat (p.bits * 64 + b.toNat % 64)) = bs ++ [b] := by
  cases begun with
  | two low high => exact spellTwo ⟨low, high⟩ ⟨above, below⟩
  | three => simp at last
  | four => simp at last
  | @more _ _ _ b' begun owes above' below' =>
    simp only at last above below
    subst last
    cases begun with
    | two => simp at owes
    | @three a low high =>
      simp only at above' below'
      have least : 0x80 ≤ b'.toNat ∧ (a.toNat = 0xE0 → 0xA0 ≤ b'.toNat) := by split at above' <;> omega
      have most : b'.toNat ≤ 0xBF ∧ (a.toNat = 0xED → b'.toNat ≤ 0x9F) := by split at below' <;> omega
      exact spellThree ⟨low, high⟩ ⟨least.1, most.1⟩ least.2 most.2 ⟨above, below⟩
    | four => simp at owes
    | @more _ _ _ b'' begun owes' above'' below'' =>
      simp only at owes above' below'
      subst owes
      cases begun with
      | two => simp at owes'
      | three => simp at owes'
      | @four a low high =>
        simp only at above'' below''
        have least : 0x80 ≤ b''.toNat ∧ (a.toNat = 0xF0 → 0x90 ≤ b''.toNat) := by split at above'' <;> omega
        have most : b''.toNat ≤ 0xBF ∧ (a.toNat = 0xF4 → b''.toNat ≤ 0x8F) := by split at below'' <;> omega
        exact spellFour ⟨low, high⟩ ⟨least.1, most.1⟩ least.2 most.2 ⟨above', below'⟩ ⟨above, below⟩
      | more begun owes'' =>
        have small := owedSmall begun
        simp only at owes'
        omega

def Spells (s : Scan) (bs : Bytes) : Prop :=
  ∃ cs tail, s.parts = (cs.map some).reverse ∧ bs = encodeChars cs ++ tail ∧
    match s.pending with
    | none => tail = []
    | some p => Begins tail p

theorem encodeSnoc (cs : List Char) (c : Char) :
    encodeChars (cs ++ [c]) = encodeChars cs ++ encodeChar c := by
  simp [encodeChars]

theorem spellsOpen {s : Scan} {cs : List Char} (parts : s.parts = (cs.map some).reverse) (b : UInt8) :
    none ∈ (s.open b).parts ∨ Spells (s.open b) (encodeChars cs ++ [b]) := by
  unfold Scan.open
  split
  · rename_i c opens
    refine .inr ⟨cs ++ [c], [], by simp [parts], ?_, rfl⟩
    rw [encodeSnoc, openingWhole opens, List.append_nil]
  · rename_i p opens
    exact .inr ⟨cs, [b], parts, rfl, openingBegun opens⟩
  · exact .inl List.mem_cons_self

theorem openKeeps {s : Scan} (b : UInt8) (invalid : none ∈ s.parts) : none ∈ (s.open b).parts := by
  unfold Scan.open
  split
  · exact List.mem_cons_of_mem _ invalid
  · exact invalid
  · exact List.mem_cons_self

theorem stepKeeps {s : Scan} (b : UInt8) (invalid : none ∈ s.parts) : none ∈ (s.step b).parts := by
  unfold Scan.step
  split
  · exact openKeeps b invalid
  · rename_i p _
    split
    · cases p.owed with
      | zero => exact List.mem_cons_of_mem _ invalid
      | succ owed => exact invalid
    · exact openKeeps b List.mem_cons_self

theorem spellsStep {s : Scan} {bs : Bytes} (spells : Spells s bs) (b : UInt8) :
    none ∈ (s.step b).parts ∨ Spells (s.step b) (bs ++ [b]) := by
  obtain ⟨cs, tail, parts, rfl, under⟩ := spells
  unfold Scan.step
  cases pending : s.pending with
  | none =>
    rw [pending] at under
    subst under
    rw [List.append_nil]
    exact spellsOpen parts b
  | some p =>
    rw [pending] at under
    simp only at under ⊢
    split
    · rename_i inside
      cases owed : p.owed with
      | zero =>
        have spelt := completes under owed inside.1 inside.2
        refine .inr ⟨cs ++ [Char.ofNat (p.bits * 64 + b.toNat % 64)], [], by simp [parts], ?_, rfl⟩
        rw [encodeSnoc, spelt, List.append_nil, List.append_assoc]
      | succ owed =>
        exact .inr ⟨cs, tail ++ [b], parts, List.append_assoc _ _ _, .more under owed inside.1 inside.2⟩
    · exact .inl (openKeeps b List.mem_cons_self)

theorem scanSpells (bs : Bytes) : none ∈ (bs.foldl Scan.step .empty).parts ∨
    Spells (bs.foldl Scan.step .empty) bs := by
  induction bs using List.reverseRec with
  | nil => exact .inr ⟨[], [], rfl, rfl, rfl⟩
  | append_singleton bs b ih =>
    rw [List.foldl_append, List.foldl_cons, List.foldl_nil]
    rcases ih with invalid | spells
    · exact .inl (stepKeeps b invalid)
    · exact spellsStep spells b

theorem allCharsIff {ps : List (Option Char)} {cs : List Char} :
    allChars ps = some cs ↔ ps = cs.map some := by
  induction ps generalizing cs with
  | nil => cases cs <;> simp [allChars]
  | cons p rest ih =>
    cases p with
    | none => cases cs <;> simp [allChars]
    | some c =>
      cases cs with
      | nil => simp [allChars]
      | cons d ds => simp [allChars, ih, and_comm]

theorem decodeCharsSound {bs : Bytes} {cs : List Char} (decoded : decodeChars bs = some cs) :
    encodeChars cs = bs := by
  have whole : (bs.foldl Scan.step .empty).finish = cs.map some := allCharsIff.mp decoded
  have valid : none ∉ (bs.foldl Scan.step .empty).finish := by simp [whole]
  unfold Scan.finish at whole valid
  cases pending : (bs.foldl Scan.step .empty).pending with
  | some p => simp [pending] at valid
  | none =>
    simp only [pending, Option.isSome_none, Bool.false_eq_true, if_false] at whole valid
    rcases scanSpells bs with invalid | ⟨cs', tail, parts, spelt, under⟩
    · exact absurd (List.mem_reverse.mpr invalid) valid
    · rw [pending] at under
      rw [parts, List.reverse_reverse] at whole
      have same : cs' = cs := (List.map_inj_right fun _ _ => Option.some.inj).mp whole
      rw [← same, spelt, under, List.append_nil]

theorem openTwo {a : UInt8} (lead : 0xC2 ≤ a.toNat ∧ a.toNat < 0xE0) :
    opening a = .begun ⟨0, a.toNat - 0xC0, 0x80, 0xBF⟩ := by
  have notOne : ¬ a.toNat < 0x80 := by omega
  have notTail : ¬ a.toNat < 0xC2 := by omega
  simp only [opening, notOne, notTail, lead.2, if_false, if_true]

theorem openThree {a : UInt8} (lead : 0xE0 ≤ a.toNat ∧ a.toNat < 0xF0) :
    opening a = .begun ⟨1, a.toNat - 0xE0, if a.toNat = 0xE0 then 0xA0 else 0x80,
      if a.toNat = 0xED then 0x9F else 0xBF⟩ := by
  have notOne : ¬ a.toNat < 0x80 := by omega
  have notTail : ¬ a.toNat < 0xC2 := by omega
  have notTwo : ¬ a.toNat < 0xE0 := by omega
  simp only [opening, notOne, notTail, notTwo, lead.2, if_false, if_true]
  by_cases first : a.toNat = 0xE0
  · simp [first]
  · by_cases surrogate : a.toNat = 0xED
    · simp [surrogate]
    · simp [first, surrogate]

theorem openFour {a : UInt8} (lead : 0xF0 ≤ a.toNat ∧ a.toNat ≤ 0xF4) :
    opening a = .begun ⟨2, a.toNat - 0xF0, if a.toNat = 0xF0 then 0x90 else 0x80,
      if a.toNat = 0xF4 then 0x8F else 0xBF⟩ := by
  have notOne : ¬ a.toNat < 0x80 := by omega
  have notTail : ¬ a.toNat < 0xC2 := by omega
  have notTwo : ¬ a.toNat < 0xE0 := by omega
  have notThree : ¬ a.toNat < 0xF0 := by omega
  have notLong : ¬ a.toNat = 0xE0 := by omega
  have notSurrogate : ¬ a.toNat = 0xED := by omega
  simp only [opening, notOne, notTail, notTwo, notThree, notLong, notSurrogate, if_false]
  by_cases first : a.toNat = 0xF0
  · simp [first]
  · by_cases last : a.toNat = 0xF4
    · simp [last]
    · have below : a.toNat < 0xF4 := by omega
      simp [first, last, below]

theorem stepBegun {parts : List (Option Char)} {a : UInt8} {p : Pending}
    (opens : opening a = .begun p) : Scan.step ⟨parts, none⟩ a = ⟨parts, some p⟩ := by
  simp only [Scan.step, Scan.open, opens]

theorem stepMore {parts : List (Option Char)} {owed bits low high : Nat} {b : UInt8}
    (inside : low ≤ b.toNat ∧ b.toNat ≤ high) :
    Scan.step ⟨parts, some ⟨owed + 1, bits, low, high⟩⟩ b =
      ⟨parts, some ⟨owed, bits * 64 + b.toNat % 64, 0x80, 0xBF⟩⟩ := by
  simp only [Scan.step, inside, and_self, if_true]

theorem stepLast {parts : List (Option Char)} {bits low high : Nat} {b : UInt8} {c : Char}
    (inside : low ≤ b.toNat ∧ b.toNat ≤ high) (value : bits * 64 + b.toNat % 64 = c.toNat) :
    Scan.step ⟨parts, some ⟨0, bits, low, high⟩⟩ b = ⟨some c :: parts, none⟩ := by
  simp only [Scan.step, inside, and_self, if_true, value, Char.ofNat_toNat]

theorem stepsOfChar (parts : List (Option Char)) (c : Char) :
    (encodeChar c).foldl Scan.step ⟨parts, none⟩ = ⟨some c :: parts, none⟩ := by
  have scalar : c.toNat < 0xD800 ∨ 0xDFFF < c.toNat ∧ c.toNat < 0x110000 := c.valid
  simp only [encodeChar]
  split
  · rename_i one
    have value := octetNat (n := c.toNat) (by omega)
    have opens : opening (octet c.toNat) = .whole c := by
      simp only [opening, value, one, if_true, Char.ofNat_toNat]
    simp only [List.foldl_cons, List.foldl_nil, Scan.step, Scan.open, opens]
  · split
    · rename_i two
      have a := octetNat (n := 0xC0 + c.toNat / 64) (by omega)
      have b := octetNat (n := 0x80 + c.toNat % 64) (by omega)
      simp only [List.foldl_cons, List.foldl_nil]
      rw [stepBegun (openTwo (by omega)), stepLast (c := c) (by omega) (by omega)]
    · split
      · rename_i three
        have a := octetNat (n := 0xE0 + c.toNat / 4096) (by omega)
        have b := octetNat (n := 0x80 + c.toNat / 64 % 64) (by omega)
        have d := octetNat (n := 0x80 + c.toNat % 64) (by omega)
        simp only [List.foldl_cons, List.foldl_nil]
        rw [stepBegun (openThree (by omega)), stepMore (by constructor <;> split <;> omega),
          stepLast (c := c) (by omega) (by omega)]
      · have a := octetNat (n := 0xF0 + c.toNat / 262144) (by omega)
        have b := octetNat (n := 0x80 + c.toNat / 4096 % 64) (by omega)
        have d := octetNat (n := 0x80 + c.toNat / 64 % 64) (by omega)
        have e := octetNat (n := 0x80 + c.toNat % 64) (by omega)
        simp only [List.foldl_cons, List.foldl_nil]
        rw [stepBegun (openFour (by omega)), stepMore (by constructor <;> split <;> omega),
          stepMore (by omega), stepLast (c := c) (by omega) (by omega)]

theorem stepsOfChars (parts : List (Option Char)) (cs : List Char) :
    (encodeChars cs).foldl Scan.step ⟨parts, none⟩ = ⟨(cs.map some).reverse ++ parts, none⟩ := by
  induction cs generalizing parts with
  | nil => rfl
  | cons c rest ih =>
    have split : encodeChars (c :: rest) = encodeChar c ++ encodeChars rest := rfl
    rw [split, List.foldl_append, stepsOfChar, ih]
    simp

theorem decodeCharsComplete (cs : List Char) : decodeChars (encodeChars cs) = some cs := by
  refine allCharsIff.mpr ?_
  have read := stepsOfChars [] cs
  rw [List.append_nil] at read
  rw [Utf8.parts, Scan.empty, read]
  simp [Scan.finish]

theorem decodeLossyEncode (s : String) : decodeLossy (encode s) = s := by
  have whole : parts (encode s) = s.toList.map some := allCharsIff.mp (decodeCharsComplete s.toList)
  rw [decodeLossy, whole, List.map_map]
  exact (congrArg String.ofList (List.map_id _)).trans String.ofList_toList

theorem decodeIff {bs : Bytes} {s : String} : decode bs = some s ↔ encode s = bs := by
  unfold decode encode
  constructor
  · intro decoded
    obtain ⟨cs, read, rfl⟩ := Option.map_eq_some_iff.mp decoded
    rw [String.toList_ofList]
    exact decodeCharsSound read
  · rintro rfl
    rw [decodeCharsComplete, Option.map_some, String.ofList_toList]

end RelayHub.Utf8
