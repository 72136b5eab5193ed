import RelayHub.Json.Reader
import RelayHub.Json.Writer
import RelayHub.Proofs.Text.Utf8

/-! An integer that was written is read as that integer, as far as it fits 64 bits, signed below zero and
unsigned from there on. What stands behind it must not go on with the number. -/
namespace RelayHub.Json
open Utf8 (encodeChar encodeChars octet octetNat)

def FitsWord (n : Int) : Prop := -((maxSigned64 : Int) + 1) ≤ n ∧ n ≤ maxWord64

def Follows (rest : Bytes) : Prop := ∀ b ∈ rest.head?, b = 0x2C ∨ b = 0x5D ∨ b = 0x7D

theorem followsEnd : Follows [] := fun _ none => absurd none (by simp)

theorem followsHead {b : UInt8} (head : b = 0x2C ∨ b = 0x5D ∨ b = 0x7D) (rest : Bytes) :
    Follows (b :: rest) := by
  intro b' here
  cases Option.some.inj here
  exact head

theorem followsUndigit {b : UInt8} {rest : Bytes} (follows : Follows (b :: rest)) :
    isDigit b = false ∧ b ≠ 0x2E ∧ isExponentLetter b = false := by
  rcases follows b rfl with rfl | rfl | rfl
  · decide
  · decide
  · decide

theorem digitOctet {c : Char} (digit : c.isDigit = true) : ∃ b, encodeChar c = [b] ∧ isDigit b = true ∧
    digitValue b = c.toNat - '0'.toNat ∧ (b = 0x30 → c = '0') := by
  have range : 48 ≤ c.toNat ∧ c.toNat ≤ 57 := by
    simp only [Char.isDigit, Bool.and_eq_true, decide_eq_true_eq, UInt32.le_iff_toNat_le] at digit
    exact digit
  have value := octetNat (n := c.toNat) (by omega)
  refine ⟨octet c.toNat, ?_, ?_, ?_, ?_⟩
  · have ascii : c.toNat < 0x80 := by omega
    simp only [encodeChar, ascii, if_true]
  · simp only [isDigit, Bool.and_eq_true, decide_eq_true_eq, UInt8.le_iff_toNat_le, value]
    exact range
  · rw [digitValue, value]
    rfl
  · intro zero
    refine Char.toNat_inj.mp ?_
    rw [← value, zero]
    rfl

theorem startBelow (ds : List Char) (start : Nat) : start ≤ Nat.ofDigitChars 10 ds start := by
  rw [Nat.ofDigitChars_eq_ofDigitChars_zero]
  have scale : 1 ≤ 10 ^ ds.length := Nat.one_le_pow _ _ (by omega)
  exact Nat.le_add_right_of_le (Nat.le_mul_of_pos_left start scale)

theorem afterDigits {negative : Bool} {significand : Nat} {rest : Bytes} (follows : Follows rest) :
    integerDigits negative significand rest = afterInteger negative significand rest := by
  cases rest with
  | nil => rfl
  | cons b rest => simp [integerDigits, (followsUndigit follows).1]

theorem digitsRead {ds : List Char} (digits : ∀ c ∈ ds, c.isDigit = true) (negative : Bool) {start : Nat}
    (fits : Nat.ofDigitChars 10 ds start ≤ maxWord64) {rest : Bytes} (follows : Follows rest) :
    integerDigits negative start (encodeChars ds ++ rest) =
      afterInteger negative (Nat.ofDigitChars 10 ds start) rest := by
  induction ds generalizing start with
  | nil => exact afterDigits follows
  | cons c ds ih =>
    obtain ⟨b, spelt, digit, value, -⟩ := digitOctet (digits c List.mem_cons_self)
    have shape : encodeChars (c :: ds) = b :: encodeChars ds := by simp [encodeChars, spelt]
    rw [Nat.ofDigitChars_cons, ← value, Nat.mul_comm] at fits ⊢
    have room : start * 10 + digitValue b ≤ maxWord64 := Nat.le_trans (startBelow ds _) fits
    rw [shape, List.cons_append, integerDigits, if_pos digit, if_pos room]
    exact ih (fun c member => digits c (List.mem_cons_of_mem _ member)) fits

theorem leadingDigit {n : Nat} (positive : 0 < n) : ∃ c cs, Nat.toDigits 10 n = c :: cs ∧ c ≠ '0' := by
  induction n using Nat.strongRecOn with
  | ind n ih =>
    rw [Nat.toDigits_eq_if (by omega)]
    split
    · refine ⟨n.digitChar, [], rfl, fun zero => ?_⟩
      exact absurd (Nat.digitChar_eq_zero.mp zero) (by omega)
    · obtain ⟨c, cs, shape, nonzero⟩ := ih (n / 10) (by omega) (by omega)
      exact ⟨c, cs ++ [(n % 10).digitChar], by rw [shape]; rfl, nonzero⟩

theorem naturalRead {n : Nat} (fits : n ≤ maxWord64) (negative : Bool) {rest : Bytes} (follows : Follows rest) :
    ∃ b bs, encodeChars (Nat.toDigits 10 n) = b :: bs ∧ isDigit b = true ∧
      numeral negative (b :: (bs ++ rest)) = afterInteger negative n rest := by
  cases n with
  | zero =>
    refine ⟨0x30, [], rfl, rfl, ?_⟩
    cases rest with
    | nil => rfl
    | cons c rest => simp [numeral, (followsUndigit follows).1]
  | succ n =>
    obtain ⟨c, cs, shape, nonzero⟩ := leadingDigit (Nat.succ_pos n)
    have digits : ∀ d ∈ c :: cs, d.isDigit = true := fun d member =>
      Nat.isDigit_of_mem_toDigits (by omega) (by omega) (shape ▸ member)
    obtain ⟨b, spelt, digit, value, zero⟩ := digitOctet (digits c List.mem_cons_self)
    have whole : Nat.ofDigitChars 10 cs (digitValue b) = n + 1 := by
      rw [value, ← Nat.ofDigitChars_ten_toDigits (n := n + 1), shape, Nat.ofDigitChars_cons, Nat.mul_zero,
        Nat.zero_add]
    have fits : Nat.ofDigitChars 10 cs (digitValue b) ≤ maxWord64 := whole.symm ▸ fits
    have read := digitsRead (fun d member => digits d (List.mem_cons_of_mem _ member)) negative fits follows
    have notZero : b ≠ 0x30 := fun same => nonzero (zero same)
    refine ⟨b, encodeChars cs, by simp [shape, encodeChars, spelt], digit, ?_⟩
    simp only [numeral, notZero, digit, if_false, if_true]
    rw [read, whole]

theorem integerEnds {rest : Bytes} (follows : Follows rest) (negative : Bool) (significand : Nat) :
    afterInteger negative significand rest = afterInteger.whole negative significand rest := by
  cases rest with
  | nil => rfl
  | cons b rest =>
    obtain ⟨-, point, letter⟩ := followsUndigit follows
    simp [afterInteger, point, letter]

theorem positiveRead {n : Nat} (fits : n ≤ maxWord64) {rest : Bytes} (follows : Follows rest) :
    ∃ b bs, encodeChars (Nat.toDigits 10 n) = b :: bs ∧ isDigit b = true ∧
      scalar b (bs ++ rest) = .ok (.integer n, rest) := by
  obtain ⟨b, bs, spelt, digit, read⟩ := naturalRead fits false follows
  have other : ∀ {a : UInt8}, isDigit a = false → b ≠ a := by
    rintro a letter rfl
    exact absurd (letter.symm.trans digit) (by simp)
  refine ⟨b, bs, spelt, digit, ?_⟩
  rw [scalar, if_neg (other rfl), if_neg (other rfl), if_neg (other rfl), if_neg (other rfl), if_pos digit, read,
    integerEnds follows]
  rfl

theorem negativeRead {n : Nat} (positive : 0 < n) (fits : n ≤ maxSigned64 + 1) {rest : Bytes}
    (follows : Follows rest) :
    scalar 0x2D (encodeChars (Nat.toDigits 10 n) ++ rest) = .ok (.integer (-n), rest) := by
  have small : maxSigned64 + 1 ≤ maxWord64 := by decide
  obtain ⟨b, bs, spelt, digit, read⟩ := naturalRead (Nat.le_trans fits small) true follows
  have whole : ¬ (n = 0 ∨ maxSigned64 + 1 < n) := by omega
  have minus : scalar 0x2D (b :: (bs ++ rest)) = numeral true (b :: (bs ++ rest)) := rfl
  rw [spelt, List.cons_append, minus, read, integerEnds follows]
  simp [afterInteger.whole, whole]

theorem integerRead {n : Int} (fits : FitsWord n) {rest : Bytes} (follows : Follows rest) :
    ∃ b bs, encodeChars (toString n).toList = b :: bs ∧ (b = 0x2D ∨ isDigit b = true) ∧
      scalar b (bs ++ rest) = .ok (.integer n, rest) := by
  obtain ⟨low, high⟩ := fits
  rw [Int.toString_eq_repr, Int.repr_eq_if]
  split
  · rename_i positive
    obtain ⟨b, bs, spelt, digit, read⟩ := positiveRead (n := n.toNat) (by omega) follows
    rw [Int.toNat_of_nonneg positive] at read
    exact ⟨b, bs, by rw [Nat.toList_repr, spelt], .inr digit, read⟩
  · rename_i negative
    have read := negativeRead (n := (-n).toNat) (by omega) (by omega) follows
    have value : (((-n).toNat : Nat) : Int) = -n := Int.toNat_of_nonneg (by omega)
    rw [value, Int.neg_neg] at read
    refine ⟨0x2D, encodeChars (Nat.toDigits 10 (-n).toNat), ?_, .inl rfl, read⟩
    rw [String.toList_append, Nat.toList_repr]
    rfl

end RelayHub.Json
