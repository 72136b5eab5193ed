import RelayHub.Json.Reader
import RelayHub.Json.Writer
import RelayHub.Proofs.Text.Utf8

/-! A string that was written is read as that string, whatever its characters are: each escape gives back
the character it stands for, and all other characters come through octet by octet. -/
namespace RelayHub.Json
open Utf8 (encodeChar encodeChars octet octetNat)

def isPlain (b : UInt8) : Bool := b ≠ 0x22 && b ≠ 0x5C && 0x20 ≤ b

theorem plainRead {bs : Bytes} (plain : ∀ b ∈ bs, isPlain b = true) (octets rest : Bytes) :
    stringFrom .plain octets (bs ++ rest) = stringFrom .plain (bs.reverse ++ octets) rest := by
  induction bs generalizing octets with
  | nil => rfl
  | cons b bs ih =>
    have here := plain b List.mem_cons_self
    simp only [isPlain, Bool.and_eq_true, decide_eq_true_eq] at here
    obtain ⟨⟨notQuote, notSlash⟩, notControl⟩ := here
    have notControl : ¬ b < 0x20 := UInt8.not_lt.mpr notControl
    rw [List.cons_append, stringFrom, if_neg notQuote, if_neg notSlash, if_neg notControl,
      ih (fun b member => plain b (List.mem_cons_of_mem _ member))]
    simp

theorem plainOctet {n : Nat} (small : n < 256) (notControl : 0x20 ≤ n) (notQuote : n ≠ 0x22)
    (notSlash : n ≠ 0x5C) : isPlain (octet n) = true := by
  have value := octetNat small
  simp only [isPlain, Bool.and_eq_true, decide_eq_true_eq]
  refine ⟨⟨?_, ?_⟩, ?_⟩
  · rintro same
    exact notQuote (by rw [← value, same]; rfl)
  · rintro same
    exact notSlash (by rw [← value, same]; rfl)
  · rw [UInt8.le_iff_toNat_le, value]
    exact notControl

theorem ordinaryPlain {c : Char} (notQuote : c.toNat ≠ 0x22) (notSlash : c.toNat ≠ 0x5C)
    (notControl : ¬ c.toNat < 0x20) : ∀ b ∈ encodeChar c, isPlain b = true := by
  have scalar : c.toNat < 0xD800 ∨ 0xDFFF < c.toNat ∧ c.toNat < 0x110000 := c.valid
  have wide : ∀ n, 0x80 ≤ n ∧ n < 256 → isPlain (octet n) = true :=
    fun n range => plainOctet range.2 (by omega) (by omega) (by omega)
  simp only [encodeChar]
  split
  · rename_i one
    simpa using plainOctet (by omega) (by omega) notQuote notSlash
  · split
    · simp only [List.forall_mem_cons]
      exact ⟨wide _ (by omega), wide _ (by omega), by simp⟩
    · split
      · simp only [List.forall_mem_cons]
        exact ⟨wide _ (by omega), wide _ (by omega), wide _ (by omega), by simp⟩
      · simp only [List.forall_mem_cons]
        exact ⟨wide _ (by omega), wide _ (by omega), wide _ (by omega), wide _ (by omega), by simp⟩

theorem controlSpelt : ∀ n < 0x20, encodeChars (controlEscape n) =
      [0x5C, 0x75, 0x30, 0x30, octet (n / 16).digitChar.toNat, octet (n % 16).digitChar.toNat] ∧
    hexNumber [0x30, 0x30, octet (n / 16).digitChar.toNat, octet (n % 16).digitChar.toNat] = some n := by
  decide

theorem controlRead {n : Nat} (control : n < 0x20) (octets rest : Bytes) :
    stringFrom .plain octets (encodeChars (controlEscape n) ++ rest) =
      stringFrom .plain (escaped octets (Char.ofNat n)) rest := by
  obtain ⟨spelt, value⟩ := controlSpelt n control
  have notLow : ¬ (0xDC00 ≤ n ∧ n ≤ 0xDFFF) := by omega
  have notHigh : ¬ (0xD800 ≤ n ∧ n ≤ 0xDBFF) := by omega
  rw [spelt]
  generalize octet (n / 16).digitChar.toNat = tens at value
  generalize octet (n % 16).digitChar.toNat = ones at value
  have begun : stringFrom .plain octets (0x5C :: 0x75 :: 0x30 :: 0x30 :: tens :: ones :: rest) =
      stringFrom (.hex [0x30, 0x30, tens] none) octets (ones :: rest) := rfl
  simp only [List.cons_append, List.nil_append, begun]
  simp [stringFrom, value, notLow, notHigh]

theorem escapeRead (c : Char) (octets rest : Bytes) :
    stringFrom .plain octets (encodeChars (escapeChar c) ++ rest) =
      stringFrom .plain (escaped octets c) rest := by
  unfold escapeChar
  -- first the seven characters with an escape of their own
  split
  · subst c; rfl
  split
  · subst c; rfl
  split
  · subst c; rfl
  split
  · subst c; rfl
  split
  · subst c; rfl
  split
  · subst c; rfl
  split
  · subst c; rfl
  split
  · rename_i control
    rw [controlRead control, Char.ofNat_toNat]
  · rename_i notQuote notSlash _ _ _ _ _ notControl
    have plain := ordinaryPlain (fun quote => notQuote (Char.toNat_inj.mp quote))
      (fun slash => notSlash (Char.toNat_inj.mp slash)) notControl
    have read := plainRead plain octets rest
    simpa [encodeChars, escaped] using read

theorem charsRead (cs : List Char) (octets rest : Bytes) :
    stringFrom .plain octets (encodeChars (cs.flatMap escapeChar) ++ 0x22 :: rest) =
      endString ((encodeChars cs).reverse ++ octets) rest := by
  induction cs generalizing octets with
  | nil => rfl
  | cons c cs ih =>
    have split : encodeChars ((c :: cs).flatMap escapeChar) =
        encodeChars (escapeChar c) ++ encodeChars (cs.flatMap escapeChar) := by
      simp [encodeChars]
    rw [split, List.append_assoc, escapeRead, ih]
    simp [encodeChars, escaped]

theorem stringRead (s : String) (rest : Bytes) :
    stringTail (encodeChars (s.toList.flatMap escapeChar) ++ 0x22 :: rest) = .ok (s, rest) := by
  have decoded : Utf8.decode (encodeChars s.toList) = some s := Utf8.decodeIff.mpr rfl
  rw [stringTail, charsRead, endString, List.append_nil, List.reverse_reverse, decoded]

end RelayHub.Json
