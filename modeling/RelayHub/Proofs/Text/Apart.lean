import RelayHub.Proofs.Text.Utf8

/-! How encoded characters stand apart: the first octet of a character is no tail, the others are, and no character's
octets begin those of another one. -/
namespace RelayHub.Utf8

theorem stepSuffix (scan : Scan) (b : UInt8) : scan.parts <:+ (scan.step b).parts := by
  have opens : ∀ scan : Scan, scan.parts <:+ (scan.open b).parts := by
    intro scan
    unfold Scan.open
    split
    · exact List.suffix_cons _ _
    · exact List.suffix_refl _
    · exact List.suffix_cons _ _
  unfold Scan.step
  split
  · exact opens scan
  · split
    · simp only
      split
      · exact List.suffix_cons _ _
      · exact List.suffix_refl _
    · exact (List.suffix_cons _ _).trans (opens ⟨none :: scan.parts, none⟩)

theorem stepsSuffix (scan : Scan) (bs : Bytes) : scan.parts <:+ (bs.foldl Scan.step scan).parts := by
  induction bs generalizing scan with
  | nil => exact List.suffix_refl _
  | cons b bs ih => exact (stepSuffix scan b).trans (ih _)

theorem encodedApart {c d : Char} {later : Bytes} (begins : encodeChar c = encodeChar d ++ later) : d = c := by
  have whole := stepsOfChar [] c
  rw [begins, List.foldl_append, stepsOfChar] at whole
  have suffix := stepsSuffix ⟨[some d], none⟩ later
  rw [whole] at suffix
  have same : [some d] = [some c] := suffix.eq_of_length rfl
  simpa using same

theorem encodedUnique {c d : Char} {xs ys : Bytes} (same : encodeChar d ++ xs = encodeChar c ++ ys) :
    d = c ∧ xs = ys := by
  have apart : d = c := by
    rcases List.append_eq_append_iff.mp same with ⟨later, begins, -⟩ | ⟨later, begins, -⟩
    · exact encodedApart begins
    · exact (encodedApart begins).symm
  subst apart
  exact ⟨rfl, List.append_cancel_left same⟩

def IsTail (b : UInt8) : Prop := 0x80 ≤ b.toNat ∧ b.toNat < 0xC0

theorem encodedShape (c : Char) : ∃ b tail, encodeChar c = b :: tail ∧ ¬ IsTail b ∧ (∀ t ∈ tail, IsTail t) ∧
    (c.toNat < 0x80 → b.toNat = c.toNat) := by
  have scalar : c.toNat < 0xD800 ∨ 0xDFFF < c.toNat ∧ c.toNat < 0x110000 := c.valid
  have value : ∀ {n}, n < 256 → (octet n).toNat = n := octetNat
  have tail : ∀ n, IsTail (octet (0x80 + n % 64)) := by
    intro n
    rw [IsTail, value (by omega)]
    omega
  have lead : ∀ n, n < 0x80 ∨ 0xC0 ≤ n ∧ n < 256 → ¬ IsTail (octet n) := by
    intro n range
    rw [IsTail, value (by omega)]
    omega
  simp only [encodeChar]
  split
  · rename_i one
    exact ⟨_, [], rfl, lead _ (by omega), by simp, fun _ => value (by omega)⟩
  · rename_i wide
    split
    · refine ⟨_, _, rfl, lead _ (by omega), ?_, fun small => absurd small wide⟩
      simpa using tail _
    · split
      · refine ⟨_, _, rfl, lead _ (by omega), ?_, fun small => absurd small wide⟩
        simpa using ⟨tail _, tail _⟩
      · refine ⟨_, _, rfl, lead _ (by omega), ?_, fun small => absurd small wide⟩
        simpa using ⟨tail _, tail _, tail _⟩

theorem markOwn {c m : Char} (mark : m.toNat < 0x80) (member : octet m.toNat ∈ encodeChar c) : c = m := by
  have scalar : c.toNat < 0xD800 ∨ 0xDFFF < c.toNat ∧ c.toNat < 0x110000 := c.valid
  have value : (octet m.toNat).toNat = m.toNat := octetNat (by omega)
  have wide : ∀ n, 0x80 ≤ n ∧ n < 256 → octet m.toNat ≠ octet n := by
    intro n range same
    rw [← value, same, octetNat range.2] at mark
    omega
  simp only [encodeChar] at member
  split at member
  · rename_i one
    have same := congrArg UInt8.toNat (List.mem_singleton.mp member)
    rw [value, octetNat (by omega)] at same
    exact (Char.toNat_inj.mp same).symm
  · split at member
    · simp [wide (0xC0 + c.toNat / 64) (by omega), wide (0x80 + c.toNat % 64) (by omega)] at member
    · split at member
      · simp [wide (0xE0 + c.toNat / 4096) (by omega), wide (0x80 + c.toNat / 64 % 64) (by omega),
          wide (0x80 + c.toNat % 64) (by omega)] at member
      · simp [wide (0xF0 + c.toNat / 262144) (by omega), wide (0x80 + c.toNat / 4096 % 64) (by omega),
          wide (0x80 + c.toNat / 64 % 64) (by omega), wide (0x80 + c.toNat % 64) (by omega)] at member

theorem encodedSome (c : Char) : encodeChar c ≠ [] := by
  obtain ⟨b, tail, shape, -⟩ := encodedShape c
  simp [shape]

end RelayHub.Utf8
