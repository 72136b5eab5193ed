import RelayHub.Proofs.Json.Canonical
import RelayHub.Proofs.Json.Integers

/-! The reader goes no deeper than it is told: every value it gives back is nested within its levels. An integer
that it gives back fits 64 bits; longer ones come as floating point numbers. -/
namespace RelayHub.Json

structure Within (depth : Nat) (v : Json) : Prop where
  shallow : v.levels ≤ depth
  word : ∀ n, v = .integer n → FitsWord n

structure Flat (result : Except Fault (Json × Bytes)) : Prop where
  within : ∀ v rest, result = .ok (v, rest) → Within 0 v

theorem flatError (fault : Fault) : Flat (.error fault) := ⟨fun _ _ same => nomatch same⟩

theorem flatOk {v : Json} (flat : v.levels = 0) (other : ∀ n, v ≠ .integer n) (rest : Bytes) :
    Flat (.ok (v, rest)) := by
  refine ⟨fun v' rest' same => ?_⟩
  cases same
  exact ⟨Nat.le_of_eq flat, fun n same => absurd same (other n)⟩

theorem flatInteger {n : Int} (fits : FitsWord n) (rest : Bytes) : Flat (.ok (.integer n, rest)) := by
  refine ⟨fun v' rest' same => ?_⟩
  cases same
  refine ⟨Nat.le_refl 0, fun n' same => ?_⟩
  cases same
  exact fits

theorem flatRounded (negative : Bool) (significand : Nat) (exponent : Int) (rest : Bytes) :
    Flat (rounded negative significand exponent rest) := by
  unfold rounded
  split
  · exact flatOk rfl (by simp) _
  · exact flatError _

theorem flatExponentDigits (negative : Bool) (significand : Nat) (start : Int) (down : Bool) (exponent : Nat)
    (s : Bytes) : Flat (exponentDigits negative significand start down exponent s) := by
  induction s generalizing exponent with
  | nil => exact flatRounded ..
  | cons b rest ih =>
    simp only [exponentDigits]
    split
    · split
      · exact ih _
      · split
        · exact flatError _
        · exact flatOk rfl (by simp) _
    · exact flatRounded ..

theorem flatExponentPart (negative : Bool) (significand : Nat) (start : Int) (s : Bytes) :
    Flat (exponentPart negative significand start s) := by
  unfold exponentPart
  simp only
  split
  · exact flatError _
  · split
    · exact flatExponentDigits ..
    · exact flatError _

theorem flatMaybeExponent (negative : Bool) (significand : Nat) (exponent : Int) (s : Bytes) :
    Flat (maybeExponent negative significand exponent s) := by
  unfold maybeExponent
  split
  · split
    · exact flatExponentPart ..
    · exact flatRounded ..
  · exact flatRounded ..

theorem flatFraction (negative : Bool) (before : Int) (significand places : Nat) (s : Bytes) :
    Flat (fraction negative before significand places s) := by
  induction s generalizing significand places with
  | nil =>
    simp only [fraction]
    split
    · exact flatError _
    · exact flatMaybeExponent ..
  | cons b rest ih =>
    simp only [fraction]
    split
    · split
      · exact ih _ _
      · exact flatMaybeExponent ..
    · split
      · exact flatError _
      · exact flatMaybeExponent ..

section Integers
variable {significand : Nat} (small : significand ≤ maxWord64)
include small

theorem flatWhole (negative : Bool) (s : Bytes) : Flat (afterInteger.whole negative significand s) := by
  unfold afterInteger.whole
  split
  · exact flatInteger ⟨by omega, by omega⟩ _
  · split
    · exact flatOk rfl (by simp) _
    · exact flatInteger ⟨by omega, by omega⟩ _

theorem flatAfterInteger (negative : Bool) (s : Bytes) : Flat (afterInteger negative significand s) := by
  unfold afterInteger
  split
  · exact flatWhole small ..
  · split
    · exact flatFraction ..
    · split
      · exact flatExponentPart ..
      · exact flatWhole small ..

end Integers

theorem flatLongInteger (negative : Bool) (significand extra : Nat) (s : Bytes) :
    Flat (longInteger negative significand extra s) := by
  induction s generalizing extra with
  | nil => exact flatRounded ..
  | cons b rest ih =>
    simp only [longInteger]
    split
    · exact ih _
    · split
      · exact flatFraction ..
      · split
        · exact flatExponentPart ..
        · exact flatRounded ..

theorem flatIntegerDigits (negative : Bool) {significand : Nat} (small : significand ≤ maxWord64) (s : Bytes) :
    Flat (integerDigits negative significand s) := by
  induction s generalizing significand with
  | nil => exact flatAfterInteger small ..
  | cons b rest ih =>
    simp only [integerDigits]
    split
    · split
      · rename_i fits
        exact ih fits
      · exact flatLongInteger ..
    · exact flatAfterInteger small ..

theorem flatNumeral (negative : Bool) (s : Bytes) : Flat (numeral negative s) := by
  have zero : 0 ≤ maxWord64 := Nat.zero_le _
  unfold numeral
  split
  · exact flatError _
  · split
    · split
      · split
        · exact flatError _
        · exact flatAfterInteger zero ..
      · exact flatAfterInteger zero ..
    · rename_i b rest _
      split
      · have octet : digitValue b ≤ 255 := (Nat.sub_le _ _).trans (Nat.le_of_lt_succ b.toNat_lt)
        exact flatIntegerDigits negative (octet.trans (by decide)) _
      · exact flatError _

theorem okBind {α β ε : Type} {x : Except ε α} {f : α → Except ε β} {y : β} (ran : x >>= f = .ok y) :
    ∃ a, x = .ok a ∧ f a = .ok y := by
  cases x with
  | error e => exact nomatch ran
  | ok a => exact ⟨a, rfl, ran⟩

theorem flatBind {α : Type} {x : Except Fault α} {f : α → Except Fault (Json × Bytes)} (flat : ∀ a, Flat (f a)) :
    Flat (x >>= f) := by
  refine ⟨fun v rest ran => ?_⟩
  obtain ⟨a, -, ran⟩ := okBind ran
  exact (flat a).within v rest ran

theorem flatScalar (b : UInt8) (rest : Bytes) : Flat (scalar b rest) := by
  unfold scalar
  split
  · exact flatBind fun _ => flatOk rfl (by simp) _
  split
  · exact flatBind fun _ => flatOk rfl (by simp) _
  split
  · exact flatBind fun _ => flatOk rfl (by simp) _
  split
  · exact flatNumeral ..
  split
  · exact flatNumeral ..
  split
  · exact flatBind fun _ => flatOk rfl (by simp) _
  · exact flatError _

def Grants (P : Json → Prop) (read : Bytes → Except Fault (Json × Bytes)) : Prop :=
  ∀ s v rest, read s = .ok (v, rest) → P v

theorem elementsGrant {P : Json → Prop} {read : Bytes → Except Fault (Json × Bytes)} (grants : Grants P read)
    {fuel : Nat} {first : Bool} {s rest : Bytes} {items : List Json}
    (ran : elements read fuel first s = .ok (items, rest)) : ∀ v ∈ items, P v := by
  induction fuel generalizing first s items with
  | zero => exact nomatch ran
  | succ fuel ih =>
    obtain ⟨next, -, ran⟩ := okBind ran
    cases next with
    | done rest =>
      cases ran
      exact fun v none => absurd none List.not_mem_nil
    | more s =>
      obtain ⟨⟨v, s⟩, here, ran⟩ := okBind ran
      obtain ⟨⟨vs, s⟩, later, ran⟩ := okBind ran
      cases ran
      exact List.forall_mem_cons.mpr ⟨grants _ _ _ here, ih later⟩

theorem membersGrant {P : Json → Prop} {read : Bytes → Except Fault (Json × Bytes)} (grants : Grants P read)
    {fuel : Nat} {first : Bool} {s rest : Bytes} {ms : List (String × Json)}
    (ran : members read fuel first s = .ok (ms, rest)) : ∀ m ∈ ms, P m.2 := by
  induction fuel generalizing first s ms with
  | zero => exact nomatch ran
  | succ fuel ih =>
    obtain ⟨next, -, ran⟩ := okBind ran
    cases next with
    | done rest =>
      cases ran
      exact fun v none => absurd none List.not_mem_nil
    | more s =>
      obtain ⟨⟨name, s⟩, -, ran⟩ := okBind ran
      obtain ⟨s, -, ran⟩ := okBind ran
      obtain ⟨⟨v, s⟩, here, ran⟩ := okBind ran
      obtain ⟨⟨vs, s⟩, later, ran⟩ := okBind ran
      cases ran
      exact List.forall_mem_cons.mpr ⟨grants _ _ _ here, ih later⟩

theorem flatWithin {result : Except Fault (Json × Bytes)} (flat : Flat result) (depth : Nat) {v : Json}
    {rest : Bytes} (ran : result = .ok (v, rest)) : Within depth v := by
  obtain ⟨shallow, word⟩ := flat.within v rest ran
  exact ⟨shallow.trans (Nat.zero_le _), word⟩

theorem valueGrants (room depth : Nat) : Grants (Within depth) (value room depth) := by
  induction depth with
  | zero =>
    intro s v rest ran
    unfold value at ran
    split at ran
    · exact nomatch ran
    · split at ran
      · exact nomatch ran
      · split at ran
        · exact nomatch ran
        · exact flatWithin (flatScalar _ _) 0 ran
  | succ depth ih =>
    intro s v rest ran
    unfold value at ran
    split at ran
    · exact nomatch ran
    · split at ran
      · obtain ⟨⟨items, s⟩, inner, ran⟩ := okBind ran
        cases ran
        have each := elementsGrant ih inner
        exact ⟨Nat.succ_le_succ (itemLevelsIff.mpr fun v member => (each v member).shallow), nofun⟩
      · split at ran
        · obtain ⟨⟨ms, s⟩, inner, ran⟩ := okBind ran
          cases ran
          have each := membersGrant ih inner
          exact ⟨Nat.succ_le_succ (memberLevelsIff.mpr fun m member => (each m member).shallow), nofun⟩
        · exact flatWithin (flatScalar _ _) (depth + 1) ran

end RelayHub.Json
