import RelayHub.Proofs.Json.Grammar

/-! A numeral is read as its value, and one that is too large is refused. What stands behind it must not go on with
the number. -/
namespace RelayHub.Json
open Numeral (gathered point power raised signed word)

def NoDigit (rest : Bytes) : Prop := ∀ b ∈ rest.head?, isDigit b = false

def NoLetter (rest : Bytes) : Prop := ∀ b ∈ rest.head?, isExponentLetter b = false

def NoPoint (rest : Bytes) : Prop := ∀ b ∈ rest.head?, b ≠ 0x2E

theorem digitsNil : Digits [] := List.forall_mem_nil _

theorem noDigitNil : NoDigit [] := by simp [NoDigit]

theorem noLetterNil : NoLetter [] := by simp [NoLetter]

theorem noPointNil : NoPoint [] := by simp [NoPoint]

/- What stands behind a numeral and does not go on with it: no digit, and no part that it could still have. -/
structure Numeral.Stops (n : Numeral) (rest : Bytes) : Prop where
  digit : NoDigit rest
  letter : n.exponent = none → NoLetter rest
  point : n.tail = [] → NoPoint rest

def Ends (rest : Bytes) : Prop := NoDigit rest ∧ NoLetter rest ∧ NoPoint rest

theorem endsStops {rest : Bytes} (ends : Ends rest) (n : Numeral) : n.Stops rest :=
  ⟨ends.1, fun _ => ends.2.1, fun _ => ends.2.2⟩

theorem digitsCons {d : UInt8} {ds : Bytes} (digits : Digits (d :: ds)) : isDigit d = true ∧ Digits ds :=
  List.forall_mem_cons.mp digits

theorem otherThanDigit {a b : UInt8} (other : isDigit a = false) (digit : isDigit b = true) : b ≠ a := by
  rintro rfl
  exact absurd (other.symm.trans digit) (by simp)

theorem markNoDigit {b : UInt8} (letter : isExponentLetter b = true) : isDigit b = false ∧ b ≠ 0x2E := by
  simp only [isExponentLetter, Bool.or_eq_true, decide_eq_true_eq] at letter
  rcases letter with rfl | rfl
  · decide
  · decide

theorem numberFromCons (n : Nat) (d : UInt8) (ds : Bytes) :
    numberFrom n (d :: ds) = numberFrom (n * 10 + digitValue d) ds := by
  simp only [numberFrom, List.foldl_cons]

theorem numberFromMono (n : Nat) (ds : Bytes) : n ≤ numberFrom n ds := by
  induction ds generalizing n with
  | nil => exact Nat.le_refl n
  | cons d ds ih =>
    have step := ih (n * 10 + digitValue d)
    rw [numberFromCons]
    omega

theorem dropDigits {ds rest : Bytes} (digits : Digits ds) (stop : NoDigit rest) :
    (ds ++ rest).dropWhile isDigit = rest := by
  induction ds with
  | nil =>
    cases rest with
    | nil => rfl
    | cons b rest => simp [stop b rfl]
  | cons d ds ih =>
    obtain ⟨digit, digits⟩ := digitsCons digits
    simp [digit, ih digits]

theorem gatheredWhole {n : Nat} {ds : Bytes} (fits : numberFrom n ds ≤ maxWord64) :
    gathered n ds = (numberFrom n ds, []) := by
  induction ds generalizing n with
  | nil => rfl
  | cons d ds ih =>
    rw [numberFromCons] at fits ⊢
    have here := Nat.le_trans (numberFromMono _ ds) fits
    rw [gathered, if_pos here, ih fits]

section Read
variable {negative : Bool} {significand : Nat} {start : Int} {rest : Bytes}

def Before (rest : Bytes) (x : Option Binary64) : Option (Json × Bytes) := x.map fun x => (.real x, rest)

theorem roundedRead (negative : Bool) (significand : Nat) (exponent : Int) (rest : Bytes) :
    (rounded negative significand exponent rest).toOption =
      Before rest ((scaled (.ofNat significand) exponent).map (signed negative)) := by
  unfold rounded
  cases scaled (.ofNat significand) exponent with
  | none => rfl
  | some x => rfl

theorem exponentDigitsRead {ds : Bytes} (digits : Digits ds) (stop : NoDigit rest) {n : Nat}
    (small : n ≤ maxExponentDigits) (down : Bool) :
    (exponentDigits negative significand start down n (ds ++ rest)).toOption = Before rest
      (if numberFrom n ds ≤ maxExponentDigits then
        (scaled (.ofNat significand)
          (clampExponent (if down then start - numberFrom n ds else start + numberFrom n ds))).map (signed negative)
      else if significand ≠ 0 ∧ !down then none
      else some (.zero negative)) := by
  induction ds generalizing n with
  | nil =>
    have finished : exponentDigits negative significand start down n rest =
        exponentDigits.finish negative significand start down n rest := by
      cases rest with
      | nil => rfl
      | cons b rest => simp [exponentDigits, stop b rfl]
    rw [List.nil_append, finished, exponentDigits.finish, roundedRead]
    simp [numberFrom, small]
  | cons d ds ih =>
    obtain ⟨digit, digits⟩ := digitsCons digits
    rw [List.cons_append, exponentDigits, if_pos digit]
    by_cases fits : n * 10 + digitValue d ≤ maxExponentDigits
    · simp only [fits, if_true]
      exact ih digits fits
    · have long : ¬ numberFrom n (d :: ds) ≤ maxExponentDigits :=
        fun small => fits (Nat.le_trans (numberFromMono (n * 10 + digitValue d) ds) small)
      simp only [fits, if_false, long]
      split
      · rfl
      · rw [dropDigits digits stop]
        rfl

theorem exponentPartRead (e : Exponent) (stop : NoDigit rest) :
    (exponentPart negative significand start (e.sign.text ++ (e.digits ++ rest))).toOption =
      Before rest (raised negative significand start (some e)) := by
  obtain ⟨letter, sign, digits, mark, nonempty, decimal⟩ := e
  cases digits with
  | nil => contradiction
  | cons d ds =>
    obtain ⟨digit, decimal⟩ := digitsCons decimal
    have small : digitValue d ≤ maxExponentDigits :=
      (Nat.sub_le _ _).trans ((Nat.le_of_lt_succ d.toNat_lt).trans (by decide))
    have first : numberFrom 0 (d :: ds) = numberFrom (digitValue d) ds := by simp [numberFrom]
    have notPlus : d ≠ 0x2B := otherThanDigit rfl digit
    have notMinus : d ≠ 0x2D := otherThanDigit rfl digit
    have shape : exponentPart negative significand start (sign.text ++ (d :: ds ++ rest)) =
        exponentDigits negative significand start (decide (sign = .minus)) (digitValue d) (ds ++ rest) := by
      cases sign with
      | absent => simp [exponentPart, Sign.text, notPlus, notMinus, digit]
      | plus | minus => simp [exponentPart, Sign.text, digit]
    rw [shape, exponentDigitsRead decimal stop small]
    simp [raised, first]

theorem maybeExponentRead {e : Option Exponent} (digit : NoDigit rest) (letter : e = none → NoLetter rest) :
    (maybeExponent negative significand start (power e ++ rest)).toOption =
      Before rest (raised negative significand start e) := by
  cases e with
  | none =>
    cases rest with
    | nil => exact roundedRead ..
    | cons b rest =>
      have other := letter rfl b rfl
      simp only [power, List.nil_append, maybeExponent, other, Bool.false_eq_true, if_false]
      exact roundedRead ..
  | some e =>
    have shape : power (some e) ++ rest = e.letter :: (e.sign.text ++ (e.digits ++ rest)) := by
      simp [power, Exponent.text]
    rw [shape, maybeExponent, if_pos e.mark]
    exact exponentPartRead e digit

theorem powerNoDigit (e : Option Exponent) (digit : NoDigit rest) : NoDigit (power e ++ rest) := by
  cases e with
  | none => exact digit
  | some e =>
    intro b here
    cases Option.some.inj here
    exact (markNoDigit e.mark).1

theorem fractionDigits (before : Int) {places : Nat} {ds : Bytes} (digits : Digits ds) {s : Bytes}
    (stop : NoDigit s) (nonempty : places + ds.length ≠ 0) :
    fraction negative before significand places (ds ++ s) = maybeExponent negative (gathered significand ds).1
      (before - (places + ds.length - (gathered significand ds).2.length)) s := by
  induction ds generalizing significand places with
  | nil =>
    have nonempty : places ≠ 0 := nonempty
    have shown : fraction negative before significand places s =
        maybeExponent negative significand (before - places) s := by
      cases s with
      | nil => simp [fraction, nonempty]
      | cons b s => simp [fraction, nonempty, stop b rfl]
    rw [List.nil_append, shown]
    simp [gathered]
  | cons d ds ih =>
    obtain ⟨digit, digits⟩ := digitsCons digits
    rw [List.cons_append, fraction, if_pos digit]
    simp only [gathered]
    split
    · rw [ih digits (by omega)]
      congr 1
      simp only [List.length_cons]
      omega
    · have drop : (d :: (ds ++ s)).dropWhile isDigit = s := by
        rw [List.dropWhile_cons_of_pos digit, dropDigits digits stop]
      rw [drop]
      congr 1
      simp only [List.length_cons]
      omega

theorem tailRead (n : Numeral) (stops : n.Stops rest) (before : Int) {read : Bytes → Except Fault (Json × Bytes)}
    (onPoint : ∀ s, read (0x2E :: s) = fraction negative before significand 0 s)
    (onLetter : ∀ b s, isExponentLetter b = true → read (b :: s) = exponentPart negative significand before s)
    (more : n.tail ≠ []) : (read (n.tail ++ rest)).toOption = Before rest
      (raised negative (gathered significand n.fraction).1
        (before - (n.fraction.length - (gathered significand n.fraction).2.length)) n.exponent) := by
  cases fraction : n.fraction with
  | nil =>
    cases exponent : n.exponent with
    | none => exact absurd (by simp [Numeral.tail, point, power, fraction, exponent]) more
    | some e =>
      have shape : n.tail ++ rest = e.letter :: (e.sign.text ++ (e.digits ++ rest)) := by
        simp [Numeral.tail, point, power, Exponent.text, fraction, exponent]
      rw [shape, onLetter _ _ e.mark, exponentPartRead e stops.digit]
      simp [gathered]
  | cons d ds =>
    have shape : n.tail ++ rest = 0x2E :: ((d :: ds) ++ (power n.exponent ++ rest)) := by
      simp [Numeral.tail, point, fraction]
    have digits : Digits (d :: ds) := fraction ▸ n.places
    rw [shape, onPoint, fractionDigits before digits (powerNoDigit n.exponent stops.digit) (by simp),
      maybeExponentRead stops.digit stops.letter]
    simp

theorem tailNil {n : Numeral} (short : n.tail = []) : n.fraction = [] ∧ n.exponent = none := by
  obtain ⟨noPoint, noPower⟩ := List.append_eq_nil_iff.mp short
  constructor
  · by_contra nonempty
    simp [point, nonempty] at noPoint
  · cases shape : n.exponent with
    | none => rfl
    | some e => simp [shape, power, Exponent.text] at noPower

theorem afterLetter {b : UInt8} {s : Bytes} (letter : isExponentLetter b = true) :
    afterInteger negative significand (b :: s) = exponentPart negative significand 0 s := by
  simp [afterInteger, letter, (markNoDigit letter).2]

theorem longLetter (extra : Nat) {b : UInt8} {s : Bytes} (letter : isExponentLetter b = true) :
    longInteger negative significand extra (b :: s) = exponentPart negative significand extra s := by
  simp [longInteger, letter, markNoDigit letter]

theorem afterIntegerRead (n : Numeral) (stops : n.Stops rest) :
    (afterInteger negative significand (n.tail ++ rest)).toOption =
      if n.tail = [] then some (word negative significand, rest)
      else Before rest (raised negative (gathered significand n.fraction).1
        (0 - (n.fraction.length - (gathered significand n.fraction).2.length)) n.exponent) := by
  split
  · rename_i short
    have whole : afterInteger negative significand rest = afterInteger.whole negative significand rest := by
      cases rest with
      | nil => rfl
      | cons b rest =>
        have point := stops.point short b rfl
        have letter := stops.letter (tailNil short).2 b rfl
        simp [afterInteger, point, letter]
    rw [short, List.nil_append, whole, afterInteger.whole, word]
    split
    · rfl
    · split
      · rfl
      · rfl
  · rename_i more
    exact tailRead n stops 0 (fun _ => rfl) (fun b s => afterLetter) more

theorem longIntegerRead (n : Numeral) (extra : Nat) (stops : n.Stops rest) :
    (longInteger negative significand extra (n.tail ++ rest)).toOption =
      Before rest (raised negative (gathered significand n.fraction).1
        (extra - (n.fraction.length - (gathered significand n.fraction).2.length)) n.exponent) := by
  by_cases short : n.tail = []
  · obtain ⟨noFraction, noExponent⟩ := tailNil short
    have whole : longInteger negative significand extra rest = rounded negative significand extra rest := by
      cases rest with
      | nil => rfl
      | cons b rest =>
        have digit := stops.digit b rfl
        have point := stops.point short b rfl
        have letter := stops.letter noExponent b rfl
        simp [longInteger, digit, point, letter]
    rw [short, List.nil_append, whole, roundedRead]
    simp [noFraction, noExponent, gathered, raised]
  · exact tailRead n stops extra (fun _ => rfl) (fun b s => longLetter extra) short

theorem longIntegerDigits {ds : Bytes} (digits : Digits ds) (extra : Nat) (s : Bytes) :
    longInteger negative significand extra (ds ++ s) = longInteger negative significand (extra + ds.length) s := by
  induction ds generalizing extra with
  | nil => rfl
  | cons d ds ih =>
    obtain ⟨digit, digits⟩ := digitsCons digits
    rw [List.cons_append, longInteger, if_pos digit, ih digits]
    congr 1
    simp only [List.length_cons]
    omega

theorem integerDigitsRead {ds : Bytes} (digits : Digits ds) (small : significand ≤ maxWord64) {s : Bytes}
    (stop : NoDigit s) : integerDigits negative significand (ds ++ s) =
      if numberFrom significand ds ≤ maxWord64 then afterInteger negative (numberFrom significand ds) s
      else longInteger negative (gathered significand ds).1 (gathered significand ds).2.length s := by
  induction ds generalizing significand with
  | nil =>
    have here : numberFrom significand [] ≤ maxWord64 := small
    rw [if_pos here, List.nil_append]
    cases s with
    | nil => rfl
    | cons b s => simp [integerDigits, stop b rfl, numberFrom]
  | cons d ds ih =>
    obtain ⟨digit, digits⟩ := digitsCons digits
    rw [List.cons_append, integerDigits, if_pos digit, numberFromCons, gathered]
    by_cases fits : significand * 10 + digitValue d ≤ maxWord64
    · simp only [fits, if_true]
      exact ih digits fits
    · have long : ¬ numberFrom (significand * 10 + digitValue d) ds ≤ maxWord64 :=
        fun small => fits (Nat.le_trans (numberFromMono _ ds) small)
      simp only [fits, long, if_false]
      rw [longIntegerDigits digits, List.length_cons, Nat.add_comm]

theorem tailNoDigit (n : Numeral) (digit : NoDigit rest) : NoDigit (n.tail ++ rest) := by
  cases shape : n.fraction with
  | nil =>
    have tail : n.tail = power n.exponent := by simp [Numeral.tail, point, shape]
    rw [tail]
    exact powerNoDigit n.exponent digit
  | cons d ds =>
    have tail : n.tail = 0x2E :: ((d :: ds) ++ power n.exponent) := by simp [Numeral.tail, point, shape]
    rw [tail]
    intro b here
    cases Option.some.inj here
    rfl

/- The first digit is read like any other, although a zero has to stand alone. -/
theorem numeralDigits {ds : Bytes} (nonempty : ds ≠ []) (digits : Digits ds)
    (short : ds.head? = some 0x30 → ds = [0x30]) {s : Bytes} (stop : NoDigit s) :
    numeral negative (ds ++ s) = integerDigits negative 0 (ds ++ s) := by
  cases ds with
  | nil => contradiction
  | cons d ds =>
    obtain ⟨digit, -⟩ := digitsCons digits
    by_cases zero : d = 0x30
    · have alone := short (by rw [zero]; rfl)
      rw [alone]
      cases s with
      | nil => rfl
      | cons b s =>
        have other := stop b rfl
        have digit : isDigit 0x30 = true := rfl
        have value : digitValue 0x30 = 0 := rfl
        simp [numeral, integerDigits, other, digit, value]
    · have small : digitValue d ≤ maxWord64 :=
        (Nat.sub_le _ _).trans ((Nat.le_of_lt_succ d.toNat_lt).trans (by decide))
      simp [numeral, integerDigits, zero, digit, small]

theorem numeralRead (n : Numeral) (stops : n.Stops rest) :
    (numeral n.negative (n.whole ++ (n.tail ++ rest))).toOption = n.value?.map fun v => (v, rest) := by
  have stop := tailNoDigit n stops.digit
  rw [numeralDigits n.nonempty n.decimal n.short stop, integerDigitsRead n.decimal (Nat.zero_le _) stop,
    Numeral.value?]
  by_cases fits : numberFrom 0 n.whole ≤ maxWord64
  · rw [if_pos fits, afterIntegerRead n stops]
    have all := gatheredWhole fits
    by_cases short : n.tail = []
    · simp [short, fits]
    · simp [short, Numeral.real?, all, Before, Function.comp_def]
  · rw [if_neg fits, longIntegerRead n _ stops]
    simp [fits, Numeral.real?, Before, Function.comp_def]

end Read

end RelayHub.Json
