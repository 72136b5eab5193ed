import RelayHub.Proofs.Json.Reading
import RelayHub.Proofs.Text.Apart
import Mathlib.Data.List.TakeWhile

/-! The numbers and strings that the reader takes are well formed: the octets that were taken spell what it gives
back. -/
namespace RelayHub.Json
open Numeral (gathered point power)
open Utf8 (encodeChar encodeChars)

theorem spanDigits (s : Bytes) : ∃ ds rest, s = ds ++ rest ∧ Digits ds ∧ NoDigit rest := by
  refine ⟨s.takeWhile isDigit, s.dropWhile isDigit, List.takeWhile_append_dropWhile.symm,
    fun d member => List.mem_takeWhile_imp member, fun b here => ?_⟩
  have stops := List.head?_dropWhile_not isDigit s
  rw [Option.mem_def.mp here] at stops
  simpa using stops

section Numerals
variable {negative : Bool} {significand : Nat} {start : Int} {s rest : Bytes} {out : Json × Bytes}

theorem exponentAccepted (ran : exponentPart negative significand start s = .ok out) :
    ∃ sign ds rest, s = Sign.text sign ++ (ds ++ rest) ∧ ds ≠ [] ∧ Digits ds ∧ NoDigit rest := by
  have signed : ∃ sign b after, s = Sign.text sign ++ b :: after ∧ isDigit b = true := by
    unfold exponentPart at ran
    simp only at ran
    split at ran
    · cases ran
    · rename_i b after shape
      split at ran
      · rename_i digit
        split at shape
        · exact ⟨.plus, b, after, by rw [← shape]; rfl, digit⟩
        · exact ⟨.minus, b, after, by rw [← shape]; rfl, digit⟩
        · exact ⟨.absent, b, after, shape, digit⟩
      · cases ran
  obtain ⟨sign, b, after, rfl, digit⟩ := signed
  obtain ⟨ds, rest, shape, digits, stop⟩ := spanDigits (b :: after)
  refine ⟨sign, ds, rest, by rw [shape], ?_, digits, stop⟩
  rintro rfl
  rw [List.nil_append] at shape
  subst shape
  exact absurd (digit.symm.trans (stop b rfl)) (by simp)

theorem powerAccepted (ran : maybeExponent negative significand start s = .ok out) (stop : NoDigit s) :
    ∃ e rest, s = power e ++ rest ∧ NoDigit rest ∧ (e = none → NoLetter rest) := by
  cases s with
  | nil => exact ⟨none, [], rfl, noDigitNil, fun _ => noLetterNil⟩
  | cons b s =>
    by_cases letter : isExponentLetter b = true
    · rw [maybeExponent, if_pos letter] at ran
      obtain ⟨sign, ds, rest, rfl, nonempty, digits, stop⟩ := exponentAccepted ran
      refine ⟨some ⟨b, sign, ds, letter, nonempty, digits⟩, rest, ?_, stop, fun none => absurd none (by simp)⟩
      simp [power, Exponent.text]
    · refine ⟨none, b :: s, rfl, stop, fun _ => ?_⟩
      simpa [NoLetter] using letter

theorem tailAccepted {read : Bytes → Except Fault (Json × Bytes)} (before : Int)
    (onPoint : ∀ s, read (0x2E :: s) = fraction negative before significand 0 s)
    (onLetter : ∀ b s, isExponentLetter b = true → read (b :: s) = exponentPart negative significand before s)
    (ran : read s = .ok out) (stop : NoDigit s) : ∃ ds e rest, s = point ds ++ power e ++ rest ∧ Digits ds ∧
      NoDigit rest ∧ (e = none → NoLetter rest) ∧ (point ds ++ power e = [] → NoPoint rest) := by
  cases s with
  | nil => exact ⟨[], none, [], rfl, digitsNil, noDigitNil, fun _ => noLetterNil, fun _ => noPointNil⟩
  | cons b s =>
    by_cases dot : b = 0x2E
    · subst dot
      rw [onPoint] at ran
      obtain ⟨ds, after, rfl, digits, stopped⟩ := spanDigits s
      cases ds with
      | nil =>
        cases after with
        | nil => cases ran
        | cons c after =>
          have other := stopped c rfl
          simp [fraction, other] at ran
      | cons d ds =>
        rw [fractionDigits before digits stopped (by simp)] at ran
        obtain ⟨e, rest, rfl, stop, letter⟩ := powerAccepted ran stopped
        exact ⟨d :: ds, e, rest, by simp [point], digits, stop, letter, by simp [point]⟩
    · by_cases letter : isExponentLetter b = true
      · rw [onLetter b s letter] at ran
        obtain ⟨sign, ds, rest, rfl, nonempty, digits, stop⟩ := exponentAccepted ran
        refine ⟨[], some ⟨b, sign, ds, letter, nonempty, digits⟩, rest, ?_, digitsNil, stop,
          fun none => absurd none (by simp), ?_⟩
        · simp [point, power, Exponent.text]
        · simp [power, Exponent.text]
      · refine ⟨[], none, b :: s, rfl, digitsNil, stop, fun _ => ?_, fun _ => ?_⟩
        · simpa [NoLetter] using letter
        · simpa [NoPoint] using dot

theorem numeralAccepted {v : Json} (ran : numeral negative s = .ok (v, rest)) :
    ∃ n : Numeral, n.negative = negative ∧ n.value? = some v ∧ s = n.whole ++ (n.tail ++ rest) := by
  have parts : ∃ n : Numeral, ∃ rest, n.negative = negative ∧ n.Stops rest ∧ s = n.whole ++ (n.tail ++ rest) := by
    obtain ⟨ds, after, rfl, digits, stop⟩ := spanDigits s
    cases ds with
    | nil =>
      cases after with
      | nil => cases ran
      | cons b after =>
        have other := stop b rfl
        have notZero : b ≠ 0x30 := by
          rintro rfl
          cases other
        simp [numeral, other, notZero] at ran
    | cons d ds =>
      have short : (d :: ds).head? = some 0x30 → d :: ds = [0x30] := by
        intro zero
        cases Option.some.inj zero
        cases ds with
        | nil => rfl
        | cons c ds =>
          have second := (digitsCons (digitsCons digits).2).1
          simp [numeral, second] at ran
      rw [numeralDigits (by simp) digits short stop, integerDigitsRead digits (Nat.zero_le _) stop] at ran
      have tail : ∃ fs e rest, after = point fs ++ power e ++ rest ∧ Digits fs ∧
          NoDigit rest ∧ (e = none → NoLetter rest) ∧ (point fs ++ power e = [] → NoPoint rest) := by
        split at ran
        · exact tailAccepted 0 (fun _ => rfl) (fun b s => afterLetter) ran stop
        · exact tailAccepted _ (fun _ => rfl) (fun b s => longLetter _) ran stop
      obtain ⟨fs, e, rest, rfl, places, stop, letter, point⟩ := tail
      exact ⟨⟨negative, d :: ds, fs, e, by simp, digits, short, places⟩, rest, rfl, ⟨stop, letter, point⟩, rfl⟩
  obtain ⟨n, rest', rfl, stops, rfl⟩ := parts
  have shown := numeralRead n stops
  rw [ran] at shown
  cases value : n.value? with
  | none => simp [value, Except.toOption] at shown
  | some w =>
    simp only [value, Option.map_some, Except.toOption, Option.some.injEq, Prod.mk.injEq] at shown
    obtain ⟨rfl, rfl⟩ := shown
    exact ⟨n, rfl, value, rfl⟩

end Numerals
section Strings

/- The octets of a string as they are put together: each stands for itself, or comes from an escape. -/
inductive Pieces : Bytes → Bytes → Prop where
  | nil : Pieces [] []
  | plain {b : UInt8} {s octets : Bytes} (plain : isPlain b = true) (later : Pieces s octets) :
    Pieces (b :: s) (b :: octets)
  | escape {c : Char} {here s octets : Bytes} (escape : Escape c here) (later : Pieces s octets) :
    Pieces (here ++ s) (encodeChar c ++ octets)

inductive Moves : StringState → Bytes → UInt8 → StringState → Bytes → Prop where
  | plain {octets : Bytes} {b : UInt8} (plain : isPlain b = true) : Moves .plain octets b .plain (b :: octets)
  | slash {octets : Bytes} : Moves .plain octets 0x5C .escape octets
  | short {octets : Bytes} {b : UInt8} {c : Char} (letter : shortEscape b = some c) :
    Moves .escape octets b .plain (escaped octets c)
  | long {octets : Bytes} : Moves .escape octets 0x75 (.hex [] none) octets
  | digit {octets ds : Bytes} {b : UInt8} {high : Option Nat} (more : ds.length < 3) :
    Moves (.hex ds high) octets b (.hex (ds ++ [b]) high) octets
  | high {octets ds : Bytes} {b : UInt8} {n : Nat} (last : ¬ ds.length < 3) (value : hexNumber (ds ++ [b]) = some n)
      (isHigh : IsHigh n) : Moves (.hex ds none) octets b (.lowSlash n) octets
  | code {octets ds : Bytes} {b : UInt8} {n : Nat} (last : ¬ ds.length < 3) (value : hexNumber (ds ++ [b]) = some n)
      (high : ¬ IsHigh n) (low : ¬ IsLow n) :
    Moves (.hex ds none) octets b .plain (escaped octets (Char.ofNat n))
  | pair {octets ds : Bytes} {b : UInt8} {first n : Nat} (last : ¬ ds.length < 3)
      (value : hexNumber (ds ++ [b]) = some n) (isLow : IsLow n) :
    Moves (.hex ds (some first)) octets b .plain
      (escaped octets (Char.ofNat ((first - 0xD800) * 1024 + (n - 0xDC00) + 0x10000)))
  | lowSlash {octets : Bytes} {first : Nat} : Moves (.lowSlash first) octets 0x5C (.lowLetter first) octets
  | lowLetter {octets : Bytes} {first : Nat} : Moves (.lowLetter first) octets 0x75 (.hex [] (some first)) octets

theorem stringStep {state : StringState} {octets s : Bytes} {b : UInt8} {out : String × Bytes}
    (ran : stringFrom state octets (b :: s) = .ok out) :
    state = .plain ∧ b = 0x22 ∧ endString octets s = .ok out ∨
      ∃ state' octets', Moves state octets b state' octets' ∧ stringFrom state' octets' s = .ok out := by
  cases state with
  | plain =>
    simp only [stringFrom] at ran
    split at ran
    · rename_i quote
      exact .inl ⟨rfl, quote, ran⟩
    · rename_i notQuote
      split at ran
      · rename_i slash
        subst slash
        exact .inr ⟨_, _, .slash, ran⟩
      · rename_i notSlash
        split at ran
        · cases ran
        · rename_i control
          have plain : isPlain b = true := by simp [isPlain, notQuote, notSlash, UInt8.not_lt.mp control]
          exact .inr ⟨_, _, .plain plain, ran⟩
  | escape =>
    simp only [stringFrom] at ran
    split at ran
    · rename_i c letter
      exact .inr ⟨_, _, .short letter, ran⟩
    · split at ran
      · rename_i letter
        subst letter
        exact .inr ⟨_, _, .long, ran⟩
      · cases ran
  | hex ds high =>
    simp only [stringFrom] at ran
    split at ran
    · rename_i more
      exact .inr ⟨_, _, .digit more, ran⟩
    · rename_i last
      split at ran
      · cases ran
      · rename_i n value
        split at ran
        · cases ran
        · rename_i notLow
          split at ran
          · rename_i isHigh
            exact .inr ⟨_, _, .high last value isHigh, ran⟩
          · rename_i notHigh
            exact .inr ⟨_, _, .code last value notHigh notLow, ran⟩
      · rename_i n first value
        split at ran
        · rename_i isLow
          exact .inr ⟨_, _, .pair last value isLow, ran⟩
        · cases ran
  | lowSlash first =>
    simp only [stringFrom] at ran
    split at ran
    · rename_i slash
      subst slash
      exact .inr ⟨_, _, .lowSlash, ran⟩
    · cases ran
  | lowLetter first =>
    simp only [stringFrom] at ran
    split at ran
    · rename_i letter
      subst letter
      exact .inr ⟨_, _, .lowLetter, ran⟩
    · cases ran

def Under : StringState → Bytes → Prop
  | .plain, s => s = []
  | .escape, s => s = [0x5C]
  | .hex ds none, s => ds.length < 4 ∧ s = 0x5C :: 0x75 :: ds
  | .hex ds (some first), s => ds.length < 4 ∧ IsHigh first ∧ ∃ es, IsCode first es ∧
    s = 0x5C :: 0x75 :: (es ++ 0x5C :: 0x75 :: ds)
  | .lowSlash first, s => IsHigh first ∧ ∃ es, IsCode first es ∧ s = 0x5C :: 0x75 :: es
  | .lowLetter first, s => IsHigh first ∧ ∃ es, IsCode first es ∧ s = 0x5C :: 0x75 :: (es ++ [0x5C])

theorem movesUnder {state state' : StringState} {before octets octets' : Bytes} {b : UInt8}
    (under : Under state before) (moves : Moves state octets b state' octets') :
    before = [] ∧ isPlain b = true ∧ state' = .plain ∧ octets' = b :: octets ∨
      Under state' (before ++ [b]) ∧ octets' = octets ∨
      ∃ c, Escape c (before ++ [b]) ∧ state' = .plain ∧ octets' = escaped octets c := by
  have code : ∀ {ds n}, ¬ ds.length < 3 → ds.length < 4 → hexNumber (ds ++ [b]) = some n → IsCode n (ds ++ [b]) := by
    intro ds n last short value
    refine ⟨?_, value⟩
    simp only [List.length_append, List.length_singleton]
    omega
  cases moves with
  | plain plain => exact .inl ⟨under, plain, rfl, rfl⟩
  | slash =>
    cases under
    exact .inr (.inl ⟨rfl, rfl⟩)
  | short letter =>
    cases under
    exact .inr (.inr ⟨_, .short letter, rfl, rfl⟩)
  | long =>
    cases under
    exact .inr (.inl ⟨⟨by decide, rfl⟩, rfl⟩)
  | @digit _ ds _ high more =>
    refine .inr (.inl ⟨?_, rfl⟩)
    have short : (ds ++ [b]).length < 4 := by
      simp only [List.length_append, List.length_singleton]
      omega
    cases high with
    | none =>
      obtain ⟨-, rfl⟩ := under
      exact ⟨short, rfl⟩
    | some first =>
      obtain ⟨-, isHigh, es, high, rfl⟩ := under
      exact ⟨short, isHigh, es, high, by simp⟩
  | high last value isHigh =>
    obtain ⟨short, rfl⟩ := under
    exact .inr (.inl ⟨⟨isHigh, _, code last short value, rfl⟩, rfl⟩)
  | code last value high low =>
    obtain ⟨short, rfl⟩ := under
    exact .inr (.inr ⟨_, .code (code last short value) high low, rfl, rfl⟩)
  | pair last value isLow =>
    obtain ⟨short, isHigh, es, high, rfl⟩ := under
    refine .inr (.inr ⟨_, ?_, rfl, rfl⟩)
    simpa using Escape.pair high isHigh (code last short value) isLow
  | lowSlash =>
    obtain ⟨isHigh, es, high, rfl⟩ := under
    exact .inr (.inl ⟨⟨isHigh, es, high, rfl⟩, rfl⟩)
  | lowLetter =>
    obtain ⟨isHigh, es, high, rfl⟩ := under
    exact .inr (.inl ⟨⟨by decide, isHigh, es, high, by simp⟩, rfl⟩)

theorem piecesTaken {state : StringState} {before octets s rest : Bytes} {text : String}
    (under : Under state before) (ran : stringFrom state octets s = .ok (text, rest)) :
    ∃ inside more, before ++ s = inside ++ 0x22 :: rest ∧ Pieces inside more ∧
      Utf8.decode (octets.reverse ++ more) = some text := by
  induction s generalizing state before octets with
  | nil =>
    cases state with
    | plain | escape | hex | lowSlash | lowLetter => cases ran
  | cons b s ih =>
    rcases stringStep ran with ⟨rfl, rfl, ended⟩ | ⟨state', octets', moves, goes⟩
    · cases under
      unfold endString at ended
      split at ended
      · rename_i decoded
        cases ended
        exact ⟨[], [], rfl, .nil, by rw [List.append_nil]; exact decoded⟩
      · cases ended
    rcases movesUnder under moves with ⟨rfl, plain, rfl, rfl⟩ | ⟨under, rfl⟩ | ⟨c, escape, rfl, rfl⟩
    · obtain ⟨inside, more, shape, pieces, decoded⟩ := @ih .plain [] _ rfl goes
      exact ⟨b :: inside, b :: more, by simpa using shape, .plain plain pieces, by simpa using decoded⟩
    · obtain ⟨inside, more, shape, pieces, decoded⟩ := ih under goes
      exact ⟨inside, more, by rw [← shape]; simp, pieces, decoded⟩
    · obtain ⟨inside, more, shape, pieces, decoded⟩ := @ih .plain [] _ rfl goes
      refine ⟨before ++ [b] ++ inside, encodeChar c ++ more, ?_, .escape escape pieces, ?_⟩
      · rw [List.append_assoc _ inside, ← shape]
        simp
      · simpa [escaped] using decoded

theorem tailPieces {tail s octets : Bytes} (tails : ∀ t ∈ tail, Utf8.IsTail t) (pieces : Pieces s (tail ++ octets)) :
    ∃ later, s = tail ++ later ∧ Pieces later octets := by
  induction tail generalizing s with
  | nil => exact ⟨s, rfl, pieces⟩
  | cons t tail ih =>
    obtain ⟨here, tails⟩ := List.forall_mem_cons.mp tails
    generalize whole : t :: tail ++ octets = all at pieces
    cases pieces with
    | nil => simp at whole
    | plain plain others =>
      obtain ⟨rfl, rfl⟩ := List.cons.inj whole
      obtain ⟨later, rfl, pieces⟩ := ih tails others
      exact ⟨later, rfl, pieces⟩
    | @escape c here s octets escape later =>
      obtain ⟨b, more, shape, lead, -⟩ := Utf8.encodedShape c
      rw [shape] at whole
      obtain ⟨rfl, -⟩ := List.cons.inj whole
      contradiction

theorem piecesSpell {cs : List Char} {s : Bytes} (pieces : Pieces s (encodeChars cs)) : CharsSpelt cs s := by
  induction cs generalizing s with
  | nil =>
    generalize whole : encodeChars [] = all at pieces
    cases pieces with
    | nil => rfl
    | plain plain later => simp [encodeChars] at whole
    | @escape c here s octets escape later =>
      exact absurd (List.append_eq_nil_iff.mp whole.symm).1 (Utf8.encodedSome c)
  | cons c cs ih =>
    have split : encodeChars (c :: cs) = encodeChar c ++ encodeChars cs := rfl
    rw [split] at pieces
    generalize whole : encodeChar c ++ encodeChars cs = all at pieces
    cases pieces with
    | nil => exact absurd (List.append_eq_nil_iff.mp whole).1 (Utf8.encodedSome c)
    | @plain b s octets plain others =>
      obtain ⟨b', tail, shape, -, tails, one⟩ := Utf8.encodedShape c
      rw [shape] at whole
      obtain ⟨rfl, rfl⟩ := List.cons.inj whole
      obtain ⟨later, rfl, pieces⟩ := tailPieces tails others
      refine ⟨encodeChar c, later, ?_, ih pieces, by rw [shape]; rfl⟩
      simp only [isPlain, Bool.and_eq_true, decide_eq_true_eq] at plain
      obtain ⟨⟨notQuote, notSlash⟩, notControl⟩ := plain
      refine .plain ?_ ?_ ?_
      · rintro rfl
        exact notQuote (UInt8.toNat_inj.mp (one (by decide)))
      · rintro rfl
        exact notSlash (UInt8.toNat_inj.mp (one (by decide)))
      · by_contra control
        have below : 0x20 ≤ b'.toNat := UInt8.le_iff_toNat_le.mp notControl
        have value := one (by omega)
        omega
    | @escape d here s octets escape later =>
      obtain ⟨rfl, rfl⟩ := Utf8.encodedUnique whole.symm
      exact ⟨here, s, .escape escape, ih later, rfl⟩

theorem quotedAccepted {text : String} {s rest : Bytes} (ran : stringTail s = .ok (text, rest)) :
    ∃ key, Quoted text key ∧ 0x22 :: s = key ++ rest := by
  obtain ⟨inside, octets, rfl, pieces, decoded⟩ := @piecesTaken .plain [] [] s rest text rfl ran
  have octets : encodeChars text.toList = octets := Utf8.decodeIff.mp decoded
  exact ⟨_, ⟨inside, piecesSpell (octets ▸ pieces), rfl⟩, by simp⟩

end Strings
end RelayHub.Json
