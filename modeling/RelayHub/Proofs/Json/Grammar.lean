import RelayHub.Json.Reader
import RelayHub.Proofs.Json.Canonical

/-! Which octets spell a JSON value, without a reader. Blanks stand around values, names and marks, a character
is written as itself or by an escape, and a number is a numeral. A value has many spellings. Members of an
object are taken as they stand, repeated names included. -/
namespace RelayHub.Json

def Blank (s : Bytes) : Prop := ∀ b ∈ s, isBlank b = true

def Digits (s : Bytes) : Prop := ∀ b ∈ s, isDigit b = true

section Numbers

def numberFrom (n : Nat) (ds : Bytes) : Nat := ds.foldl (fun n d => n * 10 + digitValue d) n

inductive Sign where
  | absent
  | plus
  | minus
  deriving DecidableEq

def Sign.text : Sign → Bytes
  | absent => []
  | plus => [0x2B]
  | minus => [0x2D]

structure Exponent where
  letter : UInt8
  sign : Sign
  digits : Bytes
  mark : isExponentLetter letter = true
  nonempty : digits ≠ []
  decimal : Digits digits

def Exponent.text (e : Exponent) : Bytes := e.letter :: (e.sign.text ++ e.digits)

/- A number as it is written. Without a point the fraction is empty; a leading zero stands alone. -/
structure Numeral where
  negative : Bool
  whole : Bytes
  fraction : Bytes
  exponent : Option Exponent
  nonempty : whole ≠ []
  decimal : Digits whole
  short : whole.head? = some 0x30 → whole = [0x30]
  places : Digits fraction

namespace Numeral

def point (fraction : Bytes) : Bytes := if fraction = [] then [] else 0x2E :: fraction

def power : Option Exponent → Bytes
  | none => []
  | some e => e.text

def tail (n : Numeral) : Bytes := point n.fraction ++ power n.exponent

def text (n : Numeral) : Bytes := (if n.negative then [0x2D] else []) ++ (n.whole ++ n.tail)

/- An integer of 64 bits. Minus zero, and what is too low for a signed word, is no integer. -/
def word (negative : Bool) (n : Nat) : Json :=
  if !negative then .integer n
  else if n = 0 ∨ maxSigned64 + 1 < n then .real (Binary64.ofNat n).negate
  else .integer (-n)

def gathered : Nat → Bytes → Nat × Bytes
  | n, [] => (n, [])
  | n, d :: ds => if n * 10 + digitValue d ≤ maxWord64 then gathered (n * 10 + digitValue d) ds else (n, d :: ds)

def signed (negative : Bool) (x : Binary64) : Binary64 := if negative then x.negate else x

def raised (negative : Bool) (significand : Nat) (start : Int) : Option Exponent → Option Binary64
  | none => (scaled (.ofNat significand) start).map (signed negative)
  | some e =>
    let n := numberFrom 0 e.digits
    if n ≤ maxExponentDigits then
      let power := clampExponent (if e.sign = .minus then start - n else start + n)
      (scaled (.ofNat significand) power).map (signed negative)
    else if significand ≠ 0 ∧ e.sign ≠ .minus then none
    else some (.zero negative)

def real? (n : Numeral) : Option Binary64 :=
  let (whole, extra) := gathered 0 n.whole
  let (significand, dropped) := gathered whole n.fraction
  raised n.negative significand (extra.length - (n.fraction.length - dropped.length)) n.exponent

def value? (n : Numeral) : Option Json :=
  if n.tail = [] ∧ numberFrom 0 n.whole ≤ maxWord64 then some (word n.negative (numberFrom 0 n.whole))
  else n.real?.map .real

end Numeral
end Numbers

section Strings

def IsHigh (n : Nat) : Prop := 0xD800 ≤ n ∧ n ≤ 0xDBFF

def IsLow (n : Nat) : Prop := 0xDC00 ≤ n ∧ n ≤ 0xDFFF

def IsCode (n : Nat) (ds : Bytes) : Prop := ds.length = 4 ∧ hexNumber ds = some n

/- A character written by escape. One outside of the first plane takes two codes, and neither of the two stands
alone. -/
inductive Escape : Char → Bytes → Prop where
  | short {c : Char} {b : UInt8} (letter : shortEscape b = some c) : Escape c [0x5C, b]
  | code {n : Nat} {ds : Bytes} (digits : IsCode n ds) (high : ¬ IsHigh n) (low : ¬ IsLow n) :
    Escape (Char.ofNat n) (0x5C :: 0x75 :: ds)
  | pair {high low : Nat} {ds es : Bytes} (first : IsCode high ds) (isHigh : IsHigh high)
      (second : IsCode low es) (isLow : IsLow low) :
    Escape (Char.ofNat ((high - 0xD800) * 1024 + (low - 0xDC00) + 0x10000))
      (0x5C :: 0x75 :: (ds ++ 0x5C :: 0x75 :: es))

inductive CharSpelt : Char → Bytes → Prop where
  | plain {c : Char} (quote : c ≠ '"') (slash : c ≠ '\\') (control : 0x20 ≤ c.toNat) :
    CharSpelt c (Utf8.encodeChar c)
  | escape {c : Char} {s : Bytes} (escape : Escape c s) : CharSpelt c s

def CharsSpelt : List Char → Bytes → Prop
  | [], s => s = []
  | c :: cs, s => ∃ here later, CharSpelt c here ∧ CharsSpelt cs later ∧ s = here ++ later

def Quoted (text : String) (s : Bytes) : Prop :=
  ∃ inside, CharsSpelt text.toList inside ∧ s = 0x22 :: (inside ++ [0x22])

end Strings

def Lead (first : Bool) (s : Bytes) : Prop :=
  if first then Blank s else ∃ before after, Blank before ∧ Blank after ∧ s = before ++ 0x2C :: after

mutual
def Spelt : Json → Bytes → Prop
  | .null, s => s = letters "null"
  | .bool true, s => s = letters "true"
  | .bool false, s => s = letters "false"
  | .integer i, s => ∃ n : Numeral, n.value? = some (.integer i) ∧ s = n.text
  | .real x, s => ∃ n : Numeral, n.value? = some (.real x) ∧ s = n.text
  | .string text, s => Quoted text s
  | .array items, s => ∃ inside, ItemsSpelt true items inside ∧ s = 0x5B :: inside
  | .object members, s => ∃ inside, MembersSpelt true members inside ∧ s = 0x7B :: inside

def ItemsSpelt : Bool → List Json → Bytes → Prop
  | _, [], s => ∃ gap, Blank gap ∧ s = gap ++ [0x5D]
  | first, v :: items, s => ∃ lead here later,
    Lead first lead ∧ Spelt v here ∧ ItemsSpelt false items later ∧ s = lead ++ (here ++ later)

def MembersSpelt : Bool → List (String × Json) → Bytes → Prop
  | _, [], s => ∃ gap, Blank gap ∧ s = gap ++ [0x7D]
  | first, (name, v) :: members, s => ∃ lead key gap space here later,
    Lead first lead ∧ Quoted name key ∧ Blank gap ∧ Blank space ∧ Spelt v here ∧
      MembersSpelt false members later ∧ s = lead ++ (key ++ (gap ++ 0x3A :: (space ++ (here ++ later))))
end

def IsText (v : Json) (s : Bytes) : Prop := ∃ before here after,
  Blank before ∧ Spelt v here ∧ Blank after ∧ s = before ++ (here ++ after)

end RelayHub.Json
