import RelayHub.Json.Fault
import RelayHub.Json.Value

/-! Numbers in JSON texts. Digits gather in a significand of 64 bits; an integer that fits stays
an integer. Everything else becomes a floating point number in two rounded steps: the significand
is rounded first, then multiplied or divided by a rounded power of ten. -/
namespace RelayHub.Json

def isDigit (b : UInt8) : Bool := 0x30 ≤ b && b ≤ 0x39

def digitValue (b : UInt8) : Nat := b.toNat - 0x30

/- Digits of an exponent beyond this are not added up. -/
def maxExponentDigits : Nat := 0x7FFFFFFF

def clampExponent (e : Int) : Int := max (-0x80000000) (min 0x7FFFFFFF e)

def scaled (value : Binary64) (exponent : Int) : Option Binary64 :=
  if 0 ≤ exponent then
    if exponent ≤ 308 then
      let x := value.times (.ofDecimal false 1 exponent)
      if x.isInfinite then none else some x
    else if value.isZero then some value
    else none
  else if -308 ≤ exponent then some (value.dividedBy (.ofDecimal false 1 (-exponent)))
  else if value.isZero then some value
  else scaled (value.dividedBy (.ofDecimal false 1 308)) (exponent + 308)
termination_by (-exponent).toNat

def rounded (negative : Bool) (significand : Nat) (exponent : Int) (rest : Bytes) :
    Except Fault (Json × Bytes) :=
  match scaled (.ofNat significand) exponent with
  | some x => .ok (.real (if negative then x.negate else x), rest)
  | none => .error ⟨.numberOutOfRange, rest.length⟩

/- Exponent digits after the first. A positive exponent that overflows is a fault at that digit,
unless the significand is zero. -/
def exponentDigits (negative : Bool) (significand : Nat) (start : Int) (down : Bool) :
    Nat → Bytes → Except Fault (Json × Bytes)
  | exponent, [] => finish exponent []
  | exponent, b :: rest =>
    if isDigit b then
      let next := exponent * 10 + digitValue b
      if next ≤ maxExponentDigits then exponentDigits negative significand start down next rest
      else if significand ≠ 0 ∧ !down then .error ⟨.numberOutOfRange, rest.length⟩
      else .ok (.real (.zero negative), rest.dropWhile isDigit)
    else finish exponent (b :: rest)
where
  finish (exponent : Nat) (rest : Bytes) : Except Fault (Json × Bytes) :=
    rounded negative significand (clampExponent (if down then start - exponent else start + exponent))
      rest

def exponentPart (negative : Bool) (significand : Nat) (start : Int) (s : Bytes) :
    Except Fault (Json × Bytes) :=
  let (down, s) := match s with
    | 0x2B :: rest => (false, rest)
    | 0x2D :: rest => (true, rest)
    | s => (false, s)
  match s with
  | [] => .error ⟨.endInValue, 0⟩
  | b :: rest =>
    if isDigit b then exponentDigits negative significand start down (digitValue b) rest
    else .error ⟨.invalidNumber, rest.length⟩

def isExponentLetter (b : UInt8) : Bool := b = 0x65 || b = 0x45

def maybeExponent (negative : Bool) (significand : Nat) (exponent : Int) (s : Bytes) :
    Except Fault (Json × Bytes) :=
  match s with
  | b :: rest =>
    if isExponentLetter b then exponentPart negative significand exponent rest
    else rounded negative significand exponent s
  | [] => rounded negative significand exponent []

def fraction (negative : Bool) (before : Int) :
    (significand places : Nat) → Bytes → Except Fault (Json × Bytes)
  | significand, places, [] =>
    if places = 0 then .error ⟨.endInValue, 0⟩
    else maybeExponent negative significand (before - places) []
  | significand, places, b :: rest =>
    if isDigit b then
      let next := significand * 10 + digitValue b
      if next ≤ maxWord64 then fraction negative before next (places + 1) rest
      else maybeExponent negative significand (before - places) ((b :: rest).dropWhile isDigit)
    else if places = 0 then .error ⟨.invalidNumber, rest.length⟩
    else maybeExponent negative significand (before - places) (b :: rest)

def afterInteger (negative : Bool) (significand : Nat) (s : Bytes) : Except Fault (Json × Bytes) :=
  match s with
  | [] => whole []
  | b :: rest =>
    if b = 0x2E then fraction negative 0 significand 0 rest
    else if isExponentLetter b then exponentPart negative significand 0 rest
    else whole (b :: rest)
where
  whole (rest : Bytes) : Except Fault (Json × Bytes) :=
    if !negative then .ok (.integer significand, rest)
    else if significand = 0 ∨ maxSigned64 + 1 < significand then
      .ok (.real (Binary64.ofNat significand).negate, rest)
    else .ok (.integer (-significand), rest)

def longInteger (negative : Bool) (significand : Nat) : Nat → Bytes → Except Fault (Json × Bytes)
  | extra, [] => rounded negative significand extra []
  | extra, b :: rest =>
    if isDigit b then longInteger negative significand (extra + 1) rest
    else if b = 0x2E then fraction negative extra significand 0 rest
    else if isExponentLetter b then exponentPart negative significand extra rest
    else rounded negative significand extra (b :: rest)

def integerDigits (negative : Bool) : Nat → Bytes → Except Fault (Json × Bytes)
  | significand, [] => afterInteger negative significand []
  | significand, b :: rest =>
    if isDigit b then
      let next := significand * 10 + digitValue b
      if next ≤ maxWord64 then integerDigits negative next rest
      else longInteger negative significand 1 rest
    else afterInteger negative significand (b :: rest)

def numeral (negative : Bool) : Bytes → Except Fault (Json × Bytes)
  | [] => .error ⟨.endInValue, 0⟩
  | b :: rest =>
    if b = 0x30 then
      match rest with
      | c :: after =>
        if isDigit c then .error ⟨.invalidNumber, after.length⟩ else afterInteger negative 0 rest
      | [] => afterInteger negative 0 []
    else if isDigit b then integerDigits negative (digitValue b) rest
    else .error ⟨.invalidNumber, rest.length⟩

end RelayHub.Json
