import RelayHub.Number.Natural

/-! Binary floating point of 64 bits, as exact dyadic values. A finite value is a sign, a mantissa
below `2 ^ 53` and an exponent from -1074 to 971; the mantissa reaches `2 ^ 52` unless the exponent
is the least one. Every operation rounds an exact quotient once, to the nearest value and a tie to
the even mantissa. No hardware arithmetic is involved. -/
namespace RelayHub

inductive Binary64 where
  | nan
  | infinite (negative : Bool)
  | finite (negative : Bool) (mantissa : Nat) (exponent : Int)
  deriving DecidableEq, Repr

namespace Binary64

def minExponent : Int := -1074
def maxExponent : Int := 971

def zero (negative : Bool) : Binary64 := .finite negative 0 minExponent

def isZero : Binary64 → Bool
  | .finite _ 0 _ => true
  | _ => false

def isInfinite : Binary64 → Bool
  | .infinite _ => true
  | _ => false

def floorLog2 (num den : Nat) : Int :=
  let k : Int := (Nat.log2 num : Int) - Nat.log2 den
  if num * twoTo (-k).toNat < den * twoTo k.toNat then k - 1 else k

def divideToEven (num den : Nat) : Nat :=
  let q := num / den
  let twice := 2 * (num % den)
  if twice > den ∨ (twice = den ∧ q % 2 = 1) then q + 1 else q

def nearest (negative : Bool) (num den : Nat) : Binary64 :=
  if num = 0 ∨ den = 0 then zero negative
  else
    let e := max (floorLog2 num den - 52) minExponent
    let m := divideToEven (num * twoTo (-e).toNat) (den * twoTo e.toNat)
    let (m, e) := if m = twoTo 53 then (twoTo 52, e + 1) else (m, e)
    if e > maxExponent then .infinite negative else .finite negative m e

def ofNat (n : Nat) : Binary64 := nearest false n 1

def negate : Binary64 → Binary64
  | .nan => .nan
  | .infinite s => .infinite (!s)
  | .finite s m e => .finite (!s) m e

def ratio (m : Nat) (e : Int) : Nat × Nat := (m * twoTo e.toNat, twoTo (-e).toNat)

/-- The value nearest to `digits * 10 ^ exponent`. An exponent far beyond the range is settled by the
length of the digits alone, so it costs nothing: below `2 ^ (k + 1)` lies below `10 ^ (k / 3 + 1)`. -/
def ofDecimal (negative : Bool) (digits : Nat) (exponent : Int) : Binary64 :=
  if digits = 0 ∨ exponent < -400 - (Nat.log2 digits / 3 : Nat) then zero negative
  else if exponent > 400 then .infinite negative
  else nearest negative (digits * tenTo exponent.toNat) (tenTo (-exponent).toNat)

def times : Binary64 → Binary64 → Binary64
  | .finite s m e, .finite t n f =>
    let (a, b) := ratio m e
    let (c, d) := ratio n f
    nearest (s != t) (a * c) (b * d)
  | .infinite s, .finite t _ _ => .infinite (s != t)
  | .finite s _ _, .infinite t => .infinite (s != t)
  | .infinite s, .infinite t => .infinite (s != t)
  | _, _ => .nan

def dividedBy : Binary64 → Binary64 → Binary64
  | .finite s m e, .finite t n f =>
    let (a, b) := ratio m e
    let (c, d) := ratio n f
    nearest (s != t) (a * d) (b * c)
  | .infinite s, .finite t _ _ => .infinite (s != t)
  | _, _ => .nan

def toInteger (low high : Int) : Binary64 → Int
  | .nan => 0
  | .infinite s => if s then low else high
  | .finite s m e =>
    let (a, b) := ratio m e
    let magnitude : Int := ((2 * a + b) / (2 * b) : Nat)
    let value := if s then -magnitude else magnitude
    max low (min high value)

end Binary64
end RelayHub
