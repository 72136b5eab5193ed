import RelayHub.Number.Binary64

/-! The fewest decimal digits that read back as the same value, and of those the nearest. The digit
count is tried from one upward; on each decimal grid only the two neighbours of the value can lie
in the interval that rounds to it. -/
namespace RelayHub

structure Decimal where
  digits : Nat
  exponent : Int
  deriving DecidableEq, Repr

namespace Binary64

/- The interval of reals that round to `m * 2 ^ e`, as numerators over four times the
denominator of the value itself. The lower gap is half as wide at a power of two. -/
structure Interval where
  low : Nat
  value : Nat
  high : Nat
  scale : Nat
  closed : Bool

def interval (m : Nat) (e : Int) : Interval :=
  let (a, b) := ratio m e
  let gap := twoTo e.toNat
  let narrow := m = twoTo 52 ∧ e > minExponent
  ⟨4 * a - (if narrow then gap else 2 * gap), 4 * a, 4 * a + 2 * gap, 4 * b, m % 2 = 0⟩

def Interval.holds (i : Interval) (candidate den : Nat) : Bool :=
  let x := candidate * i.scale
  if i.closed then i.low * den ≤ x && x ≤ i.high * den
  else i.low * den < x && x < i.high * den

def reachesTen (num den : Nat) (k : Int) : Bool := den * tenTo k.toNat ≤ num * tenTo (-k).toNat

/- The greatest `k` with `10 ^ k ≤ num / den`, both positive. The power of two below the value tells
it to within one. -/
def floorLog10 (num den : Nat) : Int :=
  let k := (floorLog2 num den * 30103).fdiv 100000
  if reachesTen num den (k + 1) then k + 1 else if reachesTen num den k then k else k - 1

def gridPoint (i : Interval) (magnitude : Int) (count : Nat) : Option Decimal :=
  let exponent := magnitude + 1 - count
  let up := tenTo exponent.toNat
  let down := tenTo (-exponent).toNat
  let low := i.value * down / (i.scale * up)
  let high := low + 1
  let lowOk := i.holds (low * up) down && low != 0
  let highOk := i.holds (high * up) down
  let remainder := i.value * down - low * (i.scale * up)
  let toLow := 2 * remainder < i.scale * up || (2 * remainder == i.scale * up && low % 2 == 0)
  if lowOk && (toLow || !highOk) then some ⟨low, exponent⟩
  else if highOk then some ⟨high, exponent⟩
  else none

def firstGrid (i : Interval) (magnitude : Int) : Nat → Nat → Option Decimal
  | 0, _ => none
  | fuel + 1, count =>
    match gridPoint i magnitude count with
    | some d => some d
    | none => firstGrid i magnitude fuel (count + 1)

def Decimal.trim : Nat → Decimal → Decimal
  | 0, d => d
  | fuel + 1, d =>
    if d.digits ≠ 0 ∧ d.digits % 10 = 0 then trim fuel ⟨d.digits / 10, d.exponent + 1⟩ else d

def shortest (m : Nat) (e : Int) : Decimal :=
  if m = 0 then ⟨0, 0⟩
  else
    let (a, b) := ratio m e
    let found := (firstGrid (interval m e) (floorLog10 a b) 17 1).getD ⟨a, 0⟩
    Decimal.trim 20 found

end Binary64
end RelayHub
