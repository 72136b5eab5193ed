import RelayHub.Number.Natural

/-! Lengths of time, counted in nanoseconds. -/
namespace RelayHub

structure Duration where
  nanos : Nat
  deriving DecidableEq, Repr

namespace Duration

def ofMillis (ms : Nat) : Duration := ⟨ms * 1000000⟩
def ofSeconds (s : Nat) : Duration := ⟨s * 1000000000⟩
def ofParts (s nanos : Nat) : Duration := ⟨s * 1000000000 + nanos⟩

def millis (d : Duration) : Nat := d.nanos / 1000000

def isZero (d : Duration) : Bool := d.nanos = 0

instance : LE Duration := ⟨fun a b => a.nanos ≤ b.nanos⟩
instance : LT Duration := ⟨fun a b => a.nanos < b.nanos⟩
instance (a b : Duration) : Decidable (a ≤ b) := inferInstanceAs (Decidable (a.nanos ≤ b.nanos))
instance (a b : Duration) : Decidable (a < b) := inferInstanceAs (Decidable (a.nanos < b.nanos))

def fractionText (n places : Nat) : String :=
  let digits := (toString (n % tenTo places)).toList
  let padded := List.replicate (places - digits.length) '0' ++ digits
  match (padded.reverse.dropWhile (· = '0')).reverse with
  | [] => ""
  | kept => "." ++ String.ofList kept

def unitText (n places : Nat) (unit : String) : String :=
  toString (n / tenTo places) ++ fractionText n places ++ unit

/- The largest unit whose whole part is not zero, with the rest as a decimal fraction. -/
def text (d : Duration) : String :=
  let n := d.nanos
  if 1000000000 ≤ n then unitText n 9 "s"
  else if 1000000 ≤ n then unitText n 6 "ms"
  else if 1000 ≤ n then unitText n 3 "\u00b5s"
  else unitText n 0 "ns"

end Duration
end RelayHub
