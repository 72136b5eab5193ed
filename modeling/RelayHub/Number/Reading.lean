import RelayHub.Number.Binary64

/-! Reading decimal numbers from text. Nothing may stand before or behind the number. -/
namespace RelayHub

namespace Digits

def value (c : Char) : Nat := c.toNat - '0'.toNat

def number (cs : List Char) : Nat := cs.foldl (fun n c => n * 10 + value c) 0

def natural? (cs : List Char) : Option Nat :=
  if !cs.isEmpty && cs.all Char.isDigit then some (number cs) else none

def signed : List Char → Bool × List Char
  | '-' :: rest => (true, rest)
  | '+' :: rest => (false, rest)
  | cs => (false, cs)

def integer? (cs : List Char) : Option Int := do
  let (negative, digits) := signed cs
  let n ← natural? digits
  return if negative then -(n : Int) else n

def unsigned? : List Char → Option Nat
  | '+' :: rest => natural? rest
  | cs => natural? cs

end Digits

namespace Binary64

def lower (cs : List Char) : List Char := cs.map Char.toLower

def exponent? (cs : List Char) : Option Int := Digits.integer? cs

def magnitude? (negative : Bool) (cs : List Char) : Option Binary64 := do
  let whole := cs.takeWhile Char.isDigit
  let rest := cs.dropWhile Char.isDigit
  let (fraction, rest) := match rest with
    | '.' :: rest => (rest.takeWhile Char.isDigit, rest.dropWhile Char.isDigit)
    | rest => ([], rest)
  if whole.isEmpty && fraction.isEmpty then none
  else
    let power ← match rest with
      | [] => some 0
      | c :: rest => if c = 'e' ∨ c = 'E' then exponent? rest else none
    return ofDecimal negative (Digits.number (whole ++ fraction)) (power - fraction.length)

def ofText? (cs : List Char) : Option Binary64 :=
  let (negative, rest) := Digits.signed cs
  let word := String.ofList (lower rest)
  if word = "inf" ∨ word = "infinity" then some (.infinite negative)
  else if word = "nan" then some .nan
  else magnitude? negative rest

end Binary64
end RelayHub
