import RelayHub.Number.Reading
import RelayHub.Toml.Text
import RelayHub.Toml.Value

/-! Unquoted TOML values: truth values, integers, floating point numbers, dates and times. Each function
takes the whole token. -/
namespace RelayHub.Toml

def grouped? (isDigit : Char → Bool) : List Char → Option (List Char)
  | [] => none
  | [c] => if isDigit c then some [c] else none
  | c :: '_' :: rest => if isDigit c then (grouped? isDigit rest).map (c :: ·) else none
  | c :: rest => if isDigit c then (grouped? isDigit rest).map (c :: ·) else none

def plain? (cs : List Char) : Option (List Char) := do
  let digits ← grouped? Char.isDigit cs
  match digits with
  | '0' :: _ :: _ => none
  | _ => some digits

def based? (base : Nat) (cs : List Char) : Option Nat := do
  let isDigit (c : Char) : Bool := (hexDigit? c).any (· < base)
  let digits ← grouped? isDigit cs
  return digits.foldl (fun n c => n * base + (hexDigit? c).getD 0) 0

def integer? (cs : List Char) : Option Int := do
  let n : Int ← match cs with
    | '0' :: 'x' :: rest => (based? 16 rest).map Int.ofNat
    | '0' :: 'o' :: rest => (based? 8 rest).map Int.ofNat
    | '0' :: 'b' :: rest => (based? 2 rest).map Int.ofNat
    | cs =>
      let (negative, digits) := Digits.signed cs
      (plain? digits).map fun ds =>
        let n : Int := Digits.number ds
        if negative then -n else n
  if fitsSigned64 n then some n else none

def exponent? (cs : List Char) : Option Int := do
  let (negative, digits) := Digits.signed cs
  let n : Int := Digits.number (← grouped? Char.isDigit digits)
  return if negative then -n else n

def isExponentLetter (c : Char) : Bool := c = 'e' || c = 'E'

def real? (cs : List Char) : Option Binary64 := do
  let (negative, cs) := Digits.signed cs
  if cs = "inf".toList then some (.infinite negative)
  else if cs = "nan".toList then some .nan
  else
    let mantissa := cs.takeWhile fun c => !isExponentLetter c
    let power ← match cs.dropWhile fun c => !isExponentLetter c with
      | [] => some 0
      | _ :: rest => exponent? rest
    let whole ← plain? (mantissa.takeWhile (· ≠ '.'))
    let fraction ← match mantissa.dropWhile (· ≠ '.') with
      | [] => some []
      | _ :: rest => grouped? Char.isDigit rest
    if mantissa.length = cs.length ∧ fraction.isEmpty then none
    else
      let x := Binary64.ofDecimal negative (Digits.number (whole ++ fraction)) (power - fraction.length)
      if x.isInfinite then none else some x

def pair? (a b : Char) : Option Nat := Digits.natural? [a, b]

def daysIn (year month : Nat) : Nat :=
  if month = 2 then
    if year % 4 = 0 ∧ (year % 100 ≠ 0 ∨ year % 400 = 0) then 29 else 28
  else if month = 4 ∨ month = 6 ∨ month = 9 ∨ month = 11 then 30
  else 31

def date? : List Char → Option (List Char × List Char)
  | y1 :: y2 :: y3 :: y4 :: '-' :: m1 :: m2 :: '-' :: d1 :: d2 :: rest => do
    let year ← Digits.natural? [y1, y2, y3, y4]
    let month ← pair? m1 m2
    let day ← pair? d1 d2
    if 1 ≤ month ∧ month ≤ 12 ∧ 1 ≤ day ∧ day ≤ daysIn year month then
      some ([y1, y2, y3, y4, '-', m1, m2, '-', d1, d2], rest)
    else none
  | _ => none

def fractionText (digits : List Char) : List Char :=
  match ((digits.take 9).reverse.dropWhile (· = '0')).reverse with
  | [] => ['.', '0']
  | kept => '.' :: kept

def time? : List Char → Option (List Char × List Char)
  | h1 :: h2 :: ':' :: m1 :: m2 :: rest => do
    let hour ← pair? h1 h2
    let minute ← pair? m1 m2
    if 23 < hour ∨ 59 < minute then none
    else
      let start := [h1, h2, ':', m1, m2]
      match rest with
      | ':' :: s1 :: s2 :: rest => do
        let second ← pair? s1 s2
        if 60 < second then none
        else
          let start := start ++ [':', s1, s2]
          match rest with
          | '.' :: rest =>
            match rest.takeWhile Char.isDigit with
            | [] => none
            | digits => some (start ++ fractionText digits, rest.dropWhile Char.isDigit)
          | rest => some (start, rest)
      | rest => some (start, rest)
  | _ => none

def offset? : List Char → Option (List Char)
  | ['Z'] | ['z'] => some ['Z']
  | [s, h1, h2, ':', m1, m2] => do
    let hours ← pair? h1 h2
    let minutes ← pair? m1 m2
    if 23 < hours ∨ 59 < minutes then none
    else if s = '+' ∨ (s = '-' ∧ hours = 0 ∧ minutes = 0) then some ['+', h1, h2, ':', m1, m2]
    else if s = '-' then some ['-', h1, h2, ':', m1, m2]
    else none
  | _ => none

def isDateMark (c : Char) : Bool := c = 'T' || c = 't' || c = ' '

def datetime? (cs : List Char) : Option (List Char) :=
  match date? cs with
  | some (date, []) => some date
  | some (date, mark :: rest) => do
    if !isDateMark mark then none
    else
      let (time, rest) ← time? rest
      let zone ← if rest.isEmpty then some [] else offset? rest
      return date ++ 'T' :: time ++ zone
  | none =>
    match time? cs with
    | some (time, []) => some time
    | _ => none

def scalarValue? (cs : List Char) : Option Toml :=
  if cs = "true".toList then some (.bool true)
  else if cs = "false".toList then some (.bool false)
  else
    match integer? cs with
    | some n => some (.integer n)
    | none =>
      match real? cs with
      | some x => some (.real x)
      | none => (datetime? cs).map fun text => .datetime (String.ofList text)

end RelayHub.Toml
