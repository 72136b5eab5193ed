import RelayHub.Number.Shortest

/-! Decimal texts of floating point numbers. Both print the shortest digits; `positional` never
uses an exponent, `scientific` does outside the range from `1e-5` to `1e16` and keeps a fraction. -/
namespace RelayHub.Binary64

def zeros (n : Nat) : String := String.ofList (List.replicate n '0')

def placed (d : Decimal) (whole : String) : String :=
  let text := toString d.digits
  if 0 ≤ d.exponent then text ++ zeros d.exponent.toNat ++ whole
  else
    let places := (-d.exponent).toNat
    if places < text.length then
      String.ofList (text.toList.take (text.length - places)) ++ "." ++
        String.ofList (text.toList.drop (text.length - places))
    else "0." ++ zeros (places - text.length) ++ text

def sign (negative : Bool) : String := if negative then "-" else ""

def positional : Binary64 → String
  | .nan => "NaN"
  | .infinite s => sign s ++ "inf"
  | .finite s m e => sign s ++ placed (shortest m e) ""

def fractional : Binary64 → String
  | .finite s m e => sign s ++ placed (shortest m e) ".0"
  | x => x.positional

def exponential (d : Decimal) : String :=
  let text := (toString d.digits).toList
  let power : Int := d.exponent + (text.length - 1 : Nat)
  let mantissa := match text with
    | [] => ""
    | [c] => String.ofList [c]
    | c :: rest => String.ofList (c :: '.' :: rest)
  mantissa ++ "e" ++ (if power < 0 then "-" else "+") ++ toString power.natAbs

def scientific : Binary64 → String
  | .finite s m e =>
    let d := shortest m e
    let power : Int := d.exponent + ((toString d.digits).length - 1 : Nat)
    sign s ++ (if m = 0 ∨ (-5 ≤ power ∧ power < 16) then placed d ".0" else exponential d)
  | x => x.positional

end RelayHub.Binary64
