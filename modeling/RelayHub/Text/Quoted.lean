import RelayHub.Text.Printable

/-! Text shown between quotes on one line. Quotes, backslashes and the common control characters
get a short escape; a character that does not print by itself is written by its number. -/
namespace RelayHub

def hexDigits (n : Nat) : String := String.ofList (Nat.toDigits 16 n)

namespace Quoted

def character (c : Char) : String :=
  match c with
  | '"' => "\\\""
  | '\\' => "\\\\"
  | '\n' => "\\n"
  | '\r' => "\\r"
  | '\t' => "\\t"
  | '\x00' => "\\0"
  | c => if Printable.alone c then String.singleton c else "\\u\x7b" ++ hexDigits c.toNat ++ "\x7d"

def quote (s : String) : String :=
  "\"" ++ String.join (s.toList.map character) ++ "\""

end Quoted
end RelayHub
