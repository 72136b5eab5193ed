import RelayHub.Json.Value
import RelayHub.Text.Quoted

/-! Writing JSON values without blanks, members in stored order. Quotes, backslashes and characters
below the space are escaped and all others stand for themselves. -/
namespace RelayHub.Json

def controlEscape (n : Nat) : List Char :=
  let digit (k : Nat) : Char := Nat.digitChar k
  ['\\', 'u', '0', '0', digit (n / 16), digit (n % 16)]

def escapeChar (c : Char) : List Char :=
  if c = '"' then ['\\', '"']
  else if c = '\\' then ['\\', '\\']
  else if c = '\x08' then ['\\', 'b']
  else if c = '\x0c' then ['\\', 'f']
  else if c = '\n' then ['\\', 'n']
  else if c = '\r' then ['\\', 'r']
  else if c = '\t' then ['\\', 't']
  else if c.toNat < 0x20 then controlEscape c.toNat
  else [c]

def writeString (s : String) : List Char := '"' :: (s.toList.flatMap escapeChar ++ ['"'])

def writeReal : Binary64 → List Char
  | .finite s m e => (Binary64.scientific (.finite s m e)).toList
  | _ => "null".toList

mutual
def writeChars : Json → List Char
  | .null => "null".toList
  | .bool true => "true".toList
  | .bool false => "false".toList
  | .integer n => (toString n).toList
  | .real x => writeReal x
  | .string s => writeString s
  | .array items => '[' :: writeItems true items
  | .object ms => '\x7b' :: writeMembers true ms

def writeItems (first : Bool) : List Json → List Char
  | [] => [']']
  | v :: rest => (if first then [] else [',']) ++ writeChars v ++ writeItems false rest

def writeMembers (first : Bool) : List (String × Json) → List Char
  | [] => ['\x7d']
  | (name, v) :: rest =>
    (if first then [] else [',']) ++ writeString name ++ ':' :: writeChars v ++
      writeMembers false rest
end

def write (v : Json) : String := String.ofList v.writeChars

def kind : Json → String
  | .null => "null"
  | .bool b => "boolean `" ++ toString b ++ "`"
  | .integer n => "integer `" ++ toString n ++ "`"
  | .real x => "floating point `" ++ x.scientific ++ "`"
  | .string s => "string " ++ Quoted.quote s
  | .array _ => "sequence"
  | .object _ => "map"

end RelayHub.Json
