import RelayHub.Settings.Tree
import RelayHub.Number.Reading

/-! Names of settings as paths: names between points, and indexes in brackets. A text that is no path
is the name of a setting at the top. -/
namespace RelayHub.Settings.Path

def isNameChar (c : Char) : Bool := c.isAlphanum || c = '_' || c = '-'

def name? (cs : List Char) : Option (String × List Char) :=
  match cs.takeWhile isNameChar with
  | [] => none
  | name => some (String.ofList name, cs.dropWhile isNameChar)

def isBlank (c : Char) : Bool := c = ' ' || c = '\t'

def index? (cs : List Char) : Option (Int × List Char) := do
  let cs := cs.dropWhile isBlank
  let (negative, cs) := match cs with
    | '-' :: rest => (true, rest)
    | cs => (false, cs)
  let n ← Digits.natural? (cs.takeWhile Char.isDigit)
  let i : Int := if negative then -n else n
  if fitsSigned64 i then
    match (cs.dropWhile Char.isDigit).dropWhile isBlank with
    | ']' :: rest => some (i, rest)
    | _ => none
  else none

/- The steps after the first name. Every step takes at least one character. -/
def steps? : Nat → List Char → Option (List Tree.Step)
  | _, [] => some []
  | 0, _ :: _ => none
  | fuel + 1, c :: rest =>
    if c = '.' then do
      let (name, rest) ← name? rest
      return .key name :: (← steps? fuel rest)
    else if c = '[' then do
      let (i, rest) ← index? rest
      return .index i :: (← steps? fuel rest)
    else none

def ofText? (s : String) : Option (List Tree.Step) := do
  let (name, rest) ← name? s.toList
  return .key name :: (← steps? rest.length rest)

def ofText (s : String) : List Tree.Step := (ofText? s).getD [.key s]

end RelayHub.Settings.Path
namespace RelayHub.Settings

def Tree.layer (root : Tree) (entries : List (String × Tree)) : Tree :=
  entries.foldl (fun root e => e.2.place (Path.ofText e.1) (some root)) root

end RelayHub.Settings
