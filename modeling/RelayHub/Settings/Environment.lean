import RelayHub.Settings.Path

/-! Settings in environment variables. A name in any case begins with the name of the program; two
underscores stand between the steps of a path. A value is a truth value, an integer or a floating point
number if it reads as one; the list of origins is split at commas, and anything else is text. -/
namespace RelayHub.Settings.Environment

def lead : List Char := "hubcast__".toList

def behind? : List Char → List Char → Option (List Char)
  | [], cs => some cs
  | _ :: _, [] => none
  | a :: as, c :: cs => if a = c then behind? as cs else none

/- Two underscores become a point, from the left. -/
def points : List Char → List Char
  | '_' :: '_' :: rest => '.' :: points rest
  | c :: rest => c :: points rest
  | [] => []

def key? (name : String) : Option String := do
  let rest ← behind? lead (name.toList.map Char.toLower)
  return String.ofList (points rest)

def listKey : String := "server.allowed_origins"

def origin : Option Origin := some .environment

def word (s : String) : Tree := .leaf (.text s) origin

def shortInteger? (cs : List Char) : Option Int := (Digits.integer? cs).filter fitsSigned64

def value (key text : String) : Tree :=
  let cs := text.toList
  let low := String.ofList (cs.map Char.toLower)
  if low = "true" then .leaf (.bool true) origin
  else if low = "false" then .leaf (.bool false) origin
  else
    match shortInteger? cs with
    | some n => .leaf (.integer n) origin
    | none =>
      match Binary64.ofText? cs with
      | some x => .leaf (.real x) origin
      | none =>
        if key = listKey then .list ((cs.splitOn ',').map fun piece => word (String.ofList piece)) origin
        else word text

def entries (vars : List (String × String)) : List (String × Tree) :=
  vars.foldl (fun es v =>
    match key? v.1 with
    | some key => Table.put key (value key v.2) es
    | none => es) []

end RelayHub.Settings.Environment
