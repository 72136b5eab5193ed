import RelayHub.Number.Text

/-! JSON values. An object keeps its members as written, repeated names included; `canonical` keeps
the last of each name and sorts the names, which is the form a payload is stored and written in. -/
namespace RelayHub

inductive Json where
  | null
  | bool (value : Bool)
  | integer (value : Int)
  | real (value : Binary64)
  | string (text : String)
  | array (items : List Json)
  | object (members : List (String × Json))
  deriving Repr

namespace Json

def insertMember (name : String) (value : Json) : List (String × Json) → List (String × Json)
  | [] => [(name, value)]
  | (other, v) :: rest =>
    if name = other then (name, value) :: rest
    else if name < other then (name, value) :: (other, v) :: rest
    else (other, v) :: insertMember name value rest

/- Sorted by name; of a repeated name the last value stays. -/
def sortMembers (members : List (String × Json)) : List (String × Json) :=
  members.foldl (fun sorted m => insertMember m.1 m.2 sorted) []

mutual
def canonical : Json → Json
  | .null => .null
  | .bool b => .bool b
  | .integer n => .integer n
  | .real x => .real x
  | .string s => .string s
  | .array items => .array (canonicalItems items)
  | .object members => .object (sortMembers (canonicalMembers members))

def canonicalItems : List Json → List Json
  | [] => []
  | v :: rest => canonical v :: canonicalItems rest

def canonicalMembers : List (String × Json) → List (String × Json)
  | [] => []
  | (name, v) :: rest => (name, canonical v) :: canonicalMembers rest
end

def member? (name : String) (members : List (String × Json)) : Option Json := members.lookup name

end Json
end RelayHub
