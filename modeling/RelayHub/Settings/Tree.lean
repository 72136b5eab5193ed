import RelayHub.Settings.Fault
import RelayHub.Json.Value
import RelayHub.Table

/-! Settings before they are typed: a tree of tables, lists and scalars, each with the place it came
from. A later source is laid over an earlier one leaf by leaf: tables merge key by key, and anything
else takes the place of what was there. -/
namespace RelayHub.Settings

inductive Scalar where
  | nothing
  | bool (value : Bool)
  | integer (value : Int)
  | real (value : Binary64)
  | text (value : String)
  deriving DecidableEq, Repr

inductive Tree where
  | leaf (value : Scalar) (origin : Option Origin)
  | list (items : List Tree) (origin : Option Origin)
  | table (entries : List (String × Tree)) (origin : Option Origin)
  deriving Repr

namespace Tree

def empty : Tree := .table [] none

def asTable : Option Tree → List (String × Tree) × Option Origin
  | some (.table entries origin) => (entries, origin)
  | _ => ([], none)

def asList : Option Tree → List Tree × Option Origin
  | some (.list items origin) => (items, origin)
  | _ => ([], none)

mutual
def laidOver : Tree → Option Tree → Tree
  | .table entries _, old =>
    let (base, origin) := asTable old
    .table (entriesOver entries base) origin
  | .list items origin, _ => .list items origin
  | .leaf value origin, _ => .leaf value origin

def entriesOver : List (String × Tree) → List (String × Tree) → List (String × Tree)
  | [], base => base
  | (k, t) :: rest, base => entriesOver rest (Table.put k (laidOver t (base.lookup k)) base)
end

/- A step towards a value. Indexes below zero count from the end. -/
inductive Step where
  | key (k : String)
  | index (i : Int)
  deriving DecidableEq, Repr

def blank : Tree := .leaf .nothing none

def reach (items : List Tree) (i : Int) : List Tree × Nat :=
  if 0 ≤ i then (items ++ List.replicate (i.toNat + 1 - items.length) blank, i.toNat)
  else if i.natAbs ≤ items.length then (items, items.length - i.natAbs)
  else (List.replicate (i.natAbs - items.length) blank ++ items, 0)

/- Lays a tree over what is at the end of a path; what stands in its way is replaced. -/
def place (t : Tree) : List Step → Option Tree → Tree
  | [], old => laidOver t old
  | .key k :: rest, old =>
    let (entries, origin) := asTable old
    .table (Table.put k (place t rest (entries.lookup k)) entries) origin
  | .index i :: rest, old =>
    let (items, origin) := asList old
    let (items, at') := reach items i
    .list (items.set at' (place t rest items[at']?)) origin

end Tree
end RelayHub.Settings
