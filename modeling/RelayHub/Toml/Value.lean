import RelayHub.Number.Binary64
import RelayHub.Table

/-! TOML values, and tables under construction. A table remembers how it was defined, because a table is
defined only once: by a header, or by the dotted names that go through it. -/
namespace RelayHub

inductive Toml where
  | text (s : String)
  | integer (n : Int)
  | real (x : Binary64)
  | bool (b : Bool)
  | datetime (s : String)
  | array (items : List Toml)
  | table (entries : List (String × Toml))
  deriving Repr

namespace Toml
open Table (put)

inductive Definition where
  | explicit
  | implicit
  | dotted
  deriving DecidableEq, Repr

inductive Node where
  | value (v : Toml)
  | table (definition : Definition) (entries : List (String × Node))
  /- An array of tables, last item first; headers below it belong to the last item. -/
  | tables (items : List (List (String × Node)))

abbrev Entries := List (String × Node)

def onLast (f : Entries → Option Entries) : List Entries → Option (List Entries)
  | [] => none
  | last :: rest => do return (← f last) :: rest

def assign (v : Toml) : List String → Entries → Option Entries
  | [], _ => none
  | [k], es => if (es.lookup k).isSome then none else some (put k (.value v) es)
  | k :: next :: ks, es =>
    match es.lookup k with
    | none => do return put k (.table .dotted (← assign v (next :: ks) [])) es
    | some (.table .dotted inner) | some (.table .implicit inner) => do
      return put k (.table .dotted (← assign v (next :: ks) inner)) es
    | some (.tables items) =>
      if ks.isEmpty then none
      else do return put k (.tables (← onLast (assign v (next :: ks)) items)) es
    | some (.table .explicit _) | some (.value _) => none

def defineTable : List String → Entries → Option Entries
  | [], _ => none
  | [k], es =>
    match es.lookup k with
    | none => some (put k (.table .explicit []) es)
    | some (.table .implicit inner) => some (put k (.table .explicit inner) es)
    | some _ => none
  | k :: next :: ks, es =>
    match es.lookup k with
    | none => do return put k (.table .implicit (← defineTable (next :: ks) [])) es
    | some (.table d inner) => do return put k (.table d (← defineTable (next :: ks) inner)) es
    | some (.tables items) => do return put k (.tables (← onLast (defineTable (next :: ks)) items)) es
    | some (.value _) => none

def defineItem : List String → Entries → Option Entries
  | [], _ => none
  | [k], es =>
    match es.lookup k with
    | none => some (put k (.tables [[]]) es)
    | some (.tables items) => some (put k (.tables ([] :: items)) es)
    | some _ => none
  | k :: next :: ks, es =>
    match es.lookup k with
    | none => do return put k (.table .implicit (← defineItem (next :: ks) [])) es
    | some (.table d inner) => do return put k (.table d (← defineItem (next :: ks) inner)) es
    | some (.tables items) => do return put k (.tables (← onLast (defineItem (next :: ks)) items)) es
    | some (.value _) => none

def inside (f : Entries → Option Entries) : List String → Entries → Option Entries
  | [], es => f es
  | k :: ks, es =>
    match es.lookup k with
    | some (.table d inner) => do return put k (.table d (← inside f ks inner)) es
    | some (.tables items) => do return put k (.tables (← onLast (inside f ks) items)) es
    | _ => none

mutual
def Node.finish : Node → Toml
  | .value v => v
  | .table _ es => .table (finishEntries es)
  | .tables items => .array (finishItems items).reverse

def finishEntries : List (String × Node) → List (String × Toml)
  | [] => []
  | (k, n) :: rest => (k, n.finish) :: finishEntries rest

def finishItems : List (List (String × Node)) → List Toml
  | [] => []
  | es :: rest => .table (finishEntries es) :: finishItems rest
end

end Toml
end RelayHub
