import RelayHub.Log.Pattern.Basic

/-! Classes of characters in brackets. A class holds characters, ranges, sets, classes by name and other
classes, and operators join what stands on both sides of them. -/
namespace RelayHub.Log.Pattern

structure ClassDraft where
  row : Row := {}
  left : Option Nat := none
  isFresh : Bool := false
  deriving DecidableEq, Repr

namespace ClassDraft

def add (d : ClassDraft) (height : Nat) : ClassDraft :=
  { d with row := d.row.add height, isFresh := false }

def height (d : ClassDraft) : Nat :=
  match d.left with
  | some left => max left d.row.height + 1
  | none => d.row.height

def joined (d : ClassDraft) : ClassDraft := { left := some d.height }

end ClassDraft

def openClass? (f : Flags) (cs : List Char) : Option (ClassDraft × List Char) :=
  match f.skip cs with
  | '^' :: rest => if f.allowsComplement then some ({ isFresh := true }, rest) else none
  | rest => some ({ isFresh := true }, rest)

def classNames : List String :=
  ["alnum", "alpha", "ascii", "blank", "cntrl", "digit", "graph", "lower", "print", "punct", "space",
    "upper", "word", "xdigit"]

def namedClass? : List Char → Option (Bool × List Char)
  | ':' :: rest =>
    let (isComplement, rest) := match rest with
      | '^' :: rest => (true, rest)
      | rest => (false, rest)
    match rest.dropWhile (· ≠ ':') with
    | ':' :: ']' :: after =>
      if classNames.contains (String.ofList (rest.takeWhile (· ≠ ':'))) then some (isComplement, after)
      else none
    | _ => none
  | _ => none

def member? (f : Flags) : List Char → Option (Option Nat × List Char)
  | [] => none
  | '\\' :: rest => do
    match ← escape? f rest with
    | (.character code isOctet, rest) =>
      if f.allowsCharacter true isOctet code then return (some code, rest) else none
    | (.set isComplement, rest) => if f.allowsSet isComplement then return (none, rest) else none
    | (.textEdge, _) | (.wordEdge, _) => none
  | c :: rest => if f.allowsCharacter true false c.toNat then some (some c.toNat, rest) else none

def range? (f : Flags) (cs : List Char) : Option (List Char) := do
  let (first, rest) ← member? f cs
  match f.skip rest with
  | '-' :: after =>
    if f.peek after = some ']' ∨ f.peek after = some '-' then return '-' :: after
    else
      match first, ← member? f (f.skip after) with
      | some low, (some high, rest) => if low ≤ high then return rest else none
      | _, _ => none
  | rest => return rest

def classRest? (f : Flags) : Nat → (outer : List ClassDraft) → ClassDraft → List Char →
    Option (Nat × List Char)
  | 0, _, _, _ => none
  | fuel + 1, outer, d, cs =>
    match f.skip cs with
    | [] => none
    | c :: rest =>
      if d.isFresh ∧ (c = '-' ∨ (c = ']' ∧ d.row.size = 0)) then
        if f.allowsCharacter true false c.toNat then
          classRest? f fuel outer { d with row := d.row.add 0, isFresh := c = '-' } rest
        else none
      else if c = '[' then
        match namedClass? rest with
        | some (isComplement, rest) =>
          if f.allowsName isComplement then classRest? f fuel outer (d.add 0) rest else none
        | none => do
          let (inner, rest) ← openClass? f rest
          classRest? f fuel ({ d with isFresh := false } :: outer) inner rest
      else if c = ']' then
        match outer with
        | [] => some (d.height + 1, rest)
        | parent :: outer => classRest? f fuel outer (parent.add (d.height + 1)) rest
      else if (c = '&' ∨ c = '-' ∨ c = '~') ∧ rest.head? = some c then
        classRest? f fuel outer d.joined (rest.drop 1)
      else do
        let rest ← range? f (c :: rest)
        classRest? f fuel outer (d.add 0) rest

def class? (f : Flags) (cs : List Char) : Option (Nat × List Char) := do
  let (d, rest) ← openClass? f cs
  classRest? f (rest.length + 1) [] d rest

end RelayHub.Log.Pattern
