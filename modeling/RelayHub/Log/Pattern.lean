import RelayHub.Log.Pattern.Class
import RelayHub.Text.Alphanumeric

/-! Patterns that the value of a field may be matched with. Only their form is told here: brackets and
parentheses are paired, a repetition has something to repeat, every part is supported, and the parts do not
nest too deep. Counted repetitions and whatever else needs braces are left out, because no pattern of a
directive can hold a closing brace. -/
namespace RelayHub.Log.Pattern

inductive Opening where
  | group (name : Option String) (flags : Flags)
  | flags (flags : Flags)
  deriving DecidableEq, Repr

def isNameChar (c : Char) : Bool :=
  Alphanumeric.isAlphanumeric c || c = '_' || c = '.' || c = '[' || c = ']'

def groupName? (cs : List Char) : Option (String × List Char) :=
  let name := cs.takeWhile isNameChar
  match name, cs.dropWhile isNameChar with
  | c :: _, '>' :: rest =>
    if Alphanumeric.isAlphabetic c ∨ c = '_' then some (String.ofList name, rest) else none
  | _, _ => none

def areFlags (cs : List Char) : Bool :=
  cs.all "imsUuRx-".toList.contains && cs.eraseDups.length = cs.length && cs.getLast? ≠ some '-'

def changed (letter : Char) (letters : List Char) (flag : Bool) : Bool :=
  if letters.contains letter then !(letters.takeWhile (· ≠ letter)).contains '-' else flag

def Flags.change (f : Flags) (letters : List Char) : Flags where
  anyCase := changed 'i' letters f.anyCase
  unicode := changed 'u' letters f.unicode
  spaced := changed 'x' letters f.spaced

def opening? (f : Flags) : List Char → Option (Opening × List Char)
  | '?' :: 'P' :: '<' :: rest | '?' :: '<' :: rest =>
    (groupName? rest).map fun (name, rest) => (.group (some name) f, rest)
  | '?' :: rest =>
    let letters := rest.takeWhile fun c => c ≠ ':' && c ≠ ')'
    if areFlags letters then
      match rest.drop letters.length with
      | ':' :: rest => some (.group none (f.change letters), rest)
      | ')' :: rest => if letters.isEmpty then none else some (.flags (f.change letters), rest)
      | _ => none
    else none
  | cs => some (.group none f, cs)

structure GroupDraft where
  row : Row := {}
  alternatives : Option Nat := none
  deriving DecidableEq, Repr

namespace GroupDraft

def height (d : GroupDraft) : Nat :=
  match d.alternatives with
  | some height => max height d.row.height + 1
  | none => d.row.height

def add (d : GroupDraft) (height : Nat) : GroupDraft := { d with row := d.row.add height }

def alternative (d : GroupDraft) : GroupDraft where
  alternatives := some (max (d.alternatives.getD 0) d.row.height)

end GroupDraft

structure Reading where
  flags : Flags := {}
  draft : GroupDraft := {}
  /- The groups around, the innermost first, each with the flags that come back behind this one. -/
  outer : List (Flags × GroupDraft) := []
  names : List String := []
  deriving DecidableEq, Repr

namespace Reading

def add (r : Reading) (height : Nat) : Reading := { r with draft := r.draft.add height }

def addIf (r : Reading) (isAllowed : Bool) : Option Reading := if isAllowed then some (r.add 0) else none

def openGroup (r : Reading) (flags : Flags) (name : Option String) : Option Reading :=
  if name.any r.names.contains then none
  else some {
    flags
    draft := {}
    outer := (r.flags, r.draft) :: r.outer
    names := name.toList ++ r.names }

def closeGroup (r : Reading) : Option Reading :=
  match r.outer with
  | [] => none
  | (flags, draft) :: outer => some { r with flags, draft := draft.add (r.draft.height + 1), outer }

def addEscape (r : Reading) : Escape → Option Reading
  | .character code isOctet => r.addIf (r.flags.allowsCharacter false isOctet code)
  | .set isComplement => r.addIf (r.flags.allowsSet isComplement)
  | .textEdge => r.addIf true
  | .wordEdge => r.addIf r.flags.allowsWordEdge

def withoutReluctance : List Char → List Char
  | '?' :: rest => rest
  | cs => cs

def next? (r : Reading) (c : Char) (rest : List Char) : Option (Reading × List Char) := do
  match c with
  | '(' =>
    match ← opening? r.flags (r.flags.skip rest) with
    | (.group name flags, rest) => return (← r.openGroup flags name, rest)
    | (.flags flags, rest) =>
      return ({ r with flags, draft := { r.draft with row := r.draft.row.addFlags } }, rest)
  | ')' => return (← r.closeGroup, rest)
  | '|' => return ({ r with draft := r.draft.alternative }, rest)
  | '*' | '+' | '?' =>
    return ({ r with draft := { r.draft with row := ← r.draft.row.repeat? } }, withoutReluctance rest)
  | '[' =>
    let (height, rest) ← class? r.flags rest
    return (r.add height, rest)
  | '\\' =>
    let (e, rest) ← escape? r.flags rest
    return (← r.addEscape e, rest)
  | '.' => return (← r.addIf r.flags.allowsAny, rest)
  | '^' | '$' => return (r.add 0, rest)
  | '\x7b' => none
  | c => return (← r.addIf (r.flags.allowsCharacter false false c.toNat), rest)

def maxHeight : Nat := 250

def isComplete : Nat → Reading → List Char → Bool
  | 0, _, _ => false
  | fuel + 1, r, cs =>
    match r.flags.skip cs with
    | [] => r.outer.isEmpty && r.draft.height ≤ maxHeight
    | c :: rest =>
      match r.next? c rest with
      | some (r, rest) => isComplete fuel r rest
      | none => false

end Reading

def isWellFormed (cs : List Char) : Bool := Reading.isComplete (cs.length + 1) {} cs

end RelayHub.Log.Pattern
