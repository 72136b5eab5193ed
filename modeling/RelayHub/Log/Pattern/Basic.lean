import RelayHub.Text.Space

/-! What patterns are made of: flags, escapes, and rows of parts with their heights. There are no
tables of other alphabets here. A pattern that asks for one is not supported: by a set of letters, digits
or blanks of any script, by the edge of a word, or by letters in any case. Nor is one that lets an octet in
that is no character. -/
namespace RelayHub.Log.Pattern

structure Flags where
  anyCase : Bool := false
  unicode : Bool := true
  spaced : Bool := false
  deriving DecidableEq, Repr

namespace Flags

def skipFill (inComment : Bool) : List Char → List Char
  | [] => []
  | c :: rest =>
    if inComment then skipFill (c ≠ '\n') rest
    else if Space.isSpace c then skipFill false rest
    else if c = '#' then skipFill true rest
    else c :: rest

def skip (f : Flags) (cs : List Char) : List Char := if f.spaced then skipFill false cs else cs

/- The next character behind blanks. Of a comment only its mark is passed over here, and where nothing
is left the first blank counts. -/
def peek (f : Flags) (cs : List Char) : Option Char :=
  if f.spaced then
    let bare := match cs.dropWhile Space.isSpace with
      | '#' :: rest => rest.dropWhile Space.isSpace
      | bare => bare
    bare.head?.or cs.head?
  else cs.head?

def allowsCharacter (f : Flags) (inClass isOctet : Bool) (code : Nat) : Bool :=
  if f.unicode then !f.anyCase else code < 0x80 || !(inClass || isOctet)

def allowsComplement (f : Flags) : Bool := f.unicode

def allowsSet (f : Flags) (isComplement : Bool) : Bool := !f.unicode && !isComplement

def allowsName (f : Flags) (isComplement : Bool) : Bool :=
  if f.unicode then !f.anyCase else !isComplement

def allowsAny (f : Flags) : Bool := f.unicode

def allowsWordEdge (f : Flags) : Bool := !f.unicode

end Flags

/- The heights of parts in a row. A row of two or more parts is one higher than the highest of them. -/
structure Row where
  size : Nat := 0
  before : Nat := 0
  last : Option Nat := none
  deriving DecidableEq, Repr

namespace Row

def highest (r : Row) : Nat := max r.before (r.last.getD 0)

def height (r : Row) : Nat := if r.size ≤ 1 then r.highest else r.highest + 1

def add (r : Row) (height : Nat) : Row := ⟨r.size + 1, r.highest, some height⟩

def addFlags (r : Row) : Row := ⟨r.size + 1, r.highest, none⟩

def repeat? (r : Row) : Option Row := r.last.map fun height => { r with last := some (height + 1) }

end Row

inductive Escape where
  | character (code : Nat) (isOctet : Bool)
  | set (isComplement : Bool)
  | textEdge
  | wordEdge
  deriving DecidableEq, Repr

def hexDigit? (c : Char) : Option Nat :=
  if c.isDigit then some (c.toNat - 0x30)
  else if 'a' ≤ c ∧ c ≤ 'f' then some (c.toNat - 0x61 + 10)
  else if 'A' ≤ c ∧ c ≤ 'F' then some (c.toNat - 0x41 + 10)
  else none

def hexNumber? (f : Flags) : (digits : Nat) → (number : Nat) → List Char → Option (Nat × List Char)
  | 0, n, cs => some (n, cs)
  | digits + 1, n, cs =>
    match f.skip cs with
    | [] => none
    | c :: rest => do hexNumber? f digits (n * 16 + (← hexDigit? c)) rest

def numbered? (f : Flags) (digits : Nat) (cs : List Char) : Option (Escape × List Char) := do
  let (code, rest) ← hexNumber? f digits 0 cs
  if 0x10FFFF < code ∨ (0xD800 ≤ code ∧ code ≤ 0xDFFF) then none
  else some (.character code (digits = 2), rest)

def control? (c : Char) : Option Nat :=
  match c with
  | 'a' => some 0x7
  | 't' => some 0x9
  | 'n' => some 0xA
  | 'v' => some 0xB
  | 'f' => some 0xC
  | 'r' => some 0xD
  | _ => none

def escape? (f : Flags) : List Char → Option (Escape × List Char)
  | [] => none
  | c :: rest =>
    if "dsw".toList.contains c then some (.set false, rest)
    else if "DSW".toList.contains c then some (.set true, rest)
    else if c = 'x' then numbered? f 2 rest
    else if c = 'u' then numbered? f 4 rest
    else if c = 'U' then numbered? f 8 rest
    else if c = 'A' ∨ c = 'z' then some (.textEdge, rest)
    else if "bB<>".toList.contains c then some (.wordEdge, rest)
    else if c.toNat < 0x80 ∧ ¬ c.isAlphanum then some (.character c.toNat false, rest)
    else (control? c).map fun code => (.character code false, rest)

end RelayHub.Log.Pattern
