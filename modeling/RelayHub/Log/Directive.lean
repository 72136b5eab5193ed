import RelayHub.Log.Pattern
import RelayHub.Number.Reading
import RelayHub.Text.Space
import RelayHub.Text.Utf8

/-! Directives of a log filter. A directive has a rank, and says for what it counts: a part of the program,
a span of work in brackets, and fields in braces inside the brackets. It is read character by character
with the blanks around it left out, but its parts are cut out of the text with the blanks, at the same
number of octets. -/
namespace RelayHub.Log

abbrev Rank := Nat

def ranks : List (String × Rank) :=
  [("off", 0), ("error", 1), ("warn", 2), ("info", 3), ("debug", 4), ("trace", 5)]

def rank? (cs : List Char) : Option Rank :=
  match (Digits.unsigned? cs).filter (· ≤ 5) with
  | some n => some n
  | none =>
    let word := String.ofList (cs.map Char.toLower)
    (ranks.find? fun r => r.1 = word).map (·.2)

structure FieldTest where
  name : String
  matched : Bool
  deriving DecidableEq, Repr

structure Directive where
  target : Option String := none
  span : Option String := none
  fields : List FieldTest := []
  rank : Rank := 5
  deriving DecidableEq, Repr

namespace Directive

inductive Fault where
  | malformed
  /- A part would begin or end inside a character. -/
  | cut
  deriving DecidableEq, Repr

def isEdge (text : Bytes) (place : Nat) : Bool :=
  match text[place]? with
  | some b => b < 0x80 || 0xC0 ≤ b
  | none => place = text.length

def part (text : Bytes) (start stop : Nat) : Except Fault String :=
  if isEdge text start && isEdge text stop then
    match Utf8.decode ((text.take stop).drop start) with
    | some s => .ok s
    | none => .error .cut
  else .error .cut

def fieldTest (s : String) : Except Fault FieldTest :=
  let cs := s.toList
  let name := String.ofList (cs.takeWhile (· ≠ '='))
  match cs.dropWhile (· ≠ '=') with
  | [] => if cs.isEmpty then .error .malformed else .ok ⟨name, false⟩
  | _ :: rest =>
    let value := rest.takeWhile (· ≠ '=')
    if (Binary64.ofText? value).isSome ∨ Pattern.isWellFormed value then .ok ⟨name, true⟩
    else .error .malformed

inductive Stage where
  | start
  | word (opened : Nat)
  | span (opened : Nat)
  | field (opened : Nat)
  | fieldsEnd
  | spanEnd
  | rank (opened : Nat)
  deriving DecidableEq, Repr

structure Reading where
  size : Nat := 0
  stage : Stage := .start
  directive : Directive := {}
  deriving DecidableEq, Repr

def mayBegin (c : Char) : Bool :=
  c = '-' || c = ':' || c = '_' || Alphanumeric.isAlphanumeric c

def Stage.next (text : Bytes) (d : Directive) (place : Nat) (c : Char) :
    Stage → Except Fault (Stage × Directive)
  | .start =>
    if c = '[' then .ok (.span (place + 1), d)
    else if mayBegin c then .ok (.word place, d)
    else .error .malformed
  | .word opened => do
    if c = '=' then return (.rank (place + 1), { d with target := some (← part text opened place) })
    else if c = '[' then return (.span (place + 1), { d with target := some (← part text opened place) })
    else return (.word opened, d)
  | .span opened => do
    if c = ']' then return (.spanEnd, { d with span := some (← part text opened place) })
    else if c = '\x7b' then
      let name ← part text opened place
      return (.field (place + 1), { d with span := if name.isEmpty then none else some name })
    else return (.span opened, d)
  | .field opened => do
    if c = '\x7d' then
      return (.fieldsEnd, { d with fields := d.fields ++ [← fieldTest (← part text opened place)] })
    else return (.field opened, d)
  | .fieldsEnd => if c = ']' then .ok (.spanEnd, d) else .error .malformed
  | .spanEnd => if c = '=' then .ok (.rank (place + 1), d) else .error .malformed
  | .rank opened => .ok (.rank opened, d)

def Reading.step (text : Bytes) (r : Reading) (c : Char) : Except Fault Reading := do
  let (stage, directive) ← r.stage.next text r.directive r.size c
  return { size := r.size + (Utf8.encodeChar c).length, stage, directive }

def Reading.finish (text : Bytes) (r : Reading) : Except Fault Directive :=
  match r.stage with
  | .word opened => do
    let word ← part text opened text.length
    match rank? word.toList with
    | some rank => return { r.directive with rank, target := none }
    | none => return { r.directive with target := some word }
  | .rank opened => do
    let word ← part text opened text.length
    if word.isEmpty then return r.directive
    else
      match rank? word.toList with
      | some rank => return { r.directive with rank }
      | none => .error .malformed
  | .spanEnd => .ok r.directive
  | .start | .span _ | .field _ | .fieldsEnd => .error .malformed

def read (cs : List Char) : Except Fault Directive := do
  let text := Utf8.encodeChars cs
  let r ← (Space.trim cs).foldlM (Reading.step text) {}
  r.finish text

end Directive
end RelayHub.Log
