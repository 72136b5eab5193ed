import RelayHub.Text.Alphanumeric
import RelayHub.Text.Space
import RelayHub.Text.Utf8

/-! Variables preset by a file beside the program. A line names a variable and its value; quotes keep
blanks and line breaks, a dollar sign stands before a variable to be put in, and a mark starts a comment.
Reading stops at the first line that is malformed. A variable that is set already stays as it is. -/
namespace RelayHub.Settings.Preset

abbrev Variables := List (String × String)

def get? (name : String) : Variables → Option String
  | [] => none
  | (other, value) :: rest => if other = name then some value else get? name rest

def put (name value : String) : Variables → Variables
  | [] => [(name, value)]
  | (other, old) :: rest =>
    if other = name then (name, value) :: rest else (other, old) :: put name value rest

inductive LineState where
  | complete
  | blank
  | escape
  | strong
  | strongEscape
  | weak
  | weakEscape
  deriving DecidableEq, Repr

def lineStep (s : LineState) (c : Char) : LineState :=
  match s with
  | .complete =>
    if Space.isSpace c && c ≠ '\n' && c ≠ '\r' then .blank
    else if c = '\\' then .escape
    else if c = '"' then .weak
    else if c = '\'' then .strong
    else .complete
  | .blank =>
    if c = '\\' then .escape
    else if c = '"' then .weak
    else if c = '\'' then .strong
    else .complete
  | .escape => .complete
  | .weak => if c = '\\' then .weakEscape else if c = '"' then .complete else .weak
  | .weakEscape => .weak
  | .strong => if c = '\\' then .strongEscape else if c = '\'' then .complete else .strong
  | .strongEscape => .strong

inductive LineEnd where
  | whole
  | comment (size : Nat)
  | open (s : LineState)
  deriving DecidableEq, Repr

def scan : LineState → Nat → List Char → LineEnd
  | s, _, [] => if s = .complete then .whole else .open s
  | s, n, c :: rest =>
    if s = .blank ∧ c = '#' then .comment n else scan (lineStep s c) (n + 1) rest

def physical : List Char → List (List Char)
  | [] => []
  | c :: rest =>
    if c = '\n' then [c] :: physical rest
    else
      match physical rest with
      | [] => [[c]]
      | line :: more => (c :: line) :: more

def chomp (cs : List Char) : List Char :=
  match cs.reverse with
  | '\n' :: '\r' :: rest => rest.reverse
  | '\n' :: rest => rest.reverse
  | _ => cs

structure Draft where
  begins : Option Char := none
  pieces : List (List Char) := []
  deriving DecidableEq, Repr

def Draft.add (d : Draft) (piece : List Char) : Draft where
  begins := d.begins.or (Space.trimStart piece).head?
  pieces := piece :: d.pieces

def Draft.text (d : Draft) : List Char := d.pieces.reverse.flatten

def logical (s : LineState) (d : Draft) : List (List Char) → List (Option (List Char))
  | [] => if s = .complete then [] else [none]
  | line :: rest =>
    let whole := d.add line
    if whole.begins = some '#' then some [] :: logical .complete {} rest
    else
      match scan s 0 line with
      | .whole => some (chomp whole.text) :: logical .complete {} rest
      | .comment n => some (d.add (line.take n)).text :: logical .complete {} rest
      | .open s => logical s whole rest

inductive Substitution where
  | none
  | name
  | braces
  deriving DecidableEq, Repr

/- A value under way. Names and output are kept last character first. -/
structure ValueState where
  strong : Bool := false
  weak : Bool := false
  escaped : Bool := false
  ended : Bool := false
  commented : Bool := false
  mode : Substitution := .none
  name : List Char := []
  output : List Char := []

def escapable? (c : Char) : Option Char :=
  if c = '\\' ∨ c = '\'' ∨ c = '"' ∨ c = '$' ∨ c = ' ' then some c
  else if c = 'n' then some '\n'
  else none

def substitute (lookup : String → String) (v : ValueState) : ValueState :=
  { v with output := (lookup (String.ofList v.name.reverse)).toList.reverse ++ v.output, name := [] }

def valueStep (lookup : String → String) (v : ValueState) (c : Char) : Option ValueState :=
  if v.commented then some v
  else if v.ended then
    if c = ' ' ∨ c = '\t' then some v
    else if c = '#' then some { v with commented := true }
    else none
  else if v.escaped then do
    return { v with escaped := false, output := (← escapable? c) :: v.output }
  else if v.strong then
    if c = '\'' then some { v with strong := false }
    else some { v with output := c :: v.output }
  else
    match v.mode with
    | .name =>
      if Alphanumeric.isAlphanumeric c then some { v with name := c :: v.name }
      else if c = '\x7b' ∧ v.name.isEmpty then some { v with mode := .braces }
      else
        let v := substitute lookup v
        if c = '$' then some { v with mode := .name }
        else some { v with mode := .none, output := c :: v.output }
    | .braces =>
      if c = '\x7d' then some { substitute lookup v with mode := .none }
      else some { v with name := c :: v.name }
    | .none =>
      if c = '$' then some { v with mode := .name }
      else if v.weak then
        if c = '"' then some { v with weak := false }
        else if c = '\\' then some { v with escaped := true }
        else some { v with output := c :: v.output }
      else if c = '\'' then some { v with strong := true }
      else if c = '"' then some { v with weak := true }
      else if c = '\\' then some { v with escaped := true }
      else if c = ' ' ∨ c = '\t' then some { v with ended := true }
      else some { v with output := c :: v.output }

def value? (lookup : String → String) (cs : List Char) : Option String := do
  let v ← cs.foldlM (valueStep lookup) ({} : ValueState)
  if v.mode = .braces ∨ v.strong ∨ v.weak then none
  else return String.ofList (substitute lookup v).output.reverse

def isAsciiLetter (c : Char) : Bool := c.isAlpha

def isNameChar (c : Char) : Bool := c.isAlphanum || c = '_' || c = '.'

def name? (cs : List Char) : Option (String × List Char) :=
  match cs with
  | [] => none
  | c :: _ =>
    if isAsciiLetter c || c = '_' then
      some (String.ofList (cs.takeWhile isNameChar), cs.dropWhile isNameChar)
    else none

def afterEquals? : List Char → Option (List Char)
  | '=' :: rest => some rest
  | _ => none

def assignment? (cs : List Char) : Option (String × List Char) := do
  let (name, rest) ← name? cs
  let rest := Space.trimStart rest
  match afterEquals? rest with
  | some rest => return (name, Space.trimStart rest)
  | none =>
    if name = "export" then
      let (name, rest) ← name? rest
      return (name, Space.trimStart (← afterEquals? (Space.trimStart rest)))
    else none

structure Reading where
  environment : Variables
  stored : Variables := []

def Reading.lookup (r : Reading) (name : String) : String :=
  ((get? name r.environment).or (get? name r.stored)).getD ""

def Reading.set (r : Reading) (name value : String) : Reading where
  environment :=
    if (get? name r.environment).isSome then r.environment else r.environment ++ [(name, value)]
  stored := put name value r.stored

def line? (r : Reading) (line : List Char) : Option Reading :=
  let cs := Space.trimStart (Space.trimEnd line)
  if cs.isEmpty ∨ cs.head? = some '#' then some r
  else do
    let (name, text) ← assignment? cs
    if text.isEmpty ∨ text.head? = some '#' then return r.set name ""
    else return r.set name (← value? r.lookup text)

def lines (r : Reading) : List (Option (List Char)) → Reading
  | [] => r
  | none :: _ => r
  | some line :: rest =>
    match line? r line with
    | some r => lines r rest
    | none => r

/- The text up to the first octets that are none, where reading stops at a line that holds them. -/
def readable (content : Bytes) : List Char :=
  let parts := Utf8.parts content
  let good := (parts.takeWhile Option.isSome).filterMap id
  if good.length = parts.length then good
  else (good.reverse.dropWhile (· ≠ '\n')).reverse

def withoutMark : Bytes → Bytes
  | 0xEF :: 0xBB :: 0xBF :: rest => rest
  | content => content

def apply (content : Bytes) (environment : Variables) : Variables :=
  (lines { environment } (logical .complete {} (physical (readable (withoutMark content))))).environment

end RelayHub.Settings.Preset
