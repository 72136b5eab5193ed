import RelayHub.Toml.Scalar

/-! Reading TOML texts. A text is a list of lines: headers, names with values, and blank ones. Arrays and
inline tables nest at most eighty levels deep, and a dotted name has at most eighty parts; what is left of
these is what the recursion runs on. -/
namespace RelayHub.Toml

def skipBlank (cs : List Char) : List Char := cs.dropWhile isBlank

def isNameChar (c : Char) : Bool := c.isAlphanum || c = '_' || c = '-'

def name? : List Char → Option (String × List Char)
  | '"' :: rest => (basic rest).map fun r => (String.ofList r.1, r.2)
  | '\'' :: rest => (literal rest).map fun r => (String.ofList r.1, r.2)
  | cs =>
    match cs.takeWhile isNameChar with
    | [] => none
    | name => some (String.ofList name, cs.dropWhile isNameChar)

def maxDepth : Nat := 80

def parts? : Nat → List Char → Option (List String × List Char)
  | 0, _ => none
  | room + 1, cs => do
    let (name, rest) ← name? (skipBlank cs)
    match skipBlank rest with
    | '.' :: rest => do
      let (names, rest) ← parts? room rest
      return (name :: names, rest)
    | rest => return ([name], rest)

def names? (cs : List Char) : Option (List String × List Char) := parts? maxDepth cs

def isTokenChar (c : Char) : Bool :=
  c.isAlphanum || c = '_' || c = '-' || c = '+' || c = '.' || c = ':'

def isDate (cs : List Char) : Bool :=
  match date? cs with
  | some (_, []) => true
  | _ => false

def token (cs : List Char) : List Char × List Char :=
  let head := cs.takeWhile isTokenChar
  let rest := cs.dropWhile isTokenChar
  match rest with
  | ' ' :: c :: more =>
    if isDate head && c.isDigit then
      (head ++ ' ' :: (c :: more).takeWhile isTokenChar, (c :: more).dropWhile isTokenChar)
    else (head, rest)
  | _ => (head, rest)

def items? (item? : List Char → Option (Toml × List Char)) : Nat → List Char →
    Option (List Toml × List Char)
  | 0, _ => none
  | fuel + 1, cs => do
    match ← skipFill false cs with
    | ']' :: rest => return ([], rest)
    | cs =>
      let (v, rest) ← item? cs
      match ← skipFill false rest with
      | ',' :: rest =>
        let (vs, rest) ← items? item? fuel rest
        return (v :: vs, rest)
      | ']' :: rest => return ([v], rest)
      | _ => none

def members? (item? : List Char → Option (Toml × List Char)) : Nat → Entries → List Char →
    Option (Entries × List Char)
  | 0, _, _ => none
  | fuel + 1, es, cs => do
    match ← skipFill false cs with
    | '\x7d' :: rest => return (es, rest)
    | cs =>
      let (names, rest) ← names? cs
      match ← skipFill false rest with
      | '=' :: rest =>
        let (v, rest) ← item? (← skipFill false rest)
        let es ← assign v names es
        match ← skipFill false rest with
        | ',' :: rest => members? item? fuel es rest
        | '\x7d' :: rest => return (es, rest)
        | _ => none
      | _ => none

/- A value; `depth` levels may still open in it, and `room` is more than the length of the text. -/
def value? (room : Nat) : (depth : Nat) → List Char → Option (Toml × List Char)
  | depth, c :: rest =>
    if c = '"' ∨ c = '\'' then (string? (c :: rest)).map fun r => (.text r.1, r.2)
    else if c = '[' then
      match depth with
      | 0 => none
      | depth + 1 => (items? (value? room depth) room rest).map fun r => (.array r.1, r.2)
    else if c = '\x7b' then
      match depth with
      | 0 => none
      | depth + 1 =>
        (members? (value? room depth) room [] rest).map fun r =>
          (.table (finishEntries r.1), r.2)
    else do
      let (cs, rest) := token (c :: rest)
      return (← scalarValue? cs, rest)
  | _, [] => none

structure Draft where
  root : Entries := []
  header : List String := []

def line? (room : Nat) (d : Draft) : List Char → Option (Draft × List Char)
  | '[' :: '[' :: rest => do
    match ← names? rest with
    | (names, ']' :: ']' :: rest) =>
      return ({ root := ← defineItem names d.root, header := names }, ← lineEnd false rest)
    | _ => none
  | '[' :: rest => do
    match ← names? rest with
    | (names, ']' :: rest) =>
      return ({ root := ← defineTable names d.root, header := names }, ← lineEnd false rest)
    | _ => none
  | cs => do
    match ← names? cs with
    | (names, '=' :: rest) =>
      let (v, rest) ← value? room maxDepth (skipBlank rest)
      return ({ d with root := ← inside (assign v names) d.header d.root }, ← lineEnd false rest)
    | _ => none

def lines? (room : Nat) : Nat → Draft → List Char → Option Draft
  | 0, _, _ => none
  | fuel + 1, d, cs => do
    match ← skipFill false cs with
    | [] => return d
    | cs =>
      let (d, rest) ← line? room d cs
      lines? room fuel d rest

def withoutMark : List Char → List Char
  | '\uFEFF' :: rest => rest
  | cs => cs

def read? (text : String) : Option (List (String × Toml)) := do
  let cs := withoutMark text.toList
  let room := cs.length + 1
  return finishEntries (← lines? room room {} cs).root

end RelayHub.Toml
