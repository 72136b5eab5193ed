import RelayHub.Json.Reader

/-! Strings and comments of TOML texts. Basic strings have escapes and literal strings have none; with
three quotes a string goes over lines. Each function reads after the opening quotes and returns the
text and the characters behind the closing ones. -/
namespace RelayHub.Toml

def isHidden (c : Char) : Bool := (c.toNat < 0x20 && c ≠ '\t') || c.toNat = 0x7F

def isBlank (c : Char) : Bool := c = ' ' || c = '\t'

def hexDigit? (c : Char) : Option Nat :=
  if c.toNat < 0x80 then Json.hexValue (UInt8.ofNat c.toNat) else none

def hexNumber? (cs : List Char) : Option Nat :=
  cs.foldl (fun n c => do return (← n) * 16 + (← hexDigit? c)) (some 0)

def scalar? (cs : List Char) : Option Char := do
  let n ← hexNumber? cs
  if n < 0xD800 ∨ (0xDFFF < n ∧ n < 0x110000) then some (Char.ofNat n) else none

def shortEscape? (c : Char) : Option Char :=
  match c with
  | 'b' => some '\x08'
  | 't' => some '\t'
  | 'n' => some '\n'
  | 'f' => some '\x0c'
  | 'r' => some '\r'
  | 'e' => some '\x1b'
  | '"' => some '"'
  | '\\' => some '\\'
  | _ => none

def prepend (c : Char) (r : Option (List Char × List Char)) : Option (List Char × List Char) :=
  r.map fun (text, rest) => (c :: text, rest)

def basic : List Char → Option (List Char × List Char)
  | [] => none
  | '"' :: rest => some ([], rest)
  | '\\' :: 'x' :: a :: b :: rest => do prepend (← scalar? [a, b]) (basic rest)
  | '\\' :: 'u' :: a :: b :: c :: d :: rest => do prepend (← scalar? [a, b, c, d]) (basic rest)
  | '\\' :: 'U' :: a :: b :: c :: d :: e :: f :: g :: h :: rest => do
    prepend (← scalar? [a, b, c, d, e, f, g, h]) (basic rest)
  | '\\' :: c :: rest => do prepend (← shortEscape? c) (basic rest)
  | c :: rest => if isHidden c ∨ c = '\\' then none else prepend c (basic rest)

/- Behind a backslash at the end of a line: its line feed is still to come, or all blanks and line
feeds up to the next text are passed over. -/
inductive Fold where
  | none
  | toLineEnd
  | toText
  deriving DecidableEq, Repr

def basicLines : Fold → List Char → Option (List Char × List Char)
  | .toLineEnd, ' ' :: rest => basicLines .toLineEnd rest
  | .toLineEnd, '\t' :: rest => basicLines .toLineEnd rest
  | .toLineEnd, '\n' :: rest => basicLines .toText rest
  | .toLineEnd, '\r' :: '\n' :: rest => basicLines .toText rest
  | .toLineEnd, _ => none
  | .toText, ' ' :: rest => basicLines .toText rest
  | .toText, '\t' :: rest => basicLines .toText rest
  | .toText, '\n' :: rest => basicLines .toText rest
  | .toText, '\r' :: '\n' :: rest => basicLines .toText rest
  | _, '"' :: '"' :: '"' :: '"' :: '"' :: rest => some (['"', '"'], rest)
  | _, '"' :: '"' :: '"' :: '"' :: rest => some (['"'], rest)
  | _, '"' :: '"' :: '"' :: rest => some ([], rest)
  | _, '\\' :: 'x' :: a :: b :: rest => do prepend (← scalar? [a, b]) (basicLines .none rest)
  | _, '\\' :: 'u' :: a :: b :: c :: d :: rest => do
    prepend (← scalar? [a, b, c, d]) (basicLines .none rest)
  | _, '\\' :: 'U' :: a :: b :: c :: d :: e :: f :: g :: h :: rest => do
    prepend (← scalar? [a, b, c, d, e, f, g, h]) (basicLines .none rest)
  | _, '\\' :: c :: rest =>
    if isBlank c ∨ c = '\n' ∨ c = '\r' then basicLines .toLineEnd (c :: rest)
    else do prepend (← shortEscape? c) (basicLines .none rest)
  | _, '\n' :: rest => prepend '\n' (basicLines .none rest)
  | _, '\r' :: '\n' :: rest => prepend '\r' (prepend '\n' (basicLines .none rest))
  | _, c :: rest => if isHidden c ∨ c = '\\' then none else prepend c (basicLines .none rest)
  | _, [] => none

def literal : List Char → Option (List Char × List Char)
  | [] => none
  | '\'' :: rest => some ([], rest)
  | c :: rest => if isHidden c then none else prepend c (literal rest)

def literalLines : List Char → Option (List Char × List Char)
  | [] => none
  | '\'' :: '\'' :: '\'' :: '\'' :: '\'' :: rest => some (['\'', '\''], rest)
  | '\'' :: '\'' :: '\'' :: '\'' :: rest => some (['\''], rest)
  | '\'' :: '\'' :: '\'' :: rest => some ([], rest)
  | '\n' :: rest => prepend '\n' (literalLines rest)
  | '\r' :: '\n' :: rest => prepend '\r' (prepend '\n' (literalLines rest))
  | c :: rest => if isHidden c then none else prepend c (literalLines rest)

def withoutBreak : List Char → List Char
  | '\n' :: rest => rest
  | '\r' :: '\n' :: rest => rest
  | cs => cs

def string? : List Char → Option (String × List Char)
  | '"' :: '"' :: '"' :: rest => (basicLines .none (withoutBreak rest)).map made
  | '"' :: rest => (basic rest).map made
  | '\'' :: '\'' :: '\'' :: rest => (literalLines (withoutBreak rest)).map made
  | '\'' :: rest => (literal rest).map made
  | _ => none
where
  made (r : List Char × List Char) : String × List Char := (String.ofList r.1, r.2)

def skipFill (inComment : Bool) : List Char → Option (List Char)
  | [] => some []
  | '\n' :: rest => skipFill false rest
  | '\r' :: '\n' :: rest => skipFill false rest
  | c :: rest =>
    if inComment then (if isHidden c then none else skipFill true rest)
    else if isBlank c then skipFill false rest
    else if c = '#' then skipFill true rest
    else some (c :: rest)

def lineEnd (inComment : Bool) : List Char → Option (List Char)
  | [] => some []
  | '\n' :: rest => some rest
  | '\r' :: '\n' :: rest => some rest
  | c :: rest =>
    if inComment then (if isHidden c then none else lineEnd true rest)
    else if isBlank c then lineEnd false rest
    else if c = '#' then lineEnd true rest
    else none

end RelayHub.Toml
