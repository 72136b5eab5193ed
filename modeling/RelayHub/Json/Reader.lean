import RelayHub.Json.Numeral

/-! Reading JSON texts from octets. Arrays and objects nest at most 127 levels deep; the level left
is what the recursion runs on. A repeated member name is kept, and an escape of a surrogate has to
be one half of a pair. -/
namespace RelayHub.Json

def isBlank (b : UInt8) : Bool := b = 0x20 || b = 0x09 || b = 0x0A || b = 0x0D

def skipBlank (s : Bytes) : Bytes := s.dropWhile isBlank

def hexValue (b : UInt8) : Option Nat :=
  if 0x30 ≤ b && b ≤ 0x39 then some (b.toNat - 0x30)
  else if 0x41 ≤ b && b ≤ 0x46 then some (b.toNat - 0x41 + 10)
  else if 0x61 ≤ b && b ≤ 0x66 then some (b.toNat - 0x61 + 10)
  else none

def hexNumber (ds : List UInt8) : Option Nat :=
  ds.foldl (fun n d => do return (← n) * 16 + (← hexValue d)) (some 0)

def shortEscape (b : UInt8) : Option Char :=
  if b = 0x22 then some '"'
  else if b = 0x5C then some '\\'
  else if b = 0x2F then some '/'
  else if b = 0x62 then some '\x08'
  else if b = 0x66 then some '\x0c'
  else if b = 0x6E then some '\n'
  else if b = 0x72 then some '\r'
  else if b = 0x74 then some '\t'
  else none

inductive StringState where
  | plain
  | escape
  | hex (digits : List UInt8) (high : Option Nat)
  | lowSlash (high : Nat)
  | lowLetter (high : Nat)
  deriving DecidableEq, Repr

/-- Ends a string: its octets, escapes put in, have to be UTF-8. The fault is looked for as many octets
before the end as are left of the text from the first octet that is not. `octets` holds what was
read, last first; `rest` is what follows the closing quote. -/
def endString (octets rest : Bytes) : Except Fault (String × Bytes) :=
  match Utf8.decode octets.reverse with
  | some text => .ok (text, rest)
  | none =>
    .error ⟨.invalidCodePoint, rest.length + octets.length - Utf8.validLength octets.reverse⟩

def escaped (octets : Bytes) (c : Char) : Bytes := (Utf8.encodeChar c).reverse ++ octets

def stringFrom : StringState → (octets : Bytes) → Bytes → Except Fault (String × Bytes)
  | _, _, [] => .error ⟨.endInString, 0⟩
  | .plain, octets, b :: rest =>
    if b = 0x22 then endString octets rest
    else if b = 0x5C then stringFrom .escape octets rest
    else if b < 0x20 then .error ⟨.controlCharacter, rest.length⟩
    else stringFrom .plain (b :: octets) rest
  | .escape, octets, b :: rest =>
    match shortEscape b with
    | some c => stringFrom .plain (escaped octets c) rest
    | none =>
      if b = 0x75 then stringFrom (.hex [] none) octets rest
      else .error ⟨.invalidEscape, rest.length⟩
  | .hex digits high, octets, b :: rest =>
    if digits.length < 3 then stringFrom (.hex (digits ++ [b]) high) octets rest
    else
      match hexNumber (digits ++ [b]), high with
      | none, _ => .error ⟨.invalidEscape, rest.length⟩
      | some n, none =>
        if 0xDC00 ≤ n ∧ n ≤ 0xDFFF then .error ⟨.loneSurrogate, rest.length⟩
        else if 0xD800 ≤ n ∧ n ≤ 0xDBFF then stringFrom (.lowSlash n) octets rest
        else stringFrom .plain (escaped octets (Char.ofNat n)) rest
      | some n, some first =>
        if 0xDC00 ≤ n ∧ n ≤ 0xDFFF then
          let code := (first - 0xD800) * 1024 + (n - 0xDC00) + 0x10000
          stringFrom .plain (escaped octets (Char.ofNat code)) rest
        else .error ⟨.loneSurrogate, rest.length⟩
  | .lowSlash high, octets, b :: rest =>
    if b = 0x5C then stringFrom (.lowLetter high) octets rest
    else .error ⟨.hexEscapeEnd, rest.length⟩
  | .lowLetter high, octets, b :: rest =>
    if b = 0x75 then stringFrom (.hex [] (some high)) octets rest
    else .error ⟨.hexEscapeEnd, rest.length⟩

def stringTail (s : Bytes) : Except Fault (String × Bytes) := stringFrom .plain [] s

def ident : List UInt8 → Bytes → Except Fault Bytes
  | [], s => .ok s
  | _ :: _, [] => .error ⟨.endInValue, 0⟩
  | expected :: more, b :: rest =>
    if b = expected then ident more rest else .error ⟨.identExpected, rest.length⟩

def letters (s : String) : List UInt8 := s.toList.map fun c => UInt8.ofNat c.toNat

def scalar (b : UInt8) (rest : Bytes) : Except Fault (Json × Bytes) :=
  if b = 0x6E then do return (.null, ← ident (letters "ull") rest)
  else if b = 0x74 then do return (.bool true, ← ident (letters "rue") rest)
  else if b = 0x66 then do return (.bool false, ← ident (letters "alse") rest)
  else if b = 0x2D then numeral true rest
  else if isDigit b then numeral false (b :: rest)
  else if b = 0x22 then do
    let (text, rest) ← stringTail rest
    return (.string text, rest)
  else .error ⟨.valueExpected, rest.length⟩

inductive Next where
  | done (rest : Bytes)
  | more (s : Bytes)

def nextElement (first : Bool) (s : Bytes) : Except Fault Next :=
  match skipBlank s with
  | [] => .error ⟨.endInList, 0⟩
  | b :: rest =>
    if b = 0x5D then .ok (.done rest)
    else if first then .ok (.more (b :: rest))
    else if b = 0x2C then
      match skipBlank rest with
      | [] => .error ⟨.endInValue, 0⟩
      | c :: after =>
        if c = 0x5D then .error ⟨.trailingComma, after.length⟩ else .ok (.more (c :: after))
    else .error ⟨.listCommaOrEndExpected, rest.length⟩

def nextMember (first : Bool) (s : Bytes) : Except Fault Next :=
  match skipBlank s with
  | [] => .error ⟨.endInObject, 0⟩
  | b :: rest =>
    if b = 0x7D then .ok (.done (b :: rest))
    else if first then
      if b = 0x22 then .ok (.more rest) else .error ⟨.keyNotString, rest.length⟩
    else if b = 0x2C then
      match skipBlank rest with
      | [] => .error ⟨.endInValue, 0⟩
      | c :: after =>
        if c = 0x22 then .ok (.more after)
        else if c = 0x7D then .error ⟨.trailingComma, after.length⟩
        else .error ⟨.keyNotString, after.length⟩
    else .error ⟨.objectCommaOrEndExpected, rest.length⟩

def colon (s : Bytes) : Except Fault Bytes :=
  match skipBlank s with
  | [] => .error ⟨.endInObject, 0⟩
  | b :: rest => if b = 0x3A then .ok rest else .error ⟨.colonExpected, rest.length⟩

/-- Elements up to the closing bracket. The fuel is more than the length of the text, and each element
takes at least one octet. -/
def elements (read : Bytes → Except Fault (Json × Bytes)) :
    Nat → Bool → Bytes → Except Fault (List Json × Bytes)
  | 0, _, _ => .error ⟨.endInList, 0⟩
  | fuel + 1, first, s => do
    match ← nextElement first s with
    | .done rest => return ([], rest)
    | .more s =>
      let (v, rest) ← read s
      let (vs, rest) ← elements read fuel false rest
      return (v :: vs, rest)

def members (read : Bytes → Except Fault (Json × Bytes)) :
    Nat → Bool → Bytes → Except Fault (List (String × Json) × Bytes)
  | 0, _, _ => .error ⟨.endInObject, 0⟩
  | fuel + 1, first, s => do
    match ← nextMember first s with
    | .done rest => return ([], rest.drop 1)
    | .more s =>
      let (name, rest) ← stringTail s
      let (v, rest) ← read (← colon rest)
      let (ms, rest) ← members read fuel false rest
      return ((name, v) :: ms, rest)

def value (room : Nat) : (depth : Nat) → Bytes → Except Fault (Json × Bytes)
  | depth, s =>
    match skipBlank s with
    | [] => .error ⟨.endInValue, 0⟩
    | b :: rest =>
      if b = 0x5B then
        match depth with
        | 0 => .error ⟨.nestedTooDeep, rest.length⟩
        | depth + 1 => do
          let (items, rest) ← elements (value room depth) room true rest
          return (.array items, rest)
      else if b = 0x7B then
        match depth with
        | 0 => .error ⟨.nestedTooDeep, rest.length⟩
        | depth + 1 => do
          let (ms, rest) ← members (value room depth) room true rest
          return (.object ms, rest)
      else scalar b rest

def maxDepth : Nat := 127

def endOfText (s : Bytes) : Except Fault Unit :=
  match skipBlank s with
  | [] => .ok ()
  | _ :: rest => .error ⟨.trailingCharacters, rest.length⟩

def read (s : Bytes) : Except Fault Json := do
  let (v, rest) ← value (s.length + 1) maxDepth s
  endOfText rest
  return v

end RelayHub.Json
