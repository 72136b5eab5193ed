import RelayHub.Text.Utf8

/-! Faults of JSON texts. A fault names its cause and the octets left unread when it was seen; line
and column are counted from these. -/
namespace RelayHub.Json

inductive Cause where
  | valueExpected
  | endInValue
  | endInString
  | endInList
  | endInObject
  | colonExpected
  | listCommaOrEndExpected
  | objectCommaOrEndExpected
  | trailingComma
  | trailingCharacters
  | keyNotString
  | identExpected
  | invalidNumber
  | numberOutOfRange
  | controlCharacter
  | invalidEscape
  | loneSurrogate
  | hexEscapeEnd
  | invalidCodePoint
  | nestedTooDeep
  deriving DecidableEq, Repr

def Cause.message : Cause → String
  | .valueExpected => "expected value"
  | .endInValue => "EOF while parsing a value"
  | .endInString => "EOF while parsing a string"
  | .endInList => "EOF while parsing a list"
  | .endInObject => "EOF while parsing an object"
  | .colonExpected => "expected `:`"
  | .listCommaOrEndExpected => "expected `,` or `]`"
  | .objectCommaOrEndExpected => "expected `,` or `\x7d`"
  | .trailingComma => "trailing comma"
  | .trailingCharacters => "trailing characters"
  | .keyNotString => "key must be a string"
  | .identExpected => "expected ident"
  | .invalidNumber => "invalid number"
  | .numberOutOfRange => "number out of range"
  | .controlCharacter => "control character (\\u0000-\\u001F) found while parsing a string"
  | .invalidEscape => "invalid escape"
  | .loneSurrogate => "lone leading surrogate in hex escape"
  | .hexEscapeEnd => "unexpected end of hex escape"
  | .invalidCodePoint => "invalid unicode code point"
  | .nestedTooDeep => "recursion limit exceeded"

structure Fault where
  cause : Cause
  left : Nat
  deriving DecidableEq, Repr

structure Position where
  line : Nat
  column : Nat
  deriving DecidableEq, Repr

/- Line and column after some octets: lines count from one, the column is the number of octets
since the last line feed. -/
def positionAfter (read : Bytes) : Position :=
  read.foldl (fun p b => if b = 0x0A then ⟨p.line + 1, 0⟩ else ⟨p.line, p.column + 1⟩) ⟨1, 0⟩

def positionOf (text : Bytes) (left : Nat) : Position :=
  positionAfter (text.take (text.length - left))

def Position.message (p : Position) : String :=
  "line " ++ toString p.line ++ " column " ++ toString p.column

def Fault.message (text : Bytes) (f : Fault) : String :=
  f.cause.message ++ " at " ++ (positionOf text f.left).message

end RelayHub.Json
