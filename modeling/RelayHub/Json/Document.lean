import RelayHub.Json.Writer
import RelayHub.Json.Fault

/-! What an application may ask to be sent as JSON: a value, or a map whose keys need not be
strings. A map with another key has no JSON text. -/
namespace RelayHub.Json

inductive Key where
  | text (s : String)
  | sequence (items : List Json)
  deriving Repr

inductive Document where
  | value (v : Json)
  | map (entries : List (Key × Json))
  deriving Repr

inductive EncodeFault where
  | keyNotString
  deriving DecidableEq, Repr

def EncodeFault.message : EncodeFault → String
  | .keyNotString => Cause.message .keyNotString

def member : Key × Json → Except EncodeFault (String × Json)
  | (.text s, v) => .ok (s, v)
  | (.sequence _, _) => .error .keyNotString

def Document.encode : Document → Except EncodeFault Bytes
  | .value v => .ok (Utf8.encode v.canonical.write)
  | .map entries => do return Utf8.encode (Json.object (← entries.mapM member)).write

end RelayHub.Json
