import RelayHub.Settings.Path
import RelayHub.Json.Reader
import RelayHub.Toml.Reader

/-! Settings in the default file. Its kind goes by the ending of its name, TOML before JSON. A file with
that name and no ending hides the others and is not read. -/
namespace RelayHub.Settings

mutual
def Tree.ofToml (origin : Option Origin) : Toml → Tree
  | .text s => .leaf (.text s) origin
  | .integer n => .leaf (.integer n) origin
  | .real x => .leaf (.real x) origin
  | .bool b => .leaf (.bool b) origin
  | .datetime s => .leaf (.text s) origin
  | .array items => .list (ofTomlItems origin items) origin
  | .table entries => .table (ofTomlEntries origin entries) origin

def Tree.ofTomlItems (origin : Option Origin) : List Toml → List Tree
  | [] => []
  | v :: rest => ofToml origin v :: ofTomlItems origin rest

def Tree.ofTomlEntries (origin : Option Origin) : List (String × Toml) → List (String × Tree)
  | [] => []
  | (k, v) :: rest => (k, ofToml origin v) :: ofTomlEntries origin rest
end

mutual
def Tree.ofJson (origin : Option Origin) : Json → Tree
  | .null => .leaf .nothing origin
  | .bool b => .leaf (.bool b) origin
  | .integer n => .leaf (.integer n) origin
  | .real x => .leaf (.real x) origin
  | .string s => .leaf (.text s) origin
  | .array items => .list (ofJsonItems origin items) origin
  | .object members => .table (ofJsonMembers origin members) origin

def Tree.ofJsonItems (origin : Option Origin) : List Json → List Tree
  | [] => []
  | v :: rest => ofJson origin v :: ofJsonItems origin rest

def Tree.ofJsonMembers (origin : Option Origin) : List (String × Json) → List (String × Tree)
  | [] => []
  | (k, v) :: rest => (k, ofJson origin v) :: ofJsonMembers origin rest
end

namespace File

inductive Kind where
  | toml
  | json
  deriving DecidableEq, Repr

def Kind.ending : Kind → String
  | .toml => "toml"
  | .json => "json"

def path (ending : String) : String := "config/default." ++ ending

def text (content : Bytes) : String :=
  match content with
  | 0xEF :: 0xBB :: 0xBF :: rest => Utf8.decodeLossy rest
  | content => Utf8.decodeLossy content

def entries (kind : Kind) (content : Bytes) : Except Fault (List (String × Tree)) :=
  let origin := some (Origin.file (path kind.ending))
  match kind with
  | .toml =>
    match Toml.read? (text content) with
    | some es => .ok (Tree.ofTomlEntries origin es)
    | none => .error .unreadable
  | .json =>
    match (Json.read (Utf8.encode (text content))).map Json.canonical with
    | .ok (.object members) => .ok (Tree.ofJsonMembers origin members)
    | _ => .error .unreadable

def chosen? (files : List (String × Bytes)) : Option (Kind × Bytes) :=
  if files.any (·.1 = "") then none
  else [Kind.toml, Kind.json].findSome? fun kind =>
    (files.find? (·.1 = kind.ending)).map fun file => (kind, file.2)

end File
end RelayHub.Settings
