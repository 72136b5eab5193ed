import RelayHub.Text.Quoted
import RelayHub.Number.Text

/-! Why settings could not be loaded. A fault of a value names the key it stands under; where the
value came from is kept with it. -/
namespace RelayHub.Settings

inductive Origin where
  | environment
  | file (path : String)
  deriving DecidableEq, Repr

def Origin.text : Origin → String
  | .environment => "the environment"
  | .file path => path

inductive Found where
  | bool (value : Bool)
  | integer (value : Int)
  | unsigned (value : Nat)
  | real (value : Binary64)
  | text (value : String)
  | nothing
  | sequence
  | map
  deriving DecidableEq, Repr

def Found.wide : Found → String
  | .bool b => "boolean `" ++ toString b ++ "`"
  | .integer n => "64-bit integer `" ++ toString n ++ "`"
  | .unsigned n => "64-bit unsigned integer `" ++ toString n ++ "`"
  | .real x => "floating point `" ++ x.positional ++ "`"
  | .text s => "string " ++ Quoted.quote s
  | .nothing => "unit value"
  | .sequence => "sequence"
  | .map => "map"

def Found.plain : Found → String
  | .integer n => "integer `" ++ toString n ++ "`"
  | .unsigned n => "integer `" ++ toString n ++ "`"
  | .real x => "floating point `" ++ x.fractional ++ "`"
  | f => f.wide

inductive Segment where
  | name (key : String)
  | index (i : Nat)
  deriving DecidableEq, Repr

def keyText : List Segment → String
  | [] => ""
  | .name k :: rest => k ++ tail rest
  | .index i :: rest => "[" ++ toString i ++ "]" ++ tail rest
where
  tail : List Segment → String
    | [] => ""
    | .name k :: rest => "." ++ k ++ tail rest
    | .index i :: rest => "[" ++ toString i ++ "]" ++ tail rest

inductive Fault where
  | unreadable
  | wrongType (found : Found) (expected : String) (key : List Segment) (origin : Option Origin)
  | wrongShape (found : Found) (expected : String) (key : List Segment)
  | wrongLength (count : Nat) (expected : String) (key : List Segment)
  | other (text : String)
  deriving DecidableEq, Repr

def forKey (key : List Segment) : String :=
  if key.isEmpty then "" else " for key `" ++ keyText key ++ "`"

def Fault.message : Fault → String
  | .unreadable => "unreadable configuration file"
  | .wrongType found expected key origin =>
    "invalid type: " ++ found.wide ++ ", expected " ++ expected ++ forKey key ++
      (match origin with
        | some o => " in " ++ o.text
        | none => "")
  | .wrongShape found expected key =>
    "invalid type: " ++ found.plain ++ ", expected " ++ expected ++ forKey key
  | .wrongLength count expected key =>
    "invalid length " ++ toString count ++ ", expected " ++ expected ++ forKey key
  | .other text => text

def Fault.under (s : Segment) : Fault → Fault
  | .wrongType found expected key origin => .wrongType found expected (s :: key) origin
  | .wrongShape found expected key => .wrongShape found expected (s :: key)
  | .wrongLength count expected key => .wrongLength count expected (s :: key)
  | f => f

end RelayHub.Settings
