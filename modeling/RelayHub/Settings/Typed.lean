import RelayHub.Settings.Environment
import RelayHub.Settings.Basic

/-! Typed settings from a tree. Scalars convert where their value allows it: a truth value is one or zero,
a number rounds, a text is read as a truth word or a number. A missing or empty value leaves the
default. -/
namespace RelayHub.Settings

def Scalar.found : Scalar → Found
  | .nothing => .nothing
  | .bool b => .bool b
  | .integer n => if n ≤ maxSigned64 then .integer n else .unsigned n.toNat
  | .real x => .real x
  | .text s => .text s

namespace Tree

def found : Tree → Found
  | .leaf value _ => value.found
  | .list _ _ => .sequence
  | .table _ _ => .map

def origin : Tree → Option Origin
  | .leaf _ origin | .list _ origin | .table _ origin => origin

def refuse {α : Type} (t : Tree) (expected : String) : Except Fault α :=
  .error (.wrongType t.found expected [] t.origin)

def truthWord? (s : String) : Option Nat :=
  let word := s.map Char.toLower
  if word = "true" ∨ word = "on" ∨ word = "yes" then some 1
  else if word = "false" ∨ word = "off" ∨ word = "no" then some 0
  else none

def wordNumber? (s : String) : Option Nat :=
  (Digits.unsigned? s.toList).filter (· ≤ maxWord64)

def unsigned (t : Tree) : Except Fault Nat :=
  match t with
  | .leaf (.integer n) _ =>
    if 0 ≤ n then .ok n.toNat else t.refuse "an unsigned 64 bit or less integer"
  | .leaf (.bool b) _ => .ok b.toNat
  | .leaf (.real x) _ => .ok (x.toInteger 0 maxWord64).toNat
  | .leaf (.text s) _ =>
    match (truthWord? s).or (wordNumber? s) with
    | some n => .ok n
    | none => t.refuse "an integer"
  | t => t.refuse "an integer"

def port (t : Tree) : Except Fault Nat := do
  let n ← t.unsigned
  if n ≤ maxWord16 then return n
  else .error (.wrongType (.unsigned n) "an unsigned 16 bit integer" [] none)

def text (t : Tree) : Except Fault String :=
  match t with
  | .leaf (.text s) _ => .ok s
  | .leaf (.bool b) _ => .ok (toString b)
  | .leaf (.integer n) _ => .ok (toString n)
  | .leaf (.real x) _ => .ok x.positional
  | t => t.refuse "a string"

def itemsFrom {α : Type} (read : Tree → Except Fault α) : Nat → List Tree → Except Fault (List α)
  | _, [] => .ok []
  | i, t :: rest => do
    let x ← (read t).mapError (Fault.under (.index i))
    return x :: (← itemsFrom read (i + 1) rest)

def listOf {α : Type} (read : Tree → Except Fault α) (t : Tree) : Except Fault (List α) :=
  match t with
  | .list items _ => itemsFrom read 0 items
  | t => .error (.wrongShape t.found "a sequence" [])

def optional {α : Type} (read : Tree → Except Fault α) (t : Option Tree) : Except Fault (Option α) :=
  match t with
  | none | some (.leaf .nothing _) => .ok none
  | some t => (read t).map some

end Tree

structure Field (S : Type) where
  name : String
  apply : S → Tree → Except Fault S

def Field.of {S α : Type} (name : String) (read : Tree → Except Fault α) (set : S → α → S) : Field S where
  name
  apply s t := do
    match ← Tree.optional read (some t) with
    | some x => return set s x
    | none => return s

structure Section (S : Type) where
  title : String
  fields : List (Field S)

namespace Section
variable {S : Type}

def expected (d : Section S) : String := "struct " ++ d.title

def withElements (d : Section S) : String :=
  d.expected ++ " with " ++ toString d.fields.length ++
    (if d.fields.length = 1 then " element" else " elements")

def ofEntries (entries : List (String × Tree)) : List (Field S) → S → Except Fault S
  | [], s => .ok s
  | f :: rest, s =>
    match entries.lookup f.name with
    | none => ofEntries entries rest s
    | some t => do
      ofEntries entries rest (← (f.apply s t).mapError (Fault.under (.name f.name)))

def ofItems (d : Section S) : Nat → List (Field S) → List Tree → S → Except Fault S
  | _, [], _, s => .ok s
  | i, _ :: _, [], _ => .error (.wrongLength i d.withElements [])
  | i, f :: rest, t :: ts, s => do
    ofItems d (i + 1) rest ts (← (f.apply s t).mapError (Fault.under (.index i)))

def read (d : Section S) (s : S) (t : Tree) : Except Fault S :=
  match t with
  | .table entries _ => ofEntries entries d.fields s
  | .list items _ => d.ofItems 0 d.fields items s
  | t => .error (.wrongShape t.found d.expected [])

end Section

def serverSection : Section ServerSettings where
  title := "PartialServerSettings"
  fields := [
    .of "host" Tree.text fun s x => { s with host := x },
    .of "port" Tree.port fun s x => { s with port := x },
    .of "allowed_origins" (Tree.listOf Tree.text) fun s x => { s with allowedOrigins := x }]

def hubSection : Section HubSettings where
  title := "PartialHubSettings"
  fields := [
    .of "write_wait_ms" Tree.unsigned fun s x => { s with writeWaitMs := x },
    .of "pong_wait_ms" Tree.unsigned fun s x => { s with pongWaitMs := x },
    .of "ping_period_ms" Tree.unsigned fun s x => { s with pingPeriodMs := x },
    .of "max_message_size" Tree.unsigned fun s x => { s with maxMessageSize := x },
    .of "send_buffer_size" Tree.unsigned fun s x => { s with sendBufferSize := x },
    .of "read_buffer_size" Tree.unsigned fun s x => { s with readBufferSize := x },
    .of "write_buffer_size" Tree.unsigned fun s x => { s with writeBufferSize := x }]

def logSection : Section LogSettings where
  title := "PartialLogSettings"
  fields := [.of "level" Tree.text fun s x => { s with level := x }]

def topFields : List (Field Settings) := [
  .of "server" (serverSection.read {}) fun s x => { s with server := x },
  .of "hub" (hubSection.read {}) fun s x => { s with hub := x },
  .of "log" (logSection.read {}) fun s x => { s with log := x }]

def ofTree (t : Tree) : Except Fault Settings :=
  match t with
  | .table entries _ => Section.ofEntries entries topFields {}
  | t => .error (.wrongShape t.found "a map" [])

end RelayHub.Settings
