import RelayHub.Json.Reader
import RelayHub.Json.Writer

/-! Tagged messages. A message is an object whose member `type` names its variant, or an array that
starts with that name; a schema lists the variants with their fields and builds the message from
typed field values. Reading a body does not depend on where `type` stood. -/
namespace RelayHub.Message

inductive Problem where
  | malformed (cause : Json.Cause)
  | wrongType (found expected : String)
  | wrongValue (found expected : String)
  | missingField (name : String)
  | duplicateField (name : String)
  | unknownVariant (name : String) (known : List String)
  | wrongLength (count : Nat) (expected : String)
  deriving DecidableEq, Repr

def ticked (s : String) : String := "`" ++ s ++ "`"

def Problem.message : Problem → String
  | .malformed cause => cause.message
  | .wrongType found expected => "invalid type: " ++ found ++ ", expected " ++ expected
  | .wrongValue found expected => "invalid value: " ++ found ++ ", expected " ++ expected
  | .missingField name => "missing field " ++ ticked name
  | .duplicateField name => "duplicate field " ++ ticked name
  | .unknownVariant name known =>
    "unknown variant " ++ ticked name ++ ", expected one of " ++
      String.intercalate ", " (known.map ticked)
  | .wrongLength count expected => "invalid length " ++ toString count ++ ", expected " ++ expected

/- Why a text is no message. `left` counts the octets unread at that moment, for the problems seen
while the text was read; those of a complete body have no position. -/
structure Refusal where
  problem : Problem
  left : Option Nat
  deriving DecidableEq, Repr

def Refusal.message (text : Bytes) (r : Refusal) : String :=
  match r.left with
  | some left => r.problem.message ++ " at " ++ (Json.positionOf text left).message
  | none => r.problem.message

def Refusal.ofFault (f : Json.Fault) : Refusal := ⟨.malformed f.cause, some f.left⟩

inductive FieldKind where
  | text
  | payload
  | flag
  | size
  deriving DecidableEq, Repr

@[reducible] def FieldKind.Value : FieldKind → Type
  | .text => String
  | .payload => Json
  | .flag => Bool
  | .size => Nat

def FieldKind.absent? : (kind : FieldKind) → Option kind.Value
  | .flag => some false
  | _ => none

def FieldKind.read : (kind : FieldKind) → Json → Except Problem kind.Value
  | .text, .string s => .ok s
  | .text, v => .error (.wrongType v.kind "a string")
  | .payload, v => .ok v.canonical
  | .flag, .bool b => .ok b
  | .flag, v => .error (.wrongType v.kind "a boolean")
  | .size, .integer n =>
    if 0 ≤ n then .ok n.toNat else .error (.wrongValue (Json.integer n).kind "usize")
  | .size, v => .error (.wrongType v.kind "usize")

structure Field where
  name : String
  kind : FieldKind
  deriving DecidableEq, Repr

@[reducible] def Values : List Field → Type
  | [] => Unit
  | f :: fs => f.kind.Value × Values fs

@[reducible] def Slots : List Field → Type
  | [] => Unit
  | f :: fs => Option f.kind.Value × Slots fs

def Slots.empty : (fs : List Field) → Slots fs
  | [] => ()
  | _ :: fs => (none, Slots.empty fs)

def Slots.put (name : String) (v : Json) : (fs : List Field) → Slots fs → Except Problem (Slots fs)
  | [], _ => .ok ()
  | f :: fs, (seen, rest) =>
    if f.name = name then
      match seen with
      | some _ => .error (.duplicateField name)
      | none => do return (some (← f.kind.read v), rest)
    else do return (seen, ← Slots.put name v fs rest)

def Slots.values : (fs : List Field) → Slots fs → Except Problem (Values fs)
  | [], _ => .ok ()
  | f :: fs, (seen, rest) =>
    match seen.or f.kind.absent? with
    | some v => do return (v, ← Slots.values fs rest)
    | none => .error (.missingField f.name)

def putAll (fs : List Field) : List (String × Json) → Slots fs → Except Problem (Slots fs)
  | [], slots => .ok slots
  | (name, v) :: rest, slots => do putAll fs rest (← Slots.put name v fs slots)

def ofMembers (fs : List Field) (members : List (String × Json)) : Except Problem (Values fs) := do
  Slots.values fs (← putAll fs members (Slots.empty fs))

def elementCount (n : Nat) : String :=
  toString n ++ (if n = 1 then " element" else " elements")

def takeElements (whole : String) : (fs : List Field) → (index : Nat) → List Json →
    Except Problem (Values fs × Nat)
  | [], index, rest => .ok ((), index + rest.length)
  | f :: fs, index, [] =>
    match f.kind.absent? with
    | some v => do
      let (vs, count) ← takeElements whole fs index []
      return ((v, vs), count)
    | none => .error (.wrongLength index whole)
  | f :: fs, index, x :: rest => do
    let v ← f.kind.read x
    let (vs, count) ← takeElements whole fs (index + 1) rest
    return ((v, vs), count)

structure Variant (M : Type) where
  tag : String
  title : String
  fields : List Field
  build : Values fields → M

structure Schema (M : Type) where
  title : String
  variants : List (Variant M)

variable {M : Type}

def Variant.ofElements (schema : String) (v : Variant M) (items : List Json) : Except Problem M := do
  let size := v.fields.length
  let whole := "struct variant " ++ schema ++ "::" ++ v.title ++ " with " ++ elementCount size
  let (values, count) ← takeElements whole v.fields 0 items
  if size < count then .error (.wrongLength count (elementCount size ++ " in sequence"))
  else return v.build values

def Variant.ofMembers (v : Variant M) (members : List (String × Json)) : Except Problem M := do
  return v.build (← Message.ofMembers v.fields members)

def Schema.find? (schema : Schema M) (tag : String) : Option (Variant M) :=
  schema.variants.find? fun v => v.tag = tag

def tagName : String := "type"

def liftFault {α : Type} (r : Except Json.Fault α) : Except Refusal α := r.mapError Refusal.ofFault

def unplaced {α : Type} (r : Except Problem α) : Except Refusal α := r.mapError fun p => ⟨p, none⟩

def Schema.readTag (schema : Schema M) (s : Bytes) : Except Refusal (Variant M × Bytes) :=
  match Json.skipBlank s with
  | [] => .error ⟨.malformed .endInValue, some 0⟩
  | b :: rest =>
    if b = 0x22 then do
      let (name, rest) ← liftFault (Json.stringTail rest)
      match schema.find? name with
      | some v => return (v, rest)
      | none => .error ⟨.unknownVariant name (schema.variants.map (·.tag)), some rest.length⟩
    else if b = 0x5B then .error ⟨.wrongType (Json.array []).kind expected, some (rest.length + 1)⟩
    else if b = 0x7B then .error ⟨.wrongType (Json.object []).kind expected, some (rest.length + 1)⟩
    else do
      let (v, rest) ← liftFault (Json.scalar b rest)
      .error ⟨.wrongType v.kind expected, some rest.length⟩
where
  expected : String := "variant identifier"

/- The octets left where a problem inside braces is placed: blanks and the closing brace count as
read. -/
def leftAfterBrace (s : Bytes) : Nat :=
  match Json.skipBlank s with
  | [] => 0
  | b :: rest => if b = 0x7D then rest.length else rest.length + 1

def Schema.readMembers (schema : Schema M) (room : Nat) : Nat → Bool → Option (Variant M) → Bytes →
    Except Refusal (Option (Variant M) × List (String × Json) × Bytes)
  | 0, _, _, _ => .error ⟨.malformed .endInObject, some 0⟩
  | fuel + 1, first, tag, s => do
    match ← liftFault (Json.nextMember first s) with
    | .done rest => return (tag, [], rest.drop 1)
    | .more s =>
      let (name, rest) ← liftFault (Json.stringTail s)
      if name = tagName then
        match tag with
        | some _ => .error ⟨.duplicateField tagName, some (leftAfterBrace rest)⟩
        | none =>
          let (v, rest) ← schema.readTag (← liftFault (Json.colon rest))
          schema.readMembers room fuel false (some v) rest
      else
        let (v, rest) ← liftFault (Json.value room (Json.maxDepth - 1) (← liftFault (Json.colon rest)))
        let (tag, ms, rest) ← schema.readMembers room fuel false tag rest
        return (tag, (name, v) :: ms, rest)

def Schema.readValue (schema : Schema M) (s : Bytes) : Except Refusal (M × Bytes) :=
  match Json.skipBlank s with
  | [] => .error ⟨.malformed .endInValue, some 0⟩
  | b :: rest =>
    let room := rest.length + 1
    if b = 0x7B then do
      let (tag, members, rest) ← schema.readMembers room room true none rest
      match tag with
      | some v => return (← unplaced (v.ofMembers members), rest)
      | none => .error ⟨.missingField tagName, some rest.length⟩
    else if b = 0x5B then do
      match ← liftFault (Json.nextElement true rest) with
      | .done rest => .error ⟨.missingField tagName, some rest.length⟩
      | .more s =>
        let (v, rest) ← schema.readTag s
        let (items, rest) ← liftFault
          (Json.elements (Json.value room (Json.maxDepth - 1)) room false rest)
        return (← unplaced (v.ofElements schema.title items), rest)
    else do
      let (v, rest) ← liftFault (Json.scalar b rest)
      .error ⟨.wrongType v.kind ("internally tagged enum " ++ schema.title), some rest.length⟩

def Schema.read (schema : Schema M) (text : Bytes) : Except Refusal M := do
  let (m, rest) ← schema.readValue text
  liftFault (Json.endOfText rest)
  return m

end RelayHub.Message
