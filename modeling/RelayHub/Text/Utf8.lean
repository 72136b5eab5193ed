/-! Octets and text. `encode` writes text as UTF-8, `decode` accepts exactly the octets of some
text, and `decodeLossy` shows each maximal invalid part as one replacement character. The decoder
is a machine over single octets, so every result is a fold over the input. -/
namespace RelayHub

abbrev Bytes := List UInt8

namespace Utf8

def octet (n : Nat) : UInt8 := UInt8.ofNat n

def encodeChar (c : Char) : Bytes :=
  let n := c.toNat
  if n < 0x80 then [octet n]
  else if n < 0x800 then [octet (0xC0 + n / 64), octet (0x80 + n % 64)]
  else if n < 0x10000 then
    [octet (0xE0 + n / 4096), octet (0x80 + n / 64 % 64), octet (0x80 + n % 64)]
  else
    [octet (0xF0 + n / 262144), octet (0x80 + n / 4096 % 64), octet (0x80 + n / 64 % 64),
      octet (0x80 + n % 64)]

def encodeChars (cs : List Char) : Bytes := cs.flatMap encodeChar

def encode (s : String) : Bytes := encodeChars s.toList

/- A character under way: the octets owed after the next one, the bits read so far, and the range
the next octet has to lie in. -/
structure Pending where
  owed : Nat
  bits : Nat
  low : Nat
  high : Nat
  deriving DecidableEq, Repr

inductive Opening where
  | whole (c : Char)
  | begun (p : Pending)
  | refused
  deriving DecidableEq, Repr

/- What a first octet announces. The narrow second ranges keep out long forms, surrogates and
numbers above the last code point. -/
def opening (b : UInt8) : Opening :=
  let n := b.toNat
  if n < 0x80 then .whole (Char.ofNat n)
  else if n < 0xC2 then .refused
  else if n < 0xE0 then .begun ⟨0, n - 0xC0, 0x80, 0xBF⟩
  else if n = 0xE0 then .begun ⟨1, 0, 0xA0, 0xBF⟩
  else if n = 0xED then .begun ⟨1, 0xD, 0x80, 0x9F⟩
  else if n < 0xF0 then .begun ⟨1, n - 0xE0, 0x80, 0xBF⟩
  else if n = 0xF0 then .begun ⟨2, 0, 0x90, 0xBF⟩
  else if n < 0xF4 then .begun ⟨2, n - 0xF0, 0x80, 0xBF⟩
  else if n = 0xF4 then .begun ⟨2, 4, 0x80, 0x8F⟩
  else .refused

/- Reading under way. `parts` holds the parts read, last first; `none` is an invalid one. -/
structure Scan where
  parts : List (Option Char)
  pending : Option Pending
  deriving DecidableEq, Repr

def Scan.empty : Scan := ⟨[], none⟩

def Scan.open (s : Scan) (b : UInt8) : Scan :=
  match opening b with
  | .whole c => ⟨some c :: s.parts, none⟩
  | .begun p => ⟨s.parts, some p⟩
  | .refused => ⟨none :: s.parts, none⟩

def Scan.step (s : Scan) (b : UInt8) : Scan :=
  match s.pending with
  | none => s.open b
  | some p =>
    if p.low ≤ b.toNat ∧ b.toNat ≤ p.high then
      let bits := p.bits * 64 + b.toNat % 64
      match p.owed with
      | 0 => ⟨some (Char.ofNat bits) :: s.parts, none⟩
      | owed + 1 => ⟨s.parts, some ⟨owed, bits, 0x80, 0xBF⟩⟩
    else Scan.open ⟨none :: s.parts, none⟩ b

def Scan.finish (s : Scan) : List (Option Char) :=
  (if s.pending.isSome then none :: s.parts else s.parts).reverse

def parts (bs : Bytes) : List (Option Char) := (bs.foldl Scan.step .empty).finish

def allChars : List (Option Char) → Option (List Char)
  | [] => some []
  | none :: _ => none
  | some c :: rest => (allChars rest).map (c :: ·)

def decodeChars (bs : Bytes) : Option (List Char) := allChars (parts bs)

def decode (bs : Bytes) : Option String := (decodeChars bs).map String.ofList

def decodeLossy (bs : Bytes) : String :=
  String.ofList ((parts bs).map fun part => part.getD '\uFFFD')

def validLength (bs : Bytes) : Nat :=
  ((parts bs).takeWhile Option.isSome).foldl
    (fun total part => total + (part.map fun c => (encodeChar c).length).getD 0) 0

end Utf8
end RelayHub
