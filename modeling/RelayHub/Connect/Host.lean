import RelayHub.Number.Reading
import RelayHub.HubConfig

/-! Hosts by number. A number of four octets is written in one to four parts, the last of which takes up
what the others leave; one of eight groups is written in hexadecimal, with two colons for a run of zeros. -/
namespace RelayHub

inductive Host where
  | octets (number : Nat)
  /- Eight groups, and the interface that the host is reached on; zero for none in particular. -/
  | groups (numbers : List Nat) (interface : Nat)
  deriving DecidableEq, Repr

namespace Host

def hexDigit? (c : Char) : Option Nat :=
  if c.isDigit then some (c.toNat - 0x30)
  else if 'a' ≤ c ∧ c ≤ 'f' then some (c.toNat - 0x61 + 10)
  else if 'A' ≤ c ∧ c ≤ 'F' then some (c.toNat - 0x41 + 10)
  else none

def based? (base : Nat) (cs : List Char) : Option Nat :=
  cs.foldl (fun n c => do
    let digit ← hexDigit? c
    if digit < base then return (← n) * base + digit else none) (some 0)

def part? : List Char → Option Nat
  | '0' :: 'x' :: c :: rest | '0' :: 'X' :: c :: rest => based? 16 (c :: rest)
  | '0' :: rest => based? 8 rest
  | cs => Digits.natural? cs

def joined? (number room : Nat) : List Nat → Option Nat
  | [] => none
  | [last] => if last < room then some (number * room + last) else none
  | first :: rest => if first ≤ 0xFF then joined? (number * 0x100 + first) (room / 0x100) rest else none

def octets? (cs : List Char) : Option Nat := do
  let parts ← (cs.splitOn '.').mapM part?
  if 4 < parts.length then none else joined? 0 0x100000000 parts

def plainOctets? (cs : List Char) : Option Nat := do
  let parts := cs.splitOn '.'
  let plain (p : List Char) : Bool := p = ['0'] || p.head? ≠ some '0'
  if parts.length = 4 ∧ parts.all plain then joined? 0 0x100000000 (← parts.mapM Digits.natural?)
  else none

def group? (cs : List Char) : Option Nat :=
  if cs.isEmpty ∨ 4 < cs.length then none else based? 16 cs

def series? : List (List Char) → Option (List Nat)
  | [] => some []
  | [last] =>
    if last.contains '.' then (plainOctets? last).map fun n => [n / 0x10000, n % 0x10000]
    else (group? last).map fun n => [n]
  | first :: rest => do return (← group? first) :: (← series? rest)

def gap? : List Char → Option (List Char × List Char)
  | [] => none
  | ':' :: ':' :: rest => some ([], rest)
  | c :: rest => (gap? rest).map fun (before, after) => (c :: before, after)

def side? (cs : List Char) : Option (List Nat) := if cs.isEmpty then some [] else series? (cs.splitOn ':')

def groups? (cs : List Char) : Option (List Nat) :=
  match gap? cs with
  | none => (side? cs).filter (·.length = 8)
  | some (before, after) => do
    let head ← side? before
    let tail ← side? after
    if before.contains '.' ∨ 7 < head.length + tail.length then none
    else some (head ++ List.replicate (8 - head.length - tail.length) 0 ++ tail)

def isLocal (ns : List Nat) : Bool :=
  let first := ns.headD 0
  (0xFE80 ≤ first && first ≤ 0xFEBF) ||
    (0xFF00 ≤ first && (first % 0x10 = 1 || first % 0x10 = 2))

def interface? (cs : List Char) : Option Nat := (Digits.natural? cs).filter (· ≤ maxWord32)

def ofBrackets? (cs : List Char) : Option Host :=
  match cs, cs.getLast? with
  | '[' :: rest, some ']' => do
    let inner := rest.dropLast
    let ns ← groups? (inner.takeWhile (· ≠ '%'))
    match inner.dropWhile (· ≠ '%') with
    | [] => return .groups ns 0
    | _ :: name => return .groups ns (← interface? name)
  | _, _ => none

def octetsText (n : Nat) : String :=
  String.intercalate "." ([n / 0x1000000, n / 0x10000 % 0x100, n / 0x100 % 0x100, n % 0x100].map toString)

/- Where the longest run of zeros begins, and its length; of two the first one counts. -/
def longestGap (index : Nat) (best : Nat × Nat) : List Nat → Nat × Nat
  | [] => best
  | n :: rest =>
    let size := ((n :: rest).takeWhile (· = 0)).length
    longestGap (index + 1) (if best.2 < size then (index, size) else best) rest

def seriesText (ns : List Nat) : String :=
  String.intercalate ":" (ns.map fun n => String.ofList (Nat.toDigits 16 n))

def groupsText (ns : List Nat) : String :=
  match ns with
  | [0, 0, 0, 0, 0, 0xFFFF, high, low] => "::ffff:" ++ octetsText (high * 0x10000 + low)
  | _ =>
    let (start, size) := longestGap 0 (0, 0) ns
    if size < 2 then seriesText ns
    else seriesText (ns.take start) ++ "::" ++ seriesText (ns.drop (start + size))

def text : Host → String
  | .octets n => octetsText n
  | .groups ns _ => "[" ++ groupsText ns ++ "]"

def loopback : Host := .octets 0x7F000001

def octetNumber? : Host → Option Nat
  | .octets n => some n
  | .groups [0, 0, 0, 0, 0, 0xFFFF, high, low] _ => some (high * 0x10000 + low)
  | .groups _ _ => none

def isUnspecified (h : Host) : Bool :=
  match h with
  | .octets n => n = 0
  | .groups ns _ => ns.all (· = 0)

def includesLoopback (h : Host) : Bool :=
  h.isUnspecified || h.octetNumber? = some 0 || h.octetNumber? = loopback.octetNumber?

end Host
end RelayHub
