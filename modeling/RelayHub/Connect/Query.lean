import RelayHub.Json.Reader

/-! Who connects, as the query string of the upgrade request says. Pieces stand between ampersands;
each is a name and a value at its first equals sign, with plus for a space and percent triplets for
octets. -/
namespace RelayHub

structure ConnectParams where
  user : String
  tenant : String
  token : Option String
  deriving DecidableEq, Repr

namespace Query

def plusToSpace (b : UInt8) : UInt8 := if b = 0x2B then 0x20 else b

/- Octets with plus and percent triplets resolved. A percent sign without two hexadecimal digits
stands for itself. -/
def unescape : Bytes → Bytes
  | b :: a :: c :: rest =>
    if b = 0x25 then
      match Json.hexValue a, Json.hexValue c with
      | some h, some l => UInt8.ofNat (h * 16 + l) :: unescape rest
      | _, _ => b :: unescape (a :: c :: rest)
    else plusToSpace b :: unescape (a :: c :: rest)
  | short => short.map plusToSpace

def decodeText (s : Bytes) : String := Utf8.decodeLossy (unescape s)

def pair (piece : Bytes) : String × String :=
  let name := piece.takeWhile (· ≠ 0x3D)
  let value := (piece.dropWhile (· ≠ 0x3D)).drop 1
  (decodeText name, decodeText value)

def pairs (query : Bytes) : List (String × String) :=
  ((query.splitOn 0x26).filter fun piece => !piece.isEmpty).map pair

def last? (name : String) (test : String → Bool) (ps : List (String × String)) : Option String :=
  ps.foldl (fun found p => if p.1 = name ∧ test p.2 then some p.2 else found) none

end Query

def ConnectParams.ofPairs (ps : List (String × String)) : Option ConnectParams := do
  let user ← Query.last? "user_id" (!·.isEmpty) ps
  let tenant := (Query.last? "tenant_id" (fun _ => true) ps).getD ""
  some ⟨user, tenant, Query.last? "token" (!·.isEmpty) ps⟩

def ConnectParams.ofQuery (query : Option String) : Option ConnectParams := do
  ofPairs (Query.pairs (Utf8.encode (← query)))

end RelayHub
