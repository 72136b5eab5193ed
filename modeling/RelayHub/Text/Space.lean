/-! Characters that count as white space in any script. -/
namespace RelayHub.Space

/- Code point ranges in rising order, both ends included. -/
def ranges : List (Nat × Nat) :=
  [(0x9, 0xD), (0x20, 0x20), (0x85, 0x85), (0xA0, 0xA0), (0x1680, 0x1680), (0x2000, 0x200A),
    (0x2028, 0x2029), (0x202F, 0x202F), (0x205F, 0x205F), (0x3000, 0x3000)]

def isSpace (c : Char) : Bool := ranges.any fun r => r.1 ≤ c.toNat && c.toNat ≤ r.2

def trimEnd (cs : List Char) : List Char := (cs.reverse.dropWhile isSpace).reverse

def trimStart (cs : List Char) : List Char := cs.dropWhile isSpace

def trim (cs : List Char) : List Char := trimEnd (trimStart cs)

end RelayHub.Space
