/-! Powers, and the ranges of machine words. -/
namespace RelayHub

def twoTo (k : Nat) : Nat := Nat.pow 2 k

def tenTo (k : Nat) : Nat := Nat.pow 10 k

def maxWord16 : Nat := 0xFFFF

def maxWord32 : Nat := 0xFFFFFFFF

def maxWord64 : Nat := 0xFFFFFFFFFFFFFFFF

def maxSigned64 : Nat := 0x7FFFFFFFFFFFFFFF

def fitsSigned64 (n : Int) : Bool := -(maxSigned64 : Int) - 1 ≤ n && n ≤ maxSigned64

end RelayHub
