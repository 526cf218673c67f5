namespace SlashCommands

/-- A number of the IEEE 754 format binary64 as its word of 64 bits: a sign bit, eleven bits of exponent
and 52 bits of fraction. -/
structure Binary64 where
  bits : UInt64
  deriving DecidableEq, Repr, Inhabited

namespace Binary64

def signWeight : Nat := 0x8000000000000000

def hiddenBit : Nat := 0x10000000000000

def specialExponent : Nat := 2047

def twoTo (n : Nat) : Nat := Nat.pow 2 n

def negative (x : Binary64) : Bool := signWeight ≤ x.bits.toNat

def exponentField (x : Binary64) : Nat := x.bits.toNat / hiddenBit % (specialExponent + 1)

def fractionField (x : Binary64) : Nat := x.bits.toNat % hiddenBit

def isFinite (x : Binary64) : Bool := x.exponentField != specialExponent

def isNaN (x : Binary64) : Bool := x.exponentField == specialExponent && x.fractionField != 0

/-- The integer `m` of the magnitude `m · 2 ^ x.power` of a finite number. -/
def significand (x : Binary64) : Nat :=
  if x.exponentField = 0 then x.fractionField else hiddenBit + x.fractionField

def power (x : Binary64) : Int := (max x.exponentField 1 : Nat) - 1075

def ofFields (negative : Bool) (exponent fraction : Nat) : Binary64 :=
  ⟨.ofNat ((if negative then signWeight else 0) + exponent * hiddenBit + fraction)⟩

def zero (negative : Bool) : Binary64 := ofFields negative 0 0

def infinity (negative : Bool) : Binary64 := ofFields negative specialExponent 0

end Binary64

end SlashCommands
