import SlashCommands.Binary64.Basic
import SlashCommands.Decimal.Numeral

namespace SlashCommands.Binary64

/-- The integer nearest to `num / den`, a half going to the even neighbour. -/
def roundEven (num den : Nat) : Nat :=
  let q := num / den
  let r := num % den
  if 2 * r < den then q else if den < 2 * r then q + 1 else q + q % 2

def powerOf (num den : Nat) : Int :=
  let guess : Int := (num.log2 : Int) - den.log2 - 52
  let tooBig := if 0 ≤ guess then num < den * (twoTo guess.toNat * hiddenBit)
    else num * twoTo (-guess).toNat < den * hiddenBit
  max (if tooBig then guess - 1 else guess) (-1074)

def ofFraction (negative : Bool) (num den : Nat) : Binary64 :=
  if num = 0 then zero negative
  else
    let p := powerOf num den
    let m := if 0 ≤ p then roundEven num (den * twoTo p.toNat) else roundEven (num * twoTo (-p).toNat) den
    let (m, p) := if m = 2 * hiddenBit then (hiddenBit, p + 1) else (m, p)
    if 971 < p then infinity negative
    else if m < hiddenBit then ofFields negative 0 m
    else ofFields negative (p + 1075).toNat (m - hiddenBit)

/-- The number nearest to a decimal. One of `k` digits before its point is beyond the largest finite
number for `310 < k`, and nearer to zero than to any other for `k < -330`. -/
def ofScaled (negative : Bool) (d : Decimal.Scaled) : Binary64 :=
  let places : Int := d.digits.length + d.scale
  if d.coefficient = 0 ∨ places < -330 then zero negative
  else if 310 < places then infinity negative
  else if 0 ≤ d.scale then ofFraction negative (d.coefficient * Decimal.tenTo d.scale.toNat) 1
  else ofFraction negative d.coefficient (Decimal.tenTo (-d.scale).toNat)

def ofNumeral (n : Decimal.Numeral) : Binary64 := ofScaled n.negative n.magnitude

end SlashCommands.Binary64
