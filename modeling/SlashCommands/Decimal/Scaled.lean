import SlashCommands.Decimal.Integer

namespace SlashCommands.Decimal

/-- The decimal `coefficient · 10 ^ scale`. -/
structure Scaled where
  coefficient : Nat
  scale : Int
  deriving DecidableEq, Repr

/-- How a decimal is written: the fewest digits after the point, and the powers of ten of the first
digit, from `lowest` up to but not including `highest`, for which there is no exponent. -/
structure Layout where
  fewestPlaces : Nat
  lowest : Option Int
  highest : Option Int

namespace Layout

def isPositional (l : Layout) (e : Int) : Bool :=
  l.lowest.all (· ≤ e) && l.highest.all (e < ·)

end Layout

namespace Scaled

def digits (d : Scaled) : List Char := Decimal.digits d.coefficient

def leading (d : Scaled) : Int := d.digits.length + d.scale - 1

def places (d : Scaled) : List Char × List Char :=
  if 0 ≤ d.scale then (d.digits ++ List.replicate d.scale.toNat '0', [])
  else
    let n := (-d.scale).toNat
    let padded := List.replicate (n + 1 - d.digits.length) '0' ++ d.digits
    padded.splitAt (padded.length - n)

def withoutFinalZeros (digits : List Char) : List Char :=
  (digits.reverse.dropWhile (· == '0')).reverse

def positional (d : Scaled) (fewestPlaces : Nat) : List Char :=
  let (whole, fraction) := d.places
  let fraction := withoutFinalZeros fraction
  let fraction := fraction ++ List.replicate (fewestPlaces - fraction.length) '0'
  if fraction.isEmpty then whole else whole ++ '.' :: fraction

def exponential (d : Scaled) : List Char :=
  (match withoutFinalZeros d.digits with
    | [] => ['0']
    | [c] => [c]
    | c :: rest => c :: '.' :: rest) ++ 'e' :: (integerText d.leading).toList

def text (d : Scaled) (l : Layout) : List Char :=
  if d.coefficient = 0 || l.isPositional d.leading then d.positional l.fewestPlaces else d.exponential

end Scaled

end SlashCommands.Decimal
