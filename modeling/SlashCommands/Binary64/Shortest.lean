import SlashCommands.Binary64.Basic
import SlashCommands.Decimal.Scaled

namespace SlashCommands.Binary64

/-- A positive number `mid / den` and the ends `low / den` and `high / den` of the interval of what
reads back as it; `closed` tells whether the ends belong to the interval. -/
structure Neighbourhood where
  low : Nat
  mid : Nat
  high : Nat
  den : Nat
  closed : Bool

namespace Neighbourhood

/-- The interval of a positive finite number. It ends halfway to the neighbours, of which the lower
one is nearer by half where the significand is a power of two. -/
def of (x : Binary64) : Neighbourhood :=
  let m := x.significand
  let below := if m = hiddenBit then 1 else 2
  let up := twoTo (x.power - 2).toNat
  ⟨(4 * m - below) * up, 4 * m * up, (4 * m + 2) * up, twoTo (2 - x.power).toNat, m % 2 == 0⟩

def contains (n : Neighbourhood) (num : Nat) : Bool :=
  if n.closed then n.low ≤ num && num ≤ n.high else n.low < num && num < n.high

def scaled (n : Neighbourhood) (scale : Int) : Neighbourhood :=
  let up := Decimal.tenTo (-scale).toNat
  ⟨n.low * up, n.mid * up, n.high * up, n.den * Decimal.tenTo scale.toNat, n.closed⟩

def onGrid? (n : Neighbourhood) (scale : Int) : Option Decimal.Scaled :=
  let s := n.scaled scale
  let q := s.mid / s.den
  let lower := s.contains (q * s.den)
  let upper := s.contains ((q + 1) * s.den)
  let roundUp := s.den ≤ 2 * (s.mid % s.den)
  if lower && !(upper && roundUp) then some ⟨q, scale⟩
  else if upper then some ⟨q + 1, scale⟩
  else none

def places (n : Neighbourhood) : Int :=
  let whole := n.mid / n.den
  if 0 < whole then (Decimal.digits whole).length
  else
    match (List.range 400).find? fun k => n.den ≤ n.mid * Decimal.tenTo (k + 1) with
    | some k => -k
    | none => -400

def shortest (n : Neighbourhood) : Decimal.Scaled :=
  let top := n.places
  ((List.range 17).findSome? fun (k : Nat) => n.onGrid? (top - (k + 1))).getD ⟨0, 0⟩

end Neighbourhood

/-- The shortest decimal that reads back as the magnitude of a finite number. For one digit, two digits
and so on, the two decimals of that length next to the number are tried; of two that read back the
nearer one is taken, or the greater one at equal distance. -/
def shortest (x : Binary64) : Decimal.Scaled :=
  if x.significand = 0 then ⟨0, 0⟩ else (Neighbourhood.of x).shortest

def text (x : Binary64) (l : Decimal.Layout) : String :=
  if x.isNaN then "NaN"
  else
    let magnitude := if x.isFinite then x.shortest.text l else ['i', 'n', 'f']
    .ofList (if x.negative then '-' :: magnitude else magnitude)

end SlashCommands.Binary64
