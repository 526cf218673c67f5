import SlashCommands.Decimal.Scaled

namespace SlashCommands.Decimal

structure Numeral where
  negative : Bool
  whole : List Char
  fraction : List Char
  exponent : Int
  deriving DecidableEq, Repr

namespace Numeral

def spanDigits (cs : List Char) : List Char × List Char :=
  (cs.takeWhile Char.isDigit, cs.dropWhile Char.isDigit)

def spanFraction : List Char → List Char × List Char
  | '.' :: rest => spanDigits rest
  | cs => ([], cs)

def exponent? : List Char → Option Int
  | [] => some 0
  | c :: rest => if c = 'e' ∨ c = 'E' then integer? rest else none

/-- The numeral that a text is, if it is one. -/
def read? (cs : List Char) : Option Numeral :=
  let (negative, unsigned) := splitSign cs
  let (whole, afterWhole) := spanDigits unsigned
  let (fraction, afterFraction) := spanFraction afterWhole
  if whole.isEmpty && fraction.isEmpty then none
  else (exponent? afterFraction).map (⟨negative, whole, fraction, ·⟩)

def magnitude (n : Numeral) : Scaled := ⟨value (n.whole ++ n.fraction), n.exponent - n.fraction.length⟩

end Numeral

end SlashCommands.Decimal
