import SlashCommands.Decimal.Digits

namespace SlashCommands.Decimal

def splitSign : List Char → Bool × List Char
  | '-' :: rest => (true, rest)
  | '+' :: rest => (false, rest)
  | cs => (false, cs)

/-- The integer that a text denotes, if it is a sign and digits and nothing else. -/
def integer? (cs : List Char) : Option Int :=
  let (negative, digits) := splitSign cs
  if digits.isEmpty || !digits.all Char.isDigit then none
  else some (if negative then -(value digits : Int) else value digits)

def int64? (n : Int) : Option Int64 :=
  if h : Int64.minValue.toInt ≤ n ∧ n ≤ Int64.maxValue.toInt then some (.ofIntLE n h.1 h.2) else none

def integerText (n : Int) : String :=
  .ofList (if n < 0 then '-' :: digits n.natAbs else digits n.natAbs)

end SlashCommands.Decimal
