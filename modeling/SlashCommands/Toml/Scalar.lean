import SlashCommands.Binary64.Round
import SlashCommands.Toml.Node

namespace SlashCommands.Toml.Scalar

/-- Digits with single underscores between them, the underscores taken out. -/
def ungroup? (digit : Char → Bool) : List Char → Option (List Char)
  | [] => none
  | [c] => if digit c then some [c] else none
  | c :: '_' :: rest => if digit c then (ungroup? digit rest).map (c :: ·) else none
  | c :: rest => if digit c then (ungroup? digit rest).map (c :: ·) else none

def whole? (cs : List Char) : Option (List Char) :=
  match ungroup? Char.isDigit cs with
  | some ('0' :: _ :: _) => none
  | digits => digits

def int64Bound : Nat := 0x8000000000000000

def based? (base : Nat) (cs : List Char) : Option Node := do
  let digit? := fun c => (Decimal.hexDigit? c).filter (· < base)
  let digits ← ungroup? (fun c => (digit? c).isSome) cs
  let n ← Decimal.valueIn? base digit? digits
  if n < int64Bound then some (.integer n) else none

def integer? (cs : List Char) : Option Node :=
  match cs with
  | '0' :: 'x' :: digits => based? 16 digits
  | '0' :: 'o' :: digits => based? 8 digits
  | '0' :: 'b' :: digits => based? 2 digits
  | _ => do
    let (negative, unsigned) := Decimal.splitSign cs
    let n := Decimal.value (← whole? unsigned)
    if n < int64Bound then some (.integer (if negative then -n else n))
    else if negative ∧ n = int64Bound then some (.integer (-n))
    else none

def splitExponent (cs : List Char) : List Char × Option (List Char) :=
  let isLetter := fun c => c == 'e' || c == 'E'
  (cs.takeWhile (!isLetter ·),
    match cs.dropWhile (!isLetter ·) with
    | [] => none
    | _ :: exponent => some exponent)

def splitPoint (cs : List Char) : List Char × Option (List Char) :=
  (cs.takeWhile (· != '.'),
    match cs.dropWhile (· != '.') with
    | [] => none
    | _ :: fraction => some fraction)

def numeral? (cs : List Char) : Option Decimal.Numeral := do
  let (negative, unsigned) := Decimal.splitSign cs
  let (mantissa, exponent) := splitExponent unsigned
  let (whole, fraction) := splitPoint mantissa
  if exponent.isNone && fraction.isNone then none
  else
    let whole ← whole? whole
    let fraction ← fraction.elim (some []) (ungroup? Char.isDigit)
    let exponent ← exponent.elim (some 0) fun e => do
      let (negative, digits) := Decimal.splitSign e
      let n := Decimal.value (← ungroup? Char.isDigit digits)
      some (if negative then -(n : Int) else n)
    some ⟨negative, whole, fraction, exponent⟩

/-- A float; one too large for its format is none, unless it is negative. -/
def float? (cs : List Char) : Option Node :=
  if (Decimal.splitSign cs).2 ∈ ["inf".toList, "nan".toList] then some .float
  else (numeral? cs).bind fun n =>
    if Binary64.ofNumeral n = .infinity false then none else some .float

def fixed? (count : Nat) (cs : List Char) : Option (Nat × List Char) :=
  let digits := cs.take count
  if digits.length = count ∧ digits.all Char.isDigit then some (Decimal.value digits, cs.drop count)
  else none

def char? (p : Char → Bool) : List Char → Option (List Char)
  | c :: rest => if p c then some rest else none
  | [] => none

def daysIn (year month : Nat) : Nat :=
  if month = 2 then if year % 4 = 0 ∧ (year % 100 ≠ 0 ∨ year % 400 = 0) then 29 else 28
  else if month ∈ [4, 6, 9, 11] then 30
  else 31

def date? (cs : List Char) : Option (List Char) := do
  let (year, cs) ← fixed? 4 cs
  let cs ← char? (· == '-') cs
  let (month, cs) ← fixed? 2 cs
  let cs ← char? (· == '-') cs
  let (day, cs) ← fixed? 2 cs
  if 1 ≤ month ∧ month ≤ 12 ∧ 1 ≤ day ∧ day ≤ daysIn year month then some cs else none

def clock? (cs : List Char) : Option (List Char) := do
  let (hour, cs) ← fixed? 2 cs
  let cs ← char? (· == ':') cs
  let (minute, cs) ← fixed? 2 cs
  if hour ≤ 23 ∧ minute ≤ 59 then some cs else none

def time? (cs : List Char) : Option (List Char) := do
  let cs ← clock? cs
  let cs ← char? (· == ':') cs
  let (second, cs) ← fixed? 2 cs
  if 60 < second then none
  else
    match cs with
    | '.' :: fraction =>
      if (fraction.takeWhile Char.isDigit).isEmpty then none
      else some (fraction.dropWhile Char.isDigit)
    | _ => some cs

def isOffset : List Char → Bool
  | [] => true
  | ['Z'] | ['z'] => true
  | c :: rest => (c == '+' || c == '-') && clock? rest == some []

def isZonedTime (cs : List Char) : Bool := (time? cs).any isOffset

/-- A date, a date and a time with or without a time zone, or a time, as the whole text. A blank
between date and time is written as the letter T here. -/
def dateTime? (cs : List Char) : Option Node :=
  let fits :=
    match date? cs with
    | some [] => true
    | some (c :: rest) => (c == 'T' || c == 't') && isZonedTime rest
    | none => time? cs == some []
  if fits then some .date else none

def read? (cs : List Char) : Option Node :=
  if cs = "true".toList then some (.boolean true)
  else if cs = "false".toList then some (.boolean false)
  else (dateTime? cs).or ((float? cs).or (integer? cs))

end SlashCommands.Toml.Scalar
