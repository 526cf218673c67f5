import SlashCommands.Decimal.Digits

namespace SlashCommands

structure Color where
  red : UInt8
  green : UInt8
  blue : UInt8
  alpha : UInt8 := 255
  deriving DecidableEq, Repr

namespace Color

def white : Color := ⟨255, 255, 255, 255⟩
def scarlet : Color := ⟨255, 0, 0, 255⟩
def lime : Color := ⟨0, 255, 0, 255⟩
def grey : Color := ⟨170, 170, 170, 255⟩

def channel (high low : Nat) : UInt8 := .ofNat (16 * high + low)

def ofNibbles? : List Nat → Option Color
  | [r, r', g, g', b, b'] => some ⟨channel r r', channel g g', channel b b', 255⟩
  | [r, r', g, g', b, b', a, a'] => some ⟨channel r r', channel g g', channel b b', channel a a'⟩
  | _ => none

/-- Reads a number sign and six or eight hexadecimal digits. -/
def ofHex? (s : String) : Option Color :=
  match s.toList with
  | '#' :: digits => (digits.mapM Decimal.hexDigit?).bind ofNibbles?
  | _ => none

def hexDigit (n : Nat) : Char := if n < 10 then .ofNat ('0'.toNat + n) else .ofNat ('A'.toNat + (n - 10))

def channelDigits (c : UInt8) : List Char := [hexDigit (c.toNat / 16), hexDigit (c.toNat % 16)]

def text (c : Color) : String :=
  .ofList ('#' :: (channelDigits c.red ++ channelDigits c.green ++ channelDigits c.blue ++
    if c.alpha = 255 then [] else channelDigits c.alpha))

example : ofHex? "#Ff80aB" = some ⟨255, 128, 171, 255⟩ := by decide +kernel
example : (⟨1, 2, 3, 4⟩ : Color).text = "#01020304" := by decide +kernel

end Color

end SlashCommands
