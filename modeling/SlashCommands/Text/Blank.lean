import SlashCommands.Text.Ranges

namespace SlashCommands.Text

def blankRanges : Ranges :=
  [(0x09, 0x0D), (0x20, 0x20), (0x85, 0x85), (0xA0, 0xA0), (0x1680, 0x1680), (0x2000, 0x200A),
    (0x2028, 0x2029), (0x202F, 0x202F), (0x205F, 0x205F), (0x3000, 0x3000)]

/-- Whether a character is white space; U+200B, U+FEFF and U+001C to U+001F are not. -/
def isBlank (c : Char) : Bool := blankRanges.contains c.toNat

example : isBlank ' ' ∧ isBlank '\t' ∧ isBlank '\u00a0' ∧ isBlank '\u3000' := by decide
example : ¬ isBlank '\u200b' ∧ ¬ isBlank '\ufeff' ∧ ¬ isBlank '\u001c' := by decide

def trimStart (cs : List Char) : List Char := cs.dropWhile isBlank

def trimEnd (cs : List Char) : List Char := (cs.reverse.dropWhile isBlank).reverse

def trim (cs : List Char) : List Char := trimEnd (trimStart cs)

def token (cs : List Char) : List Char := cs.takeWhile fun c => !isBlank c

def afterToken (cs : List Char) : List Char := cs.dropWhile fun c => !isBlank c

@[simp] theorem token_append_afterToken (cs : List Char) : token cs ++ afterToken cs = cs :=
  List.takeWhile_append_dropWhile

/-- Drops the spaces U+0020, and no other characters, on both sides. -/
def trimSpaces (cs : List Char) : List Char :=
  ((cs.dropWhile (· == ' ')).reverse.dropWhile (· == ' ')).reverse

def trimmed (s : String) : String := .ofList (trim s.toList)

end SlashCommands.Text
