import SlashCommands.Text.EscapedTable

namespace SlashCommands.Text

def hexDigits (n : Nat) : List Char := Nat.toDigits 16 n

/-- How one character stands in a quoted text. -/
def quotedChar (c : Char) : List Char :=
  match c with
  | '"' => ['\\', '"']
  | '\\' => ['\\', '\\']
  | '\t' => ['\\', 't']
  | '\n' => ['\\', 'n']
  | '\r' => ['\\', 'r']
  | '\x00' => ['\\', '0']
  | _ =>
    if escapedRanges.contains c.toNat then '\\' :: 'u' :: '\x7b' :: hexDigits c.toNat ++ ['\x7d']
    else [c]

def quoted (cs : List Char) : String := .ofList ('"' :: cs.flatMap quotedChar ++ ['"'])

example : quoted "a\"b\\\t\u00a0é".toList = "\"a\\\"b\\\\\\t\\u\x7ba0\x7dé\"" := by decide +kernel
example : quoted "\u1160\u3164ｶ\uff9e".toList = "\"\\u\x7b1160\x7d\\u\x7b3164\x7dｶ\uff9e\"" := by decide +kernel

end SlashCommands.Text
