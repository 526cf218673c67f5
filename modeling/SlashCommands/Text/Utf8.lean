namespace SlashCommands.Text

def decode? (bytes : List UInt8) : Option String := String.fromUTF8? ⟨bytes.toArray⟩

def lineFeed : UInt8 := 0x0A

/-- Cuts bytes at each line feed. A line feed at the end begins no further line. -/
def splitLines : List UInt8 → List (List UInt8)
  | [] => []
  | b :: rest =>
    if b = lineFeed then [] :: splitLines rest
    else
      match splitLines rest with
      | [] => [[b]]
      | line :: lines => (b :: line) :: lines

end SlashCommands.Text
