import SlashCommands.Text.CaseTable

namespace SlashCommands.Text

def lowerCode (n : Nat) : Nat :=
  match lowerRuns.find? (·.covers n) with
  | some r => r.image n
  | none => n

/-- The lower-case form of one character on its own. Capital I with a dot above is the one
character whose form has two. -/
def lowerChar (c : Char) : List Char :=
  if c.toNat < 0x80 then [c.toLower]
  else if c = '\u0130' then ['i', '\u0307']
  else [Char.ofNat (lowerCode c.toNat)]

def sameLower (c d : Char) : Bool := lowerChar c == lowerChar d

def casedFirst (cs : List Char) : Bool :=
  match cs.find? fun c => !caseIgnorableRanges.contains c.toNat with
  | some c => casedRanges.contains c.toNat
  | none => false

def endsWord (before after : List Char) : Bool := casedFirst before && !casedFirst after

/-- The lower-case form of a text, given the characters before it, nearest first. The form of a capital
sigma depends on its place in the word. -/
def lowerAfter (before : List Char) : List Char → List Char
  | [] => []
  | c :: rest =>
    (if c = '\u03a3' then [if endsWord before rest then '\u03c2' else '\u03c3'] else lowerChar c) ++
      lowerAfter (c :: before) rest

def lower (cs : List Char) : List Char := lowerAfter [] cs

def lowered (s : String) : String := .ofList (lower s.toList)

example : lowered "ΟΔΟΣ ΣΑΣ" = "οδος σας" := by decide +kernel
example : lowered "İZMİR" = "i̇zmi̇r" := by decide +kernel

end SlashCommands.Text
