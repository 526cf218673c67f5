import SlashCommands.Binary64.Round
import SlashCommands.Text.Blank
import SlashCommands.World

namespace SlashCommands

/-- A conversion that a host supplies: a pure function, which takes a value off the front of a text or
refuses, and sends nothing. -/
structure Converter where
  name : String
  convert : Directory → List Char → Option (Value × List Char)

inductive Kind
  | integer
  | word
  | text
  | float
  | enumeration (e : Enumeration)
  | actor
  | custom (c : Converter)

namespace Kind

def display : Kind → String
  | integer => "Integer"
  | word => "Word"
  | text => "Text"
  | float => "Float"
  | enumeration e => s!"Enum({e.name})"
  | actor => "Actor"
  | custom c => s!"Custom({c.name})"

def float? (token : List Char) : Option Value :=
  match Decimal.Numeral.read? token with
  | some n => if (Binary64.ofNumeral n).isFinite then some (.float (.ofNumeral n)) else none
  | none => none

def variant? (e : Enumeration) (token : List Char) : Option Value := do
  let ordinal ← e.ordinal? (.ofList token)
  let name ← e.variants[ordinal]?
  some (.variant ordinal name)

def actor? (dir : Directory) (token : List Char) : Option Value :=
  if token.isEmpty then none else (dir.lookup token).found?.map .actor

def byToken (read : List Char → Option Value) (text : List Char) : Option (Value × List Char) :=
  (read (Text.token text)).map (·, Text.afterToken text)

/-- Takes a value off the front of a text. -/
def convert (k : Kind) (dir : Directory) (cs : List Char) : Option (Value × List Char) :=
  match k with
  | integer => byToken (fun t => ((Decimal.integer? t).bind Decimal.int64?).map .int) cs
  | word => byToken (fun t => if t.isEmpty then none else some (.text (.ofList t))) cs
  | text => if cs.isEmpty then none else some (.text (.ofList cs), [])
  | float => byToken float? cs
  | enumeration e => byToken (variant? e) cs
  | actor => byToken (actor? dir) cs
  | custom c => c.convert dir cs

/-- The kind that a type is read by, unless a host has its own rule: a text is one word, and units,
truth values and the host's own types are not read at all. -/
def ofType? : ValueType → Option Kind
  | .integer => some integer
  | .text => some word
  | .float => some float
  | .enumeration e => some (enumeration e)
  | .actor => some actor
  | .unit | .bool | .custom _ => none

end Kind

structure Parameter where
  name : String
  kind : Kind
  default : Option Value := none

namespace Parameter

def isOptional (p : Parameter) : Bool := p.default.isSome

end Parameter

end SlashCommands
