import SlashCommands.Binary64.Shortest
import SlashCommands.Text.LowerCase
import SlashCommands.Text.Quoted

namespace SlashCommands

abbrev ActorId := UInt32

/-- A closed list of names, each standing for its place in the list. -/
structure Enumeration where
  name : String
  variants : List String
  deriving DecidableEq, Repr

namespace Enumeration

def ordinal? (e : Enumeration) (name : String) : Option Nat :=
  e.variants.findIdx? fun v => Text.lowered v == Text.lowered name

end Enumeration

inductive ValueType
  | unit
  | bool
  | integer
  | float
  | text
  | enumeration (e : Enumeration)
  | actor
  | custom (name : String)
  deriving DecidableEq, Repr

def ValueType.display : ValueType → String
  | unit => "unit"
  | bool => "bool"
  | integer => "integer"
  | float => "float"
  | text => "text"
  | enumeration e => e.name
  | actor => "actor"
  | custom name => name

/-- A value. A variant of an enumeration is held by its place and its name. -/
inductive Value
  | unit
  | bool (b : Bool)
  | int (n : Int64)
  | float (x : Binary64)
  | text (s : String)
  | variant (ordinal : Nat) (name : String)
  | actor (id : ActorId)
  deriving DecidableEq, Repr

namespace Value

def bool? : Value → Option Bool
  | bool b => some b
  | _ => none

def int? : Value → Option Int64
  | int n => some n
  | _ => none

def float? : Value → Option Binary64
  | float x => some x
  | _ => none

def text? : Value → Option String
  | text s => some s
  | _ => none

def ordinal? : Value → Option Nat
  | variant ordinal _ => some ordinal
  | _ => none

def actor? : Value → Option ActorId
  | actor id => some id
  | _ => none

def displayLayout : Decimal.Layout := ⟨0, none, none⟩

/-- Logged floats have at least one digit after the point, and an exponent from `10 ^ 16` on and
below `10 ^ -4`. -/
def logLayout : Decimal.Layout := ⟨1, some (-4), some 16⟩

def display : Value → String
  | unit => "()"
  | bool b => if b then "true" else "false"
  | int n => Decimal.integerText n.toInt
  | float x => x.text displayLayout
  | text s => s
  | variant _ name => name
  | actor id => s!"actor#{id}"

def logged : Value → String
  | unit => "Unit"
  | bool b => if b then "Bool(true)" else "Bool(false)"
  | int n => s!"Int({Decimal.integerText n.toInt})"
  | float x => s!"Float({x.text logLayout})"
  | text s => s!"Text({Text.quoted s.toList})"
  | variant ordinal name => s!"Enum \x7b ordinal: {ordinal}, name: {Text.quoted name.toList} \x7d"
  | actor id => s!"Actor(ActorId({id}))"

end Value

end SlashCommands
