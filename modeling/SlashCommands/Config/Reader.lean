import SlashCommands.Config
import SlashCommands.Text.Utf8
import SlashCommands.Toml.Node

namespace SlashCommands

namespace UsageStyle

def ofName? : String → Option UsageStyle
  | "plain" => some plain
  | "colon" => some colon
  | "none" => some none
  | _ => Option.none

end UsageStyle

namespace Toml.Node

def string? : Node → Option String
  | string s => some s
  | _ => none

def boolean? : Node → Option Bool
  | boolean b => some b
  | _ => none

def actorId? : Node → Option ActorId
  | integer n => if 0 ≤ n ∧ n < UInt32.size then some (.ofNat n.toNat) else none
  | _ => none

def entries? : Node → Option Entries
  | inline entries | table _ entries => some entries
  | _ => none

def items? : Node → Option (List Node)
  | array items => some items
  | tables items => some (items.map (table .header))
  | _ => none

def isEmpty (n : Node) : Bool := n.entries?.any (·.isEmpty) || n.items?.any (·.isEmpty)

def style? (n : Node) : Option UsageStyle :=
  match n with
  | string s => UsageStyle.ofName? s
  | _ =>
    match n.entries? with
    | some [(name, value)] => if value.isEmpty then UsageStyle.ofName? name else none
    | _ => none

/-- The values of known keys, in order, from a table or an array of the values. A date counts as a
table with a key of its own, which no settings know. -/
def fields? (keys : List String) (n : Node) : Option (List (Option Node)) :=
  match n with
  | date => some (keys.map fun _ => none)
  | _ =>
    match n.entries?, n.items? with
    | some entries, _ => some (keys.map fun key => entries.lookup key)
    | none, some items => some (keys.mapIdx fun i _ => items[i]?)
    | none, none => none

def orDefault {α : Type} (n : Option Node) (read : Node → Option α) (default : α) : Option α :=
  n.elim (some default) read

def usage? (n : Node) : Option UsageSettings :=
  match n.fields? ["usage_style", "usage_color"] with
  | some [style, color] => do
    let standard : UsageSettings := {}
    some ⟨← orDefault style style? standard.style, ← orDefault color string? standard.color⟩
  | _ => none

def actor? (n : Node) : Option Actor :=
  match n.fields? ["id", "name", "admin"] with
  | some [id, name, admin] => do
    some ⟨← id.bind actorId?, ← name.bind string?, ← orDefault admin boolean? false⟩
  | _ => none

def actors? (n : Node) : Option (List Actor) := n.items?.bind (·.mapM actor?)

end Toml.Node

namespace Config

def ofEntries? (entries : Toml.Entries) : Option Config := do
  let usage ← Toml.Node.orDefault (entries.lookup "dispatch") Toml.Node.usage? {}
  let actors ← Toml.Node.orDefault (entries.lookup "actor") Toml.Node.actors? []
  some { usage, actors }

-- `read` is what reads a text as the root table of a document.
def ofToml (read : List Char → Option Toml.Entries) (text : List Char) :
    Except ConfigError Config :=
  match (read text).bind ofEntries? with
  | none => .error .malformed
  | some c => c.usage.color?.map fun _ => c

def ofFile (read : List Char → Option Toml.Entries) :
    Except FileError (List UInt8) → Except ConfigError Config
  | .error e => .error (.file e)
  | .ok bytes =>
    match Text.decode? bytes with
    | none => .error .notUtf8
    | some text => ofToml read text.toList

def loaded (c : Config) (file : String) : Log.Record :=
  ⟨.info, s!"Loaded config from {file} ({c.actors.length} actors)"⟩

end Config

end SlashCommands
