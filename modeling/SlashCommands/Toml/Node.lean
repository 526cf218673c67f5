namespace SlashCommands.Toml

inductive Origin
  | header
  | implied
  | dotted
  deriving DecidableEq, Repr

/-- A value or a table. Floats and dates are not looked into. -/
inductive Node
  | string (s : String)
  | integer (n : Int)
  | float
  | boolean (b : Bool)
  | date
  | array (items : List Node)
  | inline (entries : List (String × Node))
  | table (origin : Origin) (entries : List (String × Node))
  | tables (items : List (List (String × Node)))

abbrev Entries := List (String × Node)

namespace Entries

def set (key : String) (node : Node) : Entries → Entries
  | [] => []
  | (k, n) :: rest => if k = key then (k, node) :: rest else (k, n) :: set key node rest

def add? (key : String) (node : Node) (entries : Entries) : Option Entries :=
  if (entries.lookup key).isSome then none else some (entries ++ [(key, node)])

/-- Changes the table at a path, given how the table came to be. Tables on the way are made where
there are none, with `made` as their origin; of tables under one header the last one is taken. Where
they are made by a dotted key, the path may not lead through a table that has a header. -/
def change? (made : Origin) (f : Origin → Entries → Option Entries) :
    List String → Origin → Entries → Option Entries
  | [], origin, entries => f origin entries
  | key :: path, _, entries =>
    match entries.lookup key with
    | none => do
      let below ← change? made f path made []
      some (entries ++ [(key, .table made below)])
    | some (.table origin below) =>
      if made = .dotted ∧ origin = .header then none
      else do
        let below ← change? made f path origin below
        some (entries.set key (.table origin below))
    | some (.tables items) =>
      match items.getLast? with
      | none => none
      | some last => do
        let last ← change? made f path .header last
        some (entries.set key (.tables (items.dropLast ++ [last])))
    | some _ => none

/-- Adds a value under a dotted key. The table that it goes to has to be one of dotted keys, unless
it is the one that the key is written in. -/
def insert? (path : List String) (key : String) (value : Node) (entries : Entries) :
    Option Entries :=
  change? .dotted
    (fun origin entries =>
      if path.isEmpty || origin = .dotted then entries.add? key value else none)
    path .header entries

def openTable? (path : List String) (key : String) (entries : Entries) : Option Entries :=
  change? .implied
    (fun _ entries =>
      match entries.lookup key with
      | none => some (entries ++ [(key, .table .header [])])
      | some (.table .implied below) => some (entries.set key (.table .header below))
      | some _ => none)
    path .header entries

def openItem? (path : List String) (key : String) (entries : Entries) : Option Entries :=
  change? .implied
    (fun _ entries =>
      match entries.lookup key with
      | none => some (entries ++ [(key, .tables [[]])])
      | some (.tables items) => some (entries.set key (.tables (items ++ [[]])))
      | some _ => none)
    path .header entries

def insertAt? (table path : List String) (key : String) (value : Node) (entries : Entries) :
    Option Entries :=
  change? .implied (fun _ entries => entries.insert? path key value) table .header entries

end Entries

end SlashCommands.Toml
