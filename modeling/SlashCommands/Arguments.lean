import SlashCommands.Command

namespace SlashCommands.Arguments

/-- One use of a converter: the parameter that it was for, and the text that it was given. -/
structure Reading where
  parameter : Parameter
  text : List Char

inductive Result
  | complete (values : List Value) (rest : List Char)
  | missing (p : Parameter)
  | rejected (p : Parameter) (text : List Char)

structure Parse where
  readings : List Reading := []
  result : Result

namespace Result

def cons (v : Value) : Result → Result
  | complete values rest => complete (v :: values) rest
  | r => r

def values? : Result → Option (List Value)
  | complete values _ => some values
  | _ => none

def log (path : String) : Result → List Log.Record
  | complete _ rest =>
    if (Text.trimStart rest).isEmpty then []
    else [⟨.debug, s!"/{path}: ignoring trailing {Text.quoted rest}"⟩]
  | missing _ => []
  | rejected p text => [⟨.debug, s!"/{path}: parameter {p.name} rejected {Text.quoted text}"⟩]

end Result

/-- Reads the parameters in order from a text. -/
def parse (dir : Directory) : List Parameter → List Char → Parse
  | [], text => ⟨[], .complete [] text⟩
  | p :: ps, text =>
    let text := Text.trimStart text
    if text.isEmpty then
      match p.default with
      | none => ⟨[], .missing p⟩
      | some v =>
        let following := parse dir ps text
        ⟨following.readings, following.result.cons v⟩
    else
      match p.kind.convert dir text with
      | none => ⟨[⟨p, text⟩], .rejected p text⟩
      | some (v, rest) =>
        let following := parse dir ps rest
        ⟨⟨p, text⟩ :: following.readings, following.result.cons v⟩

def values? (dir : Directory) (ps : List Parameter) (text : List Char) : Option (List Value) :=
  (parse dir ps text).result.values?

end SlashCommands.Arguments
