import SlashCommands.Command

namespace SlashCommands

/-- Commands in the order of registration, the keys taken, and the rule for types. -/
structure Draft where
  resolver : Resolver := .builtin
  commands : List Command := []
  keys : List String := []

namespace Draft

def withResolver (d : Draft) (resolver : Resolver) : Draft := { d with resolver }

/-- The draft after a declaration was handed in, and why it is refused, if it is. -/
def register (d : Draft) (decl : Declaration) : Draft × Option Rejection :=
  match Command.ofDeclaration d.resolver decl with
  | .error r => (d, some r)
  | .ok c =>
    if c.key ∈ d.keys then (d, some (.duplicateCommand c.path))
    else ({ d with commands := d.commands ++ [c], keys := c.key :: d.keys }, none)

def registerAll (d : Draft) : List Declaration → Draft × Option Rejection
  | [] => (d, none)
  | decl :: decls =>
    match d.register decl with
    | (d, none) => d.registerAll decls
    | (d, some r) => (d, some r)

end Draft

structure Candidate where
  path : String
  command : Command

namespace Candidate

def words (c : Candidate) : Nat := c.path.toList.count ' ' + 1

/-- The paths of commands, those of more words first, else in the order of registration and then in
that of the command's own paths. -/
def ranked (commands : List Command) : List Candidate :=
  (commands.flatMap fun c => c.paths.map (⟨·, c⟩)).mergeSort fun a b => b.words ≤ a.words

end Candidate

/-- Takes a path off the front of a text. What is left has to be empty or begin with a space. -/
def stripPath (ignoreCase : Bool) : List Char → List Char → Option (List Char)
  | [], [] => some []
  | [], c :: rest => if c = ' ' then some (c :: rest) else none
  | _ :: _, [] => none
  | p :: ps, c :: cs =>
    if c = p || (ignoreCase && Text.sameLower c p) then stripPath ignoreCase ps cs else none

structure Match where
  command : Command
  path : String
  rest : List Char

def Candidate.match? (c : Candidate) (text : List Char) : Option Match :=
  (stripPath c.command.ignoreCase c.path.toList text).map (⟨c.command, c.path, ·⟩)

structure Registry where
  commands : List Command
  candidates : List Candidate
  candidates_eq : candidates = Candidate.ranked commands

namespace Registry

def ofCommands (commands : List Command) : Registry := ⟨commands, _, rfl⟩

/-- The command that a text selects, by the first path in the order of matching that fits. Spaces
around the text do not count. -/
def find (r : Registry) (text : List Char) : Option Match :=
  r.candidates.findSome? (·.match? (Text.trimSpaces text))

def get? (r : Registry) (path : String) : Option Command := r.commands.find? (·.path == path)

def listing (r : Registry) : List (String × String) :=
  (r.commands.map fun c => (c.path, c.description)).mergeSort fun a b => a.1 ≤ b.1

def completions (r : Registry) (part : String) : List String :=
  ((r.commands.map (·.path)).filter fun p =>
    (Text.lower part.toList).isPrefixOf (Text.lower p.toList)).mergeSort (· ≤ ·)

def built (r : Registry) : Log.Record :=
  ⟨.info, s!"command registry built: {r.commands.length} commands, {r.candidates.length} paths"⟩

end Registry

def Draft.build (d : Draft) : Registry := .ofCommands d.commands

end SlashCommands
