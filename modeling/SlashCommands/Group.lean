namespace SlashCommands

/-- A group of commands, with the groups that it stands under. -/
inductive Group
  | under (name : String) (parents : List Group)

namespace Group

def root (name : String) : Group := under name []

def name : Group → String
  | under name _ => name

mutual

def paths : Group → List String
  | under name [] => [name]
  | under name (p :: ps) => (pathsOfAll (p :: ps)).map fun path => s!"{path} {name}"

def pathsOfAll : List Group → List String
  | [] => []
  | g :: gs => g.paths ++ pathsOfAll gs

end

/-- The path by which the group is displayed, which leads through first parents only. -/
def path : Group → String
  | under name [] => name
  | under name (p :: _) => s!"{p.path} {name}"

theorem head?_paths : ∀ g : Group, g.paths.head? = some g.path
  | under name [] => by simp [paths, path]
  | under name (p :: ps) => by
    simp [paths, pathsOfAll, path, List.head?_append, head?_paths p]

end Group

end SlashCommands
