import SlashCommands.World

namespace SlashCommands.Help

def pageSize : Nat := 6

def pages (rows : Nat) : Nat := max 1 ((rows + pageSize - 1) / pageSize)

/-- The page shown when page `n` is asked for: the nearest that there is. -/
def page (n : Int64) (pages : Nat) : Nat := max 1 (min n.toInt.toNat pages)

def row : String × String → String
  | (path, description) => if description = "" then s!"  /{path}" else s!"  /{path} - {description}"

def rowsOn (rows : List (String × String)) (page : Nat) : List (String × String) :=
  (rows.drop ((page - 1) * pageSize)).take pageSize

def messages (rows : List (String × String)) (recipient : ActorId) (n : Int64) : List Message :=
  let pages := pages rows.length
  let page := page n pages
  ⟨recipient, .white, s!"Commands (page {page}/{pages}):"⟩ ::
    (rowsOn rows page).map fun r => ⟨recipient, .grey, row r⟩

end SlashCommands.Help
