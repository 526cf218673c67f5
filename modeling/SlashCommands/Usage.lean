import SlashCommands.Parameter

namespace SlashCommands

inductive UsageStyle
  | plain
  | colon
  | none
  deriving DecidableEq, Repr

abbrev UsageFormat := String → List Parameter → String

namespace Usage

def parameter (p : Parameter) : String := if p.isOptional then s!"({p.name})" else s!"[{p.name}]"

def parameters (ps : List Parameter) : String := " ".intercalate (ps.map parameter)

/-- As in `Usage: /veh color [r] [g] [b]`. -/
def plain : UsageFormat := fun path ps =>
  if ps.isEmpty then s!"Usage: /{path}" else s!"Usage: /{path} {parameters ps}"

/-- As in `Usage: /veh color: [r] [g] [b]`. -/
def colon : UsageFormat := fun path ps =>
  if ps.isEmpty then s!"Usage: /{path}" else s!"Usage: /{path}: {parameters ps}"

end Usage

def UsageStyle.format? : UsageStyle → Option UsageFormat
  | plain => some Usage.plain
  | colon => some Usage.colon
  | none => Option.none

end SlashCommands
