import SlashCommands.Color
import SlashCommands.Roster
import SlashCommands.Usage

namespace SlashCommands

structure UsageSettings where
  style : UsageStyle := .plain
  color : String := "#FFFFFF"
  deriving DecidableEq, Repr

structure Config where
  usage : UsageSettings := {}
  actors : List Actor := []
  deriving DecidableEq, Repr

inductive FileError
  | notFound
  | permissionDenied
  | notADirectory
  | isADirectory
  deriving DecidableEq, Repr

def FileError.message : FileError → String
  | notFound => "No such file or directory (os error 2)"
  | permissionDenied => "Permission denied (os error 13)"
  | notADirectory => "Not a directory (os error 20)"
  | isADirectory => "Is a directory (os error 21)"

inductive ConfigError
  | invalidColor (text : String)
  | file (e : FileError)
  | notUtf8
  | malformed
  deriving DecidableEq, Repr

namespace ConfigError

/-- The reasons from the outermost to the innermost; each but the last names the stage first. -/
def causes : ConfigError → List String
  | invalidColor text => [s!"config error: invalid usage_color: {text}"]
  | file e => within "I/O error" e.message
  | notUtf8 => within "I/O error" "stream did not contain valid UTF-8"
  | malformed => within "TOML parse error" "the document does not fit"
where
  within (stage reason : String) : List String := [s!"{stage}: {reason}", reason]

def message (e : ConfigError) : String := e.causes.headD ""

end ConfigError

def UsageSettings.color? (u : UsageSettings) : Except ConfigError Color :=
  match Color.ofHex? u.color with
  | some c => .ok c
  | none => .error (.invalidColor u.color)

end SlashCommands
