import SlashCommands.Config.Reader
import SlashCommands.Console

namespace SlashCommands.Program

structure Source where
  name : String
  content : Except FileError (List UInt8)

/-- What a run leaves: the lines printed, and the reasons of the failure, if it failed, from the
outermost to the innermost. -/
structure Run where
  printed : List String := []
  failure : List String := []
  deriving DecidableEq, Repr

def printedText (lines : List String) : String := .join (lines.map (· ++ "\n"))

namespace Run

def after (lines : List String) (r : Run) : Run := { r with printed := lines ++ r.printed }

def stdout (r : Run) : String := printedText r.printed

def exitCode (r : Run) : UInt8 := if r.failure.isEmpty then 0 else 1

end Run

def badInput : List String := ["reading stdin", "stream did not contain valid UTF-8"]

inductive Step
  | goOn (c : Console) (printed : List String)
  | quit
  | bad

def step (c : Console) (bytes : List UInt8) : Step :=
  match Text.decode? bytes with
  | none => .bad
  | some line =>
    if Text.trimmed line = ":quit" then .quit
    else
      let (c, answer) := c.handleLine line
      .goOn c answer.lines

/-- Takes lines in, from the first on. -/
def lines : Console → List (List UInt8) → Run
  | _, [] => {}
  | c, bytes :: rest =>
    match step c bytes with
    | .goOn c printed => (lines c rest).after printed
    | .quit => {}
    | .bad => { failure := badInput }

section

variable (read : List Char → Option Toml.Entries)

def settings : Option Source → Except ConfigError Config
  | none => .ok {}
  | some s => Config.ofFile read s.content

def start (source : Option Source) : Except (List String) Console :=
  match settings read source with
  | .error e =>
    let file := source.elim "" (·.name)
    .error (s!"loading config {file}" :: e.causes)
  | .ok config => (Console.start config).mapError (·.causes)

def run (source : Option Source) (input : List UInt8) : Run :=
  match start read source with
  | .error failure => { failure }
  | .ok console => lines console (Text.splitLines input)

end

def indented (indent : String) (reason : String) : String :=
  .ofList (reason.toList.flatMap fun c => if c = '\n' then '\n' :: indent.toList else [c])

def numbered (i : Nat) (reason : String) : String :=
  let digits := Decimal.digits i
  .ofList (List.replicate (5 - digits.length) ' ' ++ digits) ++ ": " ++ indented "       " reason

def causeTexts : List String → List String
  | [cause] => ["    " ++ indented "    " cause]
  | causes => causes.mapIdx numbered

def report : List String → String
  | [] => ""
  | [reason] => s!"Error: {reason}\n"
  | reason :: causes =>
    let causes := "\n".intercalate (causeTexts causes)
    s!"Error: {reason}\n\nCaused by:\n{causes}\n"

end SlashCommands.Program
