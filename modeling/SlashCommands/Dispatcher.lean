import SlashCommands.Arguments
import SlashCommands.Config
import SlashCommands.Registry

namespace SlashCommands

inductive Outcome
  | noMatch
  | denied
  | usageSent
  | invalid
  | executed (handled : Bool)
  deriving DecidableEq, Repr

namespace Outcome

def handled : Outcome → Bool
  | usageSent => true
  | executed handled => handled
  | noMatch | denied | invalid => false

def display : Outcome → String
  | noMatch => "NoMatch"
  | denied => "Denied"
  | usageSent => "UsageSent"
  | invalid => "Invalid"
  | executed true => "Executed \x7b handled: true \x7d"
  | executed false => "Executed \x7b handled: false \x7d"

end Outcome

structure Call where
  command : Command
  args : List Value

/-- All that happened in a dispatch: whose check was asked, the uses of converters, the calls of
handlers, the messages sent and the records logged. -/
structure Report where
  outcome : Outcome
  checks : List Command := []
  readings : List Arguments.Reading := []
  calls : List Call := []
  messages : List Message := []
  log : List Log.Record := []

structure Dispatcher where
  registry : Registry
  usage : Option UsageFormat := some Usage.plain
  usageColor : Color := .white

namespace Dispatcher

def ofSettings (r : Registry) (u : UsageSettings) : Except ConfigError Dispatcher :=
  u.color?.map (⟨r, u.style.format?, ·⟩)

def refuse (d : Dispatcher) (c : Command) (actor : ActorId) : Outcome × List Message :=
  match d.usage with
  | none => (.invalid, [])
  | some format => (.usageSent, [⟨actor, d.usageColor, format c.path c.parameters⟩])

def dispatch (d : Dispatcher) (dir : Directory) (actor : ActorId) (text : String) : Report :=
  match d.registry.find text.toList with
  | none => { outcome := .noMatch, log := [⟨.debug, s!"no command matches {Text.quoted text.toList}"⟩] }
  | some m =>
    let c := m.command
    let checks := if c.permission.isSome then [c] else []
    let checked := c.checkMessages dir actor
    if c.allows dir actor then
      let parse := Arguments.parse dir c.parameters m.rest
      let parseLog := parse.result.log c.path
      match parse.result.values? with
      | none =>
        let (outcome, messages) := d.refuse c actor
        { outcome, checks
          readings := parse.readings, messages := checked ++ messages, log := parseLog }
      | some args =>
        let reply := c.reply dir actor args
        { outcome := .executed (c.handled reply.value), checks
          readings := parse.readings
          calls := [⟨c, .actor actor :: args⟩]
          messages := checked ++ reply.messages
          log := parseLog ++
            ⟨.debug, s!"actor {actor} runs /{c.path} via {Text.quoted m.path.toList}"⟩ ::
              c.answerLog reply.value }
    else
      { outcome := .denied, checks, messages := checked
        log := [⟨.warn, s!"actor {actor} denied /{c.path}"⟩] }

end Dispatcher

end SlashCommands
