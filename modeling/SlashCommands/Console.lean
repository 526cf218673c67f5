import SlashCommands.Demo
import SlashCommands.Dispatcher

namespace SlashCommands

def demoActors : List Actor := [⟨0, "Alice", true⟩, ⟨1, "Bob", false⟩]

inductive StartError
  | registration (r : Rejection)
  | usage (e : ConfigError)
  | noActors
  deriving DecidableEq, Repr

def StartError.causes : StartError → List String
  | registration r => ["registering demo commands", r.message]
  | usage e => "configuring dispatcher" :: e.causes
  | noActors => ["no actors configured"]

structure Console where
  dispatcher : Dispatcher
  world : World
  current : ActorId

namespace Console

structure Answer where
  lines : List String
  log : List Log.Record := []
  deriving DecidableEq

def actorsOf (c : Config) : List Actor := if c.actors.isEmpty then demoActors else c.actors

def isAdminIn (actors : List Actor) (id : ActorId) : Bool := actors.any fun a => a.admin && a.id == id

def registry (isAdmin : ActorId → Bool) (helpRows : List (String × String)) :
    Except Rejection Registry :=
  match ({} : Draft).registerAll (Demo.declarations isAdmin helpRows) with
  | (_, some r) => .error r
  | (draft, none) => .ok draft.build

/-- The registry of the demonstration commands whose help lists the registry itself. -/
def helpfulRegistry (isAdmin : ActorId → Bool) : Except Rejection Registry := do
  registry isAdmin (← registry isAdmin []).listing

def start (c : Config) : Except StartError Console := do
  let actors := actorsOf c
  let world := World.ofActors actors
  let registry ← (helpfulRegistry (isAdminIn actors)).mapError .registration
  let dispatcher ← (Dispatcher.ofSettings registry c.usage).mapError .usage
  match world.roster.ids with
  | [] => throw .noActors
  | current :: _ => return { dispatcher, world, current }

def startLog (config : Config) (c : Console) : List Log.Record :=
  (actorsOf config).map Actor.connected ++
    c.dispatcher.registry.commands.map Command.registered ++ [c.dispatcher.registry.built]

def nameOf (c : Console) (id : ActorId) : String := (c.world.roster.name? id).getD s!"#{id}"

def who (c : Console) : List String :=
  c.world.roster.actors.map fun a =>
    let mark := if a.admin then " (admin)" else ""
    s!"{a.id}: {a.name}{mark}"

def actAs (c : Console) (token : List Char) : Console × String :=
  match c.world.roster.lookup token with
  | .found id =>
    let c := { c with current := id }
    (c, s!"Now acting as {c.nameOf id}")
  | .ambiguous => (c, s!"'{String.ofList token}' matches more than one actor")
  | .notFound => (c, s!"No actor matches '{String.ofList token}'")

def messageLine (c : Console) (m : Message) : String :=
  let name := (c.world.roster.name? m.recipient).getD ""
  s!"[{name} {m.color.text}] {m.text}"

def command (c : Console) (text : String) : Console × Answer :=
  let report := c.dispatcher.dispatch c.world.directory c.current text
  let world := c.world.send report.messages
  let unknown := if report.outcome.handled then [] else ["SERVER: Unknown command."]
  ({ c with world := world.drained },
    { lines := world.outbox.map c.messageLine ++ unknown
      log := report.log ++ [⟨.debug, s!"/{text} -> {report.outcome.display}"⟩] })

/-- Takes one line in: blank, `:as` with who acts from now on, `:who`, a command, or else talk. -/
def handleLine (c : Console) (line : String) : Console × Answer :=
  match Text.trim line.toList with
  | [] => (c, ⟨[], []⟩)
  | ':' :: 'a' :: 's' :: token =>
    let (c, answer) := c.actAs (Text.trim token)
    (c, ⟨[answer], []⟩)
  | [':', 'w', 'h', 'o'] => (c, ⟨c.who, []⟩)
  | '/' :: text => c.command (.ofList text)
  | talk => (c, ⟨[s!"{c.nameOf c.current}: {String.ofList talk}"], []⟩)

end Console

end SlashCommands
