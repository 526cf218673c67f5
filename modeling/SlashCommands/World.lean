import SlashCommands.Color
import SlashCommands.Log
import SlashCommands.Roster

namespace SlashCommands

structure Message where
  recipient : ActorId
  color : Color
  text : String
  deriving DecidableEq, Repr

structure Directory where
  lookup : List Char → Lookup
  name? : ActorId → Option String

/-- The roster and the messages sent, oldest first. -/
structure World where
  roster : Roster := .empty
  outbox : List Message := []

namespace World

def connect (w : World) (a : Actor) : World := { w with roster := w.roster.connect a }

def disconnect (w : World) (id : ActorId) : World := { w with roster := w.roster.disconnect id }

/-- Disconnects whoever has an id, and tells whether this took anybody out of the roster. -/
def dismiss (w : World) (id : ActorId) : World × Bool :=
  let left := w.disconnect id
  (left, left.roster.actors.length < w.roster.actors.length)

def ofActors (actors : List Actor) : World := { roster := .ofList actors }

def directory (w : World) : Directory := ⟨w.roster.lookup, w.roster.name?⟩

def send (w : World) (messages : List Message) : World := { w with outbox := w.outbox ++ messages }

def messagesFor (w : World) (id : ActorId) : List Message := w.outbox.filter (·.recipient == id)

def drained (w : World) : World := { w with outbox := [] }

end World

def Actor.connected (a : Actor) : Log.Record := ⟨.debug, s!"actor {a.id} connected as {a.name}"⟩

end SlashCommands
