import SlashCommands.Help
import SlashCommands.Registry

namespace SlashCommands.Demo

def purple : Color := ⟨0xC2, 0xA2, 0xDA, 255⟩
def yellow : Color := ⟨0xFF, 0xFF, 0x00, 255⟩

-- Handlers look their arguments up by place. One of the wrong type, which registration and parsing
-- rule out, counts as an empty text or as zero.
def actorAt (args : List Value) (i : Nat) : Option ActorId := args[i]?.bind Value.actor?

def textAt (args : List Value) (i : Nat) : String := (args[i]?.bind Value.text?).getD ""

def intAt (args : List Value) (i : Nat) : Int64 := (args[i]?.bind Value.int?).getD 0

def displayAt (args : List Value) (i : Nat) : String := (args[i]?.map Value.display).getD ""

def nameOf (dir : Directory) (id : ActorId) : String := (dir.name? id).getD s!"#{id}"

def done (messages : List Message) : Reply := ⟨.bool true, messages⟩

def undone : Reply := ⟨.bool false, []⟩

def withPlayer (args : List Value) (run : ActorId → Reply) : Reply :=
  match actorAt args 0 with
  | some player => run player
  | none => undone

def withTarget (args : List Value) (run : ActorId → ActorId → Reply) : Reply :=
  match actorAt args 0, actorAt args 1 with
  | some player, some target => run player target
  | _, _ => undone

def handler (inputs : List Input) (run : Directory → List Value → Reply) : Procedure :=
  ⟨⟨{ name := "player", type := .actor } :: inputs, .bool⟩, run⟩

def notifier (inputs : List Input) (line : List Value → String) : Procedure :=
  ⟨⟨{ name := "player", type := .actor } :: inputs, .unit⟩, fun _ args =>
    ⟨.unit, (actorAt args 0).toList.map (⟨·, .lime, line args⟩)⟩⟩

def restInput (name : String) (default : Option Value := none) : Input :=
  { name, type := .text, kind := some .text, default }

def vehicleModels : Enumeration :=
  ⟨"VehicleModel", ["Infernus", "Sultan", "Banshee", "Bullet", "Turismo"]⟩

def weathers : Enumeration := ⟨"Weather", ["Sunny", "Cloudy", "Rainy", "Foggy", "Sandstorm"]⟩

def vehicleGroup : Group := .root "veh"
def adminGroup : Group := .root "admin"

/-- A group under two others: both `admin fleet` and `veh fleet` reach it. -/
def fleetGroup : Group := .under "fleet" [adminGroup, vehicleGroup]

/-- Lists the commands; the rows are those of the registry that the command itself belongs to. -/
def help (rows : List (String × String)) : Declaration where
  name := "help"
  description := "List commands"
  handler := handler [{ name := "page", type := .integer, default := some (.int 1) }] fun _ args =>
    withPlayer args fun player => done (Help.messages rows player (intAt args 1))

def me : Declaration where
  name := "me"
  description := "Describe an action"
  handler := handler [restInput "action"] fun dir args =>
    withPlayer args fun player =>
      done [⟨player, purple, s!"* {nameOf dir player} {textAt args 1}"⟩]

def pm : Declaration where
  name := "pm"
  description := "Send a private message"
  handler := handler [{ name := "target", type := .actor }, restInput "message"] fun dir args =>
    withTarget args fun player target =>
      done [
        ⟨target, yellow, s!"PM from {nameOf dir player}: {textAt args 2}"⟩,
        ⟨player, yellow, s!"PM to {nameOf dir target}: {textAt args 2}"⟩]

def teleport : Declaration where
  name := "tp"
  aliasName := some "teleport"
  description := "Teleport to another player"
  handler := handler [{ name := "target", type := .actor }] fun dir args =>
    withTarget args fun player target =>
      done [⟨player, .lime, s!"Teleported to {nameOf dir target}"⟩]

def weather : Declaration where
  name := "weather"
  description := "Change the weather"
  handler := notifier [{ name := "weather", type := .enumeration weathers }] fun args =>
    s!"Weather set to {displayAt args 1}"

def paintLine (r g b : Int64) : String :=
  if [r, g, b].all fun c => 0 ≤ c && c ≤ 255 then s!"Vehicle color set to {r} {g} {b}"
  else "Color channels must be between 0 and 255."

def vehicleColor : Declaration where
  name := "color"
  group := some vehicleGroup
  aliasName := some "colour"
  shortcut := some "vc"
  description := "Repaint your vehicle"
  handler :=
    handler (["r", "g", "b"].map fun name => { name, type := .integer }) fun _ args =>
      withPlayer args fun player =>
        done [⟨player, .lime, paintLine (intAt args 1) (intAt args 2) (intAt args 3)⟩]

def vehicleSpawn : Declaration where
  name := "spawn"
  group := some vehicleGroup
  description := "Spawn a vehicle"
  handler :=
    handler
      [{ name := "model", type := .enumeration vehicleModels },
        { name := "color", type := .integer, default := some (.int 1) }]
      fun _ args => withPlayer args fun player =>
        done [⟨player, .lime, s!"Spawned a {displayAt args 1} (color {intAt args 2})"⟩]

def kick (isAdmin : ActorId → Bool) : Declaration where
  name := "kick"
  group := some adminGroup
  shortcut := some "kick"
  description := "Kick a player"
  permission := some (.predicate isAdmin)
  handler :=
    handler
      [{ name := "target", type := .actor }, restInput "reason" (some (.text "no reason"))]
      fun dir args => withTarget args fun player target =>
        done [
          ⟨target, .scarlet, s!"You were kicked by {nameOf dir player}: {textAt args 2}"⟩,
          ⟨player, .grey, s!"Kicked {nameOf dir target} ({textAt args 2})"⟩]

def fleetRepair (isAdmin : ActorId → Bool) : Declaration where
  name := "repair"
  group := some fleetGroup
  aliasName := some "fix"
  description := "Repair every fleet vehicle"
  permission := some (.predicate isAdmin)
  handler := notifier [] fun _ => "Fleet repaired."

def declarations (isAdmin : ActorId → Bool) (helpRows : List (String × String)) : List Declaration :=
  [help helpRows, me, pm, teleport, weather, vehicleColor, vehicleSpawn, kick isAdmin,
    fleetRepair isAdmin]

end SlashCommands.Demo
