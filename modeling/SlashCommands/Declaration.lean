import SlashCommands.Group
import SlashCommands.Parameter

namespace SlashCommands

structure Input where
  name : String
  type : ValueType
  kind : Option Kind := none
  default : Option Value := none

structure Signature where
  inputs : List Input
  output : ValueType

structure Reply where
  value : Value
  messages : List Message := []
  deriving DecidableEq

/-- A function of the host with its signature, which it need not obey. -/
structure Procedure where
  signature : Signature
  run : Directory → List Value → Reply

def Procedure.predicate (allowed : ActorId → Bool) : Procedure where
  signature := ⟨[{ name := "actor", type := .actor }], .bool⟩
  run _ args := ⟨.bool ((args.head?.bind Value.actor?).any allowed), []⟩

/-- A command as declared. The alias stands beside the name, under the same groups; the shortcut
stands alone. -/
structure Declaration where
  name : String
  group : Option Group := none
  aliasName : Option String := none
  shortcut : Option String := none
  ignoreCase : Bool := true
  description : String := ""
  handler : Procedure
  permission : Option Procedure := none

inductive PermissionFault
  | inputCount (n : Nat)
  | notOnActor
  | notBool
  deriving DecidableEq, Repr

inductive Rejection
  | emptyName
  | missingActorInput (command : String)
  | invalidHandlerOutput (command : String) (found : ValueType)
  | invalidPermission (command : String) (fault : PermissionFault)
  | unresolvedParameter (command parameter : String) (type : ValueType)
  | duplicateCommand (path : String)
  deriving DecidableEq, Repr

def PermissionFault.message : PermissionFault → String
  | inputCount n => s!"expected 1 actor input, found {n}"
  | notOnActor => "input is not an actor"
  | notBool => "does not return a bool"

def Rejection.message : Rejection → String
  | emptyName => "command name must not be empty"
  | missingActorInput command => s!"command {command} does not accept an actor as first input"
  | invalidHandlerOutput command found =>
    s!"handler of command {command} must return bool or unit, not {found.display}"
  | invalidPermission command fault =>
    s!"permission check of command {command} is malformed: {fault.message}"
  | unresolvedParameter command parameter type =>
    s!"command {command} has parameter {parameter} of unknown type {type.display}"
  | duplicateCommand path => s!"command {path} is already registered"

def Rejection.report (r : Rejection) : String := s!"registration error: {r.message}"

end SlashCommands
