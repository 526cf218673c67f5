import SlashCommands.Declaration

namespace SlashCommands

abbrev Resolver := ValueType → String → Option Kind

def Resolver.builtin : Resolver := fun type _ => Kind.ofType? type

structure Command where
  name : String
  group : Option Group
  aliasName : Option String
  shortcut : Option String
  ignoreCase : Bool
  description : String
  parameters : List Parameter
  permission : Option Procedure
  handler : Procedure

def Input.parameter? (resolve : Resolver) (i : Input) : Option Parameter :=
  (i.kind.or (resolve i.type i.name)).map (⟨i.name, ·, i.default⟩)

def Procedure.permissionFault? (p : Procedure) : Option PermissionFault :=
  match p.signature.inputs with
  | [only] =>
    if only.type ≠ .actor then some .notOnActor
    else if p.signature.output ≠ .bool then some .notBool
    else none
  | inputs => some (.inputCount inputs.length)

namespace Command

def parametersOf (resolve : Resolver) (command : String) :
    List Input → Except Rejection (List Parameter)
  | [] => .ok []
  | i :: is =>
    match i.parameter? resolve with
    | none => .error (.unresolvedParameter command i.name i.type)
    | some p => (parametersOf resolve command is).map (p :: ·)

/-- Checks a declaration. The faults are looked for in a fixed order, and the first one counts. -/
def ofDeclaration (resolve : Resolver) (d : Declaration) : Except Rejection Command :=
  let name := Text.trimmed d.name
  let output := d.handler.signature.output
  if name = "" then .error .emptyName
  else
    match d.handler.signature.inputs with
    | [] => .error (.missingActorInput name)
    | first :: inputs =>
      if first.type ≠ .actor then .error (.missingActorInput name)
      else if output ≠ .bool ∧ output ≠ .unit then .error (.invalidHandlerOutput name output)
      else
        match d.permission.bind (·.permissionFault?) with
        | some fault => .error (.invalidPermission name fault)
        | none =>
          (parametersOf resolve name inputs).map fun parameters =>
            { name, parameters
              group := d.group, aliasName := d.aliasName, shortcut := d.shortcut, ignoreCase := d.ignoreCase
              description := d.description, permission := d.permission, handler := d.handler }

def path (c : Command) : String :=
  match c.group with
  | some g => s!"{g.path} {c.name}"
  | none => c.name

/-- Every path that selects the command: the shortcut, then the name and the alias under each path
of its group. -/
def paths (c : Command) : List String :=
  c.shortcut.toList ++
    match c.group with
    | none => c.name :: c.aliasName.toList
    | some g => g.paths.flatMap fun p => s!"{p} {c.name}" :: c.aliasName.toList.map fun a => s!"{p} {a}"

/-- What tells the command from others: its path, in lower case if case is ignored. -/
def key (c : Command) : String := if c.ignoreCase then Text.lowered c.path else c.path

def allows (c : Command) (dir : Directory) (actor : ActorId) : Bool :=
  match c.permission with
  | none => true
  | some check => (check.run dir [.actor actor]).value == .bool true

def checkMessages (c : Command) (dir : Directory) (actor : ActorId) : List Message :=
  match c.permission with
  | none => []
  | some check => (check.run dir [.actor actor]).messages

def reply (c : Command) (dir : Directory) (actor : ActorId) (args : List Value) : Reply :=
  c.handler.run dir (.actor actor :: args)

/-- Whether an answer of the handler means that the line is dealt with. A handler without output
always deals with it, and so does one that gives something else than the truth value it declared. -/
def handled (c : Command) (answer : Value) : Bool :=
  c.handler.signature.output = .unit || answer.bool?.getD true

def answerLog (c : Command) (answer : Value) : List Log.Record :=
  if c.handler.signature.output = .unit || answer.bool?.isSome then []
  else [⟨.warn, s!"handler of {c.path} returned {answer.logged} instead of a bool"⟩]

def registered (c : Command) : Log.Record :=
  ⟨.debug, s!"registered command /{c.path} ({c.parameters.length} params)"⟩

end Command

end SlashCommands
