import Mathlib.Data.List.Forall2
import SlashCommands.Proofs.Registration

namespace SlashCommands.Proofs.Acceptance

open Registration Text

def StartsWithActor (p : Procedure) : Prop :=
  ∃ first rest, p.signature.inputs = first :: rest ∧ first.type = .actor

def Answers (p : Procedure) : Prop := p.signature.output = .bool ∨ p.signature.output = .unit

def JudgesActor (p : Procedure) : Prop :=
  (∃ only, p.signature.inputs = [only] ∧ only.type = .actor) ∧ p.signature.output = .bool

def further (decl : Declaration) : List Input := decl.handler.signature.inputs.tail

def IsRead (resolve : Resolver) (i : Input) : Prop :=
  i.kind.isSome = true ∨ (resolve i.type i.name).isSome = true

/-- The command that a declaration stands for. An input that no rule reads has no parameter. -/
def commandOf (resolve : Resolver) (decl : Declaration) : Command where
  name := trimmed decl.name
  group := decl.group
  aliasName := decl.aliasName
  shortcut := decl.shortcut
  ignoreCase := decl.ignoreCase
  description := decl.description
  parameters := (further decl).filterMap (·.parameter? resolve)
  permission := decl.permission
  handler := decl.handler

/-- What a declaration has to meet, in the order in which it is checked. -/
def requirements (d : Draft) (decl : Declaration) : List Prop :=
  [trimmed decl.name ≠ "",
    StartsWithActor decl.handler,
    Answers decl.handler,
    ∀ check, decl.permission = some check → JudgesActor check,
    ∀ i ∈ further decl, IsRead d.resolver i,
    (commandOf d.resolver decl).key ∉ d.keys]

/-- What is wrong with a check. Only of a single input it matters what it is, and only of one on an
actor what it gives. -/
inductive Malformed (p : Procedure) : PermissionFault → Prop
  | inputCount (h : p.signature.inputs.length ≠ 1) :
      Malformed p (.inputCount p.signature.inputs.length)
  | notOnActor {only : Input} (hinputs : p.signature.inputs = [only]) (h : only.type ≠ .actor) :
      Malformed p .notOnActor
  | notBool {only : Input} (hinputs : p.signature.inputs = [only]) (htype : only.type = .actor)
      (h : p.signature.output ≠ .bool) : Malformed p .notBool

/-- What is said of a declaration that does not meet a requirement, whatever else it does not meet. -/
inductive Fault (d : Draft) (decl : Declaration) : Rejection → Prop
  | emptyName (h : trimmed decl.name = "") : Fault d decl .emptyName
  | missingActorInput (h : ¬ StartsWithActor decl.handler) :
      Fault d decl (.missingActorInput (trimmed decl.name))
  | invalidHandlerOutput (h : ¬ Answers decl.handler) :
      Fault d decl (.invalidHandlerOutput (trimmed decl.name) decl.handler.signature.output)
  | invalidPermission {check : Procedure} {fault : PermissionFault}
      (hcheck : decl.permission = some check) (h : Malformed check fault) :
      Fault d decl (.invalidPermission (trimmed decl.name) fault)
  | unresolvedParameter {before after : List Input} {i : Input}
      (hinputs : further decl = before ++ i :: after) (hbefore : ∀ j ∈ before, IsRead d.resolver j)
      (h : ¬ IsRead d.resolver i) :
      Fault d decl (.unresolvedParameter (trimmed decl.name) i.name i.type)
  | duplicateCommand (h : (commandOf d.resolver decl).key ∈ d.keys) :
      Fault d decl (.duplicateCommand (commandOf d.resolver decl).path)

def place : Rejection → Nat
  | .emptyName => 0
  | .missingActorInput _ => 1
  | .invalidHandlerOutput _ _ => 2
  | .invalidPermission _ _ => 3
  | .unresolvedParameter _ _ _ => 4
  | .duplicateCommand _ => 5

def MeetsFirst (d : Draft) (decl : Declaration) (n : Nat) : Prop :=
  ∀ p ∈ (requirements d decl).take n, p

def FirstFault (d : Draft) (decl : Declaration) (e : Rejection) : Prop :=
  Fault d decl e ∧ MeetsFirst d decl (place e)

def added (d : Draft) (decl : Declaration) : Draft :=
  let c := commandOf d.resolver decl
  { d with commands := d.commands ++ [c], keys := c.key :: d.keys }

/-- An input becomes a parameter of its name and default, read by its own kind or else by the rule. -/
def ReadAs (resolve : Resolver) (i : Input) (p : Parameter) : Prop :=
  p.name = i.name ∧ p.default = i.default ∧
    (i.kind = some p.kind ∨ i.kind = none ∧ resolve i.type i.name = some p.kind)

inductive Step
  | replace (resolver : Resolver)
  | declare (decl : Declaration)

def step (d : Draft) : Step → Draft
  | .replace resolver => d.withResolver resolver
  | .declare decl => attempt d decl

def after (d : Draft) (steps : List Step) : Draft := steps.foldl step d

theorem exists_first_not {α : Type*} {P : α → Prop} {xs : List α} (h : ¬ ∀ x ∈ xs, P x) :
    ∃ before x later, xs = before ++ x :: later ∧ (∀ y ∈ before, P y) ∧ ¬ P x := by
  induction xs with
  | nil => exact absurd (fun _ hx => absurd hx List.not_mem_nil) h
  | cons x xs ih =>
    by_cases hx : P x
    · have hrest : ¬ ∀ y ∈ xs, P y := fun hxs => h (List.forall_mem_cons.mpr ⟨hx, hxs⟩)
      obtain ⟨before, y, later, rfl, hbefore, hy⟩ := ih hrest
      exact ⟨x :: before, y, later, rfl, List.forall_mem_cons.mpr ⟨hx, hbefore⟩, hy⟩
    · exact ⟨[], x, xs, rfl, fun _ hy => absurd hy List.not_mem_nil, hx⟩

section

variable {resolve : Resolver} {i : Input} {p : Parameter} {inputs before later : List Input}

theorem parameter?_eq_none_iff : i.parameter? resolve = none ↔ ¬ IsRead resolve i := by
  rw [Input.parameter?, Option.map_eq_none_iff, Option.or_eq_none_iff, IsRead, not_or,
    Option.not_isSome_iff_eq_none, Option.not_isSome_iff_eq_none]

theorem isRead_iff : IsRead resolve i ↔ ∃ p, i.parameter? resolve = some p := by
  rw [← Option.ne_none_iff_exists', ne_eq, parameter?_eq_none_iff, not_not]

theorem readAs_of_parameter? (h : i.parameter? resolve = some p) : ReadAs resolve i p := by
  obtain ⟨k, hk, rfl⟩ := Option.map_eq_some_iff.mp h
  exact ⟨rfl, rfl, Option.or_eq_some_iff.mp hk⟩

theorem parametersOf_of_isRead (name : String) (h : ∀ i ∈ inputs, IsRead resolve i) :
    Command.parametersOf resolve name inputs = .ok (inputs.filterMap (·.parameter? resolve)) := by
  induction inputs with
  | nil => rfl
  | cons i inputs ih =>
    obtain ⟨hi, hinputs⟩ := List.forall_mem_cons.mp h
    obtain ⟨p, hp⟩ := isRead_iff.mp hi
    rw [Command.parametersOf, hp, ih hinputs, List.filterMap_cons_some hp]
    rfl

theorem parametersOf_of_not_isRead (name : String) (hinputs : inputs = before ++ i :: later)
    (hbefore : ∀ j ∈ before, IsRead resolve j) (h : ¬ IsRead resolve i) :
    Command.parametersOf resolve name inputs =
      .error (.unresolvedParameter name i.name i.type) := by
  subst hinputs
  induction before with
  | nil => rw [List.nil_append, Command.parametersOf, parameter?_eq_none_iff.mpr h]
  | cons j before ih =>
    obtain ⟨hj, hbefore⟩ := List.forall_mem_cons.mp hbefore
    obtain ⟨p, hp⟩ := isRead_iff.mp hj
    rw [List.cons_append, Command.parametersOf, hp, ih hbefore]
    rfl

theorem forall₂_readAs (h : ∀ i ∈ inputs, IsRead resolve i) :
    List.Forall₂ (ReadAs resolve) inputs (inputs.filterMap (·.parameter? resolve)) := by
  induction inputs with
  | nil => exact .nil
  | cons i inputs ih =>
    obtain ⟨hi, hinputs⟩ := List.forall_mem_cons.mp h
    obtain ⟨p, hp⟩ := isRead_iff.mp hi
    rw [List.filterMap_cons_some hp]
    exact .cons (readAs_of_parameter? hp) (ih hinputs)

end

section

variable {check : Procedure} {fault : PermissionFault}

theorem permissionFault?_eq_none (h : JudgesActor check) : check.permissionFault? = none := by
  obtain ⟨⟨only, hinputs, htype⟩, houtput⟩ := h
  rw [Procedure.permissionFault?, hinputs]
  simp [htype, houtput]

theorem permissionFault?_of_malformed (h : Malformed check fault) :
    check.permissionFault? = some fault := by
  rw [Procedure.permissionFault?]
  cases h with
  | inputCount h =>
    split
    · rename_i hinputs
      rw [hinputs] at h
      exact absurd rfl h
    · rfl
  | notOnActor hinputs h => simp [hinputs, h]
  | notBool hinputs htype h => simp [hinputs, htype, h]

theorem exists_malformed (h : ¬ JudgesActor check) : ∃ fault, Malformed check fault := by
  match hinputs : check.signature.inputs with
  | [only] =>
    by_cases htype : only.type = .actor
    · exact ⟨.notBool, .notBool hinputs htype fun houtput => h ⟨⟨only, hinputs, htype⟩, houtput⟩⟩
    · exact ⟨.notOnActor, .notOnActor hinputs htype⟩
  | [] | _ :: _ :: _ => exact ⟨_, .inputCount (by simp [hinputs])⟩

end

section

variable {resolve : Resolver} {d : Draft} {decl : Declaration} {e e' : Rejection}

theorem ofDeclaration_of_not_startsWithActor (hname : trimmed decl.name ≠ "")
    (h : ¬ StartsWithActor decl.handler) :
    Command.ofDeclaration resolve decl = .error (.missingActorInput (trimmed decl.name)) := by
  rw [Command.ofDeclaration, if_neg hname]
  split
  · rfl
  · rename_i first rest hinputs
    exact if_pos fun htype => h ⟨first, rest, hinputs, htype⟩

theorem ofDeclaration_of_not_answers (hname : trimmed decl.name ≠ "")
    (hactor : StartsWithActor decl.handler) (h : ¬ Answers decl.handler) :
    Command.ofDeclaration resolve decl =
      .error (.invalidHandlerOutput (trimmed decl.name) decl.handler.signature.output) := by
  obtain ⟨first, rest, hinputs, htype⟩ := hactor
  rw [Command.ofDeclaration, if_neg hname, hinputs]
  simp only [htype, ne_eq, not_true_eq_false, if_false]
  exact if_pos (not_or.mp h)

theorem ofDeclaration_eq (hname : trimmed decl.name ≠ "") (hactor : StartsWithActor decl.handler)
    (houtput : Answers decl.handler) : Command.ofDeclaration resolve decl =
      match decl.permission.bind (·.permissionFault?) with
      | some fault => .error (.invalidPermission (trimmed decl.name) fault)
      | none => (Command.parametersOf resolve (trimmed decl.name) (further decl)).map
          fun parameters => { commandOf resolve decl with parameters } := by
  obtain ⟨first, rest, hinputs, htype⟩ := hactor
  have houtput : ¬(decl.handler.signature.output ≠ .bool ∧ decl.handler.signature.output ≠ .unit) :=
    fun hne => houtput.elim hne.1 hne.2
  have hfurther : further decl = rest := congrArg List.tail hinputs
  rw [Command.ofDeclaration, if_neg hname, hinputs, hfurther]
  simp only [htype, ne_eq, not_true_eq_false, if_false]
  exact if_neg houtput

theorem permissionFault?_of_judgesActor
    (h : ∀ check, decl.permission = some check → JudgesActor check) :
    decl.permission.bind (·.permissionFault?) = none := by
  cases hcheck : decl.permission with
  | none => rfl
  | some check => exact permissionFault?_eq_none (h check hcheck)

theorem ofDeclaration_of_isRead (hname : trimmed decl.name ≠ "")
    (hactor : StartsWithActor decl.handler) (houtput : Answers decl.handler)
    (hcheck : ∀ check, decl.permission = some check → JudgesActor check)
    (hinputs : ∀ i ∈ further decl, IsRead resolve i) :
    Command.ofDeclaration resolve decl = .ok (commandOf resolve decl) := by
  rw [ofDeclaration_eq hname hactor houtput, permissionFault?_of_judgesActor hcheck]
  simp only [parametersOf_of_isRead _ hinputs]
  rfl

theorem exists_malformed_of_permission
    (h : ¬ ∀ check, decl.permission = some check → JudgesActor check) :
    ∃ check, decl.permission = some check ∧ ∃ fault, Malformed check fault := by
  simp only [not_forall] at h
  obtain ⟨check, hsome, hcheck⟩ := h
  exact ⟨check, hsome, exists_malformed hcheck⟩

theorem ofDeclaration_of_malformed {check : Procedure} {fault : PermissionFault}
    (hname : trimmed decl.name ≠ "") (hactor : StartsWithActor decl.handler)
    (houtput : Answers decl.handler) (hcheck : decl.permission = some check)
    (h : Malformed check fault) : Command.ofDeclaration resolve decl =
      .error (.invalidPermission (trimmed decl.name) fault) := by
  rw [ofDeclaration_eq hname hactor houtput, hcheck, Option.bind_some,
    permissionFault?_of_malformed h]

theorem ofDeclaration_of_not_isRead {before later : List Input} {i : Input}
    (hname : trimmed decl.name ≠ "") (hactor : StartsWithActor decl.handler)
    (houtput : Answers decl.handler)
    (hcheck : ∀ check, decl.permission = some check → JudgesActor check)
    (hfurther : further decl = before ++ i :: later) (hbefore : ∀ j ∈ before, IsRead resolve j)
    (h : ¬ IsRead resolve i) : Command.ofDeclaration resolve decl =
      .error (.unresolvedParameter (trimmed decl.name) i.name i.type) := by
  rw [ofDeclaration_eq hname hactor houtput, permissionFault?_of_judgesActor hcheck]
  simp only [parametersOf_of_not_isRead _ hfurther hbefore h]
  rfl

theorem refused_of_error (h : Command.ofDeclaration d.resolver decl = .error e) :
    (d.register decl).2 = some e := by
  rw [Draft.register, h]

theorem register_of_met (h : ∀ p ∈ requirements d decl, p) :
    d.register decl = (added d decl, none) := by
  simp only [requirements, List.forall_mem_cons] at h
  obtain ⟨hname, hactor, houtput, hcheck, hinputs, hkey, -⟩ := h
  rw [Draft.register, ofDeclaration_of_isRead hname hactor houtput hcheck hinputs]
  exact if_neg hkey

theorem FirstFault.refused (h : FirstFault d decl e) : (d.register decl).2 = some e := by
  obtain ⟨hfault, hmet⟩ := h
  rw [MeetsFirst, requirements] at hmet
  cases hfault with
  | emptyName h =>
    apply refused_of_error
    rw [Command.ofDeclaration, if_pos h]
  | missingActorInput h =>
    simp only [place, List.take_succ_cons, List.forall_mem_cons] at hmet
    obtain ⟨hname, -⟩ := hmet
    apply refused_of_error
    exact ofDeclaration_of_not_startsWithActor hname h
  | invalidHandlerOutput h =>
    simp only [place, List.take_succ_cons, List.forall_mem_cons] at hmet
    obtain ⟨hname, hactor, -⟩ := hmet
    apply refused_of_error
    exact ofDeclaration_of_not_answers hname hactor h
  | invalidPermission hsome h =>
    simp only [place, List.take_succ_cons, List.forall_mem_cons] at hmet
    obtain ⟨hname, hactor, houtput, -⟩ := hmet
    apply refused_of_error
    exact ofDeclaration_of_malformed hname hactor houtput hsome h
  | unresolvedParameter hinputs hbefore h =>
    simp only [place, List.take_succ_cons, List.forall_mem_cons] at hmet
    obtain ⟨hname, hactor, houtput, hcheck, -⟩ := hmet
    apply refused_of_error
    exact ofDeclaration_of_not_isRead hname hactor houtput hcheck hinputs hbefore h
  | duplicateCommand h =>
    simp only [place, List.take_succ_cons, List.forall_mem_cons] at hmet
    obtain ⟨hname, hactor, houtput, hcheck, hinputs, -⟩ := hmet
    apply (duplicateCommand_iff _).mpr h
    exact ofDeclaration_of_isRead hname hactor houtput hcheck hinputs

theorem exists_fault {n : Nat} {p : Prop} (hn : (requirements d decl)[n]? = some p) (hp : ¬ p) :
    ∃ e, Fault d decl e ∧ place e = n := by
  match n with
  | 0 =>
    cases hn
    exact ⟨_, .emptyName (not_not.mp hp), rfl⟩
  | 1 =>
    cases hn
    exact ⟨_, .missingActorInput hp, rfl⟩
  | 2 =>
    cases hn
    exact ⟨_, .invalidHandlerOutput hp, rfl⟩
  | 3 =>
    cases hn
    obtain ⟨check, hsome, fault, hfault⟩ := exists_malformed_of_permission hp
    exact ⟨_, .invalidPermission hsome hfault, rfl⟩
  | 4 =>
    cases hn
    obtain ⟨before, i, later, hinputs, hbefore, hi⟩ := exists_first_not hp
    exact ⟨_, .unresolvedParameter hinputs hbefore hi, rfl⟩
  | 5 =>
    cases hn
    exact ⟨_, .duplicateCommand (not_not.mp hp), rfl⟩
  | n + 6 => cases hn

theorem exists_firstFault (h : ¬ ∀ p ∈ requirements d decl, p) : ∃ e, FirstFault d decl e := by
  obtain ⟨before, p, later, hrequirements, hbefore, hp⟩ := exists_first_not h
  have hn : (requirements d decl)[before.length]? = some p := by
    simp [hrequirements]
  obtain ⟨e, he, hplace⟩ := exists_fault hn hp
  refine ⟨e, he, ?_⟩
  rw [MeetsFirst, hplace, hrequirements, List.take_left]
  exact hbefore

theorem refused_iff : (d.register decl).2 = some e ↔ FirstFault d decl e := by
  constructor
  · intro h
    have hunmet : ¬ ∀ p ∈ requirements d decl, p := by
      intro hmet
      rw [register_of_met hmet] at h
      cases h
    obtain ⟨e', he'⟩ := exists_firstFault hunmet
    rw [he'.refused] at h
    cases h
    exact he'
  · exact FirstFault.refused

theorem accepted_iff : (d.register decl).2 = none ↔ ∀ p ∈ requirements d decl, p := by
  constructor
  · intro h
    by_contra hunmet
    obtain ⟨e, he⟩ := exists_firstFault hunmet
    rw [he.refused] at h
    cases h
  · intro hmet
    rw [register_of_met hmet]

theorem commands_step (d : Draft) (s : Step) : d.commands <+: (step d s).commands := by
  cases s with
  | replace resolver => exact List.prefix_refl d.commands
  | declare decl =>
    rw [step]
    obtain h | ⟨c, -, -, h⟩ := attempt_eq_or d decl
    · exact h.symm ▸ List.prefix_refl d.commands
    · rw [h]
      exact List.prefix_append d.commands [c]

theorem commands_after (d : Draft) (steps : List Step) : d.commands <+: (after d steps).commands := by
  induction steps generalizing d with
  | nil => exact List.prefix_refl d.commands
  | cons s steps ih => exact (commands_step d s).trans (ih (step d s))

/-- A declaration is registered exactly if it meets all requirements, and is refused for the first
that it does not meet, which leaves the draft as it is. The command is put behind the others, with a
parameter for each input after the actor, and no later declaration or rule for types changes it. -/
theorem register_accepts (d : Draft) (decl : Declaration) :
    ((d.register decl).2 = none ↔ ∀ p ∈ requirements d decl, p) ∧
    (∀ e, (d.register decl).2 = some e ↔
      Fault d decl e ∧ ∀ p ∈ (requirements d decl).take (place e), p) ∧
    (∀ e, (d.register decl).2 = some e → (d.register decl).1 = d) ∧
    ∀ d', d.register decl = (d', none) →
      d' = added d decl ∧ (commandOf d.resolver decl).name = trimmed decl.name ∧
      List.Forall₂ (ReadAs d.resolver) (further decl) (commandOf d.resolver decl).parameters ∧
      ∀ steps, d'.commands <+: (after d' steps).commands := by
  refine ⟨accepted_iff, fun e => refused_iff, fun e => attempt_of_refused, fun d' hd' => ?_⟩
  have hmet := accepted_iff.mp (congrArg Prod.snd hd')
  rw [register_of_met hmet] at hd'
  cases hd'
  have hinputs : ∀ i ∈ further decl, IsRead d.resolver i := hmet _ (by simp [requirements])
  exact ⟨rfl, rfl, forall₂_readAs hinputs, commands_after (added d decl)⟩

def faulty : Declaration where
  name := " note "
  handler := ⟨⟨[{ name := "actor", type := .actor }, { name := "unit", type := .unit }], .text⟩,
    fun _ _ => ⟨.text "", []⟩⟩
  permission := some ⟨⟨[], .bool⟩, fun _ _ => ⟨.bool true, []⟩⟩

example : ({} : Draft).register faulty = ({}, some (.invalidHandlerOutput "note" .text)) := rfl

end

end SlashCommands.Proofs.Acceptance
