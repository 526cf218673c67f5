import SlashCommands.Demo
import SlashCommands.Proofs.ArgumentChain
import SlashCommands.Proofs.Conversion
import SlashCommands.Proofs.Dispatching
import SlashCommands.Proofs.LongestMatch
import SlashCommands.Proofs.Registration

namespace SlashCommands.Proofs.ArgumentTypes

open ArgumentChain Conversion Dispatching LongestMatch Registration Text

/-- A value is of a type. No value is of a type of the host's own. -/
inductive OfType : ValueType → Value → Prop
  | unit : OfType .unit .unit
  | bool (b : Bool) : OfType .bool (.bool b)
  | integer (n : Int64) : OfType .integer (.int n)
  | float (x : Binary64) : OfType .float (.float x)
  | text (s : String) : OfType .text (.text s)
  | enumeration (e : Enumeration) (i : Nat) (h : i < e.variants.length) :
      OfType (.enumeration e) (.variant i e.variants[i])
  | actor (id : ActorId) : OfType .actor (.actor id)

def OfDeclaredType (input : Input) (v : Value) : Prop := OfType input.type v

def Gives (k : Kind) (type : ValueType) : Prop :=
  ∀ dir before v after, Yields dir before v after k → OfType type v

theorem gives_text : Gives .text .text := by
  rintro dir before v after ⟨-, s, rfl, -⟩
  exact .text s

theorem gives_of_ofType? {type : ValueType} {k : Kind} (h : Kind.ofType? type = some k) :
    Gives k type := by
  intro dir before v after hv
  cases type with
  | integer =>
    cases h
    obtain ⟨-, n, rfl, -⟩ := hv
    exact .integer n
  | text =>
    cases h
    obtain ⟨-, s, rfl, -⟩ := hv
    exact .text s
  | float =>
    cases h
    obtain ⟨-, numeral, -, rfl, -⟩ := hv
    exact .float _
  | enumeration e =>
    cases h
    obtain ⟨-, i, hi, rfl, -⟩ := hv
    exact .enumeration e i hi
  | actor =>
    cases h
    obtain ⟨-, id, rfl, -⟩ := hv
    exact .actor id
  | unit => cases h
  | bool => cases h
  | custom name => cases h

theorem gives_of_kind_none {input : Input} {p : Parameter} (hkind : input.kind = none)
    (hp : input.parameter? .builtin = some p) : Gives p.kind input.type := by
  rw [Input.parameter?, hkind, Option.none_or] at hp
  obtain ⟨k, hk, rfl⟩ := Option.map_eq_some_iff.mp hp
  exact gives_of_ofType? hk

def IsDefault (input : Input) (v : Value) : Prop := input.default = some v

section

variable {resolve : Resolver} {inputs omitted : List Input} {ps : List Parameter} {dir : Directory}
  {text : List Char} {vs : List Value}

theorem default_of_parameter? {input : Input} {p : Parameter}
    (h : input.parameter? resolve = some p) : p.default = input.default := by
  obtain ⟨k, -, rfl⟩ := Option.map_eq_some_iff.mp h
  rfl

theorem forall₂_isDefault
    (hps : List.Forall₂ (fun input p => input.parameter? resolve = some p) inputs ps)
    (hvs : Arguments.values? dir ps [] = some vs) : List.Forall₂ IsDefault inputs vs := by
  induction hps generalizing vs with
  | nil =>
    cases hvs
    exact .nil
  | cons hp _ ih =>
    rw [values?_of_blank rfl] at hvs
    obtain ⟨v, hv, hvs⟩ := Option.bind_eq_some_iff.mp hvs
    obtain ⟨vs', hvs', rfl⟩ := Option.map_eq_some_iff.mp hvs
    exact .cons ((default_of_parameter? hp).symm.trans hv) (ih hvs')

/-- The values of the first inputs are read from the text and are of the declared types; the rest of
the inputs is left out and has its defaults. -/
theorem exists_given
    (hps : List.Forall₂ (fun input p => input.parameter? resolve = some p) inputs ps)
    (hgives : ∀ input ∈ inputs, ∀ p, input.parameter? resolve = some p → Gives p.kind input.type)
    (hvs : Arguments.values? dir ps text = some vs) :
    ∃ given omitted values defaults, inputs = given ++ omitted ∧ vs = values ++ defaults ∧
      List.Forall₂ OfDeclaredType given values ∧ List.Forall₂ IsDefault omitted defaults := by
  induction hps generalizing text vs with
  | nil =>
    cases hvs
    exact ⟨[], [], [], [], rfl, rfl, .nil, .nil⟩
  | @cons input p inputs ps hp hps ih =>
    by_cases hblank : trimStart text = []
    · rw [values?_eq_of_blank hblank] at hvs
      exact ⟨[], _, [], vs, rfl, rfl, .nil, forall₂_isDefault (.cons hp hps) hvs⟩
    · rw [values?_of_text hblank] at hvs
      obtain ⟨⟨v, rest⟩, hv, hvs⟩ := Option.bind_eq_some_iff.mp hvs
      obtain ⟨vs', hvs', rfl⟩ := Option.map_eq_some_iff.mp hvs
      obtain ⟨given, omitted, values, defaults, rfl, rfl, hvalues, hdefaults⟩ :=
        ih (fun i hi => hgives i (.tail input hi)) hvs'
      have hyields := convert_yields (fun c => not_isBlank_head_trimStart) hv
      have htype : OfDeclaredType input v := hgives input List.mem_cons_self p hp _ _ _ _ hyields
      exact ⟨input :: given, omitted, v :: values, defaults, rfl, rfl, .cons htype hvalues,
        hdefaults⟩

theorem forall₂_append_iff {α β : Type} {R : α → β → Prop} {as as' : List α} {bs bs' : List β}
    (h : List.Forall₂ R as bs) :
    List.Forall₂ R (as ++ as') (bs ++ bs') ↔ List.Forall₂ R as' bs' := by
  induction h with
  | nil => exact Iff.rfl
  | cons hab _ ih => simp [hab, ih]

theorem forall₂_ofDeclaredType_iff {given : List Input} {values : List Value}
    (hvalues : List.Forall₂ OfDeclaredType given values)
    (hdefaults : List.Forall₂ IsDefault omitted vs) :
    List.Forall₂ OfDeclaredType (given ++ omitted) (values ++ vs) ↔
      ∀ input ∈ omitted, ∀ v, input.default = some v → OfDeclaredType input v := by
  rw [forall₂_append_iff hvalues]
  induction hdefaults with
  | nil => simp
  | @cons input v _ _ hv _ ih =>
    have hv : input.default = some v := hv
    simp [ih, hv]

theorem exists_given_of_ofDeclaration {decl : Declaration} {c : Command} (a : ActorId)
    (hc : Command.ofDeclaration resolve decl = .ok c)
    (hgives : ∀ input ∈ c.handler.signature.inputs, ∀ p, input.parameter? resolve = some p →
      Gives p.kind input.type)
    (hvs : Arguments.values? dir c.parameters text = some vs) :
    ∃ given omitted values defaults,
      c.handler.signature.inputs = given ++ omitted ∧ .actor a :: vs = values ++ defaults ∧
      given ≠ [] ∧ List.Forall₂ OfDeclaredType given values ∧
      List.Forall₂ IsDefault omitted defaults := by
  obtain ⟨-, -, -, first, inputs, parameters, hinputs, hfirst, hparameters, rfl⟩ :=
    ofDeclaration_eq_ok hc
  rw [← List.forall₂_eq_eq_eq, List.forall₂_map_left_iff, List.forall₂_map_right_iff]
    at hparameters
  rw [hinputs] at hgives ⊢
  obtain ⟨given, omitted, values, defaults, rfl, rfl, hvalues, hdefaults⟩ :=
    exists_given hparameters (fun input hinput => hgives input (.tail first hinput)) hvs
  have hactor : OfDeclaredType first (.actor a) := by
    rw [OfDeclaredType, hfirst]
    exact .actor a
  exact ⟨first :: given, omitted, .actor a :: values, defaults, rfl, rfl, List.cons_ne_nil _ _,
    .cons hactor hvalues, hdefaults⟩

end

/-- The handler of a command whose inputs are read by the rule for their types gets, for the inputs
given, values of the declared types, and for those left out, the defaults as they were declared. So
the values are of the declared types exactly if these defaults are. -/
theorem arguments_typed {decl : Declaration} {c : Command}
    (hc : Command.ofDeclaration .builtin decl = .ok c)
    (hkinds : ∀ input ∈ c.handler.signature.inputs, input.kind = none) (d : Dispatcher)
    (dir : Directory) (a : ActorId) (text : String) {call : Call}
    (hcall : call ∈ (d.dispatch dir a text).calls) (hcommand : call.command = c) :
    ∃ given omitted values defaults,
      c.handler.signature.inputs = given ++ omitted ∧ call.args = values ++ defaults ∧
      given ≠ [] ∧ List.Forall₂ OfDeclaredType given values ∧
      List.Forall₂ IsDefault omitted defaults ∧
      (List.Forall₂ OfDeclaredType c.handler.signature.inputs call.args ↔
        ∀ input ∈ omitted, ∀ v, input.default = some v → OfDeclaredType input v) := by
  obtain ⟨m, args, -, -, hargs, rfl⟩ := exists_parsed_of_mem_calls hcall
  have hcommand : m.command = c := hcommand
  rw [hcommand] at hargs
  obtain ⟨given, omitted, values, defaults, hinputs, hvs, hgiven, hvalues, hdefaults⟩ :=
    exists_given_of_ofDeclaration a hc
      (fun input hinput p => gives_of_kind_none (hkinds input hinput)) hargs
  refine ⟨given, omitted, values, defaults, hinputs, hvs, hgiven, hvalues, hdefaults, ?_⟩
  rw [hinputs, hvs]
  exact forall₂_ofDeclaredType_iff hvalues hdefaults

def spawner : Dispatcher where
  registry := (attempt {} Demo.vehicleSpawn).build

theorem exists_spawn : ∃ c, Command.ofDeclaration .builtin Demo.vehicleSpawn = .ok c ∧
    spawner.registry.candidates = [⟨"veh spawn", c⟩] ∧ c.permission = none ∧
    c.parameters = [⟨"model", .enumeration Demo.vehicleModels, none⟩,
      ⟨"color", .integer, some (.int 1)⟩] ∧
    c.handler.signature = Demo.vehicleSpawn.handler.signature :=
  ⟨_, rfl, List.mergeSort_singleton _, rfl, rfl, rfl⟩

theorem arguments_typed_spawn :
    ∃ call ∈ (spawner.dispatch ({} : World).directory 0 "veh spawn SULTAN").calls,
      call.args = [.actor 0, .variant 1 "Sultan", .int 1] ∧
      List.Forall₂ OfDeclaredType call.command.handler.signature.inputs call.args := by
  obtain ⟨c, hc, hcandidates, hpermission, hparameters, hsignature⟩ := exists_spawn
  have hfind : spawner.registry.find "veh spawn SULTAN".toList =
      some ⟨c, "veh spawn", " SULTAN".toList⟩ :=
    find_of_candidates hcandidates
      (Matching.fits_append c.ignoreCase "veh spawn".toList (.inr ⟨"SULTAN".toList, rfl⟩))
  have hparsed : Arguments.values? ({} : World).directory c.parameters " SULTAN".toList =
      some [.variant 1 "Sultan", .int 1] := by
    rw [hparameters]
    rfl
  have hcall : ⟨c, [.actor 0, .variant 1 "Sultan", .int 1]⟩ ∈
      (spawner.dispatch ({} : World).directory 0 "veh spawn SULTAN").calls := by
    rw [dispatch_of_parsed hfind (allowed_of_none hpermission) hparsed]
    exact List.mem_cons_self
  have hkinds : ∀ input ∈ c.handler.signature.inputs, input.kind = none := by
    rw [hsignature]
    simp [Demo.vehicleSpawn, Demo.handler]
  obtain ⟨given, omitted, values, defaults, hinputs, -, -, -, -, htyped⟩ :=
    arguments_typed hc hkinds spawner ({} : World).directory 0 "veh spawn SULTAN" hcall rfl
  refine ⟨_, hcall, rfl, htyped.mpr fun input hinput v hv => ?_⟩
  have hmem : input ∈ c.handler.signature.inputs := hinputs ▸ List.mem_append_right given hinput
  rw [hsignature] at hmem
  simp only [Demo.vehicleSpawn, Demo.handler, List.mem_cons, List.not_mem_nil, or_false] at hmem
  obtain rfl | rfl | rfl := hmem
  · cases hv
  · cases hv
  · cases hv
    exact .integer 1

def count : Declaration where
  name := "count"
  handler :=
    ⟨⟨[{ name := "actor", type := .actor },
        { name := "n", type := .integer, default := some (.text "many") }], .bool⟩,
      fun _ _ => ⟨.bool true, []⟩⟩

def counter : Dispatcher where
  registry := (attempt {} count).build

theorem exists_count : ∃ c, Command.ofDeclaration .builtin count = .ok c ∧
    counter.registry.candidates = [⟨"count", c⟩] ∧ c.permission = none ∧
    c.parameters = [⟨"n", .integer, some (.text "many")⟩] ∧
    c.handler.signature = count.handler.signature :=
  ⟨_, rfl, List.mergeSort_singleton _, rfl, rfl, rfl⟩

/-- The command passes registration, and its handler gets a text for an integer. -/
theorem text_for_integer : ∃ c, Command.ofDeclaration .builtin count = .ok c ∧
    (∀ input ∈ c.handler.signature.inputs, input.kind = none) ∧
    ∃ call ∈ (counter.dispatch ({} : World).directory 0 "count").calls, call.command = c ∧
      call.args = [.actor 0, .text "many"] ∧
      ¬ List.Forall₂ OfDeclaredType c.handler.signature.inputs call.args := by
  obtain ⟨c, hc, hcandidates, hpermission, hparameters, hsignature⟩ := exists_count
  have hfind : counter.registry.find "count".toList = some ⟨c, "count", []⟩ :=
    find_of_candidates hcandidates (Matching.fits_append c.ignoreCase "count".toList (.inl rfl))
  have hparsed : Arguments.values? ({} : World).directory c.parameters [] =
      some [.text "many"] := by
    rw [hparameters]
    rfl
  have hcall : ⟨c, [.actor 0, .text "many"]⟩ ∈
      (counter.dispatch ({} : World).directory 0 "count").calls := by
    rw [dispatch_of_parsed hfind (allowed_of_none hpermission) hparsed]
    exact List.mem_cons_self
  refine ⟨c, hc, ?_, _, hcall, rfl, rfl, ?_⟩
  · rw [hsignature]
    simp [count]
  · rw [hsignature]
    rintro (_ | ⟨-, _ | ⟨hn, -⟩⟩)
    cases hn

end SlashCommands.Proofs.ArgumentTypes
