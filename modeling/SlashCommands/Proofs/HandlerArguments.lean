import SlashCommands.Demo
import SlashCommands.Proofs.ActorLookup
import SlashCommands.Proofs.Conversion
import SlashCommands.Proofs.Dispatching
import SlashCommands.Proofs.LongestMatch
import SlashCommands.Proofs.Registration

namespace SlashCommands.Proofs.HandlerArguments

open ActorLookup ArgumentChain Conversion Dispatching LongestMatch Registration

def Becomes (input : Input) (p : Parameter) : Prop :=
  p.name = input.name ∧ p.default = input.default ∧ ∀ k, input.kind = some k → p.kind = k

theorem becomes_of_parameter? {resolve : Resolver} {input : Input} {p : Parameter}
    (h : input.parameter? resolve = some p) : Becomes input p := by
  obtain ⟨k, hk, rfl⟩ := Option.map_eq_some_iff.mp h
  refine ⟨rfl, rfl, fun k' hk' => ?_⟩
  rw [hk'] at hk
  exact (Option.some.inj hk).symm

theorem inputs_of_ofDeclaration {resolve : Resolver} {decl : Declaration} {c : Command}
    (h : Command.ofDeclaration resolve decl = .ok c) :
    c.handler.signature.inputs.length = c.parameters.length + 1 ∧
      ∀ (i : Nat) (input : Input), c.handler.signature.inputs[i + 1]? = some input →
        ∃ p, c.parameters[i]? = some p ∧ Becomes input p := by
  obtain ⟨-, -, -, first, inputs, parameters, hinputs, -, hparameters, rfl⟩ := ofDeclaration_eq_ok h
  simp only [hinputs]
  have hlength := congrArg List.length hparameters
  rw [List.length_map, List.length_map] at hlength
  refine ⟨by rw [List.length_cons, hlength], fun i input hi => ?_⟩
  rw [List.getElem?_cons_succ] at hi
  have hget := congrArg (·[i]?) hparameters
  simp only [List.getElem?_map, hi, Option.map_some] at hget
  obtain ⟨p, hp, hpi⟩ := Option.map_eq_some_iff.mp hget.symm
  exact ⟨p, hp, becomes_of_parameter? hpi.symm⟩

/-- A value for a parameter, given the text left for the parameter and the text left after it: the
default where only blanks are left, else what the kind makes of the text. -/
def Filled (dir : Directory) (p : Parameter) (before : List Char) (v : Value) (after : List Char) :
    Prop :=
  (∀ c ∈ before, Text.isBlank c = true) ∧ p.default = some v ∧ after = [] ∨
    (∃ c ∈ before, Text.isBlank c = false) ∧ Yields dir (Text.trimStart before) v after p.kind

theorem trimStart_eq_nil_iff {text : List Char} :
    Text.trimStart text = [] ↔ ∀ c ∈ text, Text.isBlank c = true := List.dropWhile_eq_nil_iff

/-- The handler of a command is run on as many values as it has inputs: the actor who typed the line,
then a value for each parameter. The text left for parameter `i` is `left i`. -/
theorem call_args {draft : Draft} (hd : Reached draft) {d : Dispatcher}
    (hr : d.registry = draft.build) (dir : Directory) (a : ActorId) (text : String) {call : Call}
    (hcall : call ∈ (d.dispatch dir a text).calls) :
    Ran dir a (d.dispatch dir a text) call ∧
    ∃ m, d.registry.find text.toList = some m ∧ call.command = m.command ∧
      m.command ∈ draft.commands ∧
      call.args.length = m.command.handler.signature.inputs.length ∧
      call.args[0]? = some (.actor a) ∧
      ∃ left : Nat → List Char, left 0 = m.rest ∧
        ∀ (i : Nat) (input : Input), m.command.handler.signature.inputs[i + 1]? = some input →
          ∃ p v, m.command.parameters[i]? = some p ∧ Becomes input p ∧
            call.args[i + 1]? = some v ∧ Filled dir p (left i) v (left (i + 1)) ∧
            ∀ w : World, dir = w.directory → p.kind = .actor →
              (∃ c ∈ left i, Text.isBlank c = false) →
              ∃ id, v = .actor id ∧ w.roster.isConnected id = true := by
  refine ⟨ran_of_mem_calls hcall, ?_⟩
  obtain ⟨m, args, hm, -, hargs, rfl⟩ := exists_parsed_of_mem_calls hcall
  have hmem : m.command ∈ draft.commands := by
    have hc := (selects_of_find hm).1
    rw [hr] at hc
    exact hc
  obtain ⟨resolve, decl, hdecl⟩ := hd.exists_declaration hmem
  obtain ⟨hlength, hinputs⟩ := inputs_of_ofDeclaration hdecl
  obtain ⟨hargsLength, left, hleft, hchain⟩ := exists_left hargs
  refine ⟨m, hm, rfl, hmem, by rw [hlength, List.length_cons, hargsLength], rfl, left, hleft, ?_⟩
  intro i input hi
  obtain ⟨p, hp, hbecomes⟩ := hinputs i input hi
  obtain ⟨v, hv, hfilled⟩ := hchain i p hp
  refine ⟨p, v, hp, hbecomes, hv, ?_⟩
  obtain ⟨hblank, hafter, hdefault⟩ | ⟨htext, hconvert⟩ := hfilled
  · have hall := trimStart_eq_nil_iff.mp hblank
    refine ⟨.inl ⟨hall, hdefault, hafter⟩, fun w _ _ => ?_⟩
    rintro ⟨c, hc, hcb⟩
    rw [hall c hc] at hcb
    cases hcb
  · have hsome : ∃ c ∈ left i, Text.isBlank c = false := by
      rw [Ne, trimStart_eq_nil_iff] at htext
      simpa using htext
    have hyields := convert_yields (fun c => not_isBlank_head_trimStart) hconvert
    refine ⟨.inr ⟨hsome, hyields⟩, ?_⟩
    rintro w rfl hk -
    rw [hk] at hyields
    obtain ⟨-, id, hid, hlookup⟩ := hyields
    exact ⟨id, hid, isConnected_of_lookup hlookup⟩

def host : Dispatcher where
  registry := (attempt {} Demo.pm).build

theorem exists_pm : ∃ c, host.registry.candidates = [⟨"pm", c⟩] ∧ c.permission = none ∧
    c.parameters = [⟨"target", .actor, none⟩, ⟨"message", .text, none⟩] ∧
    c.handler.signature = Demo.pm.handler.signature :=
  ⟨_, List.mergeSort_singleton _, rfl, rfl, rfl⟩

theorem call_args_pm :
    ∃ call ∈ (host.dispatch pair.directory 1 "pm 7 see you").calls,
      Ran pair.directory 1 (host.dispatch pair.directory 1 "pm 7 see you") call ∧
      call.args.length = 3 ∧ call.args[0]? = some (.actor 1) ∧
        ∃ id, call.args[1]? = some (.actor id) ∧ pair.roster.isConnected id = true := by
  obtain ⟨c, hcandidates, hpermission, hparameters, hsignature⟩ := exists_pm
  have hfind : host.registry.find "pm 7 see you".toList = some ⟨c, "pm", " 7 see you".toList⟩ :=
    find_of_candidates hcandidates
      (Matching.fits_append c.ignoreCase "pm".toList (.inr ⟨"7 see you".toList, rfl⟩))
  have hparsed : Arguments.values? pair.directory c.parameters " 7 see you".toList =
      some [.actor 7, .text "see you"] := by
    rw [hparameters]
    rfl
  have hcall : ⟨c, [.actor 1, .actor 7, .text "see you"]⟩ ∈
      (host.dispatch pair.directory 1 "pm 7 see you").calls := by
    rw [dispatch_of_parsed hfind (allowed_of_none hpermission) hparsed]
    exact List.mem_cons_self
  obtain ⟨hran, m, hm, -, -, hlength, hactor, left, hleft, hinputs⟩ :=
    call_args (.attempt Demo.pm (.empty .builtin)) rfl pair.directory 1 "pm 7 see you" hcall
  rw [hfind] at hm
  cases hm
  rw [hsignature] at hlength hinputs
  refine ⟨_, hcall, hran, hlength, hactor, ?_⟩
  obtain ⟨p, v, hp, -, hv, -, hconnected⟩ := hinputs 0 _ rfl
  rw [hparameters] at hp
  cases hp
  have hseven : '7' ∈ " 7 see you".toList := by decide
  obtain ⟨id, rfl, hid⟩ := hconnected pair rfl rfl ⟨'7', hleft.symm ▸ hseven, rfl⟩
  exact ⟨id, hv, hid⟩

end SlashCommands.Proofs.HandlerArguments
