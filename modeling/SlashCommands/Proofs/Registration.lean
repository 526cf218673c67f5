import Mathlib.Logic.Basic
import SlashCommands.Registry

namespace SlashCommands.Proofs.Registration

def attempt (d : Draft) (decl : Declaration) : Draft := (d.register decl).1

/-- Drafts that come from an empty one by handing declarations in, under any rules for types. -/
inductive Reached : Draft → Prop
  | empty (resolver : Resolver) : Reached { resolver }
  | withResolver (resolver : Resolver) {d : Draft} : Reached d → Reached (d.withResolver resolver)
  | attempt (decl : Declaration) {d : Draft} : Reached d → Reached (attempt d decl)

theorem parametersOf_eq_ok_iff {resolve : Resolver} {name : String} {inputs : List Input}
    {ps : List Parameter} :
    Command.parametersOf resolve name inputs = .ok ps ↔
      inputs.map (·.parameter? resolve) = ps.map some := by
  induction inputs generalizing ps with
  | nil => cases ps <;> simp [Command.parametersOf]
  | cons i inputs ih =>
    rw [Command.parametersOf]
    cases hi : i.parameter? resolve with
    | none => cases ps <;> simp [hi]
    | some p =>
      cases hps : Command.parametersOf resolve name inputs with
      | error r =>
        have hne : ∀ qs : List Parameter, inputs.map (·.parameter? resolve) ≠ qs.map some :=
          fun qs hq => by simp [ih.mpr hq] at hps
        cases ps <;> simp [Except.map, hne]
      | ok qs =>
        have hqs := ih.mp hps
        cases ps <;> simp [Except.map, hi, hqs, List.map_inj_right]

/-- A declaration that passes has a name, a handler on an actor that gives a truth value or nothing,
a well-formed check and a rule for each further input, and these make up the command. -/
theorem ofDeclaration_eq_ok {resolve : Resolver} {decl : Declaration} {c : Command}
    (h : Command.ofDeclaration resolve decl = .ok c) :
    Text.trimmed decl.name ≠ "" ∧
      (decl.handler.signature.output = .bool ∨ decl.handler.signature.output = .unit) ∧
      decl.permission.bind (·.permissionFault?) = none ∧
      ∃ first inputs parameters, decl.handler.signature.inputs = first :: inputs ∧
        first.type = .actor ∧ inputs.map (·.parameter? resolve) = parameters.map some ∧
        c = { name := Text.trimmed decl.name, group := decl.group, aliasName := decl.aliasName
              shortcut := decl.shortcut, ignoreCase := decl.ignoreCase
              description := decl.description, parameters, permission := decl.permission
              handler := decl.handler } := by
  simp only [Command.ofDeclaration] at h
  split at h
  · cases h
  rename_i hname
  split at h
  · cases h
  rename_i first inputs hinputs
  split at h
  · cases h
  rename_i hfirst
  split at h
  · cases h
  rename_i houtput
  split at h
  · cases h
  rename_i hfault
  cases hps : Command.parametersOf resolve (Text.trimmed decl.name) inputs with
  | error r => simp [hps, Except.map] at h
  | ok ps =>
    simp only [hps, Except.map, Except.ok.injEq] at h
    rw [not_and_or, not_not, not_not] at houtput
    exact ⟨hname, houtput, hfault, first, inputs, ps, hinputs, not_not.mp hfirst,
      parametersOf_eq_ok_iff.mp hps, h.symm⟩

section

variable {d : Draft} {decl : Declaration} {c : Command}

/-- To hand a declaration in either adds its command under a new key, or is refused and changes
nothing. -/
theorem register_eq_or (d : Draft) (decl : Declaration) :
    (∃ r, d.register decl = (d, some r)) ∨
      ∃ c, Command.ofDeclaration d.resolver decl = .ok c ∧ c.key ∉ d.keys ∧
        d.register decl = ({ d with commands := d.commands ++ [c], keys := c.key :: d.keys }, none) := by
  rw [Draft.register]
  cases hc : Command.ofDeclaration d.resolver decl with
  | error r => exact .inl ⟨r, rfl⟩
  | ok c =>
    by_cases hkey : c.key ∈ d.keys
    · exact .inl ⟨_, if_pos hkey⟩
    · exact .inr ⟨c, rfl, hkey, if_neg hkey⟩

theorem attempt_of_refused {r : Rejection} (h : (d.register decl).2 = some r) :
    attempt d decl = d := by
  rw [attempt]
  obtain ⟨r', heq⟩ | ⟨c, -, -, heq⟩ := register_eq_or d decl
  · rw [heq]
  · rw [heq] at h
    cases h

theorem attempt_of_accepted (h : (d.register decl).2 = none) :
    ∃ c, Command.ofDeclaration d.resolver decl = .ok c ∧ c.key ∉ d.keys ∧
      attempt d decl = { d with commands := d.commands ++ [c], keys := c.key :: d.keys } := by
  rw [attempt]
  obtain ⟨r, heq⟩ | ⟨c, hc, hkey, heq⟩ := register_eq_or d decl
  · rw [heq] at h
    cases h
  · exact ⟨c, hc, hkey, congrArg Prod.fst heq⟩

theorem eq_of_register {d' : Draft} (h : d.register decl = (d', none)) :
    ∃ c, Command.ofDeclaration d.resolver decl = .ok c ∧ c.key ∉ d.keys ∧
      d' = { d with commands := d.commands ++ [c], keys := c.key :: d.keys } := by
  have haccepted := attempt_of_accepted (congrArg Prod.snd h)
  rw [attempt, h] at haccepted
  exact haccepted

theorem attempt_eq_or (d : Draft) (decl : Declaration) :
    attempt d decl = d ∨ ∃ c, Command.ofDeclaration d.resolver decl = .ok c ∧ c.key ∉ d.keys ∧
      attempt d decl = { d with commands := d.commands ++ [c], keys := c.key :: d.keys } := by
  cases h : (d.register decl).2 with
  | none => exact .inr (attempt_of_accepted h)
  | some r => exact .inl (attempt_of_refused h)

theorem duplicateCommand_iff (h : Command.ofDeclaration d.resolver decl = .ok c) :
    (d.register decl).2 = some (.duplicateCommand c.path) ↔ c.key ∈ d.keys := by
  rw [Draft.register, h]
  by_cases hkey : c.key ∈ d.keys <;> simp [hkey]

end

theorem Reached.exists_declaration {d : Draft} (h : Reached d) {c : Command} (hc : c ∈ d.commands) :
    ∃ resolve decl, Command.ofDeclaration resolve decl = .ok c := by
  induction h with
  | empty => cases hc
  | withResolver _ _ ih => exact ih hc
  | @attempt decl d _ ih =>
    obtain he | ⟨c', hc', -, he⟩ := attempt_eq_or d decl
    · rw [he] at hc
      exact ih hc
    · rw [he] at hc
      obtain hc | hc := List.mem_append.mp hc
      · exact ih hc
      · exact ⟨d.resolver, decl, (List.mem_singleton.mp hc) ▸ hc'⟩

theorem Reached.keys_eq {d : Draft} (h : Reached d) :
    d.keys = (d.commands.map Command.key).reverse := by
  induction h with
  | empty => rfl
  | withResolver _ _ ih => exact ih
  | @attempt decl d _ ih =>
    obtain he | ⟨c, -, -, he⟩ := attempt_eq_or d decl
    · rw [he]
      exact ih
    · rw [he, List.map_append, List.reverse_append, ← ih]
      rfl

theorem Reached.nodup_keys {d : Draft} (h : Reached d) : (d.commands.map Command.key).Nodup := by
  induction h with
  | empty => exact List.nodup_nil
  | withResolver _ _ ih => exact ih
  | @attempt decl d hd ih =>
    obtain he | ⟨c, -, hkey, he⟩ := attempt_eq_or d decl
    · rw [he]
      exact ih
    · rw [hd.keys_eq, List.mem_reverse] at hkey
      rw [he, List.map_append, List.nodup_append]
      refine ⟨ih, List.pairwise_singleton _ _, fun k hk k' hk' => ?_⟩
      rw [List.mem_singleton.mp hk']
      exact fun hne => hkey (hne ▸ hk)

theorem pairwise_mergeSort_path {α : Type} (path : α → String) (rows : List α) :
    (rows.mergeSort fun a b => path a ≤ path b).Pairwise fun a b => path a ≤ path b := by
  have htrans : ∀ a b c : α, decide (path a ≤ path b) = true → decide (path b ≤ path c) = true →
      decide (path a ≤ path c) = true := by
    simp only [decide_eq_true_iff]
    exact fun a b c => String.le_trans
  have htotal : ∀ a b : α, (decide (path a ≤ path b) || decide (path b ≤ path a)) = true := by
    simp only [Bool.or_eq_true, decide_eq_true_iff]
    exact fun a b => String.le_total (path a) (path b)
  simpa only [decide_eq_true_iff] using List.pairwise_mergeSort htrans htotal rows

def idle (name : String) (ignoreCase : Bool := true) : Declaration where
  name
  ignoreCase
  handler := ⟨⟨[{ name := "actor", type := .actor }], .unit⟩, fun _ _ => ⟨.unit, []⟩⟩

end SlashCommands.Proofs.Registration
