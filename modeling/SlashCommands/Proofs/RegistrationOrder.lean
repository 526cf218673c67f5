import SlashCommands.Proofs.LongestMatch
import SlashCommands.Proofs.Registration

namespace SlashCommands.Proofs.RegistrationOrder

open LongestMatch Registration

/-- The commands that declarations stand for, without those that do not pass the checks. -/
def commandsOf (resolve : Resolver) (decls : List Declaration) : List Command :=
  decls.filterMap fun decl => (Command.ofDeclaration resolve decl).toOption

/-- Declarations that a draft can take together. -/
structure Registrable (d : Draft) (decls : List Declaration) : Prop where
  passes : ∀ decl ∈ decls, ∃ c, Command.ofDeclaration d.resolver decl = .ok c
  nodup : ((commandsOf d.resolver decls).map Command.key).Nodup
  free : ∀ c ∈ commandsOf d.resolver decls, c.key ∉ d.keys

section

variable {d : Draft} {decl : Declaration} {decls decls' : List Declaration} {c : Command}

theorem exists_declaration_of_mem {resolve : Resolver} (h : c ∈ commandsOf resolve decls) :
    ∃ decl ∈ decls, Command.ofDeclaration resolve decl = .ok c := by
  obtain ⟨decl, hdecl, hc⟩ := List.mem_filterMap.mp h
  refine ⟨decl, hdecl, ?_⟩
  cases hd : Command.ofDeclaration resolve decl with
  | error r => simp [hd, Except.toOption] at hc
  | ok c' => simpa [hd, Except.toOption] using hc

theorem commandsOf_cons (h : Command.ofDeclaration d.resolver decl = .ok c) :
    commandsOf d.resolver (decl :: decls) = c :: commandsOf d.resolver decls := by
  rw [commandsOf, List.filterMap_cons, h]
  rfl

theorem registrable_cons (h : Command.ofDeclaration d.resolver decl = .ok c) :
    Registrable d (decl :: decls) ↔ c.key ∉ d.keys ∧
      Registrable { d with commands := d.commands ++ [c], keys := c.key :: d.keys } decls := by
  constructor
  · rintro ⟨hpasses, hnodup, hfree⟩
    rw [commandsOf_cons h] at hnodup hfree
    rw [List.map_cons, List.nodup_cons] at hnodup
    refine ⟨hfree c List.mem_cons_self, fun decl' hmem => hpasses decl' (.tail _ hmem), hnodup.2, ?_⟩
    rintro c' hmem hkey
    obtain heq | hkey := List.mem_cons.mp hkey
    · exact hnodup.1 (heq ▸ List.mem_map_of_mem hmem)
    · exact hfree c' (.tail _ hmem) hkey
  · rintro ⟨hkey, hpasses, hnodup, hfree⟩
    refine ⟨fun decl' hmem => ?_, ?_, ?_⟩
    · obtain rfl | hmem := List.mem_cons.mp hmem
      · exact ⟨c, h⟩
      · exact hpasses decl' hmem
    · rw [commandsOf_cons h, List.map_cons, List.nodup_cons]
      refine ⟨fun hmem => ?_, hnodup⟩
      obtain ⟨c', hc', heq⟩ := List.mem_map.mp hmem
      exact hfree c' hc' (heq ▸ List.mem_cons_self)
    · rw [commandsOf_cons h]
      intro c' hmem
      obtain rfl | hmem := List.mem_cons.mp hmem
      · exact hkey
      · exact fun hkey' => hfree c' hmem (.tail _ hkey')

theorem registerAll_eq_none_iff : (d.registerAll decls).2 = none ↔ Registrable d decls := by
  induction decls generalizing d with
  | nil => exact iff_of_true rfl ⟨by simp, List.nodup_nil, by simp [commandsOf]⟩
  | cons decl decls ih =>
    rw [Draft.registerAll, Draft.register]
    cases hc : Command.ofDeclaration d.resolver decl with
    | error r =>
      refine iff_of_false (by simp) fun h => ?_
      obtain ⟨c, hok⟩ := h.passes decl List.mem_cons_self
      rw [hc] at hok
      cases hok
    | ok c =>
      rw [registrable_cons hc]
      by_cases hkey : c.key ∈ d.keys
      · simp [hkey]
      · simp [hkey, ih]

theorem commands_registerAll (h : Registrable d decls) :
    (d.registerAll decls).1.commands = d.commands ++ commandsOf d.resolver decls := by
  induction decls generalizing d with
  | nil => simp [Draft.registerAll, commandsOf]
  | cons decl decls ih =>
    obtain ⟨c, hc⟩ := h.passes decl List.mem_cons_self
    obtain ⟨hkey, hrest⟩ := (registrable_cons hc).mp h
    rw [Draft.registerAll, Draft.register, hc]
    simp only [hkey, if_false]
    rw [ih hrest, commandsOf_cons hc, List.append_assoc]
    rfl

theorem Registrable.perm (h : Registrable d decls) (hperm : decls.Perm decls') :
    Registrable d decls' := by
  have hcommands : (commandsOf d.resolver decls).Perm (commandsOf d.resolver decls') :=
    hperm.filterMap _
  refine ⟨fun decl hmem => h.passes decl (hperm.mem_iff.mpr hmem), ?_, fun c hmem => ?_⟩
  · exact (hcommands.map Command.key).nodup_iff.mp h.nodup
  · exact h.free c (hcommands.mem_iff.mpr hmem)

end

def Shortest (commands : List Command) (text rest : List Char) : Prop :=
  ∀ c ∈ commands, ∀ path rest', Selects c path text rest' → rest.length ≤ rest'.length

/-- All paths that fit the text and leave the shortest rest belong to one command. Commands of one
registry have different keys, so equal ones are one. -/
def Unclashed (commands : List Command) (text : List Char) : Prop :=
  ∀ c₁ ∈ commands, ∀ c₂ ∈ commands, ∀ path₁ path₂ rest, Shortest commands text rest →
    Selects c₁ path₁ text rest → Selects c₂ path₂ text rest → c₁ = c₂

section

variable {r r' : Registry} {text : List Char} {m m' : Match}

theorem find?_paths_of_find (h : r.find text = some m) :
    m.command.paths.find? (fun path => stripPath m.command.ignoreCase path.toList
      (Text.trimSpaces text) = some m.rest) = some m.path := by
  obtain ⟨-, hfits, -, -, earlier, later, -, hpaths, -, hearlier⟩ :=
    earliest_eq_some_iff.mp (find_eq_earliest h).1
  rw [List.find?_eq_some_iff_append]
  refine ⟨decide_eq_true (Matching.stripPath_eq_some_iff.mpr hfits), earlier, later, hpaths, ?_⟩
  intro path hmem
  simpa [Matching.stripPath_eq_some_iff] using hearlier path hmem

theorem rest_eq_of_perm (hperm : r.commands.Perm r'.commands) (h : r.find text = some m)
    (h' : r'.find text = some m') : m.rest = m'.rest := by
  obtain ⟨hc, hs⟩ := selects_of_find h
  obtain ⟨hc', hs'⟩ := selects_of_find h'
  have hle := (find_eq_earliest h).2 m'.command (hperm.mem_iff.mpr hc') m'.path m'.rest hs'
  have hge := (find_eq_earliest h').2 m.command (hperm.mem_iff.mp hc) m.path m.rest hs
  exact hs.2.rest_eq hs'.2 (Nat.le_antisymm hle hge)

theorem find_eq_none_of_perm (hperm : r.commands.Perm r'.commands) :
    r.find text = none ↔ r'.find text = none := by
  simp only [find_eq_none_iff, hperm.mem_iff]

theorem find_eq_of_perm (hperm : r.commands.Perm r'.commands) (h : Unclashed r.commands text) :
    r.find text = r'.find text := by
  cases hm : r.find text with
  | none => exact ((find_eq_none_of_perm hperm).mp hm).symm
  | some m =>
    cases hm' : r'.find text with
    | none =>
      rw [(find_eq_none_of_perm hperm).mpr hm'] at hm
      cases hm
    | some m' =>
      obtain ⟨hc, hs⟩ := selects_of_find hm
      obtain ⟨hc', hs'⟩ := selects_of_find hm'
      have hrest := rest_eq_of_perm hperm hm hm'
      have hcommand : m.command = m'.command :=
        h m.command hc m'.command (hperm.mem_iff.mpr hc') m.path m'.path m.rest
          (find_eq_earliest hm).2 hs (hrest ▸ hs')
      -- Of the paths of one command the first that leaves the rest is taken, in either order.
      have hpath := find?_paths_of_find hm
      rw [hcommand, hrest, find?_paths_of_find hm', Option.some.injEq] at hpath
      obtain ⟨command, path, rest⟩ := m
      obtain ⟨command', path', rest'⟩ := m'
      cases hcommand
      cases hpath
      cases hrest
      rfl

end

def registryOf (resolver : Resolver) (decls : List Declaration) : Registry :=
  (Draft.registerAll { resolver } decls).1.build

/-- Declarations that can all be registered can be so in any order. The same texts select a command
then, and leave the same rest; and the command and the path that they select are the same where the
paths that fit best belong to one command. -/
theorem find_permuted {resolver : Resolver} {decls decls' : List Declaration}
    (hperm : decls.Perm decls') (hall : (Draft.registerAll { resolver } decls).2 = none) :
    (Draft.registerAll { resolver } decls').2 = none ∧
      (registryOf resolver decls).commands.Perm (registryOf resolver decls').commands ∧
      ∀ text,
        ((registryOf resolver decls).find text = none ↔
          (registryOf resolver decls').find text = none) ∧
        (∀ m m', (registryOf resolver decls).find text = some m →
          (registryOf resolver decls').find text = some m' → m.rest = m'.rest) ∧
        (Unclashed (registryOf resolver decls).commands text →
          (registryOf resolver decls).find text = (registryOf resolver decls').find text) := by
  have hregistrable := registerAll_eq_none_iff.mp hall
  have hregistrable' := hregistrable.perm hperm
  have hcommands : (registryOf resolver decls).commands.Perm
      (registryOf resolver decls').commands := by
    change (Draft.registerAll { resolver } decls).1.commands.Perm
      (Draft.registerAll { resolver } decls').1.commands
    rw [commands_registerAll hregistrable, commands_registerAll hregistrable']
    exact (hperm.filterMap _).append_left _
  refine ⟨registerAll_eq_none_iff.mpr hregistrable', hcommands, fun text => ?_⟩
  exact ⟨find_eq_none_of_perm hcommands, fun _ _ => rest_eq_of_perm hcommands,
    find_eq_of_perm hcommands⟩

theorem find_permuted_walks : ∃ m, m.path = "go home" ∧
    (registryOf .builtin walks).find "GO Home".toList = some m ∧
    (registryOf .builtin walks.reverse).find "GO Home".toList = some m := by
  obtain ⟨go, walk, home, hcommands, hgo, hwalk, hhome, hall⟩ := exists_walking
  have hregistry : (registryOf .builtin walks).commands = walking.commands := rfl
  have hmem : home ∈ (registryOf .builtin walks).commands := by simp [hregistry, hcommands]
  have hlongest : ∀ c ∈ (registryOf .builtin walks).commands, ∀ path ∈ c.paths,
      "go home".length ≤ path.length → c = home ∧ path = "go home" := by
    intro c hc path hpath hlength
    obtain rfl | rfl | hboth := (hall c hc).2 path hpath
    · exact absurd hlength (by decide)
    · exact absurd hlength (by decide)
    · exact hboth
  have hs : Selects home "go home" "GO Home".toList [] := by
    refine selects_iff_stripPath.mpr ⟨by simp [hhome], ?_⟩
    rw [(hall home hmem).1]
    decide +kernel
  have hclash : Unclashed (registryOf .builtin walks).commands "GO Home".toList := by
    intro c₁ hc₁ c₂ hc₂ path₁ path₂ rest hshortest hs₁ hs₂
    have hrest := hshortest home hmem "go home" [] hs
    have h₁ := (hs₁.rest_le_iff hs).mp hrest
    have h₂ := (hs₂.rest_le_iff hs).mp hrest
    rw [(hlongest c₁ hc₁ path₁ hs₁.1 h₁).1, (hlongest c₂ hc₂ path₂ hs₂.1 h₂).1]
  have hfind := find_of_others_shorter hmem hs fun c hc path rest hs' hne => by
    by_contra hlength
    obtain ⟨rfl, rfl⟩ := hlongest c hc path hs'.1 (Nat.le_of_not_lt hlength)
    exact hne.elim (fun h => h rfl) fun h => h rfl
  have hregistered : (Draft.registerAll {} walks).2 = none := rfl
  have hsame := (find_permuted (List.reverse_perm walks).symm hregistered).2.2 "GO Home".toList
  exact ⟨_, rfl, hfind, (hsame.2.2 hclash).symm.trans hfind⟩

end SlashCommands.Proofs.RegistrationOrder
