import Mathlib.Data.List.Basic
import SlashCommands.Command

namespace SlashCommands.Proofs.GroupPaths

/-- A chain from a group without parents down to a group: the place of the parent that is chosen at
each group on the way up, and the names on the way down. -/
inductive Chain : Group → List Nat → List String → Prop
  | root (name : String) : Chain (.under name []) [] [name]
  | step {name : String} {parents : List Group} {i : Nat} {parent : Group} {choices : List Nat}
      {names : List String} (hparent : parents[i]? = some parent) (h : Chain parent choices names) :
      Chain (.under name parents) (i :: choices) (names ++ [name])

def joined (names : List String) : String := " ".intercalate names

mutual

def chains : Group → List (List Nat × List String)
  | .under name [] => [([], [name])]
  | .under name (p :: ps) => (chainsFrom 0 (p :: ps)).map fun c => (c.1, c.2 ++ [name])

def chainsFrom (i : Nat) : List Group → List (List Nat × List String)
  | [] => []
  | g :: gs => (chains g).map (fun c => (i :: c.1, c.2)) ++ chainsFrom (i + 1) gs

end

@[elab_as_elim]
theorem group_induction {motive : Group → Prop}
    (under : ∀ name parents, (∀ p ∈ parents, motive p) → motive (.under name parents)) (g : Group) :
    motive g :=
  Group.rec (motive_1 := motive) (motive_2 := fun gs => ∀ p ∈ gs, motive p) under
    (fun _ hp => absurd hp List.not_mem_nil)
    (fun _ _ hg hgs => List.forall_mem_cons.mpr ⟨hg, hgs⟩) g

variable {g p : Group} {name : String} {parents : List Group} {choices : List Nat}
  {names : List String}

theorem joined_append_singleton (hne : names ≠ []) (name : String) :
    joined (names ++ [name]) = s!"{joined names} {name}" := by
  rw [joined, String.intercalate_append_of_ne_nil hne (List.cons_ne_nil name []),
    String.intercalate_singleton]
  rfl

theorem pathsOfAll_eq (gs : List Group) : Group.pathsOfAll gs = gs.flatMap Group.paths := by
  induction gs with
  | nil => rfl
  | cons g gs ih => rw [Group.pathsOfAll, ih, List.flatMap_cons]

theorem paths_under (hne : parents ≠ []) : (Group.under name parents).paths =
    parents.flatMap fun p => p.paths.map fun path => s!"{path} {name}" := by
  obtain ⟨p, ps, rfl⟩ := List.exists_cons_of_ne_nil hne
  rw [Group.paths, pathsOfAll_eq, List.map_flatMap]

theorem chainsFrom_eq (i : Nat) (gs : List Group) : chainsFrom i gs =
    (gs.zipIdx i).flatMap fun g => (chains g.1).map fun c => (g.2 :: c.1, c.2) := by
  induction gs generalizing i with
  | nil => rfl
  | cons g gs ih => rw [chainsFrom, ih, List.zipIdx_cons, List.flatMap_cons]

theorem chains_under (hne : parents ≠ []) : chains (.under name parents) =
    parents.zipIdx.flatMap fun p => (chains p.1).map fun c => (p.2 :: c.1, c.2 ++ [name]) := by
  obtain ⟨p, ps, rfl⟩ := List.exists_cons_of_ne_nil hne
  rw [chains, chainsFrom_eq, List.map_flatMap]
  simp only [List.map_map]
  rfl

theorem Chain.names_ne_nil (h : Chain g choices names) : names ≠ [] := by
  cases h with
  | root name => exact List.cons_ne_nil name []
  | step _ _ => exact List.append_ne_nil_of_right_ne_nil _ (List.cons_ne_nil _ [])

theorem mem_chains_iff : (choices, names) ∈ chains g ↔ Chain g choices names := by
  induction g using group_induction generalizing choices names with
  | under name parents ih =>
    by_cases hne : parents = []
    · subst hne
      rw [chains, List.mem_singleton, Prod.mk.injEq]
      constructor
      · rintro ⟨rfl, rfl⟩
        exact .root name
      · intro h
        cases h with
        | root => exact ⟨rfl, rfl⟩
        | step hparent _ => cases hparent
    · simp only [chains_under hne, List.mem_flatMap, List.mem_map, Prod.mk.injEq]
      constructor
      · rintro ⟨⟨p, i⟩, hp, ⟨cs, ns⟩, hc, rfl, rfl⟩
        have hget := List.mk_mem_zipIdx_iff_getElem?.mp hp
        exact .step hget ((ih p (List.mem_of_getElem? hget)).mp hc)
      · intro h
        cases h with
        | root => exact absurd rfl hne
        | @step _ _ i p cs ns hparent h =>
          refine ⟨(p, i), List.mk_mem_zipIdx_iff_getElem?.mpr hparent, (cs, ns), ?_, rfl, rfl⟩
          exact (ih p (List.mem_of_getElem? hparent)).mpr h

theorem pairwise_chains (g : Group) : (chains g).Pairwise (·.1 < ·.1) := by
  induction g using group_induction with
  | under name parents ih =>
    by_cases hne : parents = []
    · subst hne
      exact List.pairwise_singleton _ _
    · rw [chains_under hne, List.pairwise_flatMap]
      constructor
      · intro p hp
        have hchains := ih p.1 (List.mem_of_getElem? (List.mem_zipIdx_iff_getElem?.mp hp))
        apply List.pairwise_map.mpr
        exact hchains.imp fun hlt => List.cons_lt_cons_iff.mpr (.inr ⟨rfl, hlt⟩)
      · -- Chains through different parents differ in their first choice already.
        have hplaces : (parents.zipIdx.map Prod.snd).Pairwise (· < ·) := by
          rw [List.zipIdx_map_snd]
          exact List.pairwise_lt_range'
        apply (List.pairwise_map.mp hplaces).imp
        intro p q hlt c hc d hd
        obtain ⟨c', -, rfl⟩ := List.mem_map.mp hc
        obtain ⟨d', -, rfl⟩ := List.mem_map.mp hd
        exact List.cons_lt_cons_iff.mpr (.inl hlt)

theorem paths_eq_map_chains (g : Group) : g.paths = (chains g).map fun c => joined c.2 := by
  induction g using group_induction with
  | under name parents ih =>
    by_cases hne : parents = []
    · subst hne
      rw [Group.paths, chains, List.map_singleton, joined, String.intercalate_singleton]
    · have hparent : ∀ p ∈ parents.zipIdx, (p.1.paths.map fun path => s!"{path} {name}") =
          ((chains p.1).map fun c => (p.2 :: c.1, c.2 ++ [name])).map fun c => joined c.2 := by
        intro p hp
        rw [ih p.1 (List.mem_of_getElem? (List.mem_zipIdx_iff_getElem?.mp hp)), List.map_map,
          List.map_map]
        apply List.map_congr_left
        intro c hc
        exact (joined_append_singleton (mem_chains_iff.mp hc).names_ne_nil name).symm
      calc (Group.under name parents).paths
        _ = (parents.zipIdx.map Prod.fst).flatMap fun p =>
              p.paths.map fun path => s!"{path} {name}" := by
            rw [paths_under hne, List.zipIdx_map_fst]
        _ = parents.zipIdx.flatMap fun p => p.1.paths.map fun path => s!"{path} {name}" :=
            List.flatMap_map _ _ _
        _ = parents.zipIdx.flatMap fun p =>
              ((chains p.1).map fun c => (p.2 :: c.1, c.2 ++ [name])).map fun c => joined c.2 :=
            List.flatMap_congr hparent
        _ = (chains (.under name parents)).map fun c => joined c.2 := by
            rw [chains_under hne, List.map_flatMap]

theorem exists_first_chain (g : Group) :
    ∃ choices names, Chain g choices names ∧ (∀ i ∈ choices, i = 0) ∧ g.path = joined names := by
  induction g using group_induction with
  | under name parents ih =>
    cases parents with
    | nil => exact ⟨[], [name], .root name, by simp, by simp [Group.path, joined]⟩
    | cons p ps =>
      obtain ⟨choices, names, h, hfirst, hpath⟩ := ih p List.mem_cons_self
      refine ⟨0 :: choices, names ++ [name], .step rfl h, ?_, ?_⟩
      · exact List.forall_mem_cons.mpr ⟨rfl, hfirst⟩
      · rw [Group.path, hpath, joined_append_singleton h.names_ne_nil]

theorem paths_ne_nil (g : Group) : g.paths ≠ [] := by
  intro hnil
  have hhead := g.head?_paths
  rw [hnil] at hhead
  cases hhead

theorem paths_of_group {c : Command} (h : c.group = some g) :
    c.paths = c.shortcut.toList ++
      g.paths.flatMap fun p => (c.name :: c.aliasName.toList).map fun last => s!"{p} {last}" := by
  rw [Command.paths, h]
  rfl

theorem exists_paths_eq (c : Command) :
    ∃ others, c.paths = c.shortcut.toList ++ c.path :: others := by
  cases h : c.group with
  | none => exact ⟨c.aliasName.toList, by rw [Command.paths, Command.path, h]⟩
  | some g =>
    obtain ⟨others, hpaths⟩ := List.head?_eq_some_iff.mp g.head?_paths
    rw [paths_of_group h, hpaths, List.flatMap_cons, List.map_cons, List.cons_append, Command.path, h]
    exact ⟨_, rfl⟩

/-- A group has a path, and has one for each chain above it, in the order of the choices of parents
and as often as there are chains; it is displayed by that of the chain through first parents, which
is the first. A command is reached by its shortcut, then by its name and its alias under each path of
its group, and is displayed by the first of these after the shortcut. -/
theorem paths_of_chains (g : Group) (c : Command) :
    g.paths ≠ [] ∧
    (∃ all : List (List Nat × List String),
      (∀ choices names, (choices, names) ∈ all ↔ Chain g choices names) ∧
      all.Pairwise (·.1 < ·.1) ∧ g.paths = all.map fun chain => joined chain.2) ∧
    (∃ choices names, Chain g choices names ∧ (∀ i ∈ choices, i = 0) ∧ g.path = joined names) ∧
    g.paths.head? = some g.path ∧
    (c.group = some g → c.paths = c.shortcut.toList ++
      g.paths.flatMap fun p => (c.name :: c.aliasName.toList).map fun last => s!"{p} {last}") ∧
    (c.group = none → c.paths = c.shortcut.toList ++ c.name :: c.aliasName.toList) ∧
    ∃ others, c.paths = c.shortcut.toList ++ c.path :: others := by
  refine ⟨paths_ne_nil g, ⟨chains g, fun _ _ => mem_chains_iff, pairwise_chains g,
    paths_eq_map_chains g⟩, exists_first_chain g, g.head?_paths, paths_of_group, fun hnone => ?_,
    exists_paths_eq c⟩
  rw [Command.paths, hnone]

/-- A group under two groups of one name that stand under one root, the first of them twice. -/
def diamond : Group :=
  let top : Group := .root "a"
  .under "d" [.under "b" [top, top], .under "b" [top]]

example : diamond.paths = ["a b d", "a b d", "a b d"] ∧ diamond.path = "a b d" := by decide

end SlashCommands.Proofs.GroupPaths
