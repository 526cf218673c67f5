import Mathlib.Data.List.Nodup
import SlashCommands.Proofs.Registration

namespace SlashCommands.Proofs.CanonicalPaths

open Registration

variable {d : Draft} {c c' : Command}

theorem key_eq_iff (h : c.path = c'.path) :
    c.key = c'.key ↔ c.ignoreCase = c'.ignoreCase ∨ Text.lowered c.path = c.path := by
  rw [Command.key, Command.key, ← h]
  cases hc : c.ignoreCase <;> cases hc' : c'.ignoreCase <;> simp [eq_comm]

theorem pairwise_path (h : Reached d) :
    d.commands.Pairwise fun c c' =>
      c.path = c'.path → c.ignoreCase ≠ c'.ignoreCase ∧ Text.lowered c.path ≠ c.path := by
  -- The keys are all different, and with one path that leaves this one way for the keys to differ.
  refine (List.pairwise_map.mp h.nodup_keys).imp fun hkey hpath => ?_
  exact not_or.mp fun hor => hkey ((key_eq_iff hpath).mpr hor)

theorem eq_of_path_eq (h : Reached d) (hc : c ∈ d.commands) (hc' : c' ∈ d.commands)
    (hpath : c.path = c'.path)
    (hcase : c.ignoreCase = c'.ignoreCase ∨ Text.lowered c.path = c.path) : c = c' :=
  List.inj_on_of_nodup_map h.nodup_keys hc hc' ((key_eq_iff hpath).mpr hcase)

theorem get?_path (h : Reached d) (hc : c ∈ d.commands)
    (hcase : Text.lowered c.path = c.path ∨
      ∀ c' ∈ d.commands, c'.path = c.path → c'.ignoreCase = c.ignoreCase) :
    d.build.get? c.path = some c := by
  cases hget : d.build.get? c.path with
  | none =>
    have hne := List.find?_eq_none.mp hget c hc
    simp at hne
  | some c' =>
    have hc' : c' ∈ d.commands := List.mem_of_find?_eq_some hget
    have hpath : c'.path = c.path := by simpa using List.find?_some hget
    refine congrArg some (eq_of_path_eq h hc' hc hpath ?_)
    rw [hpath]
    exact hcase.symm.imp_left fun halike => halike c' hc' hpath

/-- Commands share the path by which they are displayed only as a pair that treats case differently,
and only if the path is not in lower case; every other command is found by its path. -/
theorem path_unique (h : Reached d) :
    d.commands.Pairwise (fun c c' =>
      c.path = c'.path → c.ignoreCase ≠ c'.ignoreCase ∧ Text.lowered c.path ≠ c.path) ∧
    ∀ c ∈ d.build.commands,
      (Text.lowered c.path = c.path ∨
        ∀ c' ∈ d.build.commands, c'.path = c.path → c'.ignoreCase = c.ignoreCase) →
      d.build.get? c.path = some c :=
  ⟨pairwise_path h, fun _ => get?_path h⟩

/-- Two commands under one path, first one that minds case and then one that ignores it. -/
def twins : Draft := attempt (attempt {} (idle "Foo" false)) (idle "Foo")

theorem reached_twins : Reached twins := .attempt _ (.attempt _ (.empty .builtin))

theorem twins_share_path : Reached twins ∧ ¬ (twins.commands.map Command.path).Nodup ∧
    ∃ c ∈ twins.build.commands, twins.build.get? c.path ≠ some c := by
  have hpaths : twins.commands.map Command.path = ["Foo", "Foo"] := rfl
  refine ⟨reached_twins, by rw [hpaths]; decide, ?_⟩
  obtain ⟨exact, loose, hcommands, hget, hcase⟩ : ∃ exact loose,
      twins.build.commands = [exact, loose] ∧ twins.build.get? loose.path = some exact ∧
        exact.ignoreCase ≠ loose.ignoreCase :=
    ⟨_, _, rfl, rfl, Bool.false_ne_true⟩
  refine ⟨loose, by simp [hcommands], fun hloose => hcase ?_⟩
  rw [hget, Option.some.injEq] at hloose
  rw [hloose]

theorem path_unique_beside_twins : ∃ c, (attempt twins (idle "Bar")).commands[2]? = some c ∧
    (attempt twins (idle "Bar")).build.get? "Bar" = some c := by
  obtain ⟨c₁, c₂, c, hcommands, h₁, h₂, hc⟩ : ∃ c₁ c₂ c,
      (attempt twins (idle "Bar")).build.commands = [c₁, c₂, c] ∧ c₁.path = "Foo" ∧
        c₂.path = "Foo" ∧ c.path = "Bar" := ⟨_, _, _, rfl, rfl, rfl, rfl⟩
  have hget := (path_unique (.attempt (idle "Bar") reached_twins)).2 c (by simp [hcommands])
    (.inr fun c' hc' hpath => ?_)
  · rw [hc] at hget
    exact ⟨c, congrArg (·[2]?) hcommands, hget⟩
  · rw [hcommands] at hc'
    simp only [List.mem_cons, List.not_mem_nil, or_false] at hc'
    rw [hc] at hpath
    obtain rfl | rfl | rfl := hc'
    · exact absurd (h₁.symm.trans hpath) (by decide)
    · exact absurd (h₂.symm.trans hpath) (by decide)
    · rfl

end SlashCommands.Proofs.CanonicalPaths
