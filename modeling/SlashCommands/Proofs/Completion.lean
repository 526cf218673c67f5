import SlashCommands.Proofs.CaseFolding

namespace SlashCommands.Proofs.Completion

open CaseFolding Registration Text

def Ignorable (c : Char) : Prop := caseIgnorableRanges.contains c.toNat = true

/-- A text is cut between `u` and `v` within a word, behind a capital sigma, or behind characters after
it that have no effect on case; `before` is what stands before `u`, nearest first. -/
def CutsAfter (before u v : List Char) : Prop :=
  ∃ front marks, u = front ++ 'Σ' :: marks ∧ (∀ c ∈ marks, Ignorable c) ∧
    casedFirst (front.reverse ++ before) = true ∧ casedFirst v = true

def CutsWord (u v : List Char) : Prop := CutsAfter [] u v

section

variable {before u v : List Char} {c : Char}

theorem find?_eq_none_iff :
    u.find? (fun c => !caseIgnorableRanges.contains c.toNat) = none ↔ ∀ c ∈ u, Ignorable c := by
  simp [List.find?_eq_none, Ignorable]

theorem casedFirst_of_ignorable (hu : ∀ c ∈ u, Ignorable c) : casedFirst u = false := by
  rw [casedFirst, find?_eq_none_iff.mpr hu]

theorem casedFirst_append (hu : ∀ c ∈ u, Ignorable c) (v : List Char) :
    casedFirst (u ++ v) = casedFirst v := by
  rw [casedFirst, List.find?_append, find?_eq_none_iff.mpr hu, Option.none_or, casedFirst]

theorem casedFirst_append_of_not (hu : ¬ ∀ c ∈ u, Ignorable c) (v : List Char) :
    casedFirst (u ++ v) = casedFirst u := by
  rw [← find?_eq_none_iff] at hu
  obtain ⟨d, hd⟩ := Option.ne_none_iff_exists'.mp hu
  rw [casedFirst, List.find?_append, hd, Option.some_or, casedFirst, hd]

theorem isFinal_append_iff : isFinal before c u = isFinal before c (u ++ v) ↔
    ¬ (c = 'Σ' ∧ (∀ d ∈ u, Ignorable d) ∧ casedFirst before = true ∧ casedFirst v = true) := by
  by_cases hu : ∀ d ∈ u, Ignorable d
  · rw [isFinal, isFinal, endsWord, endsWord, casedFirst_of_ignorable hu, casedFirst_append hu,
      iff_true_intro hu, true_and]
    by_cases hc : c = 'Σ' <;> cases casedFirst before <;> cases casedFirst v <;> simp [hc]
  · rw [isFinal, isFinal, endsWord, endsWord, casedFirst_append_of_not hu]
    exact iff_of_true rfl fun h => hu h.2.1

theorem not_cutsAfter_of_not_mem (h : 'Σ' ∉ u) : ¬ CutsAfter before u v := by
  rintro ⟨front, marks, rfl, -⟩
  simp at h

theorem cutsAfter_cons : CutsAfter before (c :: u) v ↔
    (c = 'Σ' ∧ (∀ d ∈ u, Ignorable d) ∧ casedFirst before = true ∧ casedFirst v = true) ∨
      CutsAfter (c :: before) u v := by
  constructor
  · rintro ⟨front, marks, hu, hmarks, hbefore, hv⟩
    cases front with
    | nil =>
      cases hu
      exact .inl ⟨rfl, hmarks, hbefore, hv⟩
    | cons d front =>
      cases hu
      refine .inr ⟨front, marks, rfl, hmarks, ?_, hv⟩
      rwa [List.reverse_cons, List.append_assoc] at hbefore
  · rintro (⟨rfl, hu, hbefore, hv⟩ | ⟨front, marks, rfl, hmarks, hbefore, hv⟩)
    · exact ⟨[], u, rfl, hu, hbefore, hv⟩
    · refine ⟨c :: front, marks, rfl, hmarks, ?_, hv⟩
      rwa [List.reverse_cons, List.append_assoc]

theorem append_prefix_append_iff {s t : List Char} (h : u.length = v.length) :
    u ++ s <+: v ++ t ↔ u = v ∧ s <+: t := by
  constructor
  · rintro ⟨rest, hrest⟩
    rw [List.append_assoc] at hrest
    obtain ⟨huv, hst⟩ := List.append_inj hrest h
    exact ⟨huv, rest, hst⟩
  · rintro ⟨rfl, hst⟩
    exact (List.prefix_append_right_inj u).mpr hst

/-- The lower-case form of a first part of a text is the first part of that of the text, but where the
cut changes the form of a capital sigma. -/
theorem lowerAfter_prefix_iff :
    lowerAfter before u <+: lowerAfter before (u ++ v) ↔ ¬ CutsAfter before u v := by
  induction u generalizing before with
  | nil => exact iff_of_true List.nil_prefix (not_cutsAfter_of_not_mem List.not_mem_nil)
  | cons c u ih =>
    -- The forms of one character are equally long, so the rest of the form begins at the same place.
    have hlength : (folded before c u).length = (folded before c (u ++ v)).length := by
      rw [length_folded, length_folded]
    rw [List.cons_append, lowerAfter_cons, lowerAfter_cons, append_prefix_append_iff hlength,
      folded_eq_iff rfl, isFinal_append_iff, ih, cutsAfter_cons, not_or]

end

section

variable {r : Registry} {part p : String}

theorem completions_perm (r : Registry) (part : String) : (r.completions part).Perm
    ((r.commands.map (·.path)).filter fun p => lower part.toList <+: lower p.toList) := by
  have hfilter : (fun p : String => (lower part.toList).isPrefixOf (lower p.toList)) =
      fun p => decide (lower part.toList <+: lower p.toList) := by
    funext p
    rw [Bool.eq_iff_iff, List.isPrefixOf_iff_prefix, decide_eq_true_iff]
  rw [Registry.completions, hfilter]
  exact List.mergeSort_perm _ _

theorem pairwise_completions (r : Registry) (part : String) :
    (r.completions part).Pairwise (· ≤ ·) :=
  pairwise_mergeSort_path id _

theorem mem_completions_iff :
    p ∈ r.completions part ↔ (∃ c ∈ r.commands, c.path = p) ∧ lower part.toList <+: lower p.toList := by
  rw [(completions_perm r part).mem_iff, List.mem_filter, List.mem_map, decide_eq_true_iff]

/-- The completions of what is typed are the paths whose lower-case forms begin with that of what is
typed, sorted. So a path is among those of any first part of itself that does not cut off a capital
sigma within a word, and among those of no other first part. -/
theorem completions_of_part (r : Registry) (u : String) :
    (r.completions u).Pairwise (· ≤ ·) ∧
    (r.completions u).Perm
      ((r.commands.map (·.path)).filter fun p => lower u.toList <+: lower p.toList) ∧
    ∀ c ∈ r.commands, ∀ v, c.path = u ++ v →
      (c.path ∈ r.completions u ↔ ¬ CutsWord u.toList v.toList) := by
  refine ⟨pairwise_completions r u, completions_perm r u, fun c hc v hpath => ?_⟩
  rw [mem_completions_iff, and_iff_right ⟨c, hc, rfl⟩, hpath, String.toList_append]
  exact lowerAfter_prefix_iff

end

def rescue : Registry := (attempt {} (idle "ΣΩΣΕ")).build

theorem exists_rescue : ∃ c ∈ rescue.commands, c.path = "ΣΩΣΕ" := ⟨_, List.mem_cons_self, rfl⟩

theorem completions_of_part_rescue : "ΣΩΣΕ" ∈ rescue.completions "ΣΩ" := by
  obtain ⟨-, -, hpaths⟩ := completions_of_part rescue "ΣΩ"
  obtain ⟨c, hc, hpath⟩ := exists_rescue
  have hcut : ¬ CutsAfter [] ['Σ', 'Ω'] ['Σ', 'Ε'] := by
    rw [cutsAfter_cons]
    rintro (⟨-, -, hbefore, -⟩ | hcut)
    · cases hbefore
    · exact not_cutsAfter_of_not_mem (by decide) hcut
  rw [← hpath]
  exact (hpaths c hc "ΣΕ" hpath).mpr hcut

/-- For its first three letters, which end in a sigma, it is not. -/
theorem rescue_lost : ∃ c ∈ rescue.commands, c.path = "ΣΩΣ" ++ "Ε" ∧
    c.path ∉ rescue.completions "ΣΩΣ" := by
  obtain ⟨c, hc, hpath⟩ := exists_rescue
  refine ⟨c, hc, hpath, ?_⟩
  rw [mem_completions_iff, hpath]
  have hforms : ¬ lower "ΣΩΣ".toList <+: lower "ΣΩΣΕ".toList := by decide +kernel
  exact fun h => hforms h.2

end SlashCommands.Proofs.Completion
