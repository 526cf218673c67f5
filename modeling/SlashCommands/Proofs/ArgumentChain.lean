import SlashCommands.Arguments

namespace SlashCommands.Proofs.ArgumentChain

open Arguments Text

variable {dir : Directory} {p : Parameter} {ps : List Parameter} {text rest : List Char}

theorem values?_nil (text : List Char) : values? dir [] text = some [] := rfl

theorem values?_cons_result (v : Value) (r : Result) :
    (r.cons v).values? = r.values?.map (v :: ·) := by
  cases r <;> rfl

theorem values?_of_blank (h : trimStart text = []) :
    values? dir (p :: ps) text =
      p.default.bind fun v => (values? dir ps []).map (v :: ·) := by
  rw [values?, parse]
  simp only [h, List.isEmpty_nil, if_true]
  cases p.default with
  | none => rfl
  | some v => exact values?_cons_result v _

theorem values?_eq_of_blank (h : trimStart text = []) : values? dir ps text = values? dir ps [] := by
  cases ps with
  | nil => rfl
  | cons p ps => rw [values?_of_blank h, values?_of_blank rfl]

theorem values?_of_text (h : trimStart text ≠ []) :
    values? dir (p :: ps) text =
      (p.kind.convert dir (trimStart text)).bind fun r => (values? dir ps r.2).map (r.1 :: ·) := by
  rw [values?, parse]
  simp only [List.isEmpty_eq_false_iff.mpr h, Bool.false_eq_true, if_false]
  cases p.kind.convert dir (trimStart text) with
  | none => rfl
  | some r => exact values?_cons_result r.1 _

theorem values?_nil_text_iff {vs : List Value} :
    values? dir ps [] = some vs ↔ ps.map (·.default) = vs.map some := by
  induction ps generalizing vs with
  | nil =>
    rw [values?_nil]
    cases vs <;> simp
  | cons p ps ih =>
    rw [values?_of_blank rfl]
    cases vs with
    | nil => cases p.default <;> simp
    | cons v vs =>
      cases hd : p.default with
      | none => simp [hd]
      | some w =>
        simp only [Option.bind_some, Option.map_eq_some_iff, List.map_cons, List.cons.injEq, hd,
          Option.some.injEq]
        constructor
        · rintro ⟨vs', hvs, rfl, rfl⟩
          exact ⟨rfl, ih.mp hvs⟩
        · rintro ⟨rfl, hvs⟩
          exact ⟨vs, ih.mpr hvs, rfl, rfl⟩

/-- The values come from a chain of texts: `left i` is what is left for parameter `i`. -/
theorem exists_left {vs : List Value} (h : values? dir ps text = some vs) :
    vs.length = ps.length ∧ ∃ left : Nat → List Char, left 0 = text ∧
      ∀ i p, ps[i]? = some p → ∃ v, vs[i]? = some v ∧
        ((trimStart (left i) = [] ∧ left (i + 1) = [] ∧ p.default = some v) ∨
          (trimStart (left i) ≠ [] ∧
            p.kind.convert dir (trimStart (left i)) = some (v, left (i + 1)))) := by
  induction ps generalizing text vs with
  | nil =>
    cases h
    exact ⟨rfl, fun _ => text, rfl, fun i p hp => by simp at hp⟩
  | cons p ps ih =>
    obtain ⟨v, rest, vs', rfl, hvs, hv⟩ : ∃ v rest vs', vs = v :: vs' ∧
        values? dir ps rest = some vs' ∧
        ((trimStart text = [] ∧ rest = [] ∧ p.default = some v) ∨
          (trimStart text ≠ [] ∧ p.kind.convert dir (trimStart text) = some (v, rest))) := by
      by_cases hb : trimStart text = []
      · rw [values?_of_blank hb] at h
        obtain ⟨v, hv, h⟩ := Option.bind_eq_some_iff.mp h
        obtain ⟨vs', hvs, rfl⟩ := Option.map_eq_some_iff.mp h
        exact ⟨v, [], vs', rfl, hvs, .inl ⟨hb, rfl, hv⟩⟩
      · rw [values?_of_text hb] at h
        obtain ⟨⟨v, rest⟩, hv, h⟩ := Option.bind_eq_some_iff.mp h
        obtain ⟨vs', hvs, rfl⟩ := Option.map_eq_some_iff.mp h
        exact ⟨v, rest, vs', rfl, hvs, .inr ⟨hb, hv⟩⟩
    obtain ⟨hlen, left, hleft, hchain⟩ := ih hvs
    refine ⟨by simp [hlen], fun i => i.casesOn text left, rfl, fun i q hq => ?_⟩
    cases i with
    | zero =>
      cases hq
      subst hleft
      exact ⟨v, rfl, hv⟩
    | succ i => exact hchain i q hq

theorem parameter_mem_of_mem_readings {reading : Reading}
    (h : reading ∈ (parse dir ps text).readings) : reading.parameter ∈ ps := by
  induction ps generalizing text with
  | nil => cases h
  | cons p ps ih =>
    rw [parse] at h
    simp only at h
    split at h
    · split at h
      · cases h
      · exact List.mem_cons_of_mem p (ih h)
    · split at h
      · rw [List.mem_singleton.mp h]
        exact List.mem_cons_self
      · obtain rfl | h := List.mem_cons.mp h
        · exact List.mem_cons_self
        · exact List.mem_cons_of_mem p (ih h)

end SlashCommands.Proofs.ArgumentChain
