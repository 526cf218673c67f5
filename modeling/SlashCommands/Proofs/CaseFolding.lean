import SlashCommands.Proofs.Matching
import SlashCommands.Proofs.Registration

namespace SlashCommands.Proofs.CaseFolding

open Text Matching Registration

variable {before before₁ before₂ after after₁ after₂ cs ds : List Char} {c d : Char}

/-- Whether a character is a capital sigma that ends its word. -/
def isFinal (before : List Char) (c : Char) (after : List Char) : Bool :=
  c = 'Σ' && endsWord before after

def finals (before : List Char) : List Char → List Bool
  | [] => []
  | c :: rest => isFinal before c rest :: finals (c :: before) rest

def dots (cs : List Char) : List Bool := cs.map (· = '\u0130')

def SameMarks (ms ns : List Bool) : Prop := ∀ i : Nat, ms[i]? = some true ↔ ns[i]? = some true

theorem sameMarks_refl (ms : List Bool) : SameMarks ms ms := fun _ => Iff.rfl

theorem sameMarks_cons {m n : Bool} {ms ns : List Bool} :
    SameMarks (m :: ms) (n :: ns) ↔ m = n ∧ SameMarks ms ns := by
  constructor
  · intro h
    exact ⟨by simpa using h 0, fun i => by simpa using h (i + 1)⟩
  · rintro ⟨rfl, h⟩ i
    cases i with
    | zero => rfl
    | succ i => simpa using h i

def folded (before : List Char) (c : Char) (after : List Char) : List Char :=
  if isFinal before c after then ['ς'] else lowerChar c

theorem lowerChar_sigma : lowerChar 'Σ' = ['σ'] := by decide +kernel

theorem eq_sigma_of_isFinal (h : isFinal before c after = true) : c = 'Σ' := by
  simp only [isFinal, Bool.and_eq_true, decide_eq_true_eq] at h
  exact h.1

theorem lowerAfter_cons (before : List Char) (c : Char) (rest : List Char) :
    lowerAfter before (c :: rest) = folded before c rest ++ lowerAfter (c :: before) rest := by
  rw [lowerAfter, folded, isFinal]
  by_cases hc : c = 'Σ'
  · subst hc
    cases endsWord before rest <;> simp [lowerChar_sigma]
  · simp [hc]

theorem length_lowerChar (c : Char) : (lowerChar c).length = if c = '\u0130' then 2 else 1 := by
  by_cases hc : c = '\u0130'
  · subst hc
    rfl
  · rw [lowerChar, if_neg hc, if_neg hc]
    split <;> rfl

theorem length_folded (before : List Char) (c : Char) (after : List Char) :
    (folded before c after).length = if c = '\u0130' then 2 else 1 := by
  rw [← length_lowerChar, folded]
  split
  · rename_i hfinal
    rw [eq_sigma_of_isFinal hfinal, lowerChar_sigma]
    rfl
  · rfl

theorem lowerAfter_cons_eq_iff (h : c = '\u0130' ↔ d = '\u0130') :
    lowerAfter before₁ (c :: cs) = lowerAfter before₂ (d :: ds) ↔
      folded before₁ c cs = folded before₂ d ds ∧
        lowerAfter (c :: before₁) cs = lowerAfter (d :: before₂) ds := by
  rw [lowerAfter_cons, lowerAfter_cons]
  -- The forms of the first characters are equally long, so the texts are cut at the same place.
  refine List.append_eq_append_iff_of_size_eq_left ?_
  rw [length_folded, length_folded]
  exact if_congr h rfl rfl

theorem dot_iff_of_lowerChar_eq (h : lowerChar c = lowerChar d) : c = '\u0130' ↔ d = '\u0130' := by
  have hlength := congrArg List.length h
  rw [length_lowerChar, length_lowerChar] at hlength
  by_cases hc : c = '\u0130' <;> by_cases hd : d = '\u0130' <;> simp_all

theorem folded_eq_iff (h : lowerChar c = lowerChar d) :
    folded before₁ c after₁ = folded before₂ d after₂ ↔
      isFinal before₁ c after₁ = isFinal before₂ d after₂ := by
  have hne : lowerChar 'Σ' ≠ ['ς'] := by
    rw [lowerChar_sigma]
    decide
  rw [folded, folded]
  cases hc : isFinal before₁ c after₁ <;> cases hd : isFinal before₂ d after₂
  · simpa using h
  · have hlower := eq_sigma_of_isFinal hd ▸ h
    simp [hlower, hne]
  · have hlower := eq_sigma_of_isFinal hc ▸ h
    simp [← hlower, hne.symm]
  · simp

theorem lowerChar_eq_of_sameChar (h : SameChar true c d) : lowerChar c = lowerChar d := by
  obtain rfl | ⟨-, h⟩ := h
  · rfl
  · exact h

theorem sameMarks_dots (h : List.Forall₂ (SameChar true) cs ds) : SameMarks (dots cs) (dots ds) := by
  induction h with
  | nil => exact sameMarks_refl _
  | cons hcd _ ih =>
    refine sameMarks_cons.mpr ⟨?_, ih⟩
    exact decide_eq_decide.mpr (dot_iff_of_lowerChar_eq (lowerChar_eq_of_sameChar hcd))

/-- Texts that agree character by character have one lower-case form exactly if their final capital
sigmas stand at the same places. -/
theorem lowerAfter_eq_iff (h : List.Forall₂ (SameChar true) cs ds) :
    lowerAfter before₁ cs = lowerAfter before₂ ds ↔
      SameMarks (finals before₁ cs) (finals before₂ ds) := by
  induction h generalizing before₁ before₂ with
  | nil => exact iff_of_true rfl (sameMarks_refl _)
  | @cons c d cs ds hcd _ ih =>
    have hlower := lowerChar_eq_of_sameChar hcd
    rw [lowerAfter_cons_eq_iff (dot_iff_of_lowerChar_eq hlower), folded_eq_iff hlower, ih, finals,
      finals, sameMarks_cons]

theorem forall₂_of_lowerAfter_eq (h : lowerAfter before₁ cs = lowerAfter before₂ ds)
    (hfinals : SameMarks (finals before₁ cs) (finals before₂ ds))
    (hdots : SameMarks (dots cs) (dots ds)) : List.Forall₂ (SameChar true) cs ds := by
  have hne (b : List Char) (c : Char) (rest : List Char) : lowerAfter b (c :: rest) ≠ [] := by
    intro hnil
    have hlength := congrArg List.length hnil
    rw [lowerAfter_cons, List.length_append, length_folded] at hlength
    split at hlength <;> simp at hlength
  induction cs generalizing before₁ before₂ ds with
  | nil =>
    cases ds with
    | nil => exact .nil
    | cons d ds => exact absurd h.symm (hne before₂ d ds)
  | cons c cs ih =>
    cases ds with
    | nil => exact absurd h (hne before₁ c cs)
    | cons d ds =>
      obtain ⟨hfinal, hfinals⟩ := sameMarks_cons.mp hfinals
      obtain ⟨hdot, hdots⟩ := sameMarks_cons.mp hdots
      obtain ⟨hhead, htail⟩ := (lowerAfter_cons_eq_iff (decide_eq_decide.mp hdot)).mp h
      refine .cons ?_ (ih htail hfinals hdots)
      -- Either both are a final capital sigma, or both have the form that they have alone.
      cases hc : isFinal before₁ c cs with
      | true =>
        rw [eq_sigma_of_isFinal hc, eq_sigma_of_isFinal (hfinal.symm.trans hc)]
        exact sameChar_refl true _
      | false =>
        have hd := hfinal.symm.trans hc
        exact .inr ⟨rfl, by simpa [folded, hc, hd] using hhead⟩

theorem stripPath_eq_nil_iff {ignoreCase : Bool} {path text : List Char} :
    stripPath ignoreCase path text = some [] ↔ List.Forall₂ (SameChar ignoreCase) text path := by
  rw [stripPath_eq_some_iff]
  constructor
  · rintro ⟨front, ht, hf, -⟩
    rw [ht, List.append_nil]
    exact hf
  · intro h
    exact ⟨text, (List.append_nil text).symm, h, .inl rfl⟩

/-- Two paths have their final capital sigmas, and their capital letters I with a dot, at the same
places. -/
def SamePlaces (p q : String) : Prop :=
  SameMarks (finals [] p.toList) (finals [] q.toList) ∧ SameMarks (dots p.toList) (dots q.toList)

theorem sameMarks_of_not_mem {ms ns : List Bool} (hms : true ∉ ms) (hns : true ∉ ns) :
    SameMarks ms ns := fun _ =>
  iff_of_false (fun h => hms (List.mem_of_getElem? h)) fun h => hns (List.mem_of_getElem? h)

theorem not_mem_finals (h : 'Σ' ∉ cs) : true ∉ finals before cs := by
  induction cs generalizing before with
  | nil => exact List.not_mem_nil
  | cons c cs ih =>
    rw [List.mem_cons, not_or] at h
    rw [finals, List.mem_cons, not_or]
    exact ⟨fun hfinal => h.1 (eq_sigma_of_isFinal hfinal.symm).symm, ih h.2⟩

theorem not_mem_dots (h : '\u0130' ∉ cs) : true ∉ dots cs := by
  simpa [dots] using h

theorem samePlaces_of_not_mem {p q : String} (hp : 'Σ' ∉ p.toList ∧ '\u0130' ∉ p.toList)
    (hq : 'Σ' ∉ q.toList ∧ '\u0130' ∉ q.toList) : SamePlaces p q :=
  ⟨sameMarks_of_not_mem (not_mem_finals hp.1) (not_mem_finals hq.1),
    sameMarks_of_not_mem (not_mem_dots hp.2) (not_mem_dots hq.2)⟩

section

variable {c₁ c₂ : Command} (h₁ : c₁.ignoreCase = true) (h₂ : c₂.ignoreCase = true)

include h₁ h₂

theorem key_eq_iff_lower_eq : c₁.key = c₂.key ↔ lower c₁.path.toList = lower c₂.path.toList := by
  rw [Command.key, Command.key, if_pos h₁, if_pos h₂, lowered, lowered, String.ofList_inj]

theorem key_eq_iff_samePlaces (h : stripPath true c₂.path.toList c₁.path.toList = some []) :
    c₁.key = c₂.key ↔ SamePlaces c₁.path c₂.path := by
  have hagree := stripPath_eq_nil_iff.mp h
  rw [key_eq_iff_lower_eq h₁ h₂, lower, lower, lowerAfter_eq_iff hagree, SamePlaces]
  exact (and_iff_left (sameMarks_dots hagree)).symm

theorem stripPath_of_key_eq (hplaces : SamePlaces c₁.path c₂.path) (hkey : c₁.key = c₂.key) :
    stripPath true c₂.path.toList c₁.path.toList = some [] := by
  have hlower := (key_eq_iff_lower_eq h₁ h₂).mp hkey
  exact stripPath_eq_nil_iff.mpr (forall₂_of_lowerAfter_eq hlower hplaces.1 hplaces.2)

end

theorem eq_of_register_empty {resolver : Resolver} {decl : Declaration} {d : Draft}
    (h : Draft.register { resolver } decl = (d, none)) (hcase : decl.ignoreCase = true) :
    ∃ c, Command.ofDeclaration resolver decl = .ok c ∧ c.ignoreCase = true ∧
      d = { resolver, commands := [c], keys := [c.key] } := by
  obtain ⟨c, hc, -, hd⟩ := eq_of_register h
  obtain ⟨-, -, -, _, _, _, -, -, -, hfields⟩ := ofDeclaration_eq_ok hc
  refine ⟨c, hc, ?_, hd⟩
  rw [hfields]
  exact hcase

/-- Of two commands that ignore case, the second is refused as a duplicate exactly if the path of the
first fits the whole path of the second, where the two paths have their final capital sigmas and
their capital letters I with a dot at the same places. Elsewhere at most one of the two is the case. -/
theorem duplicate_iff_fits {resolver : Resolver} {decl₁ decl₂ : Declaration} {d₁ d₂ : Draft}
    (h₁ : Draft.register { resolver } decl₁ = (d₁, none))
    (h₂ : Draft.register { resolver } decl₂ = (d₂, none))
    (hcase₁ : decl₁.ignoreCase = true) (hcase₂ : decl₂.ignoreCase = true) :
    ∃ c₁ c₂, d₁.commands = [c₁] ∧ d₂.commands = [c₂] ∧
      (SamePlaces c₂.path c₁.path →
        ((d₁.register decl₂).2 = some (.duplicateCommand c₂.path) ↔
          stripPath true c₁.path.toList c₂.path.toList = some [])) ∧
      ((d₁.register decl₂).2 = some (.duplicateCommand c₂.path) →
        stripPath true c₁.path.toList c₂.path.toList = some [] → SamePlaces c₂.path c₁.path) := by
  obtain ⟨c₁, -, hc₁, rfl⟩ := eq_of_register_empty h₁ hcase₁
  obtain ⟨c₂, hd₂, hc₂, rfl⟩ := eq_of_register_empty h₂ hcase₂
  let d : Draft := { resolver, commands := [c₁], keys := [c₁.key] }
  have hdup : (d.register decl₂).2 = some (.duplicateCommand c₂.path) ↔ c₂.key ∈ [c₁.key] :=
    duplicateCommand_iff hd₂
  rw [List.mem_singleton] at hdup
  refine ⟨c₁, c₂, rfl, rfl, fun hplaces => ?_, fun hrefused hfits => ?_⟩
  · rw [hdup]
    refine ⟨stripPath_of_key_eq hc₂ hc₁ hplaces, fun hfits => ?_⟩
    exact (key_eq_iff_samePlaces hc₂ hc₁ hfits).mpr hplaces
  · exact (key_eq_iff_samePlaces hc₂ hc₁ hfits).mp (hdup.mp hrefused)

theorem duplicate_of_capitals : ((attempt {} (idle "Été")).register (idle "ÉTÉ")).2 =
    some (.duplicateCommand "ÉTÉ") := by
  have h₁ : Draft.register {} (idle "Été") = (attempt {} (idle "Été"), none) := rfl
  have h₂ : Draft.register {} (idle "ÉTÉ") = (attempt {} (idle "ÉTÉ"), none) := rfl
  obtain ⟨c₁, c₂, hcommands₁, hcommands₂, hiff, -⟩ := duplicate_iff_fits h₁ h₂ rfl rfl
  have hpath₁ : c₁.path = "Été" := (List.singleton_inj.mp hcommands₁) ▸ rfl
  have hpath₂ : c₂.path = "ÉTÉ" := (List.singleton_inj.mp hcommands₂) ▸ rfl
  rw [hpath₁, hpath₂] at hiff
  have hplaces : SamePlaces "ÉTÉ" "Été" := samePlaces_of_not_mem (by decide) (by decide)
  exact (hiff hplaces).mpr (by decide +kernel)

/-- Where the places differ, the two notions of case can disagree either way: a path that fits is
accepted beside the other, and one that does not is refused. -/
theorem duplicate_unlike_fits :
    ¬ (((attempt {} (idle "ΑΣ")).register (idle "ασ")).2 = some (.duplicateCommand "ασ") ↔
        stripPath true "ΑΣ".toList "ασ".toList = some []) ∧
      ¬ (((attempt {} (idle "\u0130")).register (idle "i\u0307")).2 =
          some (.duplicateCommand "i\u0307") ↔
        stripPath true "\u0130".toList "i\u0307".toList = some []) := by
  have haccepted : ((attempt {} (idle "ΑΣ")).register (idle "ασ")).2 = none := rfl
  have hfits : stripPath true "ΑΣ".toList "ασ".toList = some [] := by decide +kernel
  have hrefused : ((attempt {} (idle "\u0130")).register (idle "i\u0307")).2 =
      some (.duplicateCommand "i\u0307") := rfl
  have hunfit : stripPath true "\u0130".toList "i\u0307".toList = none := by decide +kernel
  constructor
  · intro hiff
    rw [hiff.mpr hfits] at haccepted
    cases haccepted
  · intro hiff
    have hsome := hiff.mp hrefused
    rw [hunfit] at hsome
    cases hsome

end SlashCommands.Proofs.CaseFolding
