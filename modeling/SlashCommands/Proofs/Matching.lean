import Mathlib.Data.List.Forall2
import SlashCommands.Registry

namespace SlashCommands.Proofs.Matching

open Text

/-- Characters that count as the same: equal ones, and those with one lower-case form where case is
ignored. -/
def SameChar (ignoreCase : Bool) (c p : Char) : Prop :=
  c = p ∨ ignoreCase = true ∧ lowerChar c = lowerChar p

/-- A path fits a text and leaves the rest of it, which is empty or begins with a space. -/
def Fits (ignoreCase : Bool) (path text rest : List Char) : Prop :=
  ∃ front, text = front ++ rest ∧ List.Forall₂ (SameChar ignoreCase) front path ∧
    (rest = [] ∨ ∃ tail, rest = ' ' :: tail)

theorem lowerCode_eq_or_lt (n : Nat) : lowerCode n = n ∨ 0x20 < lowerCode n := by
  unfold lowerCode
  split
  · rename_i r hr
    have htarget : ∀ r ∈ lowerRuns, 0x20 < r.target := by decide +kernel
    have hlt := htarget r (List.mem_of_find?_eq_some hr)
    refine .inr ?_
    rw [LowerRun.image]
    omega
  · exact .inl rfl

theorem toLower_eq_space {c : Char} (hc : c.toNat < 0x80) (h : c.toLower = ' ') : c = ' ' := by
  have hall : ∀ n < 0x80, (Char.ofNat n).toLower = ' ' → Char.ofNat n = ' ' := by decide
  have hn := hall c.toNat hc
  rw [Char.ofNat_toNat] at hn
  exact hn h

theorem ofNat_eq_space {n : Nat} (h : Char.ofNat n = ' ') : n = 0x20 := by
  by_cases hn : n.isValidChar
  · rw [Char.ofNat, dif_pos hn] at h
    exact congrArg Char.toNat h
  · rw [Char.ofNat, dif_neg hn] at h
    exact absurd h (by decide)

theorem lowerChar_eq_space {c : Char} (h : lowerChar c = [' ']) : c = ' ' := by
  unfold lowerChar at h
  split at h
  · rename_i hc
    exact toLower_eq_space hc (List.singleton_inj.mp h)
  · split at h
    · cases h
    · have hcode := ofNat_eq_space (List.singleton_inj.mp h)
      obtain he | hlt := lowerCode_eq_or_lt c.toNat
      · rw [he] at hcode
        rw [← Char.ofNat_toNat c, hcode]
      · omega

theorem sameChar_refl (ignoreCase : Bool) (c : Char) : SameChar ignoreCase c c := .inl rfl

theorem fits_append (ignoreCase : Bool) (path : List Char) {rest : List Char}
    (hrest : rest = [] ∨ ∃ tail, rest = ' ' :: tail) : Fits ignoreCase path (path ++ rest) rest :=
  ⟨path, rfl, List.forall₂_same.mpr fun c _ => sameChar_refl ignoreCase c, hrest⟩

theorem SameChar.eq_space_iff {ignoreCase : Bool} {c p : Char} (h : SameChar ignoreCase c p) :
    c = ' ' ↔ p = ' ' := by
  obtain rfl | ⟨-, h⟩ := h
  · exact Iff.rfl
  · constructor
    · rintro rfl
      exact lowerChar_eq_space h.symm
    · rintro rfl
      exact lowerChar_eq_space h

theorem count_space_eq {ignoreCase : Bool} {front path : List Char}
    (h : List.Forall₂ (SameChar ignoreCase) front path) : front.count ' ' = path.count ' ' := by
  induction h with
  | nil => rfl
  | @cons c p front path hcp _ ih =>
    rw [List.count_cons, List.count_cons, ih]
    by_cases hc : c = ' '
    · simp [hc, hcp.eq_space_iff.mp hc]
    · have hp : p ≠ ' ' := fun hp => hc (hcp.eq_space_iff.mpr hp)
      simp [hc, hp]

theorem sameChar_iff {ignoreCase : Bool} {c p : Char} :
    (c = p || (ignoreCase && sameLower c p)) = true ↔ SameChar ignoreCase c p := by
  simp [SameChar, sameLower]

theorem stripPath_eq_some_iff {ignoreCase : Bool} {path text rest : List Char} :
    stripPath ignoreCase path text = some rest ↔ Fits ignoreCase path text rest := by
  induction path generalizing text with
  | nil =>
    cases text with
    | nil =>
      constructor
      · rintro ⟨⟩
        exact ⟨[], rfl, .nil, .inl rfl⟩
      · rintro ⟨front, ht, hf, -⟩
        cases hf
        rw [stripPath, ht, List.nil_append]
    | cons c text =>
      rw [stripPath]
      constructor
      · intro h
        split at h
        · rename_i hc
          cases h
          exact ⟨[], rfl, .nil, .inr ⟨text, by rw [hc]⟩⟩
        · cases h
      · rintro ⟨front, ht, hf, hrest⟩
        cases hf
        rw [List.nil_append] at ht
        subst ht
        obtain h | ⟨tail, h⟩ := hrest
        · cases h
        · rw [if_pos (List.cons.inj h).1]
  | cons p path ih =>
    cases text with
    | nil =>
      constructor
      · intro h
        cases h
      · rintro ⟨front, ht, hf, -⟩
        cases hf
        cases ht
    | cons c text =>
      rw [stripPath]
      constructor
      · intro h
        split at h
        · rename_i hcp
          obtain ⟨front, ht, hf, hrest⟩ := ih.mp h
          refine ⟨c :: front, by rw [ht, List.cons_append], ?_, hrest⟩
          exact .cons (sameChar_iff.mp hcp) hf
        · cases h
      · rintro ⟨front, ht, hf, hrest⟩
        cases hf with
        | @cons d _ front _ hdp hf =>
          rw [List.cons_append, List.cons.injEq] at ht
          obtain ⟨rfl, rfl⟩ := ht
          rw [if_pos (sameChar_iff.mpr hdp)]
          exact ih.mpr ⟨front, rfl, hf, hrest⟩

section

variable {ic₁ ic₂ : Bool} {p₁ p₂ text r₁ r₂ : List Char}

theorem Fits.length_add (h : Fits ic₁ p₁ text r₁) : p₁.length + r₁.length = text.length := by
  obtain ⟨front, rfl, hf, -⟩ := h
  rw [List.length_append, hf.length_eq]

theorem Fits.rest_eq (h₁ : Fits ic₁ p₁ text r₁) (h₂ : Fits ic₂ p₂ text r₂)
    (hr : r₁.length = r₂.length) : r₁ = r₂ := by
  obtain ⟨front₁, rfl, -, -⟩ := h₁
  obtain ⟨front₂, ht, -, -⟩ := h₂
  exact (List.append_inj' ht hr).2

/-- The text that the longer path fits beyond the shorter one begins with a space. -/
theorem Fits.count_lt (h₁ : Fits ic₁ p₁ text r₁) (h₂ : Fits ic₂ p₂ text r₂)
    (hr : r₂.length < r₁.length) : p₁.count ' ' < p₂.count ' ' := by
  obtain ⟨front₁, rfl, hf₁, hrest⟩ := h₁
  obtain ⟨front₂, ht, hf₂, -⟩ := h₂
  rw [← count_space_eq hf₁, ← count_space_eq hf₂]
  obtain ⟨mid, rfl, rfl⟩ | ⟨mid, rfl, rfl⟩ := List.append_eq_append_iff.mp ht
  · cases mid with
    | nil => simp at hr
    | cons c mid =>
      obtain h | ⟨tail, h⟩ := hrest
      · cases h
      · rw [List.cons_append, List.cons.injEq] at h
        rw [h.1, List.count_append, List.count_cons_self]
        omega
  · rw [List.length_append] at hr
    omega

theorem Fits.count_eq (h₁ : Fits ic₁ p₁ text r₁) (h₂ : Fits ic₂ p₂ text r₂)
    (hr : r₁ = r₂) : p₁.count ' ' = p₂.count ' ' := by
  subst hr
  obtain ⟨front₁, rfl, hf₁, -⟩ := h₁
  obtain ⟨front₂, ht, hf₂, -⟩ := h₂
  rw [← count_space_eq hf₁, ← count_space_eq hf₂, List.append_cancel_right ht]

theorem Fits.count_le_iff (h₁ : Fits ic₁ p₁ text r₁) (h₂ : Fits ic₂ p₂ text r₂) :
    p₁.count ' ' ≤ p₂.count ' ' ↔ r₂.length ≤ r₁.length := by
  obtain hlt | heq | hlt := Nat.lt_trichotomy r₁.length r₂.length
  · have hc := h₂.count_lt h₁ hlt
    omega
  · have hc := h₁.count_eq h₂ (h₁.rest_eq h₂ heq)
    omega
  · have hc := h₁.count_lt h₂ hlt
    omega

end

end SlashCommands.Proofs.Matching
