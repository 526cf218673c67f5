import Mathlib.Data.List.TakeWhile
import SlashCommands.Proofs.Decimals

namespace SlashCommands.Proofs.Conversion

open Text Decimals

theorem not_isBlank_head_trimStart {cs : List Char} {c : Char} (h : (trimStart cs).head? = some c) :
    isBlank c = false := by
  have hnot := List.head?_dropWhile_not isBlank cs
  rw [trimStart] at h
  rw [h] at hnot
  exact hnot

theorem not_isBlank_token {cs : List Char} {c : Char} (h : c ∈ token cs) : isBlank c = false := by
  have hc := List.mem_takeWhile_imp h
  simpa using hc

/-- A text that no token runs into: it is empty or begins with a blank character. -/
def Breaks (rest : List Char) : Prop := ∀ c, rest.head? = some c → isBlank c = true

theorem token_append {t rest : List Char} (ht : ∀ c ∈ t, isBlank c = false) (hr : Breaks rest) :
    token (t ++ rest) = t := by
  rw [token, List.takeWhile_append_of_pos (by simpa using ht)]
  cases rest with
  | nil => simp
  | cons c rest => simp [hr c rfl]

theorem afterToken_append {t rest : List Char} (ht : ∀ c ∈ t, isBlank c = false)
    (hr : Breaks rest) : afterToken (t ++ rest) = rest := by
  rw [afterToken, List.dropWhile_append_of_pos (by simpa using ht)]
  cases rest with
  | nil => rfl
  | cons c rest => simp [hr c rfl]

/-- What a kind makes of a text that begins with no blank character, and what it leaves. -/
def Yields (dir : Directory) (text : List Char) (v : Value) (rest : List Char) : Kind → Prop
  | .integer => rest = afterToken text ∧ ∃ n : Int64,
      v = .int n ∧ Decimal.integer? (token text) = some n.toInt
  | .word => rest = afterToken text ∧ ∃ s : String,
      v = .text s ∧ s.toList = token text ∧ s ≠ "" ∧ ∀ c ∈ s.toList, isBlank c = false
  | .text => rest = [] ∧ ∃ s : String,
      v = .text s ∧ s.toList = text ∧ s ≠ "" ∧ ∀ c, s.toList.head? = some c → isBlank c = false
  | .float => rest = afterToken text ∧ ∃ numeral,
      Decimal.Numeral.read? (token text) = some numeral ∧
        v = .float (.ofNumeral numeral) ∧ (Binary64.ofNumeral numeral).isFinite = true
  | .enumeration e => rest = afterToken text ∧ ∃ i, ∃ h : i < e.variants.length,
      v = .variant i e.variants[i] ∧ lowered e.variants[i] = lowered (.ofList (token text)) ∧
        ∀ name ∈ e.variants.take i, lowered name ≠ lowered (.ofList (token text))
  | .actor => rest = afterToken text ∧ ∃ id, v = .actor id ∧ dir.lookup (token text) = .found id
  | .custom c => c.convert dir text = some (v, rest)

theorem byToken_eq_some_iff {read : List Char → Option Value} {text rest : List Char} {v : Value} :
    Kind.byToken read text = some (v, rest) ↔
      read (token text) = some v ∧ rest = afterToken text := by
  rw [Kind.byToken, Option.map_eq_some_iff]
  constructor
  · rintro ⟨w, hw, he⟩
    cases he
    exact ⟨hw, rfl⟩
  · rintro ⟨hv, rfl⟩
    exact ⟨v, hv, rfl⟩

theorem ordinal?_eq_some_iff {e : Enumeration} {name : String} {i : Nat} :
    e.ordinal? name = some i ↔ ∃ h : i < e.variants.length,
      lowered e.variants[i] = lowered name ∧ ∀ v ∈ e.variants.take i, lowered v ≠ lowered name := by
  rw [Enumeration.ordinal?, List.findIdx?_eq_some_iff_getElem]
  simp only [beq_iff_eq]
  refine exists_congr fun hi => and_congr_right fun _ => ?_
  constructor
  · intro h v hv
    obtain ⟨j, hj, rfl⟩ := List.mem_take_iff_getElem.mp hv
    exact h j (Nat.lt_of_lt_of_le hj (Nat.min_le_left _ _))
  · intro h j hj
    have hlt := Nat.lt_min.mpr ⟨hj, Nat.lt_trans hj hi⟩
    exact h _ (List.mem_take_iff_getElem.mpr ⟨j, hlt, rfl⟩)

theorem variant?_eq_some_iff {e : Enumeration} {t : List Char} {v : Value} :
    Kind.variant? e t = some v ↔ ∃ i, ∃ h : i < e.variants.length,
      v = .variant i e.variants[i] ∧ lowered e.variants[i] = lowered (.ofList t) ∧
        ∀ name ∈ e.variants.take i, lowered name ≠ lowered (.ofList t) := by
  simp only [Kind.variant?, Option.bind_eq_bind, Option.bind_eq_some_iff, ordinal?_eq_some_iff]
  constructor
  · rintro ⟨i, ⟨hi, heq, hfirst⟩, name, hname, hv⟩
    rw [List.getElem?_eq_getElem hi] at hname
    cases hname
    cases hv
    exact ⟨i, hi, rfl, heq, hfirst⟩
  · rintro ⟨i, hi, rfl, heq, hfirst⟩
    exact ⟨i, ⟨hi, heq, hfirst⟩, e.variants[i], List.getElem?_eq_getElem hi, rfl⟩

theorem convert_yields {k : Kind} {dir : Directory} {text rest : List Char} {v : Value}
    (hfirst : ∀ c, text.head? = some c → isBlank c = false)
    (h : k.convert dir text = some (v, rest)) : Yields dir text v rest k := by
  cases k with
  | integer =>
    simp only [Kind.convert, byToken_eq_some_iff] at h
    obtain ⟨hread, hrest⟩ := h
    obtain ⟨n, hn, rfl⟩ := Option.map_eq_some_iff.mp hread
    obtain ⟨i, hi, hin⟩ := Option.bind_eq_some_iff.mp hn
    exact ⟨hrest, n, rfl, by rw [hi, toInt_of_int64? hin]⟩
  | word =>
    simp only [Kind.convert, byToken_eq_some_iff] at h
    obtain ⟨hread, hrest⟩ := h
    split at hread
    · cases hread
    · rename_i hne
      cases hread
      refine ⟨hrest, _, rfl, String.toList_ofList, by simpa using hne, fun c hc => ?_⟩
      rw [String.toList_ofList] at hc
      exact not_isBlank_token hc
  | text =>
    simp only [Kind.convert] at h
    split at h
    · cases h
    · rename_i hne
      cases h
      refine ⟨rfl, _, rfl, String.toList_ofList, by simpa using hne, fun c hc => ?_⟩
      rw [String.toList_ofList] at hc
      exact hfirst c hc
  | float =>
    simp only [Kind.convert, byToken_eq_some_iff] at h
    obtain ⟨hread, hrest⟩ := h
    rw [Kind.float?] at hread
    split at hread
    · rename_i numeral hnumeral
      split at hread
      · rename_i hfinite
        cases hread
        exact ⟨hrest, numeral, hnumeral, rfl, hfinite⟩
      · cases hread
    · cases hread
  | enumeration e =>
    simp only [Kind.convert, byToken_eq_some_iff] at h
    obtain ⟨hread, hrest⟩ := h
    exact ⟨hrest, variant?_eq_some_iff.mp hread⟩
  | actor =>
    simp only [Kind.convert, byToken_eq_some_iff] at h
    obtain ⟨hread, hrest⟩ := h
    rw [Kind.actor?] at hread
    split at hread
    · cases hread
    · obtain ⟨id, hid, rfl⟩ := Option.map_eq_some_iff.mp hread
      refine ⟨hrest, id, rfl, ?_⟩
      cases hl : dir.lookup (token text) <;> simp [hl, Lookup.found?] at hid
      rw [hid]
  | custom c => exact h

end SlashCommands.Proofs.Conversion
