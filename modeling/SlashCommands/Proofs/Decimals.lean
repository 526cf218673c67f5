import Mathlib.Data.List.Induction
import SlashCommands.Parameter

namespace SlashCommands.Proofs.Decimals

open Decimal

theorem value_digits (n : Nat) : value (digits n) = n := Nat.ofDigitChars_ten_toDigits

theorem digits_ne_nil (n : Nat) : digits n ≠ [] := Nat.toDigits_ne_nil

theorem isDigit_of_mem_digits {n : Nat} {c : Char} (h : c ∈ digits n) : c.isDigit = true :=
  Nat.isDigit_of_mem_toDigits (by decide) (by decide) h

theorem all_isDigit_digits (n : Nat) : (digits n).all Char.isDigit = true :=
  List.all_eq_true.mpr fun _ => isDigit_of_mem_digits

theorem not_isBlank_of_isDigit {c : Char} (h : c.isDigit = true) : Text.isBlank c = false := by
  have hall : ∀ n < 0x3A, 0x30 ≤ n → Text.blankRanges.contains n = false := by decide
  simp only [Char.isDigit, Bool.and_eq_true, decide_eq_true_eq, ge_iff_le,
    UInt32.le_iff_toNat_le] at h
  exact hall c.toNat (Nat.lt_succ_of_le h.2) h.1

theorem digitChar_of_isDigit {c : Char} (h : c.isDigit = true) :
    c.toNat - '0'.toNat < 10 ∧ Nat.digitChar (c.toNat - '0'.toNat) = c := by
  have hall : ∀ n < 0x3A, 0x30 ≤ n → n - '0'.toNat < 10 ∧
      Nat.digitChar (n - '0'.toNat) = Char.ofNat n := by decide
  simp only [Char.isDigit, Bool.and_eq_true, decide_eq_true_eq, ge_iff_le,
    UInt32.le_iff_toNat_le] at h
  have hdigit := hall c.toNat (Nat.lt_succ_of_le h.2) h.1
  rwa [Char.ofNat_toNat] at hdigit

theorem value_append_singleton (cs : List Char) (c : Char) :
    value (cs ++ [c]) = 10 * value cs + (c.toNat - '0'.toNat) := by
  simp [value]

theorem value_zeros_append_digits (zeros n : Nat) :
    value (List.replicate zeros '0' ++ digits n) = n := by
  change Nat.ofDigitChars 10 _ 0 = n
  rw [Nat.ofDigitChars_append, Nat.ofDigitChars_replicate_zero, Nat.mul_zero]
  exact value_digits n

/-- Digits are the decimal text of their value, but for zeros in front. -/
theorem exists_zeros_append_digits {cs : List Char} (hne : cs ≠ [])
    (hdigits : ∀ c ∈ cs, c.isDigit = true) :
    ∃ zeros, cs = List.replicate zeros '0' ++ digits (value cs) := by
  induction cs using List.reverseRecOn with
  | nil => exact absurd rfl hne
  | append_singleton cs c ih =>
    obtain ⟨hlt, hchar⟩ := digitChar_of_isDigit (hdigits c (by simp))
    have hlast : digits (c.toNat - '0'.toNat) = [c] := by
      rw [digits, Nat.toDigits_of_lt_base hlt, hchar]
    rw [value_append_singleton]
    by_cases hcs : cs = []
    · subst hcs
      have hvalue : 10 * value [] + (c.toNat - '0'.toNat) = c.toNat - '0'.toNat := Nat.zero_add _
      exact ⟨0, by rw [hvalue, hlast]; rfl⟩
    · obtain ⟨zeros, hzeros⟩ := ih hcs fun d hd => hdigits d (List.mem_append_left [c] hd)
      by_cases hvalue : value cs = 0
      · -- Zeros alone are no part of the decimal text, so the last digit is all of it.
        rw [hvalue] at hzeros ⊢
        refine ⟨zeros + 1, ?_⟩
        rw [Nat.mul_zero, Nat.zero_add, hlast, List.replicate_succ', hzeros]
        rfl
      · refine ⟨zeros, ?_⟩
        have happend : digits (value cs) ++ digits (c.toNat - '0'.toNat) =
            digits (10 * value cs + (c.toNat - '0'.toNat)) :=
          Nat.toDigits_append_toDigits (by decide) (Nat.pos_of_ne_zero hvalue) hlt
        rw [← happend, hlast, ← List.append_assoc, ← hzeros]

theorem value_eq_iff {cs : List Char} (hne : cs ≠ []) (hdigits : ∀ c ∈ cs, c.isDigit = true)
    {n : Nat} : value cs = n ↔ ∃ zeros, cs = List.replicate zeros '0' ++ digits n := by
  constructor
  · rintro rfl
    exact exists_zeros_append_digits hne hdigits
  · rintro ⟨zeros, rfl⟩
    exact value_zeros_append_digits zeros n

theorem splitSign_digits (n : Nat) : splitSign (digits n) = (false, digits n) := by
  unfold splitSign
  split
  · rename_i rest h
    have hd := isDigit_of_mem_digits (c := '-') (h ▸ List.mem_cons_self)
    exact absurd hd (by decide)
  · rename_i rest h
    have hd := isDigit_of_mem_digits (c := '+') (h ▸ List.mem_cons_self)
    exact absurd hd (by decide)
  · rfl

theorem isEmpty_or_not_all_digits (n : Nat) :
    ((digits n).isEmpty || !(digits n).all Char.isDigit) = false := by
  rw [all_isDigit_digits, List.isEmpty_eq_false_iff.mpr (digits_ne_nil n)]
  rfl

theorem integer?_integerText (n : Int) : integer? (integerText n).toList = some n := by
  rw [integer?, integerText, String.toList_ofList]
  by_cases hn : n < 0
  · simp only [if_pos hn, splitSign, isEmpty_or_not_all_digits, value_digits]
    simp only [Bool.false_eq_true, if_false, if_true, Option.some.injEq]
    omega
  · simp only [if_neg hn, splitSign_digits, isEmpty_or_not_all_digits, value_digits]
    simp only [Bool.false_eq_true, if_false, Option.some.injEq]
    omega

theorem toInt_of_int64? {n : Int} {m : Int64} (h : int64? n = some m) : m.toInt = n := by
  rw [int64?] at h
  split at h
  · cases h
    exact Int64.toInt_ofIntLE
  · cases h

theorem int64?_toInt (m : Int64) : int64? m.toInt = some m := by
  have hrange := And.intro m.minValue_le_toInt m.toInt_le
  rw [int64?, dif_pos hrange, Int64.ofIntLE_toInt]

theorem integerText_ne_nil (n : Int) : (integerText n).toList ≠ [] := by
  rw [integerText, String.toList_ofList]
  split
  · exact List.cons_ne_nil _ _
  · exact digits_ne_nil n.natAbs

theorem not_isBlank_of_mem_integerText {n : Int} {c : Char} (h : c ∈ (integerText n).toList) :
    Text.isBlank c = false := by
  rw [integerText] at h
  rw [String.toList_ofList] at h
  split at h
  · obtain rfl | h := List.mem_cons.mp h
    · decide
    · exact not_isBlank_of_isDigit (isDigit_of_mem_digits h)
  · exact not_isBlank_of_isDigit (isDigit_of_mem_digits h)

end SlashCommands.Proofs.Decimals
