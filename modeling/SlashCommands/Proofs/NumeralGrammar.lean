import Mathlib.Computability.Language
import SlashCommands.Proofs.IntegerNumerals

namespace SlashCommands.Proofs.NumeralGrammar

open Decimal Decimal.Numeral IntegerNumerals

def optional (l : Language Char) : Language Char := 1 + l

def sign : Language Char := {['+'], ['-']}

def digits : Language Char := {w | IsDigits w}

def point : Language Char := {['.']}

def mark : Language Char := {['e'], ['E']}

def mantissa : Language Char := digits * optional (point * optional digits) + point * digits

def exponent : Language Char := mark * (optional sign * digits)

/-- The numerals `[sign] (digits [. [digits]] | . digits) [(e|E) [sign] digits]`. -/
def numeral : Language Char := optional sign * (mantissa * optional exponent)

section

variable {l : Language Char} {cs w : List Char}

theorem mem_optional_iff : w ∈ optional l ↔ w = [] ∨ w ∈ l := by
  rw [optional, Language.mem_add, Language.mem_one]

theorem mem_sign_iff : w ∈ sign ↔ w = ['+'] ∨ w = ['-'] := Iff.rfl

theorem mem_point_iff : w ∈ point ↔ w = ['.'] := Iff.rfl

theorem mem_mark_iff : w ∈ mark ↔ w = ['e'] ∨ w = ['E'] := Iff.rfl

theorem mem_digits_iff : w ∈ digits ↔ IsDigits w := Iff.rfl

theorem mem_signed_iff : cs ∈ optional sign * l ↔
    cs ∈ l ∨ ∃ w ∈ l, cs = '+' :: w ∨ cs = '-' :: w := by
  simp only [Language.mem_mul, mem_optional_iff, mem_sign_iff]
  constructor
  · rintro ⟨s, rfl | rfl | rfl, w, hw, rfl⟩
    · exact .inl hw
    · exact .inr ⟨w, hw, .inl rfl⟩
    · exact .inr ⟨w, hw, .inr rfl⟩
  · rintro (hw | ⟨w, hw, rfl | rfl⟩)
    · exact ⟨[], .inl rfl, cs, hw, rfl⟩
    · exact ⟨['+'], .inr (.inl rfl), w, hw, rfl⟩
    · exact ⟨['-'], .inr (.inr rfl), w, hw, rfl⟩

theorem mem_signed_digits_iff : cs ∈ optional sign * digits ↔ ∃ n, integer? cs = some n := by
  simp only [mem_signed_iff, mem_digits_iff, integer?_eq_some_iff]
  constructor
  · rintro (h | ⟨w, h, rfl | rfl⟩)
    · exact ⟨_, .unsigned h⟩
    · exact ⟨_, .plus h⟩
    · exact ⟨_, .minus h⟩
  · rintro ⟨n, h | h | h⟩
    · exact .inl h
    · exact .inr ⟨_, h, .inl rfl⟩
    · exact .inr ⟨_, h, .inr rfl⟩

theorem cons_mem_mark_mul_iff {c : Char} : c :: cs ∈ mark * l ↔ (c = 'e' ∨ c = 'E') ∧ cs ∈ l := by
  simp only [Language.mem_mul, mem_mark_iff]
  constructor
  · rintro ⟨m, rfl | rfl, w, hw, h⟩
    · cases h
      exact ⟨.inl rfl, hw⟩
    · cases h
      exact ⟨.inr rfl, hw⟩
  · rintro ⟨rfl | rfl, hw⟩
    · exact ⟨['e'], .inl rfl, cs, hw, rfl⟩
    · exact ⟨['E'], .inr rfl, cs, hw, rfl⟩

theorem mem_optional_exponent_iff : cs ∈ optional exponent ↔ ∃ n, exponent? cs = some n := by
  rw [mem_optional_iff]
  cases cs with
  | nil => exact iff_of_true (.inl rfl) ⟨0, rfl⟩
  | cons c rest =>
    rw [exponent, cons_mem_mark_mul_iff, mem_signed_digits_iff, exponent?]
    by_cases hc : c = 'e' ∨ c = 'E'
    · simp [hc]
    · simp [hc]

theorem mem_mantissa_iff : w ∈ mantissa ↔ ∃ whole fraction,
    IsDigits (whole ++ fraction) ∧ (w = whole ++ '.' :: fraction ∨ fraction = [] ∧ w = whole) := by
  simp only [mantissa, Language.mem_add, Language.mem_mul, mem_optional_iff, mem_point_iff,
    mem_digits_iff]
  constructor
  · rintro (⟨whole, hwhole, tail, rfl | ⟨_, rfl, fraction, rfl | hfraction, rfl⟩, rfl⟩ |
      ⟨_, rfl, fraction, hfraction, rfl⟩)
    · rw [List.append_nil]
      exact ⟨whole, [], by rwa [List.append_nil], .inr ⟨rfl, rfl⟩⟩
    · exact ⟨whole, [], by rwa [List.append_nil], .inl rfl⟩
    · exact ⟨whole, fraction, hwhole.append hfraction.2, .inl rfl⟩
    · exact ⟨[], fraction, hfraction, .inl rfl⟩
  · rintro ⟨whole, fraction, h, hw⟩
    by_cases hwhole : whole = []
    · subst hwhole
      obtain rfl | ⟨rfl, -⟩ := hw
      · exact .inr ⟨['.'], rfl, fraction, h, rfl⟩
      · exact absurd rfl h.1
    · have hdigits : IsDigits whole := ⟨hwhole, fun c hc => h.2 c (List.mem_append_left _ hc)⟩
      obtain rfl | ⟨rfl, rfl⟩ := hw
      · refine .inl ⟨whole, hdigits, '.' :: fraction, .inr ⟨['.'], rfl, fraction, ?_, rfl⟩, rfl⟩
        by_cases hfraction : fraction = []
        · exact .inl hfraction
        · exact .inr ⟨hfraction, fun c hc => h.2 c (List.mem_append_right _ hc)⟩
      · exact .inl ⟨w, hdigits, [], .inl rfl, List.append_nil w⟩

end

def EndsDigits (rest : List Char) : Prop := ∀ c, rest.head? = some c → c.isDigit = false

section

variable {cs ds rest e : List Char}

theorem spanDigits_append (hds : ∀ c ∈ ds, c.isDigit = true) (hrest : EndsDigits rest) :
    spanDigits (ds ++ rest) = (ds, rest) := by
  rw [spanDigits, List.takeWhile_append_of_pos hds, List.dropWhile_append_of_pos hds]
  cases rest with
  | nil => simp
  | cons c rest => simp [hrest c rfl]

theorem spanDigits_spec (cs : List Char) : ∃ ds rest, spanDigits cs = (ds, rest) ∧ cs = ds ++ rest ∧
    (∀ c ∈ ds, c.isDigit = true) ∧ EndsDigits rest := by
  refine ⟨_, _, rfl, List.takeWhile_append_dropWhile.symm, fun _ => List.mem_takeWhile_imp, ?_⟩
  intro c hc
  have hnot := List.head?_dropWhile_not Char.isDigit cs
  rw [hc] at hnot
  simpa using hnot

theorem spanFraction_of_ne (h : ∀ rest, cs ≠ '.' :: rest) : spanFraction cs = ([], cs) := by
  unfold spanFraction
  split
  · exact absurd rfl (h _)
  · rfl

theorem of_mem_optional_exponent (h : e ∈ optional exponent) :
    EndsDigits e ∧ ∀ rest, e ≠ '.' :: rest := by
  rw [mem_optional_iff] at h
  cases e with
  | nil => exact ⟨nofun, nofun⟩
  | cons c rest =>
    obtain h | h := h
    · cases h
    · obtain ⟨rfl | rfl, -⟩ := cons_mem_mark_mul_iff.mp h
      · exact ⟨fun _ hc => by cases hc; rfl, nofun⟩
      · exact ⟨fun _ hc => by cases hc; rfl, nofun⟩

/-- The parts that the reader cuts a text without a sign into. -/
theorem mem_unsigned_iff : cs ∈ mantissa * optional exponent ↔ ∃ whole afterWhole fraction e,
    spanDigits cs = (whole, afterWhole) ∧ spanFraction afterWhole = (fraction, e) ∧
      whole ++ fraction ≠ [] ∧ ∃ n, exponent? e = some n := by
  simp only [Language.mem_mul, mem_mantissa_iff, ← mem_optional_exponent_iff]
  constructor
  · rintro ⟨w, ⟨whole, fraction, ⟨hne, hdigits⟩, hw⟩, e, he, rfl⟩
    obtain ⟨hends, hpoint⟩ := of_mem_optional_exponent he
    have hwhole : ∀ c ∈ whole, c.isDigit = true := fun c hc => hdigits c (List.mem_append_left _ hc)
    have hfraction : ∀ c ∈ fraction, c.isDigit = true :=
      fun c hc => hdigits c (List.mem_append_right _ hc)
    obtain rfl | ⟨rfl, rfl⟩ := hw
    · refine ⟨whole, '.' :: (fraction ++ e), fraction, e, ?_, spanDigits_append hfraction hends, hne, he⟩
      rw [List.append_assoc]
      exact spanDigits_append hwhole fun _ hc => by cases hc; rfl
    · exact ⟨w, e, [], e, spanDigits_append hwhole hends, spanFraction_of_ne hpoint, hne, he⟩
  · rintro ⟨whole, afterWhole, fraction, e, hspan, hspanFraction, hne, he⟩
    obtain ⟨_, _, heq, rfl, hwhole, -⟩ := spanDigits_spec cs
    cases heq.symm.trans hspan
    by_cases hpoint : ∃ rest, afterWhole = '.' :: rest
    · obtain ⟨rest, rfl⟩ := hpoint
      obtain ⟨_, _, heq, rfl, hfraction, -⟩ := spanDigits_spec rest
      cases heq.symm.trans hspanFraction
      refine ⟨whole ++ '.' :: fraction, ⟨whole, fraction, ⟨hne, ?_⟩, .inl rfl⟩, e, he, by simp⟩
      intro c hc
      exact (List.mem_append.mp hc).elim (hwhole c) (hfraction c)
    · cases (spanFraction_of_ne (not_exists.mp hpoint)).symm.trans hspanFraction
      rw [List.append_nil] at hne
      exact ⟨whole, ⟨whole, [], by rw [List.append_nil]; exact ⟨hne, hwhole⟩, .inr ⟨rfl, rfl⟩⟩,
        afterWhole, he, rfl⟩

theorem read?_eq {whole afterWhole fraction : List Char}
    (hwhole : spanDigits (splitSign cs).2 = (whole, afterWhole))
    (hfraction : spanFraction afterWhole = (fraction, e)) :
    read? cs = if whole ++ fraction = [] then none
      else (exponent? e).map (⟨(splitSign cs).1, whole, fraction, ·⟩) := by
  simp only [read?, hwhole, hfraction, Bool.and_eq_true, List.isEmpty_iff, List.append_eq_nil_iff]

theorem exists_read?_iff_unsigned : (∃ n, read? cs = some n) ↔
    (splitSign cs).2 ∈ mantissa * optional exponent := by
  rw [mem_unsigned_iff]
  constructor
  · rintro ⟨n, h⟩
    cases hwhole : spanDigits (splitSign cs).2 with | _ whole afterWhole
    cases hfraction : spanFraction afterWhole with | _ fraction e
    rw [read?_eq hwhole hfraction] at h
    split at h
    · cases h
    · rename_i hne
      obtain ⟨i, hi, -⟩ := Option.map_eq_some_iff.mp h
      exact ⟨whole, afterWhole, fraction, e, rfl, hfraction, hne, i, hi⟩
  · rintro ⟨whole, afterWhole, fraction, e, hwhole, hfraction, hne, i, hi⟩
    rw [read?_eq hwhole hfraction, if_neg hne, hi]
    exact ⟨_, rfl⟩

theorem not_isSign_of_mem_unsigned {c : Char} (h : c :: cs ∈ mantissa * optional exponent) :
    c ≠ '+' ∧ c ≠ '-' := by
  obtain ⟨w, hw, e, -, heq⟩ := Language.mem_mul.mp h
  obtain ⟨whole, fraction, hdigits, hw⟩ := mem_mantissa_iff.mp hw
  cases whole with
  | nil =>
    obtain rfl | ⟨rfl, -⟩ := hw
    · cases heq
      decide
    · exact absurd rfl hdigits.1
  | cons d whole =>
    have hd : d.isDigit = true := hdigits.2 d List.mem_cons_self
    have hc : c = d := by
      obtain rfl | ⟨-, rfl⟩ := hw
      · exact (List.cons.inj heq).1.symm
      · exact (List.cons.inj heq).1.symm
    constructor
    · rintro rfl
      exact absurd (hc ▸ hd) (by decide)
    · rintro rfl
      exact absurd (hc ▸ hd) (by decide)

/-- The reader accepts the words of the grammar. -/
theorem exists_read?_iff : (∃ n, read? cs = some n) ↔ cs ∈ numeral := by
  rw [exists_read?_iff_unsigned, numeral, mem_signed_iff]
  obtain ⟨rest, rfl⟩ | ⟨rest, rfl⟩ | hsign := splitSign_cases cs
  · constructor
    · exact fun h => .inr ⟨rest, h, .inr rfl⟩
    · rintro (h | ⟨w, hw, h | h⟩)
      · exact absurd rfl (not_isSign_of_mem_unsigned h).2
      · cases h
      · cases h
        exact hw
  · constructor
    · exact fun h => .inr ⟨rest, h, .inl rfl⟩
    · rintro (h | ⟨w, hw, h | h⟩)
      · exact absurd rfl (not_isSign_of_mem_unsigned h).1
      · cases h
        exact hw
      · cases h
  · rw [hsign]
    refine ⟨.inl, ?_⟩
    rintro (h | ⟨w, hw, rfl | rfl⟩)
    · exact h
    · exact absurd (congrArg Prod.snd hsign).symm (List.cons_ne_self '+' w)
    · cases congrArg Prod.fst hsign

end

end SlashCommands.Proofs.NumeralGrammar
