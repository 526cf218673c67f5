import Mathlib.Data.Nat.Digits.Defs
import SlashCommands.Proofs.Tokens

namespace SlashCommands.Proofs.IntegerNumerals

open Conversion Decimals Decimal Text

def IsDigits (cs : List Char) : Prop := cs ≠ [] ∧ ∀ c ∈ cs, c.isDigit = true

def natural (digits : List Char) : Nat :=
  Nat.ofDigits 10 (digits.reverse.map fun c => c.toNat - '0'.toNat)

/-- A text of digits with an optional sign, and the integer that it stands for. -/
inductive Denotes : List Char → Int → Prop
  | unsigned {digits : List Char} (h : IsDigits digits) : Denotes digits (natural digits)
  | plus {digits : List Char} (h : IsDigits digits) : Denotes ('+' :: digits) (natural digits)
  | minus {digits : List Char} (h : IsDigits digits) : Denotes ('-' :: digits) (-natural digits)

/-- A text that is a token, of which no character is blank, and what follows it. -/
structure Splits (text tok rest : List Char) : Prop where
  text_eq : tok ++ rest = text
  not_isBlank : ∀ c ∈ tok, isBlank c = false
  breaks : Breaks rest

theorem splits_iff {text tok rest : List Char} :
    Splits text tok rest ↔ tok = token text ∧ rest = afterToken text := by
  constructor
  · rintro ⟨rfl, htok, hrest⟩
    exact ⟨(token_append htok hrest).symm, (afterToken_append htok hrest).symm⟩
  · rintro ⟨rfl, rfl⟩
    exact ⟨token_append_afterToken text, fun _ => not_isBlank_token, Tokens.breaks_afterToken text⟩

theorem natural_eq_value (digits : List Char) : natural digits = value digits := by
  induction digits using List.reverseRecOn with
  | nil => rfl
  | append_singleton cs c ih =>
    rw [value_append_singleton, ← ih]
    simp only [natural, List.reverse_append, List.reverse_singleton, List.singleton_append,
      List.map_cons, Nat.ofDigits_cons]
    omega

section

variable {cs : List Char} {n : Int}

theorem isDigits_iff : IsDigits cs ↔ (cs.isEmpty || !cs.all Char.isDigit) = false := by
  simp [IsDigits]

theorem IsDigits.append (h : IsDigits cs) {ds : List Char} (hds : ∀ c ∈ ds, c.isDigit = true) :
    IsDigits (cs ++ ds) := by
  refine ⟨List.append_ne_nil_of_left_ne_nil h.1 ds, ?_⟩
  intro c hc
  exact (List.mem_append.mp hc).elim (h.2 c) (hds c)

theorem not_isDigits_sign {c : Char} (hc : c.isDigit = false) (cs : List Char) :
    ¬ IsDigits (c :: cs) := by
  rintro ⟨-, hdigits⟩
  rw [hdigits c List.mem_cons_self] at hc
  cases hc

theorem splitSign_cases (cs : List Char) :
    (∃ rest, cs = '-' :: rest) ∨ (∃ rest, cs = '+' :: rest) ∨ splitSign cs = (false, cs) := by
  unfold splitSign
  split
  · exact .inl ⟨_, rfl⟩
  · exact .inr (.inl ⟨_, rfl⟩)
  · exact .inr (.inr rfl)

theorem splitSign_of_isDigits (h : IsDigits cs) : splitSign cs = (false, cs) := by
  unfold splitSign
  split
  · exact absurd h (not_isDigits_sign rfl _)
  · exact absurd h (not_isDigits_sign rfl _)
  · rfl

theorem integer?_eq_some_iff_of_splitSign {negative : Bool} {digits : List Char}
    (h : splitSign cs = (negative, digits)) :
    integer? cs = some n ↔
      IsDigits digits ∧ n = if negative then -(natural digits : Int) else natural digits := by
  rw [isDigits_iff, natural_eq_value]
  simp only [integer?, h]
  split
  · rename_i hbad
    simp [hbad]
  · rename_i hgood
    rw [Option.some.injEq, eq_comm, Bool.eq_false_iff]
    exact (and_iff_right hgood).symm

theorem integer?_eq_some_iff : integer? cs = some n ↔ Denotes cs n := by
  constructor
  · intro h
    obtain ⟨digits, rfl⟩ | ⟨digits, rfl⟩ | hsign := splitSign_cases cs
    · obtain ⟨hdigits, rfl⟩ := (integer?_eq_some_iff_of_splitSign rfl).mp h
      exact .minus hdigits
    · obtain ⟨hdigits, rfl⟩ := (integer?_eq_some_iff_of_splitSign rfl).mp h
      exact .plus hdigits
    · obtain ⟨hdigits, rfl⟩ := (integer?_eq_some_iff_of_splitSign hsign).mp h
      exact .unsigned hdigits
  · intro h
    cases h with
    | unsigned h =>
      exact (integer?_eq_some_iff_of_splitSign (splitSign_of_isDigits h)).mpr ⟨h, rfl⟩
    | plus h => exact (integer?_eq_some_iff_of_splitSign rfl).mpr ⟨h, rfl⟩
    | minus h => exact (integer?_eq_some_iff_of_splitSign rfl).mpr ⟨h, rfl⟩

end

section

variable {dir : Directory} {text rest : List Char}

theorem int64?_eq_some_iff {n : Int} {m : Int64} : int64? n = some m ↔ m.toInt = n := by
  refine ⟨toInt_of_int64?, ?_⟩
  rintro rfl
  exact int64?_toInt m

theorem convert_eq_some_iff {v : Value} : Kind.integer.convert dir text = some (v, rest) ↔
    ∃ tok, Splits text tok rest ∧ ∃ m : Int64, Denotes tok m.toInt ∧ v = .int m := by
  simp only [Kind.convert, byToken_eq_some_iff, Option.map_eq_some_iff, Option.bind_eq_some_iff,
    int64?_eq_some_iff, integer?_eq_some_iff]
  constructor
  · rintro ⟨⟨m, ⟨n, hn, rfl⟩, rfl⟩, hrest⟩
    exact ⟨token text, splits_iff.mpr ⟨rfl, hrest⟩, m, hn, rfl⟩
  · rintro ⟨tok, hsplits, m, hm, rfl⟩
    obtain ⟨rfl, rfl⟩ := splits_iff.mp hsplits
    exact ⟨⟨m, ⟨m.toInt, hm, rfl⟩, rfl⟩, rfl⟩

theorem exists_toInt {n : Int} (hlow : -2 ^ 63 ≤ n) (hhigh : n ≤ 2 ^ 63 - 1) :
    ∃ m : Int64, m.toInt = n :=
  ⟨.ofIntLE n hlow hhigh, Int64.toInt_ofIntLE⟩

theorem splits_integerText (n : Int) (hrest : Breaks rest) :
    Splits ((integerText n).toList ++ rest) (integerText n).toList rest :=
  ⟨rfl, fun _ => not_isBlank_of_mem_integerText, hrest⟩

/-- The integer kind reads a text exactly if its first token is an optional sign and digits, and these
stand for an integer within 64 bits; it gives this integer and leaves what follows the token. So the
decimal text of a word reads back as the word. -/
theorem convert_integer_iff (dir : Directory) :
    (∀ text, (∃ v rest, Kind.integer.convert dir text = some (v, rest)) ↔
      ∃ tok rest n, Splits text tok rest ∧ Denotes tok n ∧ -2 ^ 63 ≤ n ∧ n ≤ 2 ^ 63 - 1) ∧
    (∀ text tok rest n, Splits text tok rest → Denotes tok n → -2 ^ 63 ≤ n → n ≤ 2 ^ 63 - 1 →
      ∃ m : Int64, m.toInt = n ∧ Kind.integer.convert dir text = some (.int m, rest)) ∧
    ∀ (m : Int64) rest, Breaks rest →
      Kind.integer.convert dir ((integerText m.toInt).toList ++ rest) = some (.int m, rest) := by
  have hgives : ∀ text tok rest n, Splits text tok rest → Denotes tok n → -2 ^ 63 ≤ n →
      n ≤ 2 ^ 63 - 1 →
      ∃ m : Int64, m.toInt = n ∧ Kind.integer.convert dir text = some (.int m, rest) := by
    intro text tok rest n hsplits hn hlow hhigh
    obtain ⟨m, rfl⟩ := exists_toInt hlow hhigh
    exact ⟨m, rfl, convert_eq_some_iff.mpr ⟨tok, hsplits, m, hn, rfl⟩⟩
  refine ⟨fun text => ⟨?_, ?_⟩, hgives, ?_⟩
  · rintro ⟨v, rest, h⟩
    obtain ⟨tok, hsplits, m, hm, -⟩ := convert_eq_some_iff.mp h
    have hhigh := m.toInt_lt
    exact ⟨tok, rest, m.toInt, hsplits, hm, m.le_toInt, by omega⟩
  · rintro ⟨tok, rest, n, hsplits, hn, hlow, hhigh⟩
    obtain ⟨m, -, h⟩ := hgives text tok rest n hsplits hn hlow hhigh
    exact ⟨.int m, rest, h⟩
  · intro m rest hrest
    apply convert_eq_some_iff.mpr
    exact ⟨_, splits_integerText m.toInt hrest, m,
      integer?_eq_some_iff.mp (integer?_integerText m.toInt), rfl⟩

example (dir : Directory) :
    Kind.integer.convert dir "-0009223372036854775808\u3000x".toList =
      some (.int Int64.minValue, "\u3000x".toList) := rfl

end

end SlashCommands.Proofs.IntegerNumerals
