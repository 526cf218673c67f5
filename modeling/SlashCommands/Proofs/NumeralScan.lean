import SlashCommands.Proofs.NumeralGrammar
import SlashCommands.Proofs.Utf8Bytes

namespace SlashCommands.Proofs.NumeralScan

open Decimal Decimal.Numeral IntegerNumerals NumeralGrammar Utf8Bytes

/-- A read at a position where no byte is. -/
structure Overrun where
  position : Nat

def read (b : List UInt8) (i : Nat) : Except Overrun UInt8 :=
  match b[i]? with
  | some byte => .ok byte
  | none => .error ⟨i⟩

def skipDigits (b : List UInt8) (i : Nat) : Except Overrun Nat :=
  if i < b.length then do
    if isByteOf Char.isDigit (← read b i) then skipDigits b (i + 1) else return i
  else return i
termination_by b.length - i

def stands (p : Char → Bool) (b : List UInt8) (i : Nat) : Bool := b[i]?.any (isByteOf p)

def isSign (c : Char) : Bool := c = '+' || c = '-'

def isPoint (c : Char) : Bool := c = '.'

def isMark (c : Char) : Bool := c = 'e' || c = 'E'

def skipSign (b : List UInt8) (i : Nat) : Nat := if stands isSign b i then i + 1 else i

/-- The number of digits before and behind the point, and the position after them. -/
def scanMantissa (b : List UInt8) (i : Nat) : Except Overrun (Nat × Nat) := do
  let j ← skipDigits b i
  if stands isPoint b j then
    let k ← skipDigits b (j + 1)
    return (j - i + (k - (j + 1)), k)
  else return (j - i, j)

/-- Whether an exponent, or nothing, is all that stands from a position on. -/
def scanExponent (b : List UInt8) (i : Nat) : Except Overrun Bool := do
  if stands isMark b i then
    let j := skipSign b (i + 1)
    let k ← skipDigits b j
    if k - j = 0 then return false else return k = b.length
  else return i = b.length

def isNumeral (b : List UInt8) : Except Overrun Bool := do
  let (count, i) ← scanMantissa b (skipSign b 0)
  if count = 0 then return false else scanExponent b i

/-- A position, and the text whose bytes stand from there on. -/
structure At (b : List UInt8) (i : Nat) (rest : List Char) : Prop where
  le : i ≤ b.length
  drop_eq : b.drop i = utf8 rest

section

variable {p : Char → Bool} {b : List UInt8} {i : Nat} {c : Char} {rest : List Char}

theorem isAscii_isDigit : IsAscii Char.isDigit := by
  intro c hc
  simp only [Char.isDigit, Bool.and_eq_true, decide_eq_true_eq, ge_iff_le,
    UInt32.le_iff_toNat_le] at hc
  exact Nat.lt_of_le_of_lt hc.2 (by decide)

theorem isAscii_isSign : IsAscii isSign := by
  intro c hc
  simp only [isSign, Bool.or_eq_true, decide_eq_true_eq] at hc
  obtain rfl | rfl := hc <;> decide

theorem isAscii_isPoint : IsAscii isPoint := by
  intro c hc
  simp only [isPoint, decide_eq_true_eq] at hc
  subst hc
  decide

theorem isAscii_isMark : IsAscii isMark := by
  intro c hc
  simp only [isMark, Bool.or_eq_true, decide_eq_true_eq] at hc
  obtain rfl | rfl := hc <;> decide

theorem at_zero (cs : List Char) : At (utf8 cs) 0 cs := ⟨Nat.zero_le _, rfl⟩

theorem At.getElem?_eq (h : At b i rest) : b[i]? = (utf8 rest).head? := by
  rw [← h.drop_eq, List.head?_drop]

theorem At.stands_eq (h : At b i rest) (hp : IsAscii p) : stands p b i = rest.head?.any p := by
  rw [stands, h.getElem?_eq, any_head?_utf8 hp]

theorem At.eq_length_iff (h : At b i rest) : i = b.length ↔ rest = [] := by
  rw [← utf8_eq_nil_iff, ← h.drop_eq, List.drop_eq_nil_iff]
  exact ⟨Nat.le_of_eq ∘ Eq.symm, Nat.le_antisymm h.le⟩

theorem At.lt (h : At b i (c :: rest)) : i < b.length := by
  apply Nat.lt_of_le_of_ne h.le
  intro heq
  cases h.eq_length_iff.mp heq

theorem At.next (h : At b i (c :: rest)) (hp : IsAscii p) (hc : p c = true) :
    At b (i + 1) rest := by
  refine ⟨h.lt, ?_⟩
  rw [← List.tail_drop, h.drop_eq, utf8_cons hp hc, List.tail_cons]

theorem At.tail (h : At b i rest) (hp : IsAscii p) (hhead : rest.head?.any p = true) :
    At b (i + 1) rest.tail := by
  cases rest with
  | nil => cases hhead
  | cons c rest => exact h.next hp hhead

theorem At.append {ds : List Char} (h : At b i (ds ++ rest)) (hp : IsAscii p)
    (hds : ∀ c ∈ ds, p c = true) : At b (i + ds.length) rest := by
  induction ds generalizing i with
  | nil => exact h
  | cons c ds ih =>
    obtain ⟨hc, hds⟩ := List.forall_mem_cons.mp hds
    rw [List.length_cons, ← Nat.succ_add_eq_add_succ]
    exact ih (h.next hp hc) hds

theorem At.exists_read (h : At b i (c :: rest)) (hp : IsAscii p) :
    ∃ byte, read b i = .ok byte ∧ isByteOf p byte = p c := by
  obtain ⟨byte, hbyte⟩ : ∃ byte, b[i]? = some byte := ⟨_, List.getElem?_eq_getElem h.lt⟩
  have hstands := h.stands_eq hp
  rw [stands, hbyte] at hstands
  refine ⟨byte, ?_, hstands⟩
  rw [read, hbyte]

theorem skipDigits_of_at_cons (h : At b i (c :: rest)) :
    skipDigits b i = if c.isDigit then skipDigits b (i + 1) else .ok i := by
  obtain ⟨byte, hread, hbyte⟩ := h.exists_read isAscii_isDigit
  rw [skipDigits, if_pos h.lt, hread]
  change (if isByteOf Char.isDigit byte = true then _ else _) = _
  rw [hbyte]
  rfl

theorem skipDigits_of_at_nil (h : At b i []) : skipDigits b i = .ok i := by
  rw [skipDigits, if_neg (Nat.not_lt_of_le (Nat.le_of_eq (h.eq_length_iff.mpr rfl).symm))]
  rfl

theorem skipDigits_of_at (h : At b i rest) :
    skipDigits b i = .ok (i + (rest.takeWhile Char.isDigit).length) := by
  induction rest generalizing i with
  | nil => exact skipDigits_of_at_nil h
  | cons c rest ih =>
    rw [skipDigits_of_at_cons h]
    by_cases hc : c.isDigit = true
    · rw [if_pos hc, ih (h.next isAscii_isDigit hc), List.takeWhile_cons_of_pos hc,
        List.length_cons, Nat.succ_add_eq_add_succ]
    · rw [if_neg hc, List.takeWhile_cons_of_neg hc]
      rfl

theorem skipDigits_of_spanDigits {ds after : List Char} (h : At b i rest)
    (hspan : spanDigits rest = (ds, after)) :
    skipDigits b i = .ok (i + ds.length) ∧ At b (i + ds.length) after := by
  cases hspan
  refine ⟨skipDigits_of_at h, ?_⟩
  apply At.append _ isAscii_isDigit fun _ => List.mem_takeWhile_imp
  rwa [List.takeWhile_append_dropWhile]

theorem splitSign_eq (cs : List Char) :
    (splitSign cs).2 = if cs.head?.any isSign then cs.tail else cs := by
  cases cs with
  | nil => rfl
  | cons c cs =>
    by_cases hminus : c = '-'
    · subst hminus
      rfl
    · by_cases hplus : c = '+'
      · subst hplus
        rfl
      · simp [splitSign, isSign, hminus, hplus]

theorem spanFraction_eq (cs : List Char) :
    spanFraction cs = if cs.head?.any isPoint then spanDigits cs.tail else ([], cs) := by
  cases cs with
  | nil => rfl
  | cons c cs =>
    by_cases hc : c = '.'
    · subst hc
      rfl
    · simp [spanFraction, isPoint, hc]

theorem exponent?_eq (cs : List Char) : exponent? cs =
    if cs.head?.any isMark then integer? cs.tail else if cs = [] then some 0 else none := by
  cases cs with
  | nil => rfl
  | cons c cs => simp [exponent?, isMark]

theorem At.skipSign (h : At b i rest) : At b (skipSign b i) (splitSign rest).2 := by
  rw [NumeralScan.skipSign, h.stands_eq isAscii_isSign, splitSign_eq]
  split
  · rename_i hsign
    exact h.tail isAscii_isSign hsign
  · exact h

theorem scanMantissa_of_spans {whole afterWhole fraction e : List Char} (h : At b i rest)
    (hwhole : spanDigits rest = (whole, afterWhole))
    (hfraction : spanFraction afterWhole = (fraction, e)) :
    ∃ k, scanMantissa b i = .ok ((whole ++ fraction).length, k) ∧ At b k e := by
  obtain ⟨hskip, hat⟩ := skipDigits_of_spanDigits h hwhole
  rw [spanFraction_eq] at hfraction
  simp only [scanMantissa, hskip, hat.stands_eq isAscii_isPoint, bind, Except.bind, pure, Except.pure]
  split at hfraction
  · rename_i hpoint
    obtain ⟨hskip', hat'⟩ := skipDigits_of_spanDigits (hat.tail isAscii_isPoint hpoint) hfraction
    refine ⟨_, ?_, hat'⟩
    simp only [if_pos hpoint, hskip', List.length_append, Nat.add_sub_cancel_left]
  · rename_i hpoint
    cases hfraction
    refine ⟨_, ?_, hat⟩
    rw [if_neg hpoint, List.append_nil, Nat.add_sub_cancel_left]

theorem isDigits_iff_spanDigits {cs ds after : List Char} (hspan : spanDigits cs = (ds, after)) :
    IsDigits cs ↔ ds ≠ [] ∧ after = [] := by
  constructor
  · rintro ⟨hne, hdigits⟩
    have h : spanDigits (cs ++ []) = (cs, []) := spanDigits_append hdigits nofun
    rw [List.append_nil, hspan] at h
    cases h
    exact ⟨hne, rfl⟩
  · rintro ⟨hne, rfl⟩
    obtain ⟨ds, rest, heq, rfl, hdigits, -⟩ := spanDigits_spec cs
    cases heq.symm.trans hspan
    rw [List.append_nil]
    exact ⟨hne, hdigits⟩

theorem isSome_integer? (cs : List Char) :
    (integer? cs).isSome = true ↔ IsDigits (splitSign cs).2 := by
  rw [Option.isSome_iff_exists]
  simp only [integer?_eq_some_iff_of_splitSign (Prod.mk.eta (p := splitSign cs)).symm]
  exact ⟨fun ⟨n, h, _⟩ => h, fun h => ⟨_, h, rfl⟩⟩

theorem scanExponent_of_at (h : At b i rest) : scanExponent b i = .ok (exponent? rest).isSome := by
  rw [scanExponent, h.stands_eq isAscii_isMark, exponent?_eq]
  split
  · rename_i hmark
    have hat := (h.tail isAscii_isMark hmark).skipSign
    obtain ⟨ds, after, hspan, -⟩ := spanDigits_spec (splitSign rest.tail).2
    obtain ⟨hskip, hat'⟩ := skipDigits_of_spanDigits hat hspan
    have hdigits := (isSome_integer? rest.tail).trans (isDigits_iff_spanDigits hspan)
    rw [← hat'.eq_length_iff] at hdigits
    have hanswer : (integer? rest.tail).isSome =
        (decide (ds ≠ []) && decide (skipSign b (i + 1) + ds.length = b.length)) := by
      rw [Bool.eq_iff_iff, hdigits, Bool.and_eq_true, decide_eq_true_eq, decide_eq_true_eq]
    rw [hanswer]
    simp only [hskip, bind, Except.bind, pure, Except.pure, Nat.add_sub_cancel_left]
    by_cases hds : ds = [] <;> simp [hds]
  · simp only [h.eq_length_iff, pure, Except.pure]
    by_cases hnil : rest = [] <;> simp [hnil]

theorem isNumeral_utf8 (cs : List Char) : isNumeral (utf8 cs) = .ok (read? cs).isSome := by
  cases hwhole : spanDigits (splitSign cs).2 with | _ whole afterWhole
  cases hfraction : spanFraction afterWhole with | _ fraction e
  obtain ⟨k, hmantissa, hat⟩ := scanMantissa_of_spans (at_zero cs).skipSign hwhole hfraction
  simp only [isNumeral, hmantissa, bind, Except.bind, read?_eq hwhole hfraction]
  by_cases hne : whole ++ fraction = []
  · simp [hne, pure, Except.pure]
  · rw [if_neg hne, if_neg (mt List.length_eq_zero_iff.mp hne), scanExponent_of_at hat,
      Option.isSome_map]

end

def specials : List String := ["inf", "infinity", "nan"]

section

variable {dir : Directory} {text tok rest : List Char} {n : Numeral}

theorem convert_of_splits (h : Splits text tok rest) :
    Kind.float.convert dir text = (Kind.float? tok).map (·, rest) := by
  obtain ⟨rfl, rfl⟩ := splits_iff.mp h
  rfl

theorem convert_of_not_mem (h : Splits text tok rest) (htok : tok ∉ numeral) :
    Kind.float.convert dir text = none := by
  have hread : read? tok = none := by
    rw [← exists_read?_iff] at htok
    exact Option.eq_none_iff_forall_ne_some.mpr fun n hn => htok ⟨n, hn⟩
  rw [convert_of_splits h, Kind.float?, hread]
  rfl

theorem convert_of_read? (h : Splits text tok rest) (hn : read? tok = some n) :
    Kind.float.convert dir text =
      if (Binary64.ofNumeral n).isFinite then some (.float (.ofNumeral n), rest) else none := by
  rw [convert_of_splits h, Kind.float?, hn]
  cases hfinite : (Binary64.ofNumeral n).isFinite <;> simp [hfinite]

theorem toLower_of_isDigit {c : Char} (h : c.isDigit = true) : c.toLower = c := by
  have hall : ∀ d < 10, (Nat.digitChar d).toLower = Nat.digitChar d := by decide
  obtain ⟨hlt, hchar⟩ := Decimals.digitChar_of_isDigit h
  rw [← hchar]
  exact hall _ hlt

theorem exists_digit_of_mem_unsigned {cs : List Char} (h : cs ∈ mantissa * optional exponent) :
    ∃ c ∈ cs, c.isDigit = true := by
  obtain ⟨w, hw, e, -, rfl⟩ := Language.mem_mul.mp h
  obtain ⟨whole, fraction, ⟨hne, hdigits⟩, hw⟩ := mem_mantissa_iff.mp hw
  obtain ⟨c, hc⟩ := List.exists_mem_of_ne_nil _ hne
  refine ⟨c, List.mem_append_left e ?_, hdigits c hc⟩
  obtain rfl | ⟨rfl, rfl⟩ := hw
  · exact List.mem_append.mpr ((List.mem_append.mp hc).imp_right (List.mem_cons_of_mem _))
  · rwa [List.append_nil] at hc

theorem not_mem_numeral_of_mem_specials
    (h : .ofList ((splitSign tok).2.map Char.toLower) ∈ specials) : tok ∉ numeral := by
  intro htok
  obtain ⟨c, hc, hdigit⟩ :=
    exists_digit_of_mem_unsigned (exists_read?_iff_unsigned.mp (exists_read?_iff.mpr htok))
  have hletters : ∀ s ∈ specials, s.toList.all (fun c => !c.isDigit) = true := by decide
  have hmem : c ∈ (splitSign tok).2.map Char.toLower :=
    List.mem_map.mpr ⟨c, hc, toLower_of_isDigit hdigit⟩
  have hletter := List.all_eq_true.mp (hletters _ h) c (by rwa [String.toList_ofList])
  rw [hdigit] at hletter
  cases hletter

/-- The scan comes to an answer for every token, without a read where no byte is. It accepts the words of
the grammar, as the reader does. So the float kind refuses a text whose first token is no such word,
infinities and NaN in any spelling among them, and of the others those of numbers that are not finite. -/
theorem float_reads_grammar :
    (∀ token, isNumeral (utf8 token) = .ok (read? token).isSome ∧
      ((read? token).isSome = true ↔ token ∈ numeral)) ∧
    (∀ dir text tok rest, Splits text tok rest →
      (tok ∉ numeral → Kind.float.convert dir text = none) ∧
      (tok ∈ numeral → ∃ n, read? tok = some n ∧
        (Kind.float.convert dir text = none ↔ (Binary64.ofNumeral n).isFinite = false) ∧
        ((Binary64.ofNumeral n).isFinite = true →
          Kind.float.convert dir text = some (.float (.ofNumeral n), rest)))) ∧
    ∀ tok, .ofList ((splitSign tok).2.map Char.toLower) ∈ specials → tok ∉ numeral := by
  refine ⟨fun token => ⟨isNumeral_utf8 token, ?_⟩, fun dir text tok rest hsplits => ⟨?_, ?_⟩, ?_⟩
  · rw [Option.isSome_iff_exists]
    exact exists_read?_iff
  · exact convert_of_not_mem hsplits
  · intro htok
    obtain ⟨n, hn⟩ := exists_read?_iff.mpr htok
    refine ⟨n, hn, ?_, ?_⟩
    · rw [convert_of_read? hsplits hn]
      cases (Binary64.ofNumeral n).isFinite <;> simp
    · intro hfinite
      rw [convert_of_read? hsplits hn, if_pos hfinite]
  · exact fun tok => not_mem_numeral_of_mem_specials

end

end SlashCommands.Proofs.NumeralScan
