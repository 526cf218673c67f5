import SlashCommands.Proofs.ArgumentChain

namespace SlashCommands.Proofs.ArgumentRun

open Arguments ArgumentChain Text

/-- The first `k` parameters take their values off the front of a text, one after another; `left i` is
the text left for parameter `i`. -/
structure Taken (dir : Directory) (ps : List Parameter) (text : List Char) (vs : List Value)
    (left : Nat → List Char) (k : Nat) : Prop where
  start : left 0 = text
  takes : ∀ i < k, ∃ p v, ps[i]? = some p ∧ vs[i]? = some v ∧ trimStart (left i) ≠ [] ∧
    p.kind.convert dir (trimStart (left i)) = some (v, left (i + 1))

def Exhausted (ps : List Parameter) (left : Nat → List Char) (k : Nat) : Prop :=
  k = ps.length ∨ trimStart (left k) = []

def Refused (dir : Directory) (ps : List Parameter) (left : Nat → List Char) (k : Nat) : Prop :=
  ∃ p, ps[k]? = some p ∧ trimStart (left k) ≠ [] ∧
    p.kind.convert dir (trimStart (left k)) = none

def readingsTo (ps : List Parameter) (left : Nat → List Char) (k : Nat) : List Reading :=
  (ps.take k).mapIdx fun i p => ⟨p, trimStart (left i)⟩

section

variable {dir : Directory} {p : Parameter} {ps : List Parameter} {v : Value} {vs ws : List Value}
  {text rest : List Char} {left : Nat → List Char} {k : Nat}

theorem parse_of_takes (hblank : trimStart text ≠ [])
    (h : p.kind.convert dir (trimStart text) = some (v, rest)) :
    parse dir (p :: ps) text =
      ⟨⟨p, trimStart text⟩ :: (parse dir ps rest).readings, (parse dir ps rest).result.cons v⟩ := by
  rw [parse]
  simp only [List.isEmpty_eq_false_iff.mpr hblank, h, Bool.false_eq_true, if_false]

theorem parse_of_refuses (hblank : trimStart text ≠ [])
    (h : p.kind.convert dir (trimStart text) = none) :
    parse dir (p :: ps) text = ⟨[⟨p, trimStart text⟩], .rejected p (trimStart text)⟩ := by
  rw [parse]
  simp only [List.isEmpty_eq_false_iff.mpr hblank, h, Bool.false_eq_true, if_false]

theorem readings_of_blank (h : trimStart text = []) : (parse dir ps text).readings = [] := by
  induction ps generalizing text with
  | nil => rfl
  | cons p ps ih =>
    rw [parse]
    simp only [h, List.isEmpty_nil, if_true]
    split
    · rfl
    · exact ih rfl

theorem readingsTo_succ (hp : ps[k]? = some p) :
    readingsTo ps left (k + 1) = readingsTo ps left k ++ [⟨p, trimStart (left k)⟩] := by
  obtain ⟨hlt, rfl⟩ := List.getElem?_eq_some_iff.mp hp
  rw [readingsTo, readingsTo, List.take_succ_eq_append_getElem hlt, List.mapIdx_concat,
    List.length_take_of_le (Nat.le_of_lt hlt)]

theorem drop_eq_cons (hp : ps[k]? = some p) : ps.drop k = p :: ps.drop (k + 1) := by
  obtain ⟨hlt, rfl⟩ := List.getElem?_eq_some_iff.mp hp
  exact List.drop_eq_getElem_cons hlt

theorem Taken.zero (h : left 0 = text) : Taken dir ps text vs left 0 :=
  ⟨h, fun _ hi => absurd hi (Nat.not_lt_zero _)⟩

theorem Taken.of_succ (h : Taken dir ps text vs left (k + 1)) : Taken dir ps text vs left k :=
  ⟨h.start, fun i hi => h.takes i (Nat.lt_succ_of_lt hi)⟩

theorem Taken.append (h : Taken dir ps text vs left k) (ws : List Value) :
    Taken dir ps text (vs ++ ws) left k := by
  refine ⟨h.start, fun i hi => ?_⟩
  obtain ⟨p, v, hp, hv, htakes⟩ := h.takes i hi
  have hlt := (List.getElem?_eq_some_iff.mp hv).1
  exact ⟨p, v, hp, by rw [List.getElem?_append_left hlt, hv], htakes⟩

theorem Taken.cons (hblank : trimStart text ≠ [])
    (hp : p.kind.convert dir (trimStart text) = some (v, rest))
    (h : Taken dir ps rest vs left k) :
    Taken dir (p :: ps) text (v :: vs) (fun i => i.casesOn text left) (k + 1) := by
  refine ⟨rfl, fun i hi => ?_⟩
  cases i with
  | zero =>
    rw [← h.start] at hp
    exact ⟨p, v, rfl, rfl, hblank, hp⟩
  | succ i => exact h.takes i (Nat.lt_of_succ_lt_succ hi)

/-- A run is what has been taken, and then the run over what is left. -/
theorem Taken.parse_eq (h : Taken dir ps text vs left k) :
    (parse dir ps text).readings =
        readingsTo ps left k ++ (parse dir (ps.drop k) (left k)).readings ∧
      values? dir ps text = (values? dir (ps.drop k) (left k)).map (vs.take k ++ ·) := by
  -- The value taken last is the one that the first step of what is left takes.
  induction k with
  | zero =>
    rw [h.start]
    simp [readingsTo]
  | succ k ih =>
    obtain ⟨hreadings, hvalues⟩ := ih h.of_succ
    obtain ⟨p, v, hp, hv, hblank, hconvert⟩ := h.takes k (Nat.lt_succ_self k)
    rw [drop_eq_cons hp, parse_of_takes hblank hconvert] at hreadings
    rw [drop_eq_cons hp, values?_of_text hblank, hconvert, Option.bind_some, Option.map_map] at hvalues
    constructor
    · rw [hreadings, readingsTo_succ hp, List.append_assoc]
      rfl
    · have htake : vs.take (k + 1) = vs.take k ++ [v] := by
        rw [List.take_add_one, hv]
        rfl
      rw [hvalues, htake]
      congr 1
      funext us
      simp

theorem Taken.le_length (h : Taken dir ps text vs left k) : k ≤ ps.length := by
  cases k with
  | zero => exact Nat.zero_le _
  | succ k =>
    obtain ⟨p, v, hp, -⟩ := h.takes k (Nat.lt_succ_self k)
    exact (List.getElem?_eq_some_iff.mp hp).1

theorem exists_taken (dir : Directory) (ps : List Parameter) (text : List Char) :
    ∃ k vs left, Taken dir ps text vs left k ∧ vs.length = k ∧
      (Exhausted ps left k ∨ Refused dir ps left k) := by
  induction ps generalizing text with
  | nil => exact ⟨0, [], fun _ => text, .zero rfl, rfl, .inl (.inl rfl)⟩
  | cons p ps ih =>
    by_cases hblank : trimStart text = []
    · exact ⟨0, [], fun _ => text, .zero rfl, rfl, .inl (.inr hblank)⟩
    · cases hp : p.kind.convert dir (trimStart text) with
      | none => exact ⟨0, [], fun _ => text, .zero rfl, rfl, .inr ⟨p, rfl, hblank, hp⟩⟩
      | some r =>
        obtain ⟨v, rest⟩ := r
        obtain ⟨k, vs, left, htaken, hlength, hend⟩ := ih rest
        refine ⟨k + 1, v :: vs, _, htaken.cons hblank hp, congrArg Nat.succ hlength, ?_⟩
        exact hend.imp (Or.imp_left (congrArg Nat.succ)) id

theorem values?_of_refused (h : Refused dir ps left k) : values? dir (ps.drop k) (left k) = none := by
  obtain ⟨p, hp, hblank, hrefuses⟩ := h
  rw [drop_eq_cons hp, values?_of_text hblank, hrefuses, Option.bind_none]

theorem Taken.readings_of_exhausted (h : Taken dir ps text vs left k) (hend : Exhausted ps left k) :
    (parse dir ps text).readings = readingsTo ps left k := by
  rw [h.parse_eq.1]
  obtain rfl | hblank := hend
  · rw [List.drop_length]
    exact List.append_nil _
  · rw [readings_of_blank hblank, List.append_nil]

theorem Taken.readings_of_refused (h : Taken dir ps text vs left k) (hend : Refused dir ps left k) :
    (parse dir ps text).readings = readingsTo ps left (k + 1) := by
  obtain ⟨p, hp, hblank, hrefuses⟩ := hend
  rw [h.parse_eq.1, drop_eq_cons hp, parse_of_refuses hblank hrefuses, readingsTo_succ hp]

theorem Taken.values?_eq_some (h : Taken dir ps text vs left k) (hlength : vs.length = ps.length)
    (hend : k = ps.length ∨ trimStart (left k) = [] ∧
      (ps.drop k).map (·.default) = (vs.drop k).map some) : values? dir ps text = some vs := by
  have hrest : values? dir (ps.drop k) (left k) = some (vs.drop k) := by
    obtain rfl | ⟨hblank, hdefaults⟩ := hend
    · rw [List.drop_length, ← hlength, List.drop_length]
      rfl
    · rw [values?_eq_of_blank hblank]
      exact values?_nil_text_iff.mpr hdefaults
  rw [h.parse_eq.2, hrest, Option.map_some, List.take_append_drop]

theorem exists_taken_of_values? (h : values? dir ps text = some vs) :
    ∃ k left, Taken dir ps text vs left k ∧ (k = ps.length ∨ trimStart (left k) = [] ∧
      (ps.drop k).map (·.default) = (vs.drop k).map some) := by
  obtain ⟨k, ws, left, htaken, hlength, hend⟩ := exists_taken dir ps text
  have hvalues := htaken.parse_eq.2
  rw [h, List.take_of_length_le (Nat.le_of_eq hlength)] at hvalues
  obtain ⟨us, hus, rfl⟩ := Option.map_eq_some_iff.mp hvalues.symm
  refine ⟨k, left, htaken.append us, ?_⟩
  obtain (hall | hblank) | hrefused := hend
  · exact .inl hall
  · rw [values?_eq_of_blank hblank] at hus
    rw [List.drop_left' hlength]
    exact .inr ⟨hblank, values?_nil_text_iff.mp hus⟩
  · rw [values?_of_refused hrefused] at hus
    cases hus

/-- Parameters get values from a text exactly if the first `k` of them take theirs off the front of
it, and all others, where there are any, have only blanks left and get their defaults. Every run takes
such a first part of the values, and then ends: by exhaustion, where no converter has been used but
those of the first `k` parameters, or by a refusal, where there are no values, whatever the defaults
are, and no converter has been used after the one that refused. -/
theorem values?_iff_taken (dir : Directory) (ps : List Parameter) (text : List Char) :
    (∀ vs, values? dir ps text = some vs ↔ vs.length = ps.length ∧
      ∃ k ≤ ps.length, ∃ left, Taken dir ps text vs left k ∧
        (k = ps.length ∨ trimStart (left k) = [] ∧
          (ps.drop k).map (·.default) = (vs.drop k).map some)) ∧
    (∃ k vs left, Taken dir ps text vs left k ∧ (Exhausted ps left k ∨ Refused dir ps left k)) ∧
    ∀ k vs left, Taken dir ps text vs left k →
      (Exhausted ps left k → (parse dir ps text).readings = readingsTo ps left k) ∧
      (Refused dir ps left k → values? dir ps text = none ∧
        (parse dir ps text).readings = readingsTo ps left (k + 1)) := by
  refine ⟨fun vs => ⟨fun h => ?_, ?_⟩, ?_, fun k vs left htaken => ⟨?_, fun hrefused => ⟨?_, ?_⟩⟩⟩
  · obtain ⟨k, left, htaken, hend⟩ := exists_taken_of_values? h
    exact ⟨(exists_left h).1, k, htaken.le_length, left, htaken, hend⟩
  · rintro ⟨hlength, k, -, left, htaken, hend⟩
    exact htaken.values?_eq_some hlength hend
  · obtain ⟨k, vs, left, htaken, -, hend⟩ := exists_taken dir ps text
    exact ⟨k, vs, left, htaken, hend⟩
  · exact htaken.readings_of_exhausted
  · rw [htaken.parse_eq.2, values?_of_refused hrefused, Option.map_none]
  · exact htaken.readings_of_refused hrefused

end

def peek : Converter := ⟨"peek", fun _ text => some (.unit, text)⟩

def peeking : List Parameter :=
  [⟨"look", .custom peek, none⟩, ⟨"word", .word, none⟩, ⟨"count", .integer, some (.int 1)⟩]

def leftAfterHi (more : List Char) : Nat → List Char
  | 0 | 1 => 'h' :: 'i' :: ' ' :: more
  | _ => ' ' :: more

theorem taken_peeking (dir : Directory) (more : List Char) :
    Taken dir peeking ('h' :: 'i' :: ' ' :: more) [.unit, .text "hi"] (leftAfterHi more) 2 := by
  refine ⟨rfl, fun i hi => ?_⟩
  obtain rfl | rfl : i = 0 ∨ i = 1 := by omega
  · exact ⟨_, _, rfl, rfl, nofun, rfl⟩
  · exact ⟨_, _, rfl, rfl, nofun, rfl⟩

/-- The default of the count stands in where there is no text, but not for a text that is no number. -/
theorem values?_iff_taken_peeking :
    values? ({} : World).directory peeking "hi ".toList = some [.unit, .text "hi", .int 1] ∧
      values? ({} : World).directory peeking "hi x".toList = none := by
  obtain ⟨hvalues, -, -⟩ := values?_iff_taken ({} : World).directory peeking "hi ".toList
  obtain ⟨-, -, hend⟩ := values?_iff_taken ({} : World).directory peeking "hi x".toList
  constructor
  · have htaken := (taken_peeking ({} : World).directory []).append [.int 1]
    exact (hvalues _).mpr ⟨rfl, 2, by decide, _, htaken, .inr ⟨rfl, rfl⟩⟩
  · obtain ⟨-, hrefused⟩ := hend 2 _ _ (taken_peeking ({} : World).directory ['x'])
    exact (hrefused ⟨_, rfl, nofun, rfl⟩).1

end SlashCommands.Proofs.ArgumentRun
