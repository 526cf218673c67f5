import SlashCommands.Proofs.LongestMatch
import SlashCommands.Proofs.Registration

namespace SlashCommands.Proofs.Recasing

open Text Matching LongestMatch Registration

/-- Texts that agree character by character, up to the case of single characters. -/
def Recased (cs ds : List Char) : Prop := cs.map lowerChar = ds.map lowerChar

variable {cs ds path text text' rest : List Char} {r : Registry} {c : Candidate} {m : Match}

theorem map_dropWhile_space (cs : List Char) :
    (cs.dropWhile (· == ' ')).map lowerChar = (cs.map lowerChar).dropWhile (· == [' ']) := by
  have hspace : (· == [' ']) ∘ lowerChar = (· == ' ') := by
    funext c
    rw [Bool.eq_iff_iff]
    simp only [Function.comp_apply, beq_iff_eq]
    refine ⟨lowerChar_eq_space, ?_⟩
    rintro rfl
    rfl
  rw [List.dropWhile_map, hspace]

theorem Recased.trimSpaces (h : Recased cs ds) : Recased (trimSpaces cs) (trimSpaces ds) := by
  simp only [Recased, Text.trimSpaces, List.map_reverse, map_dropWhile_space]
  rw [h]

theorem Recased.boundary (h : Recased cs ds) (hrest : cs = [] ∨ ∃ tail, cs = ' ' :: tail) :
    ds = [] ∨ ∃ tail, ds = ' ' :: tail := by
  obtain rfl | ⟨tail, rfl⟩ := hrest
  · exact .inl (List.map_eq_nil_iff.mp h.symm)
  · obtain ⟨d, tail', rfl, hd, -⟩ := List.map_eq_cons_iff.mp h.symm
    exact .inr ⟨tail', by rw [lowerChar_eq_space hd]⟩

theorem forall₂_sameChar_iff : List.Forall₂ (SameChar true) cs path ↔ Recased cs path := by
  have hsame : SameChar true = fun c p => lowerChar c = lowerChar p := by
    funext c p
    refine propext ⟨fun h => ?_, fun h => .inr ⟨rfl, h⟩⟩
    exact h.elim (congrArg lowerChar) And.right
  rw [Recased, ← List.forall₂_eq_eq_eq, List.forall₂_map_left_iff, List.forall₂_map_right_iff,
    hsame]

theorem Recased.fits (h : Recased text text') (hfits : Fits true path text rest) :
    ∃ rest', Fits true path text' rest' ∧ Recased rest rest' := by
  obtain ⟨front, rfl, hfront, hrest⟩ := hfits
  rw [Recased, List.map_append] at h
  obtain ⟨front', rest', rfl, hfront', hrest'⟩ := List.map_eq_append_iff.mp h.symm
  have hagree := forall₂_sameChar_iff.mp hfront
  refine ⟨rest', ⟨front', rfl, ?_, Recased.boundary hrest'.symm hrest⟩, hrest'.symm⟩
  exact forall₂_sameChar_iff.mpr (hfront'.trans hagree)

/-- Matches of the same command by the same path, with recased rests. -/
structure SameMatch (m m' : Match) : Prop where
  command : m.command = m'.command
  path : m.path = m'.path
  rest : Recased m.rest m'.rest

theorem eq_none_of_same {x y : Option Match}
    (h : ∀ m, y = some m → ∃ m', x = some m' ∧ SameMatch m m') (hx : x = none) : y = none := by
  rw [Option.eq_none_iff_forall_ne_some]
  intro m hm
  obtain ⟨m', hm', -⟩ := h m hm
  rw [hx] at hm'
  cases hm'

theorem Recased.match? (h : Recased text text') (hcase : c.command.ignoreCase = true)
    (hm : c.match? text = some m) : ∃ m', c.match? text' = some m' ∧ SameMatch m m' := by
  obtain ⟨hcommand, hpath, hfits⟩ := match?_eq_some_iff.mp hm
  rw [hcase] at hfits
  obtain ⟨rest', hfits', hrest⟩ := h.fits hfits
  refine ⟨⟨c.command, c.path, rest'⟩, match?_eq_some_iff.mpr ⟨rfl, rfl, ?_⟩, hcommand, hpath, hrest⟩
  rw [hcase]
  exact hfits'

theorem Recased.match?_eq_none (h : Recased text text') (hcase : c.command.ignoreCase = true)
    (hm : c.match? text = none) : c.match? text' = none :=
  eq_none_of_same (fun _ => Recased.match? h.symm hcase) hm

theorem ignoreCase_of_mem (hcase : ∀ c ∈ r.commands, c.ignoreCase = true) (hc : c ∈ r.candidates) :
    c.command.ignoreCase = true :=
  hcase c.command (mem_candidates.mp hc).1

theorem Recased.find (h : Recased text text') (hcase : ∀ c ∈ r.commands, c.ignoreCase = true)
    (hm : r.find text = some m) : ∃ m', r.find text' = some m' ∧ SameMatch m m' := by
  obtain ⟨before, c, after, hcandidates, hc, hbefore⟩ := List.findSome?_eq_some_iff.mp hm
  have hcommand := ignoreCase_of_mem hcase (by simp [hcandidates] : c ∈ r.candidates)
  obtain ⟨m', hc', hsame⟩ := h.trimSpaces.match? hcommand hc
  refine ⟨m', List.findSome?_eq_some_iff.mpr ⟨before, c, after, hcandidates, hc', ?_⟩, hsame⟩
  -- The candidates before the one that fits do not fit the recased text either.
  intro x hx
  have hx' := ignoreCase_of_mem hcase (by simp [hcandidates, hx] : x ∈ r.candidates)
  exact h.trimSpaces.match?_eq_none hx' (hbefore x hx)

theorem Recased.find_eq_none (h : Recased text text')
    (hcase : ∀ c ∈ r.commands, c.ignoreCase = true) (hm : r.find text = none) :
    r.find text' = none :=
  eq_none_of_same (fun _ => Recased.find h.symm hcase) hm

/-- Two texts that agree up to the case of single characters both select nothing, or the same
command by the same path, and then what is left of them agrees likewise. -/
theorem find_recased (hcase : ∀ c ∈ r.commands, c.ignoreCase = true) (h : Recased text text') :
    (r.find text = none ↔ r.find text' = none) ∧
      ∀ m, r.find text = some m → ∃ m', r.find text' = some m' ∧ m'.command = m.command ∧
        m'.path = m.path ∧ m'.rest.length = m.rest.length ∧ Recased m.rest m'.rest := by
  refine ⟨⟨h.find_eq_none hcase, Recased.find_eq_none h.symm hcase⟩, fun m hm => ?_⟩
  obtain ⟨m', hm', hsame⟩ := h.find hcase hm
  have hlength := congrArg List.length hsame.rest
  simp only [List.length_map] at hlength
  exact ⟨m', hm', hsame.command.symm, hsame.path.symm, hlength.symm, hsame.rest⟩

def lone : Registry := (attempt {} (idle "kick")).build

/-- The Kelvin sign is a capital of `k` that is no letter of ASCII. -/
theorem find_recased_kelvin : ∃ m m', lone.find "kick été".toList = some m ∧
    lone.find "\u212aICK ÉTÉ".toList = some m' ∧ m'.path = "kick" ∧ Recased m.rest m'.rest := by
  obtain ⟨c, hcommands, hcandidates, hcase⟩ : ∃ c, lone.commands = [c] ∧
      lone.candidates = [⟨"kick", c⟩] ∧ c.ignoreCase = true :=
    ⟨_, rfl, List.mergeSort_singleton _, rfl⟩
  have hfind : lone.find "kick été".toList = some ⟨c, "kick", " été".toList⟩ := by
    rw [Registry.find, hcandidates, List.findSome?_singleton]
    have hfits := fits_append c.ignoreCase "kick".toList (.inr ⟨"été".toList, rfl⟩)
    exact match?_eq_some_iff.mpr ⟨rfl, rfl, hfits⟩
  have hrecased : Recased "kick été".toList "\u212aICK ÉTÉ".toList := by
    rw [Recased]
    decide +kernel
  have hall : ∀ c ∈ lone.commands, c.ignoreCase = true := by simp [hcommands, hcase]
  obtain ⟨m', hm', -, hpath, -, hrest⟩ := (find_recased hall hrecased).2 _ hfind
  exact ⟨_, m', hfind, hm', hpath, hrest⟩

end SlashCommands.Proofs.Recasing
