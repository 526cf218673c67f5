import SlashCommands.Proofs.Matching
import SlashCommands.Proofs.Registration

namespace SlashCommands.Proofs.LongestMatch

open Matching Registration

/-- A path of a command fits a text and leaves the rest of it. Spaces around the text do not
count. -/
def Selects (c : Command) (path : String) (text rest : List Char) : Prop :=
  path ∈ c.paths ∧ Fits c.ignoreCase path.toList (Text.trimSpaces text) rest

theorem selects_iff_stripPath {c : Command} {path : String} {text rest : List Char} :
    Selects c path text rest ↔
      path ∈ c.paths ∧ stripPath c.ignoreCase path.toList (Text.trimSpaces text) = some rest :=
  and_congr_right fun _ => stripPath_eq_some_iff.symm

section

variable {α β : Type} {key : α → Nat} {f : α → Option β} {l : List α}

theorem descending_trans (a b c : α) (hab : decide (key b ≤ key a) = true)
    (hbc : decide (key c ≤ key b) = true) : decide (key c ≤ key a) = true := by
  simp only [decide_eq_true_eq] at *
  omega

theorem descending_total (a b : α) : (decide (key b ≤ key a) || decide (key a ≤ key b)) = true := by
  simp only [Bool.or_eq_true, decide_eq_true_eq]
  omega

theorem filter_mergeSort_key (l : List α) (n : Nat) :
    (l.mergeSort fun a b => key b ≤ key a).filter (key · = n) = l.filter (key · = n) := by
  have hpair : (l.filter (key · = n)).Pairwise fun a b => decide (key b ≤ key a) = true := by
    refine List.pairwise_of_forall_mem_list fun a ha b hb => ?_
    have hka := of_decide_eq_true (List.mem_filter.mp ha).2
    have hkb := of_decide_eq_true (List.mem_filter.mp hb).2
    exact decide_eq_true (Nat.le_of_eq (hkb.trans hka.symm))
  have hsub := List.sublist_mergeSort descending_trans descending_total hpair List.filter_sublist
  have hfilter := hsub.filter (key · = n)
  simp only [List.filter_filter, Bool.and_self] at hfilter
  refine (hfilter.eq_of_length ?_).symm
  exact (((List.mergeSort_perm l _).filter _).length_eq).symm

/-- The first hit in descending order of a key is the first among the elements of the greatest key
with a hit. -/
theorem findSome?_mergeSort_key {b : β}
    (h : (l.mergeSort fun a b => key b ≤ key a).findSome? f = some b) :
    ∃ a ∈ l, f a = some b ∧ (l.filter (key · = key a)).findSome? f = some b ∧
      ∀ a' ∈ l, f a' ≠ none → key a' ≤ key a := by
  have hsorted : (l.mergeSort fun a b => key b ≤ key a).Pairwise
      fun a b => decide (key b ≤ key a) = true :=
    List.pairwise_mergeSort descending_trans descending_total l
  obtain ⟨before, a, after, hl, ha, hbefore⟩ := List.findSome?_eq_some_iff.mp h
  have hmem : ∀ a', a' ∈ l ↔ a' ∈ before ++ a :: after := fun a' => by
    rw [← hl, List.mem_mergeSort]
  refine ⟨a, (hmem a).mpr (by simp), ha, ?_, ?_⟩
  · rw [← filter_mergeSort_key l (key a), hl, List.filter_append, List.filter_cons_of_pos (by simp)]
    refine List.findSome?_eq_some_iff.mpr ⟨_, a, _, rfl, ha, fun x hx => ?_⟩
    exact hbefore x (List.mem_filter.mp hx).1
  · intro a' ha' hne
    rw [hl] at hsorted
    obtain hb | hafter := List.mem_append.mp ((hmem a').mp ha')
    · exact absurd (hbefore a' hb) hne
    · obtain rfl | hafter := List.mem_cons.mp hafter
      · exact Nat.le_refl _
      · have hpair := (List.pairwise_append.mp hsorted).2.1
        exact of_decide_eq_true (List.rel_of_pairwise_cons hpair hafter)

theorem findSome?_filter_eq {q : α → Bool} {g : α → Option β}
    (h : ∀ a ∈ l, g a = if q a then f a else none) :
    (l.filter q).findSome? f = l.findSome? g := by
  induction l with
  | nil => rfl
  | cons a l ih =>
    have hl := ih fun b hb => h b (List.mem_cons_of_mem a hb)
    rw [List.findSome?_cons, h a List.mem_cons_self, ← hl]
    by_cases hq : q a = true
    · rw [List.filter_cons_of_pos hq, List.findSome?_cons, if_pos hq]
    · rw [List.filter_cons_of_neg hq, if_neg hq]

theorem findSome?_flatMap {γ : Type} {g : α → List γ} {f : γ → Option β} :
    (l.flatMap g).findSome? f = l.findSome? fun a => (g a).findSome? f := by
  simp only [← List.head?_filterMap, List.filterMap_flatMap, List.head?_flatMap]

end

theorem match?_eq_some_iff {c : Candidate} {text : List Char} {m : Match} :
    c.match? text = some m ↔ m.command = c.command ∧ m.path = c.path ∧
      Fits c.command.ignoreCase c.path.toList text m.rest := by
  obtain ⟨command, path, rest⟩ := m
  rw [Candidate.match?, Option.map_eq_some_iff]
  constructor
  · rintro ⟨r, hr, he⟩
    cases he
    exact ⟨rfl, rfl, stripPath_eq_some_iff.mp hr⟩
  · rintro ⟨rfl, rfl, hfits⟩
    exact ⟨rest, stripPath_eq_some_iff.mpr hfits, rfl⟩

/-- Of two candidates that fit a text, the one of more words leaves the shorter rest. -/
theorem words_le_iff {a b : Candidate} {text : List Char} {m n : Match}
    (ha : a.match? text = some m) (hb : b.match? text = some n) :
    b.words ≤ a.words ↔ m.rest.length ≤ n.rest.length := by
  obtain ⟨-, -, hma⟩ := match?_eq_some_iff.mp ha
  obtain ⟨-, -, hnb⟩ := match?_eq_some_iff.mp hb
  rw [← hnb.count_le_iff hma]
  exact Nat.add_le_add_iff_right

theorem words_eq_iff {a b : Candidate} {text : List Char} {m n : Match}
    (ha : a.match? text = some m) (hb : b.match? text = some n) :
    b.words = a.words ↔ n.rest = m.rest := by
  obtain ⟨-, -, hma⟩ := match?_eq_some_iff.mp ha
  obtain ⟨-, -, hnb⟩ := match?_eq_some_iff.mp hb
  constructor
  · intro h
    have hab := (words_le_iff ha hb).mp (Nat.le_of_eq h)
    have hba := (words_le_iff hb ha).mp (Nat.le_of_eq h.symm)
    exact hnb.rest_eq hma (Nat.le_antisymm hba hab)
  · intro h
    exact congrArg (· + 1) (hnb.count_eq hma h)

theorem mem_paired {commands : List Command} {path : String} {c : Command} :
    (⟨path, c⟩ : Candidate) ∈ commands.flatMap (fun c => c.paths.map (⟨·, c⟩)) ↔
      c ∈ commands ∧ path ∈ c.paths := by
  simp only [List.mem_flatMap, List.mem_map, Candidate.mk.injEq]
  constructor
  · rintro ⟨c', hc', path', hp', rfl, rfl⟩
    exact ⟨hc', hp'⟩
  · rintro ⟨hc, hp⟩
    exact ⟨c, hc, path, hp, rfl, rfl⟩

theorem mem_candidates {r : Registry} {path : String} {c : Command} :
    ⟨path, c⟩ ∈ r.candidates ↔ c ∈ r.commands ∧ path ∈ c.paths := by
  rw [r.candidates_eq, Candidate.ranked, List.mem_mergeSort]
  exact mem_paired

theorem find_eq_none_iff {r : Registry} {text : List Char} :
    r.find text = none ↔ ∀ c ∈ r.commands, ∀ path rest, ¬ Selects c path text rest := by
  rw [Registry.find, List.findSome?_eq_none_iff]
  constructor
  · rintro h c hc path rest ⟨hp, hfits⟩
    have hnone := h ⟨path, c⟩ (mem_candidates.mpr ⟨hc, hp⟩)
    have hsome := (match?_eq_some_iff (c := ⟨path, c⟩) (m := ⟨c, path, rest⟩)).mpr ⟨rfl, rfl, hfits⟩
    rw [hnone] at hsome
    cases hsome
  · rintro h ⟨path, c⟩ hmem
    obtain ⟨hc, hp⟩ := mem_candidates.mp hmem
    rw [Option.eq_none_iff_forall_ne_some]
    intro m hm
    exact h c hc path m.rest ⟨hp, (match?_eq_some_iff.mp hm).2.2⟩

def earliest (commands : List Command) (text rest : List Char) : Option Match :=
  commands.findSome? fun c => c.paths.findSome? fun path =>
    if stripPath c.ignoreCase path.toList text = some rest then some ⟨c, path, rest⟩ else none

theorem earliest_eq_some_iff {commands : List Command} {text rest : List Char} {m : Match} :
    earliest commands text rest = some m ↔ m.rest = rest ∧
      Fits m.command.ignoreCase m.path.toList text rest ∧ ∃ before after earlier later,
        commands = before ++ m.command :: after ∧ m.command.paths = earlier ++ m.path :: later ∧
        (∀ c ∈ before, ∀ path ∈ c.paths, ¬ Fits c.ignoreCase path.toList text rest) ∧
        ∀ path ∈ earlier, ¬ Fits m.command.ignoreCase path.toList text rest := by
  obtain ⟨c, path, rest'⟩ := m
  simp only [earliest, List.findSome?_eq_some_iff, List.findSome?_eq_none_iff,
    stripPath_eq_some_iff, ite_eq_right_iff, Option.ite_none_right_eq_some, Option.some.injEq,
    Match.mk.injEq, reduceCtorEq, imp_false]
  constructor
  · rintro ⟨before, c', after, hc, hpaths, hbefore⟩
    obtain ⟨earlier, path', later, hp, ⟨hfits, rfl, rfl, rfl⟩, hearlier⟩ := hpaths
    exact ⟨rfl, hfits, before, after, earlier, later, hc, hp, hbefore, hearlier⟩
  · rintro ⟨rfl, hfits, before, after, earlier, later, hc, hp, hbefore, hearlier⟩
    refine ⟨before, c, after, hc, ⟨earlier, path, later, hp, ?_, hearlier⟩, hbefore⟩
    exact ⟨hfits, rfl, rfl, rfl⟩

theorem find_eq_earliest {r : Registry} {text : List Char} {m : Match} (h : r.find text = some m) :
    earliest r.commands (Text.trimSpaces text) m.rest = some m ∧
      ∀ c ∈ r.commands, ∀ path rest, Selects c path text rest → m.rest.length ≤ rest.length := by
  rw [Registry.find, r.candidates_eq, Candidate.ranked] at h
  obtain ⟨a, -, ha, hfirst, hmost⟩ := findSome?_mergeSort_key h
  constructor
  · rw [← hfirst]
    -- Among the candidates that fit, those of as many words leave the same rest.
    rw [findSome?_filter_eq (g := fun b =>
      if stripPath b.command.ignoreCase b.path.toList (Text.trimSpaces text) = some m.rest
      then some ⟨b.command, b.path, m.rest⟩ else none), findSome?_flatMap]
    · simp only [List.findSome?_map, Function.comp_def, earliest]
    · intro b hb
      cases hs : stripPath b.command.ignoreCase b.path.toList (Text.trimSpaces text) with
      | none => simp [Candidate.match?, hs]
      | some rest =>
        have hmatch : b.match? (Text.trimSpaces text) = some ⟨b.command, b.path, rest⟩ := by
          rw [Candidate.match?, hs, Option.map_some]
        have hwords := words_eq_iff ha hmatch
        by_cases hr : rest = m.rest
        · subst hr
          simp [hwords, hmatch]
        · simp [hwords, hr]
  · rintro c hc path rest ⟨hp, hrest⟩
    have hmatch : Candidate.match? ⟨path, c⟩ (Text.trimSpaces text) = some ⟨c, path, rest⟩ :=
      match?_eq_some_iff.mpr ⟨rfl, rfl, hrest⟩
    refine (words_le_iff ha hmatch).mp (hmost ⟨path, c⟩ (mem_paired.mpr ⟨hc, hp⟩) ?_)
    rw [hmatch]
    exact Option.some_ne_none _

theorem selects_of_find {r : Registry} {text : List Char} {m : Match} (h : r.find text = some m) :
    m.command ∈ r.commands ∧ Selects m.command m.path text m.rest := by
  obtain ⟨-, hfits, before, after, earlier, later, hc, hp, -, -⟩ :=
    earliest_eq_some_iff.mp (find_eq_earliest h).1
  exact ⟨by simp [hc], by simp [hp], hfits⟩

theorem Selects.rest_le_iff {c c' : Command} {path path' : String} {text rest rest' : List Char}
    (h : Selects c path text rest) (h' : Selects c' path' text rest') :
    rest.length ≤ rest'.length ↔ path'.length ≤ path.length := by
  have hlen := h.2.length_add
  have hlen' := h'.2.length_add
  rw [String.length_toList] at hlen hlen'
  omega

theorem find_eq_some_iff {r : Registry} {text : List Char} {m : Match} :
    r.find text = some m ↔ earliest r.commands (Text.trimSpaces text) m.rest = some m ∧
      ∀ c ∈ r.commands, ∀ path rest, Selects c path text rest → m.rest.length ≤ rest.length := by
  refine ⟨find_eq_earliest, ?_⟩
  rintro ⟨hfirst, hleast⟩
  obtain ⟨-, hfits, before, after, earlier, later, hc, hp, -, -⟩ := earliest_eq_some_iff.mp hfirst
  have hmc : m.command ∈ r.commands := by simp [hc]
  have hs : Selects m.command m.path text m.rest := ⟨by simp [hp], hfits⟩
  cases hf : r.find text with
  | none => exact absurd hs (find_eq_none_iff.mp hf m.command hmc m.path m.rest)
  | some n =>
    obtain ⟨hnfirst, hnleast⟩ := find_eq_earliest hf
    obtain ⟨hnc, hn⟩ := selects_of_find hf
    have hmn := hnleast m.command hmc m.path m.rest hs
    have hnm := hleast n.command hnc n.path n.rest hn
    rw [hn.2.rest_eq hs.2 (Nat.le_antisymm hmn hnm), hfirst] at hnfirst
    exact hnfirst.symm

theorem find_of_others_shorter {r : Registry} {c : Command} {path : String} {text rest : List Char}
    (hc : c ∈ r.commands) (hs : Selects c path text rest)
    (hothers : ∀ c' ∈ r.commands, ∀ path' rest', Selects c' path' text rest' →
      (c' ≠ c ∨ path' ≠ path) → path'.length < path.length) :
    r.find text = some ⟨c, path, rest⟩ := by
  cases hf : r.find text with
  | none => exact absurd hs (find_eq_none_iff.mp hf c hc path rest)
  | some m =>
    obtain ⟨hmc, hm⟩ := selects_of_find hf
    have hle := (find_eq_earliest hf).2 c hc path rest hs
    have hlonger := (hm.rest_le_iff hs).mp hle
    obtain ⟨hcommand, hpath⟩ : m.command = c ∧ m.path = path := by
      by_contra hne
      have hlt := hothers m.command hmc m.path m.rest hm (not_and_or.mp hne)
      omega
    have hge := (hs.rest_le_iff hm).mpr (Nat.le_of_eq (by rw [hpath]))
    rw [← hcommand, ← hpath, ← hm.2.rest_eq hs.2 (Nat.le_antisymm hle hge)]

theorem find_of_candidates {r : Registry} {c : Command} {path : String} {text rest : List Char}
    (h : r.candidates = [⟨path, c⟩])
    (hfits : Fits c.ignoreCase path.toList (Text.trimSpaces text) rest) :
    r.find text = some ⟨c, path, rest⟩ := by
  rw [Registry.find, h, List.findSome?_singleton]
  exact match?_eq_some_iff.mpr ⟨rfl, rfl, hfits⟩

/-- Of the paths that fit a text the longest is found, and of equally long ones that of the command
registered first, and of its paths the first. Commands stand in the order of registration, as each is
put behind the others. -/
theorem find_longest {d : Draft} (h : Reached d) (text : List Char) :
    (∀ c ∈ d.commands, ∃ resolve decl, Command.ofDeclaration resolve decl = .ok c) ∧
    (∀ decl d', d.register decl = (d', none) →
      ∃ c, Command.ofDeclaration d.resolver decl = .ok c ∧ d'.commands = d.commands ++ [c]) ∧
    (d.commands.map Command.key).Nodup ∧
    (d.build.find text = none ↔ ∀ c ∈ d.commands, ∀ path rest, ¬ Selects c path text rest) ∧
    ∀ m, d.build.find text = some m ↔
      Selects m.command m.path text m.rest ∧
      (∀ c ∈ d.commands, ∀ path rest, Selects c path text rest →
        m.rest.length ≤ rest.length ∧ path.length ≤ m.path.length) ∧
      ∃ before after earlier later,
        d.commands = before ++ m.command :: after ∧ m.command.paths = earlier ++ m.path :: later ∧
        (∀ c ∈ before, ∀ path, ¬ Selects c path text m.rest) ∧
        ∀ path ∈ earlier, ¬ Selects m.command path text m.rest := by
  have hcommands : d.build.commands = d.commands := rfl
  refine ⟨fun c => h.exists_declaration, fun decl d' hd' => ?_, h.nodup_keys, find_eq_none_iff,
    fun m => ?_⟩
  · obtain ⟨c, hc, -, rfl⟩ := eq_of_register hd'
    exact ⟨c, hc, rfl⟩
  rw [find_eq_some_iff, earliest_eq_some_iff, hcommands]
  constructor
  · rintro ⟨⟨-, hfits, before, after, earlier, later, hc, hp, hbefore, hearlier⟩, hleast⟩
    have hs : Selects m.command m.path text m.rest := ⟨by simp [hp], hfits⟩
    refine ⟨hs, fun c hmem path rest h => ?_, before, after, earlier, later, hc, hp, ?_, ?_⟩
    · have hle := hleast c hmem path rest h
      exact ⟨hle, (hs.rest_le_iff h).mp hle⟩
    · exact fun c hmem path h => hbefore c hmem path h.1 h.2
    · exact fun path hmem h => hearlier path hmem h.2
  · rintro ⟨hs, hleast, before, after, earlier, later, hc, hp, hbefore, hearlier⟩
    refine ⟨⟨rfl, hs.2, before, after, earlier, later, hc, hp, ?_, ?_⟩, ?_⟩
    · exact fun c hmem path hpath hfits => hbefore c hmem path ⟨hpath, hfits⟩
    · intro path hmem hfits
      have hpath : path ∈ m.command.paths := hp ▸ List.mem_append_left _ hmem
      exact hearlier path hmem ⟨hpath, hfits⟩
    · exact fun c hmem path rest h => (hleast c hmem path rest h).1

/-- Three commands of which two can be reached by one path, and the third by a longer one. -/
def walks : List Declaration :=
  [idle "go", { idle "walk" with aliasName := some "go" },
    { idle "home" with group := some (.root "go") }]

def walking : Draft := walks.foldl attempt {}

theorem exists_walking : ∃ go walk home, walking.commands = [go, walk, home] ∧
    go.paths = ["go"] ∧ walk.paths = ["walk", "go"] ∧ home.paths = ["go home"] ∧
    ∀ c ∈ walking.commands, c.ignoreCase = true ∧
      ∀ path ∈ c.paths, path = "go" ∨ path = "walk" ∨ c = home ∧ path = "go home" := by
  obtain ⟨go, walk, home, hcommands, hgo, hwalk, hhome, hcases⟩ : ∃ go walk home,
      walking.commands = [go, walk, home] ∧ go.paths = ["go"] ∧ walk.paths = ["walk", "go"] ∧
        home.paths = ["go home"] ∧ go.ignoreCase = true ∧ walk.ignoreCase = true ∧
          home.ignoreCase = true := ⟨_, _, _, rfl, rfl, rfl, rfl, rfl, rfl, rfl⟩
  refine ⟨go, walk, home, hcommands, hgo, hwalk, hhome, ?_⟩
  simp [hcommands, hgo, hwalk, hhome, hcases]

theorem find_longest_walking : ∃ go walk home, walking.commands = [go, walk, home] ∧
    walking.build.find "GO on".toList = some ⟨go, "go", " on".toList⟩ ∧
    walking.build.find " Go HOME  now".toList = some ⟨home, "go home", "  now".toList⟩ := by
  obtain ⟨go, walk, home, hcommands, hgo, hwalk, hhome, hall⟩ := exists_walking
  have hreached : Reached walking := .attempt _ (.attempt _ (.attempt _ (.empty .builtin)))
  obtain ⟨-, -, -, -, hnear⟩ := find_longest hreached "GO on".toList
  obtain ⟨-, -, -, -, hfar⟩ := find_longest hreached " Go HOME  now".toList
  have hmem : go ∈ walking.commands ∧ walk ∈ walking.commands ∧ home ∈ walking.commands := by
    simp [hcommands]
  refine ⟨go, walk, home, hcommands, ?_, ?_⟩
  · have hs : Selects go "go" "GO on".toList " on".toList := by
      refine selects_iff_stripPath.mpr ⟨by simp [hgo], ?_⟩
      rw [(hall go hmem.1).1]
      decide +kernel
    refine (hnear _).mpr ⟨hs, fun c hc path rest h => ?_, [], [walk, home], [], [], hcommands, hgo,
      by simp, by simp⟩
    rw [hs.rest_le_iff h, and_self]
    obtain ⟨hpath, hfits⟩ := selects_iff_stripPath.mp h
    rw [(hall c hc).1] at hfits
    obtain rfl | rfl | ⟨-, rfl⟩ := (hall c hc).2 path hpath
    · exact Nat.le_refl _
    · cases hfits.symm.trans (by decide +kernel : _ = none)
    · cases hfits.symm.trans (by decide +kernel : _ = none)
  · have hs : Selects home "go home" " Go HOME  now".toList "  now".toList := by
      refine selects_iff_stripPath.mpr ⟨by simp [hhome], ?_⟩
      rw [(hall home hmem.2.2).1]
      decide +kernel
    refine (hfar _).mpr ⟨hs, fun c hc path rest h => ?_, [go, walk], [], [], [], hcommands, hhome,
      ?_, by simp⟩
    · rw [hs.rest_le_iff h, and_self]
      obtain rfl | rfl | ⟨-, rfl⟩ := (hall c hc).2 path h.1 <;> decide
    · intro c hc path h
      have hlength : "go home".length ≤ path.length := (h.rest_le_iff hs).mp (Nat.le_refl _)
      obtain rfl | rfl := List.mem_pair.mp hc
      · obtain rfl : path = "go" := by simpa [hgo] using h.1
        exact absurd hlength (by decide)
      · obtain rfl | rfl : path = "walk" ∨ path = "go" := by simpa [hwalk] using h.1
        · exact absurd hlength (by decide)
        · exact absurd hlength (by decide)

end SlashCommands.Proofs.LongestMatch
