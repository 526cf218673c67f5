import Mathlib.Data.List.TakeWhile
import SlashCommands.Proofs.Dispatching
import SlashCommands.Proofs.GroupPaths
import SlashCommands.Proofs.LongestMatch
import SlashCommands.Proofs.Registration

namespace SlashCommands.Proofs.BlankText

open Dispatching GroupPaths LongestMatch Matching Registration

def IsSpaces (text : List Char) : Prop := ∀ c ∈ text, c = ' '

/-- A command that stands at the empty path. -/
def AtEmptyPath (c : Command) : Prop :=
  c.shortcut = some "" ∨ c.group = none ∧ c.aliasName = some ""

instance (c : Command) : Decidable (AtEmptyPath c) :=
  inferInstanceAs (Decidable (c.shortcut = some "" ∨ c.group = none ∧ c.aliasName = some ""))

variable {d : Draft} {c : Command} {ignoreCase : Bool} {path : String} {text rest : List Char}

theorem trimSpaces_of_isSpaces (h : IsSpaces text) : Text.trimSpaces text = [] := by
  have hdrop : text.dropWhile (· == ' ') = [] := by
    rw [List.dropWhile_eq_nil_iff]
    intro c hc
    exact beq_of_eq (h c hc)
  rw [Text.trimSpaces, hdrop]
  rfl

theorem fits_nil_iff {path : List Char} :
    Fits ignoreCase path [] rest ↔ path = [] ∧ rest = [] := by
  rw [← stripPath_eq_some_iff]
  cases path with
  | nil => simp [stripPath, eq_comm]
  | cons p path => simp [stripPath]

theorem path_under_ne_empty (p last : String) : s!"{p} {last}" ≠ "" := by
  intro h
  rw [String.append_eq_empty_iff, String.append_eq_empty_iff] at h
  exact absurd h.1.2 (by decide)

theorem name_ne_empty (h : Reached d) (hc : c ∈ d.commands) : c.name ≠ "" := by
  obtain ⟨resolve, decl, hdecl⟩ := h.exists_declaration hc
  obtain ⟨hname, -, -, first, inputs, parameters, -, -, -, rfl⟩ := ofDeclaration_eq_ok hdecl
  exact hname

theorem empty_mem_paths_iff (hname : c.name ≠ "") : "" ∈ c.paths ↔ AtEmptyPath c := by
  cases hgroup : c.group with
  | none =>
    rw [Command.paths, hgroup, AtEmptyPath]
    simp [hgroup, hname]
  | some g =>
    have hunder : "" ∉ g.paths.flatMap fun p =>
        (c.name :: c.aliasName.toList).map fun last => s!"{p} {last}" := by
      intro hmem
      obtain ⟨p, -, hmem⟩ := List.mem_flatMap.mp hmem
      obtain ⟨last, -, hlast⟩ := List.mem_map.mp hmem
      exact path_under_ne_empty p last hlast
    rw [paths_of_group hgroup, List.mem_append, or_iff_left hunder, AtEmptyPath]
    simp [hgroup]

theorem selects_iff (h : Reached d) (hc : c ∈ d.build.commands) (htext : IsSpaces text) :
    Selects c path text rest ↔ AtEmptyPath c ∧ path = "" ∧ rest = [] := by
  rw [← empty_mem_paths_iff (name_ne_empty h hc), Selects, trimSpaces_of_isSpaces htext, fits_nil_iff,
    String.toList_eq_nil_iff]
  constructor
  · rintro ⟨hpath, rfl, hrest⟩
    exact ⟨hpath, rfl, hrest⟩
  · rintro ⟨hpath, rfl, hrest⟩
    exact ⟨hpath, rfl, hrest⟩

theorem find_of_isSpaces (h : Reached d) (htext : IsSpaces text) :
    d.build.find text = (d.build.commands.find? (AtEmptyPath ·)).map (⟨·, "", []⟩) := by
  cases hfind : d.build.find text with
  | none =>
    have hnone : d.build.commands.find? (AtEmptyPath ·) = none := by
      rw [List.find?_eq_none]
      intro c hc hempty
      apply find_eq_none_iff.mp hfind c hc "" []
      exact (selects_iff h hc htext).mpr ⟨of_decide_eq_true hempty, rfl, rfl⟩
    rw [hnone, Option.map_none]
  | some m =>
    obtain ⟨hmem, hm⟩ := selects_of_find hfind
    obtain ⟨hempty, hpath, hrest⟩ := (selects_iff h hmem htext).mp hm
    -- No path of a command before it leaves this rest, so none of them is the empty one.
    obtain ⟨-, -, before, after, -, -, hcommands, -, hbefore, -⟩ :=
      earliest_eq_some_iff.mp (find_eq_earliest hfind).1
    have hfirst : d.build.commands.find? (AtEmptyPath ·) = some m.command := by
      rw [List.find?_eq_some_iff_append]
      refine ⟨decide_eq_true hempty, before, after, hcommands, fun c hc => ?_⟩
      have hc' : c ∈ d.build.commands := hcommands ▸ List.mem_append_left _ hc
      rw [Bool.not_eq_true', decide_eq_false_iff_not]
      intro hother
      obtain ⟨hpaths, hfits⟩ := (selects_iff h hc' htext).mpr ⟨hother, rfl, hrest⟩
      exact hbefore c hc "" hpaths hfits
    rw [hfirst, Option.map_some, ← hpath, ← hrest]

/-- A text of spaces only selects the first command with an empty shortcut or, without a group, an
empty alias, and selects nothing exactly if there is none. Then its dispatch finds no match: no
check is asked, nothing is read, no handler is called and nothing is sent. -/
theorem blank_selects (h : Reached d) {text : String} (htext : IsSpaces text.toList) :
    d.build.find text.toList = (d.build.commands.find? (AtEmptyPath ·)).map (⟨·, "", []⟩) ∧
    (d.build.find text.toList = none ↔ ∀ c ∈ d.build.commands, ¬ AtEmptyPath c) ∧
    ∀ usage color dir a,
      let report := Dispatcher.dispatch ⟨d.build, usage, color⟩ dir a text
      (report.outcome = .noMatch ↔ ∀ c ∈ d.build.commands, ¬ AtEmptyPath c) ∧
      ((∀ c ∈ d.build.commands, ¬ AtEmptyPath c) →
        report.checks = [] ∧ report.readings = [] ∧ report.calls = [] ∧ report.messages = []) := by
  have hfind := find_of_isSpaces h htext
  have hnone : d.build.find text.toList = none ↔ ∀ c ∈ d.build.commands, ¬ AtEmptyPath c := by
    rw [hfind, Option.map_eq_none_iff, List.find?_eq_none]
    simp only [decide_eq_true_eq]
  refine ⟨hfind, hnone, fun usage color dir a => ⟨?_, fun hall => ?_⟩⟩
  · rw [← hnone]
    exact noMatch_iff (d := ⟨d.build, usage, color⟩)
  · exact idle_of_find_none (d := ⟨d.build, usage, color⟩) (hnone.mpr hall)

theorem isSpaces_two : IsSpaces "  ".toList := by simp [IsSpaces]

def strolling : Draft :=
  attempt {} { idle "walk" with group := some (.root ""), aliasName := some "" }

theorem blank_selects_strolling :
    strolling.build.commands.map Command.paths = [[" walk", " "]] ∧
      strolling.build.find "  ".toList = none ∧
      (Dispatcher.dispatch { registry := strolling.build } (World.directory {}) 1 "  ").calls =
        [] := by
  have hreached : Reached strolling := .attempt _ (.empty .builtin)
  obtain ⟨-, hnone, hdispatch⟩ := blank_selects hreached isSpaces_two
  have hall : ∀ c ∈ strolling.build.commands, ¬ AtEmptyPath c := by decide
  obtain ⟨-, hquiet⟩ := hdispatch (some Usage.plain) .white (World.directory {}) 1
  obtain ⟨-, -, hcalls, -⟩ := hquiet hall
  exact ⟨rfl, hnone.mpr hall, hcalls⟩

def greeting : Draft :=
  attempt {}
    { idle "greet" with shortcut := some "", permission := some (.predicate fun _ => true) }

/-- Two spaces select it, and are enough to run it. -/
theorem spaces_run_greeting : Reached greeting ∧ ∃ c ∈ greeting.build.commands,
    greeting.build.find "  ".toList = some ⟨c, "", []⟩ ∧
    let report := Dispatcher.dispatch { registry := greeting.build } (World.directory {}) 1 "  "
    report.outcome = .executed true ∧ report.checks = [c] ∧ report.calls = [⟨c, [.actor 1]⟩] := by
  have hreached : Reached greeting := .attempt _ (.empty .builtin)
  obtain ⟨c, hcommands, hfirst, hcheck, hparameters, houtput⟩ : ∃ c,
      greeting.build.commands = [c] ∧
      greeting.build.commands.find? (AtEmptyPath ·) = some c ∧
      c.permission = some (.predicate fun _ => true) ∧ c.parameters = [] ∧
      c.handler.signature.output = .unit := ⟨_, rfl, rfl, rfl, rfl, rfl⟩
  have hfind : greeting.build.find "  ".toList = some ⟨c, "", []⟩ := by
    rw [find_of_isSpaces hreached isSpaces_two, hfirst, Option.map_some]
  have hallowed : Allowed c (World.directory {}) 1 := (allowed_iff_of_check hcheck).mpr rfl
  have hparsed : Arguments.values? (World.directory {}) c.parameters [] = some [] := by
    rw [hparameters]
    rfl
  refine ⟨hreached, c, by simp [hcommands], hfind, ?_⟩
  rw [dispatch_of_parsed (d := { registry := greeting.build }) hfind hallowed hparsed]
  simp [asked, hcheck, Command.handled, houtput]

end SlashCommands.Proofs.BlankText
