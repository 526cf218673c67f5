import SlashCommands.Program
import SlashCommands.Proofs.Startup
import SlashCommands.Toml.Document

namespace SlashCommands.Proofs.ProgramRun

open Program Startup Text

def bytes (s : String) : List UInt8 := s.toUTF8.data.toList

/-- Bytes and the lines that they are cut into. A line has no line feed within, and is ended by one;
only the last line need not be, if it is not empty. -/
inductive CutInto : List UInt8 → List (List UInt8) → Prop
  | nil : CutInto [] []
  | unended {line : List UInt8} (hne : line ≠ []) (hline : lineFeed ∉ line) : CutInto line [line]
  | ended {line rest : List UInt8} {ls : List (List UInt8)} (hline : lineFeed ∉ line)
      (hrest : CutInto rest ls) : CutInto (line ++ lineFeed :: rest) (line :: ls)

def outputs : Console → List String → List String
  | _, [] => []
  | c, text :: texts => (c.handleLine text).2.lines ++ outputs (c.handleLine text).1 texts

/-- How a run ends, given the lines that it does not go past: the reasons of the failure, if it
fails, and the exit code. -/
inductive Ends : List (List UInt8) → List String → UInt8 → Prop
  | atEnd : Ends [] [] 0
  | quit {s : String} (h : trimmed s = ":quit") (later : List (List UInt8)) :
      Ends (bytes s :: later) [] 0
  | bad {line : List UInt8} (h : ∀ s, line ≠ bytes s) (later : List (List UInt8)) :
      Ends (line :: later) ["reading stdin", "stream did not contain valid UTF-8"] 1

section

variable {line rest input : List UInt8} {ls : List (List UInt8)}

theorem decode?_bytes (s : String) : decode? (bytes s) = some s := by
  simp [decode?, bytes, String.fromUTF8?, String.fromUTF8, s.isValidUTF8]

theorem decode?_eq_some_iff {s : String} : decode? line = some s ↔ line = bytes s := by
  constructor
  · intro h
    simp only [decode?, String.fromUTF8?, String.fromUTF8, Option.dite_none_right_eq_some,
      Option.some.injEq] at h
    obtain ⟨hvalid, rfl⟩ := h
    rfl
  · rintro rfl
    exact decode?_bytes s

theorem decode?_eq_none_iff : decode? line = none ↔ ∀ s, line ≠ bytes s := by
  simp only [Option.eq_none_iff_forall_ne_some, ne_eq, decode?_eq_some_iff]

theorem splitLines_ended (hline : lineFeed ∉ line) :
    splitLines (line ++ lineFeed :: rest) = line :: splitLines rest := by
  induction line with
  | nil => rfl
  | cons b line ih =>
    obtain ⟨hb, hline⟩ := not_or.mp (mt List.mem_cons.mpr hline)
    rw [List.cons_append, splitLines, if_neg (Ne.symm hb), ih hline]

theorem splitLines_unended (hne : line ≠ []) (hline : lineFeed ∉ line) :
    splitLines line = [line] := by
  induction line with
  | nil => exact absurd rfl hne
  | cons b line ih =>
    obtain ⟨hb, hline⟩ := not_or.mp (mt List.mem_cons.mpr hline)
    rw [splitLines, if_neg (Ne.symm hb)]
    cases line with
    | nil => rfl
    | cons b' line => rw [ih (List.cons_ne_nil b' line) hline]

theorem splitLines_of_cutInto (h : CutInto input ls) : splitLines input = ls := by
  induction h with
  | nil => rfl
  | unended hne hline => exact splitLines_unended hne hline
  | ended hline _ ih => rw [splitLines_ended hline, ih]

theorem cutInto_cons {b : UInt8} (hb : b ≠ lineFeed) (h : CutInto input ls) :
    ∃ line later, CutInto (b :: input) (line :: later) := by
  have hb : lineFeed ∉ [b] := fun hmem => hb (List.mem_singleton.mp hmem).symm
  cases h with
  | nil => exact ⟨[b], [], .unended (List.cons_ne_nil b []) hb⟩
  | unended hne hline =>
    exact ⟨_, [], .unended (List.cons_ne_nil b _) (List.not_mem_append hb hline)⟩
  | ended hline hrest => exact ⟨_, _, .ended (List.not_mem_append hb hline) hrest⟩

theorem exists_cutInto (input : List UInt8) : ∃ ls, CutInto input ls := by
  induction input with
  | nil => exact ⟨[], .nil⟩
  | cons b input ih =>
    obtain ⟨ls, hls⟩ := ih
    by_cases hb : b = lineFeed
    · subst hb
      exact ⟨[] :: ls, .ended List.not_mem_nil hls⟩
    · obtain ⟨line, later, hcut⟩ := cutInto_cons hb hls
      exact ⟨line :: later, hcut⟩

theorem cutInto_iff : CutInto input ls ↔ splitLines input = ls := by
  refine ⟨splitLines_of_cutInto, ?_⟩
  rintro rfl
  obtain ⟨ls, hls⟩ := exists_cutInto input
  exact (splitLines_of_cutInto hls).symm ▸ hls

end

section

variable {c : Console} {line : List UInt8} {later : List (List UInt8)} {s : String}

theorem lines_bad (h : ∀ s, line ≠ bytes s) :
    lines c (line :: later) = { failure := badInput } := by
  rw [lines, step, decode?_eq_none_iff.mpr h]

theorem lines_quit (h : trimmed s = ":quit") : lines c (bytes s :: later) = {} := by
  rw [lines, step, decode?_bytes]
  simp only [if_pos h]

theorem lines_text (h : trimmed s ≠ ":quit") :
    lines c (bytes s :: later) =
      (lines (c.handleLine s).1 later).after (c.handleLine s).2.lines := by
  rw [lines, step, decode?_bytes]
  simp only [if_neg h]

/-- A run goes past lines of text other than `:quit`, and prints what the console makes of them,
before it ends. -/
theorem lines_ends (c : Console) (ls : List (List UInt8)) :
    ∃ texts rest, ls = texts.map bytes ++ rest ∧ (∀ s ∈ texts, trimmed s ≠ ":quit") ∧
      Ends rest (lines c ls).failure (lines c ls).exitCode ∧
      (lines c ls).printed = outputs c texts := by
  induction ls generalizing c with
  | nil => exact ⟨[], [], rfl, by simp, .atEnd, rfl⟩
  | cons line later ih =>
    by_cases hbad : ∀ s, line ≠ bytes s
    · rw [lines_bad hbad]
      exact ⟨[], line :: later, rfl, by simp, .bad hbad later, rfl⟩
    · obtain ⟨s, rfl⟩ := Classical.not_forall_not.mp hbad
      by_cases hquit : trimmed s = ":quit"
      · rw [lines_quit hquit]
        exact ⟨[], bytes s :: later, rfl, by simp, .quit hquit later, rfl⟩
      · obtain ⟨texts, rest, rfl, htexts, hends, hprinted⟩ := ih (c.handleLine s).1
        rw [lines_text hquit]
        refine ⟨s :: texts, rest, rfl, List.forall_mem_cons.mpr ⟨hquit, htexts⟩, hends, ?_⟩
        rw [outputs, ← hprinted]
        rfl

theorem lines_before_quit (c : Console) (before after after' : List (List UInt8))
    (h : trimmed s = ":quit") :
    lines c (before ++ bytes s :: after) = lines c (before ++ bytes s :: after') := by
  induction before generalizing c with
  | nil => rw [List.nil_append, List.nil_append, lines_quit h, lines_quit h]
  | cons line before ih =>
    simp only [List.cons_append, lines]
    cases step c line with
    | goOn c' printed => simp only [ih]
    | quit => rfl
    | bad => rfl

theorem printed_before_bad (c : Console) (before after : List (List UInt8))
    (h : ∀ s, line ≠ bytes s) :
    (lines c (before ++ line :: after)).printed = (lines c before).printed := by
  induction before generalizing c with
  | nil => rw [List.nil_append, lines_bad h, lines]
  | cons line before ih =>
    simp only [List.cons_append, lines]
    cases step c line with
    | goOn c' printed => exact congrArg (printed ++ ·) (ih c')
    | quit => rfl
    | bad => rfl

end

/-- With any settings that can be read the console starts. It takes in the lines of text before the
first line that is not text or that is `:quit`, and what it makes of them in turn is printed. The run
fails exactly if it ends at a line that is not text. What stands behind `:quit` changes nothing, and
a line that is not text takes nothing back of what the lines before it have printed. -/
theorem run_ends {read : List Char → Option Toml.Entries} {source : Option Source}
    {config : Config} (hsettings : settings read source = .ok config) (input : List UInt8) :
    ∃ c, Console.start config = .ok c ∧
      (∃ texts rest, (∀ ls, CutInto input ls ↔ ls = texts.map bytes ++ rest) ∧
        (∀ s ∈ texts, trimmed s ≠ ":quit") ∧
        Ends rest (run read source input).failure (run read source input).exitCode ∧
        (run read source input).stdout = .join ((outputs c texts).map (· ++ "\n"))) ∧
      (∀ before s after after' input', trimmed s = ":quit" →
        CutInto input (before ++ bytes s :: after) →
        CutInto input' (before ++ bytes s :: after') →
          run read source input' = run read source input) ∧
      (∀ before bad after input', (∀ s, bad ≠ bytes s) →
        CutInto input (before ++ bad :: after) → CutInto input' before →
        (run read source input).stdout = (run read source input').stdout) := by
  obtain ⟨c, hc⟩ := exists_start_of_settings hsettings
  have hrun (input : List UInt8) : run read source input = lines c (splitLines input) := by
    simp only [run, start, hsettings, hc, Except.mapError]
  simp only [hrun, cutInto_iff]
  refine ⟨c, hc, ?_, ?_, ?_⟩
  · obtain ⟨texts, rest, hls, htexts, hends, hprinted⟩ := lines_ends c (splitLines input)
    refine ⟨texts, rest, fun ls => hls ▸ eq_comm, htexts, hends, ?_⟩
    rw [Run.stdout, printedText, hprinted]
  · intro before s after after' input' hquit hinput hinput'
    rw [hinput, hinput']
    exact lines_before_quit c before after' after hquit
  · intro before bad after input' hbad hinput hinput'
    rw [hinput, hinput', Run.stdout, Run.stdout, printed_before_bad c before after hbad]

theorem run_ends_alice : settings Toml.read? none = .ok {} ∧
    (run Toml.read? none (bytes "hello\n")).stdout = "Alice: hello\n" ∧
    run Toml.read? none (bytes "hello\n :quit\r\n" ++ [0xFF]) =
      run Toml.read? none (bytes "hello\n :quit\r\n/me waves") ∧
    (run Toml.read? none (bytes "hello\n" ++ [0xFF, lineFeed] ++ bytes "/me waves")).stdout =
      (run Toml.read? none (bytes "hello\n")).stdout := by
  have hsettings : settings Toml.read? none = .ok {} := rfl
  obtain ⟨-, -, -, hquit, -⟩ := run_ends hsettings (bytes "hello\n :quit\r\n/me waves")
  obtain ⟨-, -, -, -, hbad⟩ :=
    run_ends hsettings (bytes "hello\n" ++ [0xFF, lineFeed] ++ bytes "/me waves")
  refine ⟨hsettings, rfl, ?_, ?_⟩
  · refine hquit [bytes "hello"] " :quit\r" [bytes "/me waves"] [[0xFF]] _ ?_ ?_ ?_
    · decide +kernel
    · exact cutInto_iff.mpr (by decide +kernel)
    · exact cutInto_iff.mpr (by decide +kernel)
  · refine hbad [bytes "hello"] [0xFF] [bytes "/me waves"] _ ?_ ?_ ?_
    · exact decode?_eq_none_iff.mp (by decide +kernel)
    · exact cutInto_iff.mpr (by decide +kernel)
    · exact cutInto_iff.mpr (by decide +kernel)

end SlashCommands.Proofs.ProgramRun
