import SlashCommands.Proofs.ConsoleRun

namespace SlashCommands.Proofs.Talk

open ConsoleRun

/-- A trimmed line that is neither blank nor of one of the forms that mean something else. -/
structure IsTalk (cs : List Char) : Prop where
  ne_nil : cs ≠ []
  not_command : ∀ text, cs ≠ '/' :: text
  not_who : cs ≠ [':', 'w', 'h', 'o']
  not_actAs : cs ≠ [':', 'a', 's']
  not_actAs_token : ∀ blank token, Text.isBlank blank = true →
    cs ≠ ':' :: 'a' :: 's' :: blank :: token

/-- A line is printed under a name, and nothing else comes of it. -/
structure Echoes (c : Console) (name line : String) : Prop where
  lines : (c.handleLine line).2.lines = [s!"{name}: {Text.trimmed line}"]
  current : (c.handleLine line).1.current = c.current
  roster : (c.handleLine line).1.world.roster = c.world.roster
  outbox : (c.handleLine line).1.world.outbox = c.world.outbox

/-- The number of colons, which tells a line of talk from the answers to `:as`. -/
def colons (s : String) : Nat := s.toList.count ':'

theorem colons_append (s t : String) : colons (s ++ t) = colons s + colons t := by
  rw [colons, String.toList_append, List.count_append]
  rfl

theorem colons_ofList (cs : List Char) : colons (String.ofList cs) = cs.count ':' := by
  rw [colons, String.toList_ofList]

theorem colons_talk (name : String) (cs : List Char) :
    colons s!"{name}: {String.ofList cs}" = colons name + 1 + cs.count ':' := by
  have hmark : colons ": " = 1 := by decide
  simp only [colons_append, colons_ofList, toString, hmark]

theorem colons_acting (name : String) : colons s!"Now acting as {name}" = colons name := by
  have hacting : colons "Now acting as " = 0 := by decide
  simp only [colons_append, toString, hacting, Nat.zero_add]

theorem colons_matches (cs : List Char) :
    colons s!"'{String.ofList cs}' matches more than one actor" = cs.count ':' := by
  have hopen : colons "'" = 0 := by decide
  have hclose : colons "' matches more than one actor" = 0 := by decide
  simp only [colons_append, colons_ofList, toString, hopen, hclose, Nat.zero_add, Nat.add_zero]

theorem colons_no_match (cs : List Char) :
    colons s!"No actor matches '{String.ofList cs}'" = cs.count ':' := by
  have hopen : colons "No actor matches '" = 0 := by decide
  have hclose : colons "'" = 0 := by decide
  simp only [colons_append, colons_ofList, toString, hopen, hclose, Nat.zero_add, Nat.add_zero]

theorem trim_sublist (cs : List Char) : (Text.trim cs).Sublist cs := by
  have hstart : (Text.trimStart cs).Sublist cs := List.dropWhile_sublist _
  have hend : (Text.trimEnd (Text.trimStart cs)).Sublist (Text.trimStart cs) := by
    have h := (List.dropWhile_sublist Text.isBlank (l := (Text.trimStart cs).reverse)).reverse
    rw [List.reverse_reverse] at h
    exact h
  exact hend.trans hstart

section

variable {config : Config} {start c : Console} {name line : String} {token : List Char}

theorem handleLine_talk (h : IsTalk (Text.trim line.toList))
    (hactAs : ∀ token, Text.trim line.toList ≠ ':' :: 'a' :: 's' :: token) :
    c.handleLine line = (c, ⟨[s!"{c.nameOf c.current}: {Text.trimmed line}"], []⟩) := by
  rw [Console.handleLine]
  split
  · rename_i hnil
    exact absurd hnil h.ne_nil
  · rename_i token htoken
    exact absurd htoken (hactAs token)
  · rename_i hwho
    exact absurd hwho h.not_who
  · rename_i text htext
    exact absurd htext (h.not_command text)
  · rfl

theorem handleLine_actAs_lines (h : Text.trim line.toList = ':' :: 'a' :: 's' :: token) :
    (c.handleLine line).2.lines = [(c.actAs (Text.trim token)).2] := by
  rw [Console.handleLine, h]
  rfl

theorem colons_actAs_le (hcurrent : (c.actAs token).1.current = c.current) :
    colons (c.actAs token).2 ≤ colons (c.nameOf c.current) + token.count ':' := by
  rw [actAs_fst] at hcurrent
  cases hlookup : c.world.roster.lookup token with
  | found id =>
    have hid : id = c.current := by
      rw [hlookup] at hcurrent
      exact hcurrent
    have hanswer : (c.actAs token).2 = s!"Now acting as {c.nameOf c.current}" := by
      rw [Console.actAs, hlookup, hid]
    rw [hanswer, colons_acting]
    exact Nat.le_add_right _ _
  | ambiguous =>
    have hanswer : (c.actAs token).2 = s!"'{String.ofList token}' matches more than one actor" := by
      rw [Console.actAs, hlookup]
    rw [hanswer, colons_matches]
    exact Nat.le_add_left _ _
  | notFound =>
    have hanswer : (c.actAs token).2 = s!"No actor matches '{String.ofList token}'" := by
      rw [Console.actAs, hlookup]
    rw [hanswer, colons_no_match]
    exact Nat.le_add_left _ _

/-- No line that begins with `:as` is printed as talk: the printed line would have more colons than
any answer to `:as` by which the same actor goes on acting. -/
theorem not_echoes_of_actAs (hname : c.nameOf c.current = name)
    (h : Text.trim line.toList = ':' :: 'a' :: 's' :: token) : ¬ Echoes c name line := by
  intro hechoes
  have hcurrent : (c.actAs (Text.trim token)).1.current = c.current := by
    rw [← handleLine_actAs h]
    exact hechoes.current
  have hanswer : (c.actAs (Text.trim token)).2 = s!"{name}: {Text.trimmed line}" := by
    have hlines := hechoes.lines
    rw [handleLine_actAs_lines h] at hlines
    exact List.singleton_inj.mp hlines
  have hle := colons_actAs_le hcurrent
  rw [hanswer, Text.trimmed, h, colons_talk, hname, List.count_cons_self] at hle
  have htoken : (Text.trim token).count ':' ≤ token.count ':' := (trim_sublist token).count_le ':'
  have hrest : token.count ':' ≤ ('a' :: 's' :: token).count ':' :=
    ((List.sublist_cons_self 's' token).trans (List.sublist_cons_self 'a' _)).count_le ':'
  omega

/-- Whatever lines came before, talk is printed under the name of who acts, and nothing else comes of
it, exactly if it does not begin with the characters of `:as`. -/
theorem echoes_iff (hstart : Console.start config = .ok start) (lines : List String) (line : String)
    (h : IsTalk (Text.trim line.toList)) :
    ∃ name, (after start lines).world.roster.name? (after start lines).current = some name ∧
      (Echoes (after start lines) name line ↔
        ∀ token, Text.trim line.toList ≠ ':' :: 'a' :: 's' :: token) := by
  have hsettled : Settled start (after start lines) := (settled_start hstart).after lines
  obtain ⟨name, hname⟩ := ActorLookup.exists_name_of_isConnected hsettled.connected
  have hnameOf : (after start lines).nameOf (after start lines).current = name := by
    rw [Console.nameOf, hname]
    rfl
  refine ⟨name, hname, ?_⟩
  constructor
  · intro hechoes token htoken
    exact not_echoes_of_actAs hnameOf htoken hechoes
  · intro hactAs
    have hline := handleLine_talk (c := after start lines) h hactAs
    rw [hnameOf] at hline
    exact ⟨by rw [hline], by rw [hline], by rw [hline], by rw [hline]⟩

theorem echoes_iff_whoever : ∃ start, Console.start {} = .ok start ∧
    IsTalk (Text.trim " :whoever ".toList) ∧
    Echoes (after start [":as bob"]) "Bob" " :whoever " := by
  obtain ⟨start, hstart, hroster⟩ : ∃ start, Console.start {} = .ok start ∧
      start.world.roster = Roster.ofList demoActors := ⟨_, rfl, rfl⟩
  have htrim : Text.trim " :whoever ".toList = ":whoever".toList := by decide
  have htalk : IsTalk (Text.trim " :whoever ".toList) := by
    rw [htrim]
    exact ⟨by decide, by simp, by decide, by decide, by simp⟩
  obtain ⟨name, hname, hechoes⟩ := echoes_iff hstart [":as bob"] " :whoever " htalk
  obtain ⟨-, -, hactAs, -⟩ := console_settled hstart [] ":as bob"
  have hcurrent : (after start [":as bob"]).current = 1 := by
    change ((after start []).handleLine ":as bob").1.current = 1
    rw [hactAs " bob".toList rfl]
    change ((start.world.roster.lookup _).found?).getD _ = 1
    rw [hroster]
    rfl
  have hbob : (after start [":as bob"]).world.roster.name? 1 = some "Bob" := by
    rw [((settled_start hstart).after [":as bob"]).roster, hroster]
    rfl
  rw [hcurrent, hbob] at hname
  cases hname
  refine ⟨start, hstart, htalk, hechoes.mpr ?_⟩
  rw [htrim]
  simp

/-- Alice acts, and `:asbob`, which is talk, makes Bob act. -/
theorem talk_changes_actor : ∃ start, Console.start {} = .ok start ∧
    start.world.roster.name? start.current = some "Alice" ∧
    IsTalk (Text.trim ":asbob".toList) ∧
    (start.handleLine ":asbob").2.lines = ["Now acting as Bob"] ∧
    (start.handleLine ":asbob").1.current = 1 ∧ ¬ Echoes start "Alice" ":asbob" := by
  have htalk : IsTalk (Text.trim ":asbob".toList) := by
    have htrim : Text.trim ":asbob".toList = [':', 'a', 's', 'b', 'o', 'b'] := by decide
    rw [htrim]
    refine ⟨by decide, by simp, by decide, by decide, ?_⟩
    intro blank token hblank h
    have hb : 'b' = blank := by
      simp only [List.cons.injEq] at h
      exact h.2.2.2.1
    rw [← hb] at hblank
    revert hblank
    decide
  obtain ⟨start, hstart, hname, hlines, hbefore, hafter⟩ : ∃ start, Console.start {} = .ok start ∧
      start.world.roster.name? start.current = some "Alice" ∧
      (start.handleLine ":asbob").2.lines = ["Now acting as Bob"] ∧
      start.current = 0 ∧ (start.handleLine ":asbob").1.current = 1 := ⟨_, rfl, rfl, rfl, rfl, rfl⟩
  refine ⟨start, hstart, hname, htalk, hlines, hafter, ?_⟩
  intro hechoes
  have hcurrent := hechoes.current
  rw [hbefore, hafter] at hcurrent
  exact absurd hcurrent (by decide)

end

end SlashCommands.Proofs.Talk
