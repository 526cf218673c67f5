import SlashCommands.Proofs.ActorLookup
import SlashCommands.Proofs.Conversion
import SlashCommands.Proofs.Dispatching
import SlashCommands.Proofs.LongestMatch

namespace SlashCommands.Proofs.TypedLine

open ActorLookup ArgumentChain Conversion Dispatching LongestMatch Matching Text

variable {w : World}

/-- A value of a kind and the token by which it is typed. -/
inductive Written (w : World) : Kind → Value → List Char → Prop
  | integer (n : Int64) : Written w .integer (.int n) (Decimal.integerText n.toInt).toList
  | word (s : String) (hne : s ≠ "") (hs : ∀ c ∈ s.toList, isBlank c = false) :
      Written w .word (.text s) s.toList
  | enumeration (e : Enumeration) (i : Nat) (hi : i < e.variants.length) (hne : e.variants[i] ≠ "")
      (hs : ∀ c ∈ e.variants[i].toList, isBlank c = false)
      (hfirst : ∀ name ∈ e.variants.take i, lowered name ≠ lowered e.variants[i]) :
      Written w (.enumeration e) (.variant i e.variants[i]) e.variants[i].toList
  | actor (id : ActorId) (h : w.roster.isConnected id = true) :
      Written w .actor (.actor id) (Decimal.digits id.toNat)

/-- Values for parameters and the text by which they are typed after a path. The last parameters may
be left out, and take their defaults; a text of several words can be typed for the last one only. -/
inductive Typed (w : World) : List Parameter → List Value → List Char → Prop
  | omitted {ps : List Parameter} {vs : List Value} (h : ps.map (·.default) = vs.map some) :
      Typed w ps vs []
  | value {p : Parameter} {ps : List Parameter} {v : Value} {vs : List Value} {t line : List Char}
      (hv : Written w p.kind v t) (h : Typed w ps vs line) :
      Typed w (p :: ps) (v :: vs) (' ' :: (t ++ line))
  | text {p : Parameter} (hk : p.kind = .text) (s : String) (hne : s ≠ "")
      (hfirst : ∀ c, s.toList.head? = some c → isBlank c = false)
      (hlast : s.toList.getLast? ≠ some ' ') : Typed w [p] [.text s] (' ' :: s.toList)

theorem isBlank_space : isBlank ' ' = true := by decide

theorem toList_ne_nil {s : String} (h : s ≠ "") : s.toList ≠ [] := by
  rwa [Ne, String.toList_eq_nil_iff]

theorem Written.ne_nil {k : Kind} {v : Value} {t : List Char} (h : Written w k v t) : t ≠ [] := by
  cases h with
  | integer n => exact Decimals.integerText_ne_nil n.toInt
  | word s hne => exact toList_ne_nil hne
  | enumeration e i hi hne => exact toList_ne_nil hne
  | actor id => exact Decimals.digits_ne_nil id.toNat

theorem Written.not_isBlank {k : Kind} {v : Value} {t : List Char} (h : Written w k v t) :
    ∀ c ∈ t, isBlank c = false := by
  cases h with
  | integer n => exact fun c => Decimals.not_isBlank_of_mem_integerText
  | word s _ hs => exact hs
  | enumeration e i hi _ hs => exact hs
  | actor id =>
    exact fun c hc => Decimals.not_isBlank_of_isDigit (Decimals.isDigit_of_mem_digits hc)

theorem Written.convert_eq {k : Kind} {v : Value} {t rest : List Char} (h : Written w k v t)
    (hrest : Breaks rest) : k.convert w.directory (t ++ rest) = some (v, rest) := by
  have htoken := token_append h.not_isBlank hrest
  have hafter := afterToken_append h.not_isBlank hrest
  have hne := List.isEmpty_eq_false_iff.mpr h.ne_nil
  cases h with
  | integer n =>
    rw [Kind.convert, byToken_eq_some_iff]
    refine ⟨?_, hafter.symm⟩
    rw [htoken, Decimals.integer?_integerText, Option.bind_some, Decimals.int64?_toInt]
    rfl
  | word s =>
    rw [Kind.convert, byToken_eq_some_iff]
    refine ⟨?_, hafter.symm⟩
    rw [htoken, hne, String.ofList_toList]
    rfl
  | enumeration e i hi _ _ hfirst =>
    rw [Kind.convert, byToken_eq_some_iff]
    refine ⟨?_, hafter.symm⟩
    rw [htoken]
    refine variant?_eq_some_iff.mpr ⟨i, hi, rfl, ?_, ?_⟩
    · rw [String.ofList_toList]
    · rw [String.ofList_toList]
      exact hfirst
  | actor id hid =>
    rw [Kind.convert, byToken_eq_some_iff]
    refine ⟨?_, hafter.symm⟩
    have hlookup : w.directory.lookup (Decimal.digits id.toNat) = .found id :=
      ActorLookup.lookup_digits hid
    rw [htoken, Kind.actor?, hne, hlookup]
    rfl

variable {ps : List Parameter} {vs : List Value} {line : List Char}

theorem Typed.eq_nil_or_cons (h : Typed w ps vs line) : line = [] ∨ ∃ tail, line = ' ' :: tail := by
  cases h with
  | omitted => exact .inl rfl
  | value => exact .inr ⟨_, rfl⟩
  | text => exact .inr ⟨_, rfl⟩

theorem Typed.breaks (h : Typed w ps vs line) : Breaks line := by
  obtain rfl | ⟨tail, rfl⟩ := h.eq_nil_or_cons
  · intro c hc
    cases hc
  · intro c hc
    cases hc
    exact isBlank_space

theorem Typed.getLast?_ne (h : Typed w ps vs line) : line.getLast? ≠ some ' ' := by
  induction h with
  | omitted => exact nofun
  | @value p ps v vs t line hv _ ih =>
    rw [← List.singleton_append, ← List.append_assoc, List.getLast?_append]
    cases hl : line.getLast? with
    | some c =>
      rw [Option.some_or, ← hl]
      exact ih
    | none =>
      rw [Option.none_or, List.getLast?_append_of_ne_nil _ hv.ne_nil]
      intro hlast
      have hspace := hv.not_isBlank ' ' (List.mem_of_getLast? hlast)
      rw [isBlank_space] at hspace
      cases hspace
  | text _ s hne _ hlast =>
    rw [← List.singleton_append, List.getLast?_append_of_ne_nil _ (toList_ne_nil hne)]
    exact hlast

theorem trimStart_space_append {t : List Char} (hne : t ≠ [])
    (ht : ∀ c, t.head? = some c → isBlank c = false) (rest : List Char) :
    trimStart (' ' :: (t ++ rest)) = t ++ rest := by
  obtain ⟨c, t, rfl⟩ := List.exists_cons_of_ne_nil hne
  rw [trimStart, List.dropWhile_cons_of_pos isBlank_space, List.cons_append]
  exact List.dropWhile_cons_of_neg (by rw [ht c rfl]; exact Bool.false_ne_true)

theorem Typed.values?_eq (h : Typed w ps vs line) :
    Arguments.values? w.directory ps line = some vs := by
  induction h with
  | omitted h => exact values?_nil_text_iff.mpr h
  | @value p ps v vs t line hv h ih =>
    have htrim : trimStart (' ' :: (t ++ line)) = t ++ line :=
      trimStart_space_append hv.ne_nil (fun c hc => hv.not_isBlank c (List.mem_of_head? hc)) line
    rw [values?_of_text (by simp [htrim, hv.ne_nil]), htrim, hv.convert_eq h.breaks,
      Option.bind_some, ih]
    rfl
  | @text p hk s hne hfirst _ =>
    have htrim := trimStart_space_append (toList_ne_nil hne) hfirst []
    rw [List.append_nil] at htrim
    have hread : p.kind.convert w.directory s.toList = some (.text s, []) := by
      rw [hk, Kind.convert, List.isEmpty_eq_false_iff.mpr (toList_ne_nil hne), String.ofList_toList]
      rfl
    rw [values?_of_text (by rw [htrim]; exact toList_ne_nil hne), htrim, hread]
    rfl

theorem dropWhile_space {cs : List Char} (h : cs.head? ≠ some ' ') :
    cs.dropWhile (· == ' ') = cs := by
  cases cs with
  | nil => rfl
  | cons c cs =>
    refine List.dropWhile_cons_of_neg ?_
    rw [beq_iff_eq]
    rintro rfl
    exact h rfl

theorem trimSpaces_eq_self {cs : List Char} (hfirst : cs.head? ≠ some ' ')
    (hlast : cs.getLast? ≠ some ' ') : trimSpaces cs = cs := by
  rw [trimSpaces, dropWhile_space hfirst, dropWhile_space, List.reverse_reverse]
  rw [List.head?_reverse]
  exact hlast

/-- A line typed with a path leaves the text of the values after the path. -/
theorem Typed.selects (h : Typed w ps vs line) {c : Command} {path : String} (hp : path ∈ c.paths)
    (hne : path ≠ "") (hfirst : path.toList.head? ≠ some ' ')
    (hlast : path.toList.getLast? ≠ some ' ') : Selects c path (path.toList ++ line) line := by
  have htrim : trimSpaces (path.toList ++ line) = path.toList ++ line := by
    apply trimSpaces_eq_self
    · rw [List.head?_append_of_ne_nil _ (toList_ne_nil hne)]
      exact hfirst
    · rw [List.getLast?_append]
      cases hl : line.getLast? with
      | none => exact hlast
      | some c =>
        rw [Option.some_or, ← hl]
        exact h.getLast?_ne
  refine ⟨hp, ?_⟩
  rw [htrim]
  exact fits_append c.ignoreCase path.toList h.eq_nil_or_cons

/-- Typing a path and the texts of values runs the handler on these values, as long as no other path
that fits the line is as long. -/
theorem dispatch_typed (d : Dispatcher) (w : World) (a : ActorId) {c : Command}
    (hc : c ∈ d.registry.commands) (ha : Allowed c w.directory a) {path : String}
    (hp : path ∈ c.paths) (hne : path ≠ "") (hfirst : path.toList.head? ≠ some ' ')
    (hlast : path.toList.getLast? ≠ some ' ') {args : List Value} {line : List Char}
    (ht : Typed w c.parameters args line)
    (hothers : ∀ c' ∈ d.registry.commands, ∀ path' rest,
      Selects c' path' (path.toList ++ line) rest → (c' ≠ c ∨ path' ≠ path) →
        path'.length < path.length) :
    let report := d.dispatch w.directory a (.ofList (path.toList ++ line))
    let reply := c.handler.run w.directory (.actor a :: args)
    (∃ handled, report.outcome = .executed handled ∧ Answers c reply.value handled) ∧
      report.calls = [⟨c, .actor a :: args⟩] ∧
      report.messages =
        (c.permission.elim [] fun check => (check.run w.directory [.actor a]).messages) ++
          reply.messages := by
  intro report reply
  have hfind : d.registry.find (String.ofList (path.toList ++ line)).toList =
      some ⟨c, path, line⟩ := by
    rw [String.toList_ofList]
    exact find_of_others_shorter hc (ht.selects hp hne hfirst hlast) hothers
  have hcalls : report.calls = [⟨c, .actor a :: args⟩] :=
    congrArg Report.calls (dispatch_of_parsed hfind ha ht.values?_eq)
  obtain ⟨houtcome, hmessages⟩ := ran_of_mem_calls (hcalls ▸ List.mem_singleton_self _)
  exact ⟨houtcome, hcalls, hmessages⟩

theorem dispatch_typed_kick : ∃ c, guarded.registry.commands = [c] ∧
    let report := guarded.dispatch pair.directory 1 "admin kick 7 too loud"
    report.outcome = .executed true ∧
      report.calls = [⟨c, [.actor 1, .actor 7, .text "too loud"]⟩] ∧
      report.messages = [⟨7, .scarlet, "You were kicked by Ann: too loud"⟩,
        ⟨1, .grey, "Kicked Bob (too loud)"⟩] := by
  obtain ⟨c, hcommands, hcheck, hhandler, hparameters, hpaths, -⟩ := exists_kick
  have hallowed : Allowed c pair.directory 1 := (allowed_iff_of_check hcheck).mpr rfl
  have htyped : Typed pair c.parameters [.actor 7, .text "too loud"]
      (' ' :: (Decimal.digits 7 ++ ' ' :: "too loud".toList)) := by
    rw [hparameters]
    refine .value (.actor 7 rfl) (.text rfl "too loud" (by decide) ?_ (by decide))
    intro c hc
    cases hc
    rfl
  have hothers : ∀ c' ∈ guarded.registry.commands, ∀ path rest,
      Selects c' path ("admin kick".toList ++ ' ' :: (Decimal.digits 7 ++ ' ' :: "too loud".toList))
        rest → (c' ≠ c ∨ path ≠ "admin kick") → path.length < "admin kick".length := by
    intro c' hc' path rest hs hne
    obtain rfl : c' = c := by simpa [hcommands] using hc'
    obtain rfl | rfl : path = "kick" ∨ path = "admin kick" := by simpa [hpaths] using hs.1
    · decide
    · exact absurd rfl (hne.resolve_left (· rfl))
  obtain ⟨⟨handled, houtcome, hanswers⟩, hcalls, hmessages⟩ := dispatch_typed guarded pair 1
    (by simp [hcommands]) hallowed (by simp [hpaths]) (by decide) (by decide) (by decide) htyped
    hothers
  rw [hhandler] at hanswers hmessages
  rw [hcheck] at hmessages
  have hanswers : Answers c (.bool true) handled := hanswers
  obtain rfl : handled = true := by cases hanswers <;> rfl
  exact ⟨c, hcommands, houtcome, hcalls, hmessages⟩

end SlashCommands.Proofs.TypedLine
