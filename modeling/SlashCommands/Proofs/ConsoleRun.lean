import SlashCommands.Proofs.DemoCommands

namespace SlashCommands.Proofs.ConsoleRun

open DemoCommands RegistrationOrder

def after (c : Console) (lines : List String) : Console :=
  lines.foldl (fun c line => (c.handleLine line).1) c

/-- The dispatch of a command line, given what follows the slash. -/
def dispatched (c : Console) (text : List Char) : Report :=
  c.dispatcher.dispatch c.world.directory c.current (.ofList text)

/-- What no line changes, and what holds between any two lines. -/
structure Settled (start c : Console) : Prop where
  dispatcher : c.dispatcher = start.dispatcher
  roster : c.world.roster = start.world.roster
  outbox : c.world.outbox = []
  connected : c.world.roster.isConnected c.current = true

/-- The printed form of a message, under the name of a connected actor. -/
def Shows (r : Roster) (m : Message) (line : String) : Prop :=
  ∃ name, r.name? m.recipient = some name ∧ line = s!"[{name} {m.color.text}] {m.text}"

section

variable {ε ε' α β : Type}

theorem exists_of_bind_eq_ok {x : Except ε α} {f : α → Except ε β} {b : β}
    (h : x >>= f = .ok b) : ∃ a, x = .ok a ∧ f a = .ok b := by
  cases x with
  | error e => cases h
  | ok a => exact ⟨a, rfl, h⟩

theorem eq_ok_of_mapError_eq_ok {x : Except ε α} {f : ε → ε'} {a : α} (h : x.mapError f = .ok a) :
    x = .ok a := by
  cases x with
  | error e => cases h
  | ok a' =>
    cases h
    rfl

end

section

variable {config : Config} {start : Console} {isAdmin : ActorId → Bool}
  {rows : List (String × String)} {r : Registry}

theorem commands_of_registry (h : Console.registry isAdmin rows = .ok r) :
    r.commands = commandsOf .builtin (Demo.declarations isAdmin rows) := by
  unfold Console.registry at h
  split at h
  · cases h
  · rename_i draft hdraft
    cases h
    have hcommands := commands_registerAll (registerAll_eq_none_iff.mp (congrArg Prod.snd hdraft))
    rw [hdraft, List.nil_append] at hcommands
    exact hcommands

theorem commands_of_helpfulRegistry (h : Console.helpfulRegistry isAdmin = .ok r) :
    ∃ rows, r.commands = commandsOf .builtin (Demo.declarations isAdmin rows) := by
  obtain ⟨first, -, h⟩ := exists_of_bind_eq_ok h
  exact ⟨first.listing, commands_of_registry h⟩

theorem start_eq_ok (h : Console.start config = .ok start) :
    ∃ registry color rest,
      Console.helpfulRegistry (Console.isAdminIn (Console.actorsOf config)) = .ok registry ∧
      config.usage.color? = .ok color ∧
      start.dispatcher = ⟨registry, config.usage.style.format?, color⟩ ∧
      start.world = World.ofActors (Console.actorsOf config) ∧
      start.world.roster.ids = start.current :: rest := by
  rw [Console.start] at h
  obtain ⟨registry, hregistry, h⟩ := exists_of_bind_eq_ok h
  obtain ⟨dispatcher, hdispatcher, h⟩ := exists_of_bind_eq_ok h
  have hsettings := eq_ok_of_mapError_eq_ok hdispatcher
  rw [Dispatcher.ofSettings] at hsettings
  split at h
  · cases h
  · rename_i current rest hids
    cases h
    cases hcolor : config.usage.color? with
    | error e => simp [hcolor, Except.map] at hsettings
    | ok color =>
      simp only [hcolor, Except.map, Except.ok.injEq] at hsettings
      refine ⟨registry, color, rest, eq_ok_of_mapError_eq_ok hregistry, rfl, ?_, rfl, hids⟩
      exact hsettings.symm

theorem demonstrated_of_start (h : Console.start config = .ok start) :
    ∀ c ∈ start.dispatcher.registry.commands,
      Demonstrated (Console.isAdminIn (Console.actorsOf config)) c := by
  obtain ⟨registry, color, rest, hregistry, -, hdispatcher, -, -⟩ := start_eq_ok h
  obtain ⟨rows, hcommands⟩ := commands_of_helpfulRegistry hregistry
  rw [hdispatcher]
  intro c hc
  exact demonstrated_of_mem (hcommands ▸ hc)

theorem settled_start (h : Console.start config = .ok start) : Settled start start := by
  obtain ⟨registry, color, rest, -, -, -, hworld, hids⟩ := start_eq_ok h
  refine ⟨rfl, rfl, by rw [hworld]; rfl, ?_⟩
  obtain ⟨a, ha, hid⟩ := List.mem_map.mp (hids ▸ List.mem_cons_self : start.current ∈ _)
  exact ActorLookup.isConnected_iff.mpr ⟨a, ha, hid⟩

end

section

variable {config : Config} {start c : Console} {line : String} {token text : List Char}

theorem handleLine_actAs (h : Text.trim line.toList = ':' :: 'a' :: 's' :: token) :
    (c.handleLine line).1 = (c.actAs (Text.trim token)).1 := by
  rw [Console.handleLine, h]
  rfl

theorem handleLine_command (h : Text.trim line.toList = '/' :: text) :
    c.handleLine line = c.command (.ofList text) := by
  rw [Console.handleLine, h]
  rfl

theorem handleLine_other (hactAs : ∀ token, Text.trim line.toList ≠ ':' :: 'a' :: 's' :: token)
    (hcommand : ∀ text, Text.trim line.toList ≠ '/' :: text) : (c.handleLine line).1 = c := by
  rw [Console.handleLine]
  split
  · rfl
  · rename_i token htoken
    exact absurd htoken (hactAs token)
  · rfl
  · rename_i text htext
    exact absurd htext (hcommand text)
  · rfl

theorem actAs_fst (c : Console) (token : List Char) : (c.actAs token).1 =
    { c with current := (c.world.roster.lookup token).found?.getD c.current } := by
  rw [Console.actAs]
  cases c.world.roster.lookup token <;> rfl

theorem command_fst (c : Console) (text : String) :
    (c.command text).1 = { c with world := { c.world with outbox := [] } } := rfl

theorem Settled.actAs (h : Settled start c) (token : List Char) :
    Settled start (c.actAs token).1 := by
  rw [actAs_fst]
  refine ⟨h.dispatcher, h.roster, h.outbox, ?_⟩
  cases hlookup : c.world.roster.lookup token with
  | found id => exact ActorLookup.isConnected_of_lookup hlookup
  | ambiguous => exact h.connected
  | notFound => exact h.connected

theorem Settled.handleLine (h : Settled start c) (line : String) :
    Settled start (c.handleLine line).1 := by
  by_cases hactAs : ∃ token, Text.trim line.toList = ':' :: 'a' :: 's' :: token
  · obtain ⟨token, htoken⟩ := hactAs
    rw [handleLine_actAs htoken]
    exact h.actAs (Text.trim token)
  · by_cases hcommand : ∃ text, Text.trim line.toList = '/' :: text
    · obtain ⟨text, htext⟩ := hcommand
      rw [handleLine_command htext, command_fst]
      exact ⟨h.dispatcher, h.roster, rfl, h.connected⟩
    · rw [handleLine_other (not_exists.mp hactAs) (not_exists.mp hcommand)]
      exact h

theorem after_append_singleton (c : Console) (lines : List String) (line : String) :
    after c (lines ++ [line]) = ((after c lines).handleLine line).1 := by
  simp [after]

theorem Settled.after (h : Settled start c) (lines : List String) :
    Settled start (after c lines) := by
  induction lines generalizing c with
  | nil => exact h
  | cons line lines ih => exact ih (h.handleLine line)

theorem Settled.demonstrated (h : Settled start c) (hstart : Console.start config = .ok start) :
    ∀ command ∈ c.dispatcher.registry.commands,
      Demonstrated (Console.isAdminIn (Console.actorsOf config)) command := by
  rw [h.dispatcher]
  exact demonstrated_of_start hstart

theorem shows_messageLine {m : Message} (h : c.world.roster.isConnected m.recipient = true) :
    Shows c.world.roster m (c.messageLine m) := by
  obtain ⟨name, hname⟩ := ActorLookup.exists_name_of_isConnected h
  refine ⟨name, hname, ?_⟩
  rw [Console.messageLine, hname]
  rfl

theorem exists_shown (hstart : Console.start config = .ok start)
    (h : Settled start c) (text : List Char) :
    ∃ shown, List.Forall₂ (Shows c.world.roster) (dispatched c text).messages shown ∧
      (c.command (.ofList text)).2.lines = shown ++
        if (dispatched c text).outcome.handled then [] else ["SERVER: Unknown command."] := by
  refine ⟨(dispatched c text).messages.map c.messageLine, ?_, ?_⟩
  · rw [List.forall₂_map_right_iff, List.forall₂_same]
    intro m hm
    exact shows_messageLine (isConnected_recipient (h.demonstrated hstart) h.connected hm)
  · have houtbox : (c.world.send (dispatched c text).messages).outbox =
        (dispatched c text).messages := by
      rw [World.send, h.outbox, List.nil_append]
    rw [← houtbox]
    rfl

/-- Between any two lines nothing waits in the outbox, the roster is the one of the start, and who
acts is connected. Who acts changes only by `:as`, to the actor that the rest of the line finds. A
command prints the messages that it sends in their order, and that it is unknown exactly if it is
not dealt with. -/
theorem console_settled (hstart : Console.start config = .ok start) (lines : List String)
    (line : String) :
    let c := after start lines
    let c' := (c.handleLine line).1
    Settled start c ∧
    (∃ name, c.world.roster.name? c.current = some name ∧ c.nameOf c.current = name ∧
      Demo.nameOf c.world.directory c.current = name) ∧
    (∀ token, Text.trim line.toList = ':' :: 'a' :: 's' :: token →
      c'.current = (c.world.roster.lookup (Text.trim token)).found?.getD c.current) ∧
    ((∀ token, Text.trim line.toList ≠ ':' :: 'a' :: 's' :: token) → c'.current = c.current) ∧
    ∀ text, Text.trim line.toList = '/' :: text →
      ∃ shown, List.Forall₂ (Shows c.world.roster) (dispatched c text).messages shown ∧
        (c.handleLine line).2.lines = shown ++
          if (dispatched c text).outcome.handled then [] else ["SERVER: Unknown command."] := by
  intro c c'
  have hsettled : Settled start c := (settled_start hstart).after lines
  obtain ⟨name, hname⟩ := ActorLookup.exists_name_of_isConnected hsettled.connected
  refine ⟨hsettled, ⟨name, hname, by rw [Console.nameOf, hname]; rfl, ?_⟩, ?_, ?_, ?_⟩
  · change (c.world.roster.name? c.current).getD _ = name
    rw [hname]
    rfl
  · intro token htoken
    change (c.handleLine line).1.current = _
    rw [handleLine_actAs htoken, actAs_fst]
  · intro hactAs
    change (c.handleLine line).1.current = _
    by_cases hcommand : ∃ text, Text.trim line.toList = '/' :: text
    · obtain ⟨text, htext⟩ := hcommand
      rw [handleLine_command htext, command_fst]
    · rw [handleLine_other hactAs (not_exists.mp hcommand)]
  · intro text htext
    rw [handleLine_command htext]
    exact exists_shown hstart hsettled text

def bobFirst : Config := { actors := [⟨1, "Bob", false⟩, ⟨5, "Ann", true⟩] }

theorem console_settled_bob : ∃ start, Console.start bobFirst = .ok start ∧
    Settled start (after start [":as ann", "/me waves"]) ∧
    (after start [":as ann", "/me waves", " :as b "]).current = 1 ∧
    (after start [":as ann", "/me waves", " :as b ", ":as carol"]).current = 1 := by
  obtain ⟨start, hstart, hroster⟩ : ∃ start, Console.start bobFirst = .ok start ∧
      start.world.roster = Roster.ofList bobFirst.actors := ⟨_, rfl, rfl⟩
  have hfound : start.world.roster.lookup (Text.trim " b".toList) = .found 1 := by
    rw [hroster]
    rfl
  have hmissing : start.world.roster.lookup (Text.trim " carol".toList) = .notFound := by
    rw [hroster]
    rfl
  obtain ⟨hann, -, hb, -⟩ := console_settled hstart [":as ann", "/me waves"] " :as b "
  have hbob : (after start [":as ann", "/me waves", " :as b "]).current = 1 := by
    change (after start ([":as ann", "/me waves"] ++ [" :as b "])).current = 1
    rw [after_append_singleton, hb " b".toList rfl, hann.roster, hfound]
    rfl
  obtain ⟨hsettled, -, hcarol, -⟩ :=
    console_settled hstart [":as ann", "/me waves", " :as b "] ":as carol"
  refine ⟨start, hstart, hann, hbob, ?_⟩
  change (after start ([":as ann", "/me waves", " :as b "] ++ [":as carol"])).current = 1
  rw [after_append_singleton, hcarol " carol".toList rfl, hsettled.roster, hmissing]
  exact hbob

end

end SlashCommands.Proofs.ConsoleRun
