import SlashCommands.Proofs.ArgumentTypes
import SlashCommands.Proofs.HelpPages
import SlashCommands.Proofs.Startup

namespace SlashCommands.Proofs.DemoAnswers

open ArgumentTypes ConsoleRun DemoCommands Dispatching HelpPages LongestMatch Registration
  RegistrationOrder Startup

/-- What a command, given by its name, answers to values of the types of its inputs. -/
inductive Answered (rows : List (String × String)) (dir : Directory) :
    String → List Value → Reply → Prop
  | help (player : ActorId) (page : Int64) {p : Nat} (h : IsShown rows page p) :
      Answered rows dir "help" [.actor player, .int page]
        ⟨.bool true, ⟨player, .white, s!"Commands (page {p}/{lastPage rows}):"⟩ ::
          (pageRows rows p).map fun row => ⟨player, .grey,
            if row.2 = "" then s!"  /{row.1}" else s!"  /{row.1} - {row.2}"⟩⟩
  | me (player : ActorId) (action : String) :
      Answered rows dir "me" [.actor player, .text action]
        ⟨.bool true, [⟨player, Demo.purple, s!"* {Demo.nameOf dir player} {action}"⟩]⟩
  | pm (player target : ActorId) (message : String) :
      Answered rows dir "pm" [.actor player, .actor target, .text message]
        ⟨.bool true, [
          ⟨target, Demo.yellow, s!"PM from {Demo.nameOf dir player}: {message}"⟩,
          ⟨player, Demo.yellow, s!"PM to {Demo.nameOf dir target}: {message}"⟩]⟩
  | teleport (player target : ActorId) :
      Answered rows dir "tp" [.actor player, .actor target]
        ⟨.bool true, [⟨player, .lime, s!"Teleported to {Demo.nameOf dir target}"⟩]⟩
  | weather (player : ActorId) (i : Nat) (h : i < Demo.weathers.variants.length) :
      Answered rows dir "weather" [.actor player, .variant i Demo.weathers.variants[i]]
        ⟨.unit, [⟨player, .lime, s!"Weather set to {Demo.weathers.variants[i]}"⟩]⟩
  | painted (player : ActorId) (r g b : Int64) (h : ∀ c ∈ [r, g, b], 0 ≤ c ∧ c ≤ 255) :
      Answered rows dir "color" [.actor player, .int r, .int g, .int b]
        ⟨.bool true, [⟨player, .lime, s!"Vehicle color set to {r} {g} {b}"⟩]⟩
  | unpainted (player : ActorId) (r g b : Int64) (h : ¬ ∀ c ∈ [r, g, b], 0 ≤ c ∧ c ≤ 255) :
      Answered rows dir "color" [.actor player, .int r, .int g, .int b]
        ⟨.bool true, [⟨player, .lime, "Color channels must be between 0 and 255."⟩]⟩
  | vehicleSpawn (player : ActorId) (i : Nat) (h : i < Demo.vehicleModels.variants.length)
      (color : Int64) :
      Answered rows dir "spawn"
        [.actor player, .variant i Demo.vehicleModels.variants[i], .int color]
        ⟨.bool true, [⟨player, .lime,
          s!"Spawned a {Demo.vehicleModels.variants[i]} (color {color})"⟩]⟩
  | kick (player target : ActorId) (reason : String) :
      Answered rows dir "kick" [.actor player, .actor target, .text reason]
        ⟨.bool true, [
          ⟨target, .scarlet, s!"You were kicked by {Demo.nameOf dir player}: {reason}"⟩,
          ⟨player, .grey, s!"Kicked {Demo.nameOf dir target} ({reason})"⟩]⟩
  | fleetRepair (player : ActorId) :
      Answered rows dir "repair" [.actor player] ⟨.unit, [⟨player, .lime, "Fleet repaired."⟩]⟩

/-- An input that is read by the rule for its type, or as the rest of the line if it is a text, and
whose default is of its type. -/
def SoundInput (input : Input) : Prop :=
  (input.kind = none ∨ input.kind = some .text ∧ input.type = .text) ∧
    ∀ v, input.default = some v → OfDeclaredType input v

section

variable {rows : List (String × String)} {isAdmin : ActorId → Bool} {dir : Directory}
  {decl : Declaration} {c : Command} {args : List Value} {reply : Reply} {name : String}

theorem Answered.handled (h : Answered rows dir name args reply) (c : Command) :
    c.handled reply.value = true := by
  cases h <;> simp [Command.handled, Value.bool?]

theorem Answered.messages_ne_nil (h : Answered rows dir name args reply) : reply.messages ≠ [] := by
  cases h <;> exact List.cons_ne_nil _ _

theorem soundInput_of_mem (h : decl ∈ Demo.declarations isAdmin rows) :
    ∀ input ∈ decl.handler.signature.inputs, SoundInput input := by
  cases declared_of_mem h
  all_goals
    simp [SoundInput, OfDeclaredType, OfType.integer, OfType.text, Demo.help, Demo.me, Demo.pm,
      Demo.teleport, Demo.weather, Demo.vehicleColor, Demo.vehicleSpawn, Demo.kick,
      Demo.fleetRepair, Demo.handler, Demo.notifier, Demo.restInput]

theorem gives_of_soundInput {input : Input} {p : Parameter} (h : SoundInput input)
    (hp : input.parameter? .builtin = some p) : Gives p.kind input.type := by
  obtain hnone | ⟨htext, htype⟩ := h.1
  · exact gives_of_kind_none hnone hp
  · rw [Input.parameter?, htext] at hp
    cases hp
    rw [htype]
    exact gives_text

theorem answered_help (player : ActorId) (page : Int64) :
    Answered rows dir "help" [.actor player, .int page]
      ((Demo.help rows).handler.run dir [.actor player, .int page]) := by
  obtain ⟨p, hp, hrun⟩ := exists_run_help rows dir player page
  rw [hrun]
  exact .help player page hp

theorem answered_color (player : ActorId) (r g b : Int64) :
    Answered rows dir "color" [.actor player, .int r, .int g, .int b]
      ⟨.bool true, [⟨player, .lime, Demo.paintLine r g b⟩]⟩ := by
  have hall : ([r, g, b].all fun c => 0 ≤ c && c ≤ 255) = true ↔
      ∀ c ∈ [r, g, b], 0 ≤ c ∧ c ≤ 255 := by
    simp only [List.all_eq_true, Bool.and_eq_true, decide_eq_true_eq]
  rw [Demo.paintLine]
  by_cases h : ∀ c ∈ [r, g, b], 0 ≤ c ∧ c ≤ 255
  · rw [if_pos (hall.mpr h)]
    exact .painted player r g b h
  · rw [if_neg (mt hall.mp h)]
    exact .unpainted player r g b h

theorem answered_of_mem (h : decl ∈ Demo.declarations isAdmin rows)
    (hargs : List.Forall₂ OfDeclaredType decl.handler.signature.inputs args) :
    Answered rows dir decl.name args (decl.handler.run dir args) := by
  cases declared_of_mem h with
  | help =>
    obtain _ | ⟨⟨⟩, _ | ⟨⟨⟩, _ | _⟩⟩ := hargs
    exact answered_help _ _
  | me =>
    obtain _ | ⟨⟨⟩, _ | ⟨⟨⟩, _ | _⟩⟩ := hargs
    exact .me _ _
  | pm =>
    obtain _ | ⟨⟨⟩, _ | ⟨⟨⟩, _ | ⟨⟨⟩, _ | _⟩⟩⟩ := hargs
    exact .pm _ _ _
  | teleport =>
    obtain _ | ⟨⟨⟩, _ | ⟨⟨⟩, _ | _⟩⟩ := hargs
    exact .teleport _ _
  | weather =>
    obtain _ | ⟨⟨⟩, _ | ⟨⟨⟩, _ | _⟩⟩ := hargs
    exact .weather _ _ _
  | vehicleColor =>
    obtain _ | ⟨⟨⟩, _ | ⟨⟨⟩, _ | ⟨⟨⟩, _ | ⟨⟨⟩, _ | _⟩⟩⟩⟩ := hargs
    exact answered_color _ _ _ _
  | vehicleSpawn =>
    obtain _ | ⟨⟨⟩, _ | ⟨⟨⟩, _ | ⟨⟨⟩, _ | _⟩⟩⟩ := hargs
    exact .vehicleSpawn _ _ _ _
  | kick =>
    obtain _ | ⟨⟨⟩, _ | ⟨⟨⟩, _ | ⟨⟨⟩, _ | _⟩⟩⟩ := hargs
    exact .kick _ _ _
  | fleetRepair =>
    obtain _ | ⟨⟨⟩, _ | _⟩ := hargs
    exact .fleetRepair _

theorem answered_of_values? (h : c ∈ commandsOf .builtin (Demo.declarations isAdmin rows))
    (a : ActorId) {rest : List Char} (hargs : Arguments.values? dir c.parameters rest = some args) :
    Answered rows dir c.name (.actor a :: args) (c.handler.run dir (.actor a :: args)) := by
  obtain ⟨decl, hdecl, hok⟩ := exists_declaration_of_mem h
  obtain ⟨hname, hhandler⟩ : c.name = decl.name ∧ c.handler = decl.handler := by
    obtain ⟨-, -, -, first, inputs, parameters, -, -, -, rfl⟩ := ofDeclaration_eq_ok hok
    exact ⟨trimmed_name hdecl, rfl⟩
  have hsound := soundInput_of_mem hdecl
  rw [← hhandler] at hsound
  obtain ⟨given, omitted, values, defaults, hinputs, hvs, -, hvalues, hdefaults⟩ :=
    exists_given_of_ofDeclaration a hok
      (fun input hinput p => gives_of_soundInput (hsound input hinput)) hargs
  have htyped : List.Forall₂ OfDeclaredType decl.handler.signature.inputs (.actor a :: args) := by
    rw [← hhandler, hinputs, hvs, forall₂_ofDeclaredType_iff hvalues hdefaults]
    intro input hinput
    exact (hsound input (hinputs ▸ List.mem_append_right given hinput)).2
  rw [hname, hhandler]
  exact answered_of_mem hdecl htyped

end

/-- The report of a dispatch whose handlers got values of the types that they declare. Whatever is
dealt with sends a message, and nothing else does. -/
structure Served (rows : List (String × String)) (dir : Directory) (r : Report) : Prop where
  outcome_ne : r.outcome ≠ .executed false
  answered : ∀ call ∈ r.calls, ∃ reply, call.command.handler.run dir call.args = reply ∧
    Answered rows dir call.command.name call.args reply ∧ r.messages = reply.messages
  messages_eq_nil_iff : r.messages = [] ↔ r.outcome.handled = false

section

variable {rows : List (String × String)} {isAdmin : ActorId → Bool} {d : Dispatcher}

theorem answered_of_mem_calls
    (hd : d.registry.commands = commandsOf .builtin (Demo.declarations isAdmin rows))
    {dir : Directory} {a : ActorId} {text : String} {call : Call}
    (hcall : call ∈ (d.dispatch dir a text).calls) :
    ∃ reply, call.command.handler.run dir call.args = reply ∧
      Answered rows dir call.command.name call.args reply ∧
      (d.dispatch dir a text).messages = reply.messages := by
  have hran := ran_of_mem_calls hcall
  obtain ⟨m, args, hm, -, hparsed, rfl⟩ := exists_parsed_of_mem_calls hcall
  have hmem : m.command ∈ commandsOf .builtin (Demo.declarations isAdmin rows) :=
    hd ▸ (selects_of_find hm).1
  refine ⟨_, rfl, answered_of_values? hmem a hparsed, ?_⟩
  rw [hran.messages, ← checkMessages_eq, checkMessages_eq_nil (demonstrated_of_mem hmem),
    List.nil_append]

theorem served_dispatch
    (hd : d.registry.commands = commandsOf .builtin (Demo.declarations isAdmin rows))
    (dir : Directory) (a : ActorId) (text : String) :
    Served rows dir (d.dispatch dir a text) := by
  suffices h : (d.dispatch dir a text).outcome ≠ .executed false ∧
      ((d.dispatch dir a text).messages = [] ↔ (d.dispatch dir a text).outcome.handled = false) from
    ⟨h.1, fun _ => answered_of_mem_calls hd, h.2⟩
  have hmem {m : Match} (hm : d.registry.find text.toList = some m) :
      m.command ∈ commandsOf .builtin (Demo.declarations isAdmin rows) :=
    hd ▸ (selects_of_find hm).1
  have hsilent {m : Match} (hm : d.registry.find text.toList = some m) :
      m.command.checkMessages dir a = [] :=
    checkMessages_eq_nil (demonstrated_of_mem (hmem hm)) dir
  cases course d dir a text with
  | unmatched hm =>
    rw [dispatch_of_find_none hm]
    simp [Outcome.handled]
  | denied hm hallowed =>
    rw [dispatch_of_denied hm hallowed, hsilent hm]
    simp [Outcome.handled]
  | refused hm hallowed hparsed =>
    rw [dispatch_of_refused hm hallowed hparsed, hsilent hm, Dispatcher.refuse]
    cases d.usage <;> simp [Outcome.handled]
  | parsed hm hallowed hparsed =>
    have hanswered := answered_of_values? (hmem hm) a hparsed
    rw [dispatch_of_parsed hm hallowed hparsed, hsilent hm, hanswered.handled]
    simp [Outcome.handled, hanswered.messages_ne_nil]

end

section

variable {isAdmin : ActorId → Bool} {rows rows' : List (String × String)} {r r' : Registry}

theorem declarations_eq_cons (isAdmin : ActorId → Bool) (rows : List (String × String)) :
    Demo.declarations isAdmin rows = Demo.help rows :: (Demo.declarations isAdmin []).tail := rfl

theorem exists_help_of_commands
    (h : r.commands = commandsOf .builtin (Demo.declarations isAdmin rows)) :
    ∃ c, r.commands = c :: commandsOf .builtin (Demo.declarations isAdmin []).tail ∧
      (c.path, c.description) = ("help", "List commands") ∧
      c.handler = (Demo.help rows).handler := by
  have hmem : Demo.help rows ∈ Demo.declarations isAdmin rows := List.mem_cons_self
  obtain ⟨c, hc⟩ := exists_command_of_mem hmem
  refine ⟨c, ?_, ?_⟩
  · rw [h, declarations_eq_cons]
    exact commandsOf_cons (d := {}) hc
  · obtain ⟨-, -, -, first, inputs, parameters, -, -, -, rfl⟩ := ofDeclaration_eq_ok hc
    exact ⟨congrArg (·, "List commands") (trimmed_name hmem), rfl⟩

theorem listing_eq_of_commands
    (h : r.commands = commandsOf .builtin (Demo.declarations isAdmin rows))
    (h' : r'.commands = commandsOf .builtin (Demo.declarations isAdmin rows')) :
    r.listing = r'.listing := by
  obtain ⟨c, hcommands, hc, -⟩ := exists_help_of_commands h
  obtain ⟨c', hcommands', hc', -⟩ := exists_help_of_commands h'
  rw [Registry.listing, Registry.listing, hcommands, hcommands', List.map_cons, List.map_cons, hc,
    hc']

theorem commands_eq_of_helpfulRegistry (h : Console.helpfulRegistry isAdmin = .ok r) :
    r.commands = commandsOf .builtin (Demo.declarations isAdmin r.listing) := by
  obtain ⟨first, hfirst, h⟩ := exists_of_bind_eq_ok h
  rw [listing_eq_of_commands (commands_of_registry h) (commands_of_registry hfirst)]
  exact commands_of_registry h

end

section

variable {rows : List (String × String)} {config : Config} {start c : Console} {line : String}
  {text : List Char}

theorem unknown_not_mem {r : Roster} {messages : List Message} {shown : List String}
    (h : List.Forall₂ (Shows r) messages shown) : "SERVER: Unknown command." ∉ shown := by
  induction h with
  | nil => exact List.not_mem_nil
  | cons hline _ ih =>
    obtain ⟨name, -, rfl⟩ := hline
    intro hmem
    obtain heq | hmem := List.mem_cons.mp hmem
    · have hhead := congrArg (·.toList.head?) heq
      simp [toString] at hhead
    · exact ih hmem

theorem command_lines (hstart : Console.start config = .ok start) (h : Settled start c)
    (hserved : Served rows c.world.directory (dispatched c text)) :
    let out := (c.command (.ofList text)).2.lines
    (dispatched c text).messages = [] ∧ out = ["SERVER: Unknown command."] ∨
      out ≠ [] ∧ "SERVER: Unknown command." ∉ out ∧
        List.Forall₂ (Shows c.world.roster) (dispatched c text).messages out := by
  intro out
  obtain ⟨shown, hshown, hlines⟩ := exists_shown hstart h text
  have hout : out = shown ++
      if (dispatched c text).outcome.handled then [] else ["SERVER: Unknown command."] := hlines
  by_cases hmessages : (dispatched c text).messages = []
  · have hunhandled := hserved.messages_eq_nil_iff.mp hmessages
    rw [hmessages, List.forall₂_nil_left_iff] at hshown
    refine .inl ⟨hmessages, ?_⟩
    rw [hout, hshown, hunhandled]
    rfl
  · have hhandled : (dispatched c text).outcome.handled = true := by
      simpa using mt hserved.messages_eq_nil_iff.mpr hmessages
    rw [hhandled, if_pos rfl, List.append_nil] at hout
    rw [hout]
    refine .inr ⟨?_, unknown_not_mem hshown, hshown⟩
    rintro rfl
    exact hmessages (List.forall₂_nil_right_iff.mp hshown)

theorem lines_ne_nil (hconnected : c.world.roster.isConnected c.current = true)
    (hblank : Text.trim line.toList ≠ [])
    (hcommand : ∀ text, Text.trim line.toList ≠ '/' :: text) :
    (c.handleLine line).2.lines ≠ [] := by
  rw [Console.handleLine]
  split
  · contradiction
  · exact List.cons_ne_nil _ _
  · obtain ⟨a, ha, -⟩ := ActorLookup.isConnected_iff.mp hconnected
    exact List.ne_nil_of_mem (List.mem_map_of_mem ha)
  · rename_i text htext
    exact absurd htext (hcommand text)
  · exact List.cons_ne_nil _ _

/-- After any lines, a command line runs handlers on values of the types that they declare only, so
each run is dealt with and sends a message. The line is answered by the messages sent, or if there
are none, by the one line that the command is unknown. Only blank lines are not answered at all. -/
theorem line_answered (hstart : Console.start config = .ok start) (lines : List String)
    (line : String) :
    let c := after start lines
    let out := (c.handleLine line).2.lines
    (∀ text, Text.trim line.toList = '/' :: text →
      Served c.dispatcher.registry.listing c.world.directory (dispatched c text) ∧
        ((dispatched c text).messages = [] ∧ out = ["SERVER: Unknown command."] ∨
          out ≠ [] ∧ "SERVER: Unknown command." ∉ out ∧
            List.Forall₂ (Shows c.world.roster) (dispatched c text).messages out)) ∧
    (out = [] ↔ Text.trim line.toList = []) := by
  intro c out
  have hsettled : Settled start c := (settled_start hstart).after lines
  have hcommands : c.dispatcher.registry.commands = commandsOf .builtin
      (Demo.declarations (Console.isAdminIn (Console.actorsOf config))
        c.dispatcher.registry.listing) := by
    obtain ⟨registry, color, rest, hregistry, -, hdispatcher, -, -⟩ := start_eq_ok hstart
    rw [hsettled.dispatcher, hdispatcher]
    exact commands_eq_of_helpfulRegistry hregistry
  have hserved : ∀ text, Served c.dispatcher.registry.listing c.world.directory
      (dispatched c text) := fun text => served_dispatch hcommands _ _ _
  have hcommand : ∀ text, Text.trim line.toList = '/' :: text →
      (dispatched c text).messages = [] ∧ out = ["SERVER: Unknown command."] ∨
        out ≠ [] ∧ "SERVER: Unknown command." ∉ out ∧
          List.Forall₂ (Shows c.world.roster) (dispatched c text).messages out := by
    intro text htext
    have hout : out = (c.command (.ofList text)).2.lines :=
      congrArg (·.2.lines) (handleLine_command htext)
    rw [hout]
    exact command_lines hstart hsettled (hserved text)
  refine ⟨fun text htext => ⟨hserved text, hcommand text htext⟩, fun hnil => ?_, fun hblank => ?_⟩
  · by_contra hblank
    by_cases hslash : ∃ text, Text.trim line.toList = '/' :: text
    · obtain ⟨text, htext⟩ := hslash
      obtain ⟨-, hunknown⟩ | ⟨hne, -⟩ := hcommand text htext
      · rw [hnil] at hunknown
        cases hunknown
      · exact hne hnil
    · exact lines_ne_nil hsettled.connected hblank (not_exists.mp hslash) hnil
  · change (c.handleLine line).2.lines = []
    rw [Console.handleLine, hblank]

theorem line_answered_spawn : ∃ start, Console.start bobFirst = .ok start ∧
    (dispatched (after start [":as ann"]) "veh spawn".toList).outcome ≠ .executed false ∧
    ((after start [":as ann"]).handleLine "/veh spawn").2.lines ≠ [] ∧
    ((after start [":as ann"]).handleLine "\t").2.lines = [] := by
  obtain ⟨start, hstart⟩ : ∃ start, Console.start bobFirst = .ok start := ⟨_, rfl⟩
  obtain ⟨hcommand, hspawn⟩ := line_answered hstart [":as ann"] "/veh spawn"
  obtain ⟨-, htab⟩ := line_answered hstart [":as ann"] "\t"
  obtain ⟨hserved, -⟩ := hcommand "veh spawn".toList rfl
  refine ⟨start, hstart, hserved.outcome_ne, fun hnil => ?_, htab.mpr rfl⟩
  have hempty := hspawn.mp hnil
  cases hempty

end

end SlashCommands.Proofs.DemoAnswers
