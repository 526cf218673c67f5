import SlashCommands.Program
import SlashCommands.Proofs.Acceptance
import SlashCommands.Proofs.ConsoleRun
import SlashCommands.Proofs.RosterEntries

namespace SlashCommands.Proofs.Startup

open Acceptance (IsRead isRead_iff further parametersOf_of_isRead ofDeclaration_eq)
open ConsoleRun DemoCommands Registration RegistrationOrder RosterEntries Text

def keyOf (decl : Declaration) : String :=
  let path := decl.group.elim (trimmed decl.name) fun g => s!"{g.path} {trimmed decl.name}"
  if decl.ignoreCase then lowered path else path

section

variable {resolve : Resolver} {decl : Declaration} {decls : List Declaration} {c : Command}
  {first : Input} {inputs : List Input}

theorem key_of_ofDeclaration (h : Command.ofDeclaration resolve decl = .ok c) :
    c.key = keyOf decl := by
  obtain ⟨-, -, -, _, _, _, -, -, -, rfl⟩ := ofDeclaration_eq_ok h
  rw [Command.key, Command.path, keyOf]
  cases decl.group <;> rfl

theorem keys_commandsOf (h : ∀ decl ∈ decls, ∃ c, Command.ofDeclaration resolve decl = .ok c) :
    (commandsOf resolve decls).map Command.key = decls.map keyOf := by
  induction decls with
  | nil => rfl
  | cons decl decls ih =>
    obtain ⟨⟨c, hc⟩, hdecls⟩ := List.forall_mem_cons.mp h
    rw [commandsOf_cons (d := { resolver := resolve }) hc, List.map_cons, List.map_cons,
      key_of_ofDeclaration hc, ih hdecls]

theorem exists_ofDeclaration (hname : trimmed decl.name ≠ "")
    (hinputs : decl.handler.signature.inputs = first :: inputs) (hfirst : first.type = .actor)
    (houtput : decl.handler.signature.output = .bool ∨ decl.handler.signature.output = .unit)
    (hfault : decl.permission.bind (·.permissionFault?) = none)
    (hparameters : ∀ i ∈ decl.handler.signature.inputs, ∃ p, i.parameter? resolve = some p) :
    ∃ c, Command.ofDeclaration resolve decl = .ok c := by
  have hread : ∀ i ∈ further decl, IsRead resolve i :=
    fun i hi => isRead_iff.mpr (hparameters i (List.mem_of_mem_tail hi))
  rw [ofDeclaration_eq hname ⟨first, inputs, hinputs, hfirst⟩ houtput, hfault]
  simp only [parametersOf_of_isRead _ hread]
  exact ⟨_, rfl⟩

end

section

variable {isAdmin : ActorId → Bool} {rows : List (String × String)} {decl : Declaration}
  {actors : List Actor} {config : Config} {read : List Char → Option Toml.Entries}
  {source : Option Program.Source}

theorem trimmed_name_ne_empty (h : decl ∈ Demo.declarations isAdmin rows) :
    trimmed decl.name ≠ "" := by
  have hnames : ∀ name ∈ demoNames, trimmed name ≠ "" := by decide +kernel
  exact hnames decl.name (name_mem_demoNames h)

theorem exists_parameter_of_mem (h : decl ∈ Demo.declarations isAdmin rows) :
    ∀ i ∈ decl.handler.signature.inputs, ∃ p, i.parameter? .builtin = some p := by
  cases declared_of_mem h
  all_goals
    simp [Demo.help, Demo.me, Demo.pm, Demo.teleport, Demo.weather, Demo.vehicleColor,
      Demo.vehicleSpawn, Demo.kick, Demo.fleetRepair, Demo.handler, Demo.notifier, Demo.restInput,
      Input.parameter?, Resolver.builtin, Kind.ofType?]

theorem exists_command_of_mem (h : decl ∈ Demo.declarations isAdmin rows) :
    ∃ c, Command.ofDeclaration .builtin decl = .ok c := by
  have hname := trimmed_name_ne_empty h
  have hparameters := exists_parameter_of_mem h
  cases declared_of_mem h with
  | help => exact exists_ofDeclaration hname rfl rfl (.inl rfl) rfl hparameters
  | me => exact exists_ofDeclaration hname rfl rfl (.inl rfl) rfl hparameters
  | pm => exact exists_ofDeclaration hname rfl rfl (.inl rfl) rfl hparameters
  | teleport => exact exists_ofDeclaration hname rfl rfl (.inl rfl) rfl hparameters
  | weather => exact exists_ofDeclaration hname rfl rfl (.inr rfl) rfl hparameters
  | vehicleColor => exact exists_ofDeclaration hname rfl rfl (.inl rfl) rfl hparameters
  | vehicleSpawn => exact exists_ofDeclaration hname rfl rfl (.inl rfl) rfl hparameters
  | kick => exact exists_ofDeclaration hname rfl rfl (.inl rfl) rfl hparameters
  | fleetRepair => exact exists_ofDeclaration hname rfl rfl (.inr rfl) rfl hparameters

theorem keys_declarations (isAdmin : ActorId → Bool) (rows : List (String × String)) :
    (Demo.declarations isAdmin rows).map keyOf =
      ["help", "me", "pm", "tp", "weather", "veh color", "veh spawn", "admin kick",
        "admin fleet repair"] := by
  -- Keys depend neither on who is an administrator nor on what the help shows.
  simp only [Demo.declarations, List.map_cons, keyOf, Demo.help, Demo.kick, Demo.fleetRepair]
  decide +kernel

theorem registrable_declarations (isAdmin : ActorId → Bool) (rows : List (String × String)) :
    Registrable {} (Demo.declarations isAdmin rows) := by
  have hpasses : ∀ decl ∈ Demo.declarations isAdmin rows,
      ∃ c, Command.ofDeclaration .builtin decl = .ok c := fun _ => exists_command_of_mem
  refine ⟨hpasses, ?_, fun c _ => List.not_mem_nil⟩
  rw [keys_commandsOf hpasses, keys_declarations]
  decide

theorem exists_registry (isAdmin : ActorId → Bool) (rows : List (String × String)) :
    ∃ r, Console.registry isAdmin rows = .ok r := by
  have hall := registerAll_eq_none_iff.mpr (registrable_declarations isAdmin rows)
  rw [Console.registry]
  split
  · rename_i hsome
    rw [hsome] at hall
    cases hall
  · exact ⟨_, rfl⟩

theorem exists_helpfulRegistry (isAdmin : ActorId → Bool) :
    ∃ r, Console.helpfulRegistry isAdmin = .ok r := by
  obtain ⟨first, hfirst⟩ := exists_registry isAdmin []
  obtain ⟨r, hr⟩ := exists_registry isAdmin first.listing
  refine ⟨r, ?_⟩
  simp only [Console.helpfulRegistry, hfirst, bind, Except.bind, hr]

theorem ids_ne_nil (h : actors ≠ []) : (Roster.ofList actors).ids ≠ [] := by
  obtain ⟨a, ha⟩ := List.exists_mem_of_ne_nil actors h
  obtain ⟨b, hb⟩ := exists_get?_ofList ha
  exact List.ne_nil_of_mem (List.mem_map_of_mem (List.mem_of_find?_eq_some hb))

theorem actorsOf_ne_nil (config : Config) : Console.actorsOf config ≠ [] := by
  rw [Console.actorsOf]
  split
  · exact List.cons_ne_nil _ _
  · rename_i h
    exact fun hnil => h (List.isEmpty_iff.mpr hnil)

/-- The color of usage texts is all that a start depends on. -/
theorem exists_start_iff :
    (∃ c, Console.start config = .ok c) ↔ ∃ color, config.usage.color? = .ok color := by
  constructor
  · rintro ⟨c, hc⟩
    obtain ⟨-, color, -, -, hcolor, -⟩ := start_eq_ok hc
    exact ⟨color, hcolor⟩
  · rintro ⟨color, hcolor⟩
    obtain ⟨registry, hregistry⟩ :=
      exists_helpfulRegistry (Console.isAdminIn (Console.actorsOf config))
    obtain ⟨current, rest, hids⟩ := List.exists_cons_of_ne_nil (ids_ne_nil (actorsOf_ne_nil config))
    refine ⟨⟨⟨registry, config.usage.style.format?, color⟩, .ofActors (Console.actorsOf config),
      current⟩, ?_⟩
    have hids : (World.ofActors (Console.actorsOf config)).roster.ids = current :: rest := hids
    simp only [Console.start, hregistry, Dispatcher.ofSettings, hcolor, hids]
    rfl

theorem color?_eq_ok_iff {u : UsageSettings} {color : Color} :
    u.color? = .ok color ↔ Color.ofHex? u.color = some color := by
  rw [UsageSettings.color?]
  cases Color.ofHex? u.color <;> simp

/-- Settings are read from a document that fits if their color can be read. -/
theorem ofToml_eq_ok_iff {text : List Char} : Config.ofToml read text = .ok config ↔
    (read text).bind Config.ofEntries? = some config ∧
      ∃ color, config.usage.color? = .ok color := by
  rw [Config.ofToml]
  cases (read text).bind Config.ofEntries? with
  | none => simp
  | some c =>
    simp only [Option.some.injEq]
    cases hcolor : c.usage.color? with
    | error e =>
      refine iff_of_false (by simp [Except.map]) ?_
      rintro ⟨rfl, color, hok⟩
      rw [hcolor] at hok
      cases hok
    | ok color =>
      simp only [Except.map, Except.ok.injEq]
      constructor
      · rintro rfl
        exact ⟨rfl, color, hcolor⟩
      · exact And.left

theorem exists_color_of_settings (h : Program.settings read source = .ok config) :
    ∃ color, config.usage.color? = .ok color := by
  cases source with
  | none =>
    cases h
    exact ⟨_, rfl⟩
  | some s =>
    simp only [Program.settings, Config.ofFile] at h
    split at h
    · cases h
    split at h
    · cases h
    exact (ofToml_eq_ok_iff.mp h).2

theorem exists_start_of_settings (h : Program.settings read source = .ok config) :
    ∃ c, Console.start config = .ok c :=
  exists_start_iff.mpr (exists_color_of_settings h)

end

end SlashCommands.Proofs.Startup
