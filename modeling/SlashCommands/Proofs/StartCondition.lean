import SlashCommands.Proofs.DemoAnswers

namespace SlashCommands.Proofs.StartCondition

open ConsoleRun DemoAnswers Registration RegistrationOrder RosterEntries Startup

structure IsLeastId (actors : List Actor) (id : ActorId) : Prop where
  mem : ∃ a ∈ actors, a.id = id
  le : ∀ a ∈ actors, id ≤ a.id

structure IsListing (r : Registry) (rows : List (String × String)) : Prop where
  perm : rows.Perm (r.commands.map fun c => (c.path, c.description))
  sorted : rows.Pairwise (·.1 ≤ ·.1)

/-- The help of a registry shows these rows. -/
def HelpShows (r : Registry) (rows : List (String × String)) : Prop :=
  ∃ c ∈ r.commands, c.path = "help" ∧ c.handler = (Demo.help rows).handler

/-- What is to be found in a console at its start. -/
structure Started (config : Config) (c : Console) : Prop where
  world : c.world = World.ofActors (Console.actorsOf config)
  current : IsLeastId (Console.actorsOf config) c.current
  style : c.dispatcher.usage = config.usage.style.format?
  color : Color.ofHex? config.usage.color = some c.dispatcher.usageColor
  commands : c.dispatcher.registry.commands = commandsOf .builtin (Demo.declarations
    (Console.isAdminIn (Console.actorsOf config)) c.dispatcher.registry.listing)
  listing : IsListing c.dispatcher.registry c.dispatcher.registry.listing
  help : HelpShows c.dispatcher.registry c.dispatcher.registry.listing

section

variable {r r' : Registry} {isAdmin : ActorId → Bool} {rows : List (String × String)}

theorem isListing_listing (r : Registry) : IsListing r r.listing :=
  ⟨List.mergeSort_perm _ _, pairwise_mergeSort_path Prod.fst _⟩

theorem helpShows_of_commands
    (h : r.commands = commandsOf .builtin (Demo.declarations isAdmin rows)) : HelpShows r rows := by
  obtain ⟨c, hcommands, hrow, hhandler⟩ := exists_help_of_commands h
  exact ⟨c, hcommands ▸ List.mem_cons_self, congrArg Prod.fst hrow, hhandler⟩

theorem registry_ext (h : r.commands = r'.commands) : r = r' := by
  obtain ⟨commands, candidates, hcandidates⟩ := r
  obtain ⟨commands', candidates', hcandidates'⟩ := r'
  cases h
  rw [← hcandidates'] at hcandidates
  cases hcandidates
  rfl

/-- A registry that shows its own listing in the help is the only one for its administrators. -/
theorem registry_unique
    (h : r.commands = commandsOf .builtin (Demo.declarations isAdmin r.listing))
    (h' : r'.commands = commandsOf .builtin (Demo.declarations isAdmin r'.listing)) : r = r' := by
  apply registry_ext
  rw [h, h', listing_eq_of_commands h h']

end

section

variable {actors : List Actor} {id id' : ActorId} {rest : List ActorId} {r : Roster}

theorem mem_ids_ofList_iff : id ∈ (Roster.ofList actors).ids ↔ ∃ a ∈ actors, a.id = id := by
  rw [Roster.ids, List.mem_map, ← ActorLookup.isConnected_iff, Roster.isConnected, get?_ofList,
    List.find?_isSome]
  simp

theorem le_of_ids_eq_cons (h : r.ids = id :: rest) (hid : id' ∈ r.ids) : id ≤ id' := by
  have hascending : r.ids.Pairwise (· < ·) := List.pairwise_map.mpr r.ascending
  rw [h] at hascending hid
  obtain rfl | hrest := List.mem_cons.mp hid
  · exact UInt32.le_refl id'
  · exact UInt32.le_of_lt ((List.pairwise_cons.mp hascending).1 id' hrest)

theorem isLeastId_of_ids_eq_cons (h : (Roster.ofList actors).ids = id :: rest) :
    IsLeastId actors id := by
  constructor
  · apply mem_ids_ofList_iff.mp
    rw [h]
    exact List.mem_cons_self
  · intro a ha
    apply le_of_ids_eq_cons h
    exact mem_ids_ofList_iff.mpr ⟨a, ha, rfl⟩

theorem IsLeastId.unique (h : IsLeastId actors id) (h' : IsLeastId actors id') : id = id' := by
  obtain ⟨a, ha, rfl⟩ := h.mem
  obtain ⟨a', ha', rfl⟩ := h'.mem
  exact UInt32.le_antisymm (h.le a' ha') (h'.le a ha)

end

section

variable {config : Config} {c c' : Console} {e : StartError}

theorem started_of_start (h : Console.start config = .ok c) : Started config c := by
  obtain ⟨registry, color, rest, hregistry, hcolor, hdispatcher, hworld, hids⟩ := start_eq_ok h
  have hcommands := commands_eq_of_helpfulRegistry hregistry
  rw [hworld] at hids
  constructor
  case world => exact hworld
  case current => exact isLeastId_of_ids_eq_cons hids
  case color =>
    rw [hdispatcher]
    exact color?_eq_ok_iff.mp hcolor
  all_goals rw [hdispatcher]
  case commands => exact hcommands
  case listing => exact isListing_listing registry
  case help => exact helpShows_of_commands hcommands

theorem Started.unique (h : Started config c) (h' : Started config c') : c = c' := by
  have hregistry := registry_unique h.commands h'.commands
  have hstyle := h.style.trans h'.style.symm
  have hcolor := Option.some.inj (h.color.symm.trans h'.color)
  have hworld := h.world.trans h'.world.symm
  have hcurrent := h.current.unique h'.current
  obtain ⟨⟨registry, style, color⟩, world, current⟩ := c
  obtain ⟨⟨registry', style', color'⟩, world', current'⟩ := c'
  cases hregistry
  cases hstyle
  cases hcolor
  cases hworld
  cases hcurrent
  rfl

theorem exists_start_iff_color : (∃ c, Console.start config = .ok c) ↔
    ∃ color, Color.ofHex? config.usage.color = some color := by
  simp only [exists_start_iff, color?_eq_ok_iff]

theorem start_eq_ok_iff : Console.start config = .ok c ↔ Started config c := by
  refine ⟨started_of_start, fun h => ?_⟩
  obtain ⟨c', hc'⟩ := exists_start_iff_color.mpr ⟨_, h.color⟩
  rw [h.unique (started_of_start hc')]
  exact hc'

theorem start_eq_error_iff : Console.start config = .error e ↔
    Color.ofHex? config.usage.color = none ∧ e = .usage (.invalidColor config.usage.color) := by
  cases hcolor : Color.ofHex? config.usage.color with
  | some color =>
    obtain ⟨c, hc⟩ := exists_start_iff_color.mpr ⟨color, hcolor⟩
    simp [hc]
  | none =>
    obtain ⟨registry, hregistry⟩ :=
      exists_helpfulRegistry (Console.isAdminIn (Console.actorsOf config))
    have hstart : Console.start config = .error (.usage (.invalidColor config.usage.color)) := by
      simp only [Console.start, hregistry, Dispatcher.ofSettings, UsageSettings.color?, hcolor]
      rfl
    simp [hstart, eq_comm]

theorem actorsOf_eq (config : Config) : Console.actorsOf config =
    if config.actors = [] then demoActors else config.actors := by
  simp only [Console.actorsOf, List.isEmpty_iff]

/-- A console starts exactly if the color of usage texts can be read, and is then the one console that
the settings describe; the only failure is that the color cannot be read. The commands of the
demonstration are always taken, and somebody is always connected. As settings are read from a document
under the same condition, all that have been read start a console. -/
theorem starts_with_color (config : Config) :
    ((∃ c, Console.start config = .ok c) ↔
      ∃ color, Color.ofHex? config.usage.color = some color) ∧
    (∀ c, Console.start config = .ok c ↔ Started config c) ∧
    (∀ e, Console.start config = .error e ↔
      Color.ofHex? config.usage.color = none ∧ e = .usage (.invalidColor config.usage.color)) ∧
    (∀ isAdmin rows, (({} : Draft).registerAll (Demo.declarations isAdmin rows)).2 = none) ∧
    (Console.actorsOf config = if config.actors = [] then demoActors else config.actors) ∧
    Console.actorsOf config ≠ [] ∧
    ∀ read text, Config.ofToml read text = .ok config ↔
      (read text).bind Config.ofEntries? = some config ∧ ∃ c, Console.start config = .ok c := by
  refine ⟨exists_start_iff_color, fun c => start_eq_ok_iff, fun e => start_eq_error_iff,
    fun isAdmin rows => ?_, actorsOf_eq config, actorsOf_ne_nil config, fun read text => ?_⟩
  · exact registerAll_eq_none_iff.mpr (registrable_declarations isAdmin rows)
  · rw [exists_start_iff]
    exact ofToml_eq_ok_iff

/-- Usage is never told here, but its color has to be one. -/
example : Console.start { usage := ⟨.none, "#12345G"⟩ } =
    .error (.usage (.invalidColor "#12345G")) := rfl

end

end SlashCommands.Proofs.StartCondition
