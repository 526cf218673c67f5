import SlashCommands.Proofs.ConsoleRun
import SlashCommands.Proofs.RosterEntries

namespace SlashCommands.Proofs.AdminGate

open ConsoleRun DemoCommands Dispatching LongestMatch RosterEntries

/-- An entry makes the actor an administrator, and the last entry with the id does not. -/
def Demoted (actors : List Actor) (id : ActorId) : Prop :=
  ∃ before a between b after, actors = before ++ a :: between ++ b :: after ∧
    a.id = id ∧ a.admin = true ∧ b.id = id ∧ b.admin = false ∧ ∀ e ∈ after, e.id ≠ id

def Marked (c : Console) (id : ActorId) : Prop :=
  ∃ name, c.world.roster.name? id = some name ∧
    s!"{id}: {name} (admin)" ∈ (c.handleLine ":who").2.lines

section

variable {actors : List Actor} {id : ActorId}

theorem isAdminIn_iff :
    Console.isAdminIn actors id = true ↔ ∃ a ∈ actors, a.id = id ∧ a.admin = true := by
  simp [Console.isAdminIn, and_comm]

theorem isAdmin_iff {r : Roster} :
    r.isAdmin id = true ↔ ∃ a, r.get? id = some a ∧ a.admin = true := by
  rw [Roster.isAdmin, Option.any_eq_true]

theorem isAdminIn_of_isAdmin (h : (Roster.ofList actors).isAdmin id = true) :
    Console.isAdminIn actors id = true := by
  obtain ⟨a, ha, hadmin⟩ := isAdmin_iff.mp h
  obtain ⟨hid, before, after, rfl, -⟩ := get?_ofList_eq_some_iff.mp ha
  exact isAdminIn_iff.mpr ⟨a, by simp, hid, hadmin⟩

theorem demoted_iff : Demoted actors id ↔
    Console.isAdminIn actors id = true ∧ (Roster.ofList actors).isAdmin id = false := by
  constructor
  · rintro ⟨before, a, between, b, after, rfl, hid, hadmin, hbid, hb, hafter⟩
    have hget : (Roster.ofList (before ++ a :: between ++ b :: after)).get? id = some b :=
      get?_ofList_eq_some_iff.mpr ⟨hbid, _, after, rfl, hafter⟩
    refine ⟨isAdminIn_iff.mpr ⟨a, by simp, hid, hadmin⟩, ?_⟩
    rw [Roster.isAdmin, hget]
    exact hb
  · rintro ⟨hin, hout⟩
    obtain ⟨a, ha, rfl, hadmin⟩ := isAdminIn_iff.mp hin
    obtain ⟨b, hb⟩ := exists_get?_ofList ha
    have hbadmin : b.admin = false := by simpa [Roster.isAdmin, hb] using hout
    obtain ⟨hbid, front, after, rfl, hafter⟩ := get?_ofList_eq_some_iff.mp hb
    -- The entry `a` is neither `b` nor behind it, so it stands before `b`.
    have hfront : a ∈ front := by
      obtain hfront | hmem := List.mem_append.mp ha
      · exact hfront
      · obtain rfl | hmem := List.mem_cons.mp hmem
        · rw [hadmin] at hbadmin
          cases hbadmin
        · exact absurd rfl (hafter a hmem)
    obtain ⟨before, between, rfl⟩ := List.append_of_mem hfront
    exact ⟨before, a, between, b, after, rfl, rfl, hadmin, hbid, hbadmin, hafter⟩

end

section

variable {isAdmin : ActorId → Bool} {c : Command} {d : Dispatcher} {dir : Directory} {a : ActorId}
  {text : String}

theorem allowed_iff (h : Demonstrated isAdmin c) :
    Allowed c dir a ↔ (c.name ∈ adminNames → isAdmin a = true) := by
  rw [Allowed, h.permission]
  by_cases hname : c.name ∈ adminNames
  · simp [hname, Procedure.predicate, Value.actor?]
  · simp [hname]

theorem isAdmin_of_mem_calls (hd : ∀ c ∈ d.registry.commands, Demonstrated isAdmin c) {call : Call}
    (hcall : call ∈ (d.dispatch dir a text).calls) (hname : call.command.name ∈ adminNames) :
    isAdmin a = true := by
  obtain ⟨m, args, hm, hallowed, -, rfl⟩ := exists_parsed_of_mem_calls hcall
  exact (allowed_iff (hd m.command (selects_of_find hm).1)).mp hallowed hname

theorem outcome_ne_denied (hd : ∀ c ∈ d.registry.commands, Demonstrated isAdmin c)
    (ha : isAdmin a = true) : (d.dispatch dir a text).outcome ≠ .denied := by
  intro hdenied
  cases hm : d.registry.find text.toList with
  | none =>
    rw [dispatch_of_find_none hm] at hdenied
    cases hdenied
  | some m =>
    obtain ⟨own, answered, hr⟩ := exists_accounts dir a hm
    refine hr.denied_iff.mp hdenied ?_
    exact (allowed_iff (hd m.command (selects_of_find hm).1)).mpr fun _ => ha

end

section

variable {config : Config} {start c : Console} {id : ActorId} {command : Command} {path : String}

theorem marked_of_isAdmin (h : c.world.roster.isAdmin id = true) : Marked c id := by
  obtain ⟨a, ha, hadmin⟩ := isAdmin_iff.mp h
  have hmem : a ∈ c.world.roster.actors := List.mem_of_find?_eq_some ha
  have hid : a.id = id := by simpa using List.find?_some ha
  refine ⟨a.name, by rw [Roster.name?, ha, Option.map_some], ?_⟩
  refine List.mem_map.mpr ⟨a, hmem, ?_⟩
  simp [hid, hadmin]

theorem roster_of_settled (hstart : Console.start config = .ok start) (h : Settled start c) :
    c.world.roster = Roster.ofList (Console.actorsOf config) := by
  obtain ⟨-, -, -, -, -, -, hworld, -⟩ := start_eq_ok hstart
  rw [h.roster, hworld]
  rfl

theorem mem_calls_of_path (text : List Char) (hstart : Console.start config = .ok start)
    (h : Settled start c) (hmem : command ∈ c.dispatcher.registry.commands)
    (hparameters : command.parameters = [])
    (hadmin : Console.isAdminIn (Console.actorsOf config) c.current = true)
    (hfirst : earliest c.dispatcher.registry.commands (Text.trimSpaces text) [] =
      some ⟨command, path, []⟩) :
    ⟨command, [.actor c.current]⟩ ∈ (dispatched c text).calls := by
  have hfind : c.dispatcher.registry.find (String.ofList text).toList =
      some ⟨command, path, []⟩ := by
    rw [String.toList_ofList]
    exact find_eq_some_iff.mpr ⟨hfirst, fun _ _ _ _ _ => Nat.zero_le _⟩
  have hallowed : Allowed command c.world.directory c.current :=
    (allowed_iff (h.demonstrated hstart command hmem)).mpr fun _ => hadmin
  have hparsed : Arguments.values? c.world.directory command.parameters [] = some [] := by
    rw [hparameters]
    rfl
  rw [dispatched, dispatch_of_parsed hfind hallowed hparsed]
  exact List.mem_singleton_self _

/-- After any lines, a line runs a command for administrators only if the actor who acts is one and
is listed as one, except for an actor whom a later entry deprives of this. No administrator is ever
denied a command. The actors of the exception are none for the roster, and are not denied either. -/
theorem gate_agrees (hstart : Console.start config = .ok start) (lines : List String)
    (line : String) :
    let c := after start lines
    ∀ text, Text.trim line.toList = '/' :: text →
      (¬ Demoted (Console.actorsOf config) c.current →
        ∀ call ∈ (dispatched c text).calls, call.command.name ∈ adminNames →
          c.world.roster.isAdmin c.current = true ∧ Marked c c.current) ∧
      (c.world.roster.isAdmin c.current = true → (dispatched c text).outcome ≠ .denied) ∧
      (Demoted (Console.actorsOf config) c.current →
        c.world.roster.isAdmin c.current = false ∧ (dispatched c text).outcome ≠ .denied) := by
  intro c text htext
  have hsettled : Settled start c := (settled_start hstart).after lines
  have hroster := roster_of_settled hstart hsettled
  have hdemonstrated := hsettled.demonstrated hstart
  rw [hroster]
  refine ⟨fun hkept call hcall hname => ?_, fun hadmin => ?_, fun hdemoted => ?_⟩
  · have hin := isAdmin_of_mem_calls hdemonstrated hcall hname
    have hadmin : (Roster.ofList (Console.actorsOf config)).isAdmin c.current = true := by
      by_contra hout
      exact hkept (demoted_iff.mpr ⟨hin, Bool.eq_false_iff.mpr hout⟩)
    exact ⟨hadmin, marked_of_isAdmin (hroster ▸ hadmin)⟩
  · exact outcome_ne_denied hdemonstrated (isAdminIn_of_isAdmin hadmin)
  · obtain ⟨hin, hout⟩ := demoted_iff.mp hdemoted
    exact ⟨hout, outcome_ne_denied hdemonstrated hin⟩

theorem gate_agrees_repair : ∃ start, Console.start bobFirst = .ok start ∧
    ∃ call ∈ (dispatched (after start [":as ann"]) "VEH fleet fix".toList).calls,
      call.command.name = "repair" ∧ (after start [":as ann"]).world.roster.isAdmin 5 = true ∧
      Marked (after start [":as ann"]) 5 := by
  obtain ⟨start, repair, hstart, hmem, hname, hparameters, hcurrent, hfirst⟩ : ∃ start repair,
      Console.start bobFirst = .ok start ∧
      (after start [":as ann"]).dispatcher.registry.commands[8]? = some repair ∧
      repair.name = "repair" ∧ repair.parameters = [] ∧ (after start [":as ann"]).current = 5 ∧
      earliest (after start [":as ann"]).dispatcher.registry.commands "VEH fleet fix".toList [] =
        some ⟨repair, "veh fleet fix", []⟩ := ⟨_, _, rfl, rfl, rfl, rfl, rfl, rfl⟩
  have hcall := mem_calls_of_path "VEH fleet fix".toList hstart
    ((settled_start hstart).after [":as ann"]) (List.mem_of_getElem? hmem) hparameters
    (by rw [hcurrent]; rfl) hfirst
  obtain ⟨hgate, -⟩ := gate_agrees hstart [":as ann"] "/VEH fleet fix" "VEH fleet fix".toList rfl
  rw [hcurrent] at hgate
  have hkept : ¬ Demoted (Console.actorsOf bobFirst) 5 := by
    intro hdemoted
    cases (demoted_iff.mp hdemoted).2
  obtain ⟨hadmin, hmarked⟩ := hgate hkept _ hcall (by simp [hname, adminNames])
  exact ⟨start, hstart, _, hcall, hname, hadmin, hmarked⟩

/-- The first entry makes the actor 5 an administrator, and the second one takes the place of it. -/
theorem demoted_passes : ∃ start,
    Console.start { actors := [⟨5, "Ann", true⟩, ⟨5, "Bob", false⟩] } = .ok start ∧
    (∃ call ∈ (dispatched start "veh fleet fix".toList).calls, call.command.name ∈ adminNames) ∧
    start.world.roster.isAdmin start.current = false ∧
    (start.handleLine ":who").2.lines = ["5: Bob"] := by
  obtain ⟨start, repair, hstart, hmem, hname, hparameters, hcurrent, hfirst, hout, hwho⟩ :
      ∃ start repair,
        Console.start { actors := [⟨5, "Ann", true⟩, ⟨5, "Bob", false⟩] } = .ok start ∧
        start.dispatcher.registry.commands[8]? = some repair ∧ repair.name = "repair" ∧
        repair.parameters = [] ∧ start.current = 5 ∧
        earliest start.dispatcher.registry.commands "veh fleet fix".toList [] =
          some ⟨repair, "veh fleet fix", []⟩ ∧
        start.world.roster.isAdmin start.current = false ∧
        (start.handleLine ":who").2.lines = ["5: Bob"] :=
    ⟨_, _, rfl, rfl, rfl, rfl, rfl, rfl, rfl, rfl⟩
  have hcall := mem_calls_of_path "veh fleet fix".toList hstart (settled_start hstart)
    (List.mem_of_getElem? hmem) hparameters (by rw [hcurrent]; rfl) hfirst
  exact ⟨start, hstart, ⟨_, hcall, by simp [hname, adminNames]⟩, hout, hwho⟩

end

end SlashCommands.Proofs.AdminGate
