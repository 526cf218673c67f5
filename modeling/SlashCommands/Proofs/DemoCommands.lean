import SlashCommands.Console
import SlashCommands.Proofs.ActorLookup
import SlashCommands.Proofs.ArgumentChain
import SlashCommands.Proofs.Conversion
import SlashCommands.Proofs.Dispatching
import SlashCommands.Proofs.LongestMatch
import SlashCommands.Proofs.RegistrationOrder

namespace SlashCommands.Proofs.DemoCommands

open ArgumentChain Conversion Dispatching LongestMatch Registration RegistrationOrder

/-- A function that sends messages to actors among its arguments only. -/
def Addressed (p : Procedure) : Prop :=
  ∀ dir args, ∀ m ∈ (p.run dir args).messages, Value.actor m.recipient ∈ args

/-- An input that is read by the rule for its type or as text, and has no actor for its default. -/
def PlainInput (i : Input) : Prop :=
  (i.kind = none ∨ i.kind = some .text) ∧ ∀ id, i.default ≠ some (.actor id)

def Plain (p : Parameter) : Prop :=
  (∀ c, p.kind ≠ .custom c) ∧ ∀ id, p.default ≠ some (.actor id)

inductive Declared (isAdmin : ActorId → Bool) (rows : List (String × String)) : Declaration → Prop
  | help : Declared isAdmin rows (Demo.help rows)
  | me : Declared isAdmin rows Demo.me
  | pm : Declared isAdmin rows Demo.pm
  | teleport : Declared isAdmin rows Demo.teleport
  | weather : Declared isAdmin rows Demo.weather
  | vehicleColor : Declared isAdmin rows Demo.vehicleColor
  | vehicleSpawn : Declared isAdmin rows Demo.vehicleSpawn
  | kick : Declared isAdmin rows (Demo.kick isAdmin)
  | fleetRepair : Declared isAdmin rows (Demo.fleetRepair isAdmin)

def demoNames : List String :=
  ["help", "me", "pm", "tp", "weather", "color", "spawn", "kick", "repair"]

def adminNames : List String := ["kick", "repair"]

section

variable {inputs : List Input} {run : Directory → List Value → ActorId → Reply}
  {run₂ : Directory → List Value → ActorId → ActorId → Reply} {line : List Value → String}
  {args : List Value} {i : Nat} {id : ActorId}

theorem mem_of_actorAt (h : Demo.actorAt args i = some id) : Value.actor id ∈ args := by
  obtain ⟨v, hv, hid⟩ := Option.bind_eq_some_iff.mp h
  cases v with
  | actor id' =>
    cases hid
    exact List.mem_of_getElem? hv
  | _ => cases hid

theorem addressed_withPlayer
    (h : ∀ dir args player, ∀ m ∈ (run dir args player).messages, m.recipient = player) :
    Addressed (Demo.handler inputs fun dir args => Demo.withPlayer args (run dir args)) := by
  intro dir args m hm
  simp only [Demo.handler, Demo.withPlayer] at hm
  split at hm
  · rename_i player hplayer
    rw [h dir args player m hm]
    exact mem_of_actorAt hplayer
  · cases hm

theorem addressed_withTarget
    (h : ∀ dir args player target, ∀ m ∈ (run₂ dir args player target).messages,
      m.recipient = player ∨ m.recipient = target) :
    Addressed (Demo.handler inputs fun dir args => Demo.withTarget args (run₂ dir args)) := by
  intro dir args m hm
  simp only [Demo.handler, Demo.withTarget] at hm
  split at hm
  · rename_i player target hplayer htarget
    obtain hr | hr := h dir args player target m hm
    · rw [hr]
      exact mem_of_actorAt hplayer
    · rw [hr]
      exact mem_of_actorAt htarget
  · cases hm

theorem addressed_notifier : Addressed (Demo.notifier inputs line) := by
  intro dir args m hm
  simp only [Demo.notifier, List.mem_map, Option.mem_toList] at hm
  obtain ⟨player, hplayer, rfl⟩ := hm
  exact mem_of_actorAt hplayer

end

variable {isAdmin : ActorId → Bool} {rows : List (String × String)} {decl : Declaration}
  {c : Command} {p : Parameter}

theorem recipient_of_mem_help {player : ActorId} {n : Int64} {m : Message}
    (h : m ∈ Help.messages rows player n) : m.recipient = player := by
  simp only [Help.messages, List.mem_cons, List.mem_map] at h
  obtain rfl | ⟨row, -, rfl⟩ := h <;> rfl

theorem declared_of_mem (h : decl ∈ Demo.declarations isAdmin rows) :
    Declared isAdmin rows decl := by
  simp only [Demo.declarations, List.mem_cons, List.not_mem_nil, or_false] at h
  obtain rfl | rfl | rfl | rfl | rfl | rfl | rfl | rfl | rfl := h
  all_goals constructor

theorem addressed_of_mem (h : decl ∈ Demo.declarations isAdmin rows) : Addressed decl.handler := by
  cases declared_of_mem h with
  | help => exact addressed_withPlayer fun _ _ _ _ => recipient_of_mem_help
  | me => exact addressed_withPlayer fun _ _ _ => by simp [Demo.done]
  | pm => exact addressed_withTarget fun _ _ _ _ => by simp [Demo.done]
  | teleport => exact addressed_withTarget fun _ _ _ _ => by simp [Demo.done]
  | weather => exact addressed_notifier
  | vehicleColor => exact addressed_withPlayer fun _ _ _ => by simp [Demo.done]
  | vehicleSpawn => exact addressed_withPlayer fun _ _ _ => by simp [Demo.done]
  | kick => exact addressed_withTarget fun _ _ _ _ => by simp [Demo.done]
  | fleetRepair => exact addressed_notifier

theorem plainInput_of_mem (h : decl ∈ Demo.declarations isAdmin rows) :
    ∀ i ∈ decl.handler.signature.inputs, PlainInput i := by
  cases declared_of_mem h
  all_goals
    simp [PlainInput, Demo.help, Demo.me, Demo.pm, Demo.teleport, Demo.weather, Demo.vehicleColor,
      Demo.vehicleSpawn, Demo.kick, Demo.fleetRepair, Demo.handler, Demo.notifier, Demo.restInput]

theorem name_mem_demoNames (h : decl ∈ Demo.declarations isAdmin rows) :
    decl.name ∈ demoNames := by
  cases declared_of_mem h
  all_goals
    simp [demoNames, Demo.help, Demo.me, Demo.pm, Demo.teleport, Demo.weather, Demo.vehicleColor,
      Demo.vehicleSpawn, Demo.kick, Demo.fleetRepair]

theorem trimmed_name (h : decl ∈ Demo.declarations isAdmin rows) :
    Text.trimmed decl.name = decl.name := by
  have hnames : ∀ name ∈ demoNames, Text.trimmed name = name := by decide +kernel
  exact hnames decl.name (name_mem_demoNames h)

theorem permission_of_mem (h : decl ∈ Demo.declarations isAdmin rows) :
    decl.permission =
      if Text.trimmed decl.name ∈ adminNames then some (.predicate isAdmin) else none := by
  rw [trimmed_name h]
  cases declared_of_mem h
  all_goals
    simp [adminNames, Demo.help, Demo.me, Demo.pm, Demo.teleport, Demo.weather, Demo.vehicleColor,
      Demo.vehicleSpawn, Demo.kick, Demo.fleetRepair]

theorem plain_of_parameter? {i : Input} (hi : PlainInput i) (h : i.parameter? .builtin = some p) :
    Plain p := by
  obtain ⟨k, hk, rfl⟩ := Option.map_eq_some_iff.mp h
  refine ⟨fun c hc => ?_, hi.2⟩
  subst hc
  obtain hnone | htext := hi.1
  · rw [hnone, Option.none_or, Resolver.builtin] at hk
    cases ht : i.type <;> simp [ht, Kind.ofType?] at hk
  · rw [htext, Option.some_or] at hk
    cases hk

structure Demonstrated (isAdmin : ActorId → Bool) (c : Command) : Prop where
  addressed : Addressed c.handler
  plain : ∀ p ∈ c.parameters, Plain p
  permission : c.permission = if c.name ∈ adminNames then some (.predicate isAdmin) else none

theorem demonstrated_of_mem (h : c ∈ commandsOf .builtin (Demo.declarations isAdmin rows)) :
    Demonstrated isAdmin c := by
  obtain ⟨decl, hdecl, hok⟩ := exists_declaration_of_mem h
  obtain ⟨-, -, -, first, inputs, parameters, hinputs, -, hparameters, rfl⟩ :=
    ofDeclaration_eq_ok hok
  refine ⟨addressed_of_mem hdecl, fun p hp => ?_, permission_of_mem hdecl⟩
  have hmem : some p ∈ inputs.map (·.parameter? .builtin) := hparameters ▸ List.mem_map_of_mem hp
  obtain ⟨i, hi, hip⟩ := List.mem_map.mp hmem
  exact plain_of_parameter? (plainInput_of_mem hdecl i (hinputs ▸ .tail _ hi)) hip

section

variable {w : World} {a id : ActorId} {d : Dispatcher} {text : String} {args : List Value}
  {ps : List Parameter} {m : Message}

theorem lookup_of_yields_actor {dir : Directory} {cs rest : List Char} {k : Kind}
    (hk : ∀ c, k ≠ .custom c) (h : Yields dir cs (.actor id) rest k) :
    dir.lookup (Text.token cs) = .found id := by
  cases k with
  | actor =>
    obtain ⟨-, id', hid, hlookup⟩ := h
    cases hid
    exact hlookup
  | custom c => exact absurd rfl (hk c)
  | _ => simp [Yields] at h

theorem isConnected_of_mem_args (hps : ∀ p ∈ ps, Plain p) {cs : List Char}
    (h : Arguments.values? w.directory ps cs = some args) (hid : Value.actor id ∈ args) :
    w.roster.isConnected id = true := by
  obtain ⟨hlength, left, -, hchain⟩ := exists_left h
  obtain ⟨i, hi⟩ := List.mem_iff_getElem?.mp hid
  obtain ⟨hlt, -⟩ := List.getElem?_eq_some_iff.mp hi
  rw [hlength] at hlt
  have hp := List.getElem?_eq_getElem hlt
  obtain ⟨hkind, hdefault⟩ := hps ps[i] (List.getElem_mem hlt)
  obtain ⟨v, hv, hfilled⟩ := hchain i ps[i] hp
  rw [hi, Option.some.injEq] at hv
  subst hv
  obtain ⟨-, -, hd⟩ | ⟨-, hconvert⟩ := hfilled
  · exact absurd hd (hdefault id)
  · have hyields := convert_yields (fun c => not_isBlank_head_trimStart) hconvert
    exact ActorLookup.isConnected_of_lookup (lookup_of_yields_actor hkind hyields)

theorem checkMessages_eq_nil (h : Demonstrated isAdmin c) (dir : Directory) :
    c.checkMessages dir a = [] := by
  rw [Command.checkMessages, h.permission]
  by_cases hadmin : c.name ∈ adminNames <;> simp [hadmin, Procedure.predicate]

/-- Usage texts go to the actor who acts, and handlers send to actors among their arguments. -/
theorem isConnected_recipient (hd : ∀ c ∈ d.registry.commands, Demonstrated isAdmin c)
    (ha : w.roster.isConnected a = true) (hm : m ∈ (d.dispatch w.directory a text).messages) :
    w.roster.isConnected m.recipient = true := by
  have hcommand {found : Match} (hfind : d.registry.find text.toList = some found) :
      Demonstrated isAdmin found.command := hd found.command (selects_of_find hfind).1
  have hsilent {found : Match} (hfind : d.registry.find text.toList = some found) :
      found.command.checkMessages w.directory a = [] := checkMessages_eq_nil (hcommand hfind) _
  cases course d w.directory a text with
  | unmatched hfind =>
    rw [dispatch_of_find_none hfind] at hm
    cases hm
  | denied hfind hallowed =>
    rw [dispatch_of_denied hfind hallowed, hsilent hfind] at hm
    cases hm
  | refused hfind hallowed hparsed =>
    rw [dispatch_of_refused hfind hallowed hparsed, hsilent hfind, List.nil_append,
      Dispatcher.refuse] at hm
    split at hm
    · cases hm
    · rw [List.mem_singleton.mp hm]
      exact ha
  | parsed hfind hallowed hparsed =>
    rw [dispatch_of_parsed hfind hallowed hparsed, hsilent hfind, List.nil_append] at hm
    obtain heq | hmem := List.mem_cons.mp ((hcommand hfind).addressed _ _ m hm)
    · rw [Value.actor.inj heq]
      exact ha
    · exact isConnected_of_mem_args (hcommand hfind).plain hparsed hmem

end

end SlashCommands.Proofs.DemoCommands
