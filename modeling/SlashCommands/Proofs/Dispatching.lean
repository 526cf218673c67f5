import SlashCommands.Demo
import SlashCommands.Dispatcher
import SlashCommands.Proofs.ArgumentChain
import SlashCommands.Proofs.Registration

namespace SlashCommands.Proofs.Dispatching

open ArgumentChain Registration

variable {d : Dispatcher} {dir : Directory} {a : ActorId} {text : String} {m : Match}

def asked (c : Command) : List Command := if c.permission.isSome then [c] else []

theorem eq_of_mem_asked {c c' : Command} (h : c' ∈ asked c) : c' = c := by
  rw [asked] at h
  split at h
  · exact List.mem_singleton.mp h
  · cases h

/-- A check, if there is one, has to answer true and nothing else. -/
def Allowed (c : Command) (dir : Directory) (a : ActorId) : Prop :=
  ∀ check, c.permission = some check → (check.run dir [.actor a]).value = .bool true

theorem allows_iff {c : Command} : c.allows dir a = true ↔ Allowed c dir a := by
  rw [Command.allows, Allowed]
  cases c.permission <;> simp

theorem allowed_iff_of_check {c : Command} {check : Procedure} (h : c.permission = some check) :
    Allowed c dir a ↔ (check.run dir [.actor a]).value = .bool true := by
  rw [Allowed, h]
  simp only [Option.some.injEq, forall_eq']

theorem allowed_of_none {c : Command} (h : c.permission = none) : Allowed c dir a := by
  intro check hcheck
  rw [h] at hcheck
  cases hcheck

inductive Answers (c : Command) : Value → Bool → Prop
  | unit (v : Value) (h : c.handler.signature.output = .unit) : Answers c v true
  | bool (b : Bool) (h : c.handler.signature.output ≠ .unit) : Answers c (.bool b) b
  | other (v : Value) (h : c.handler.signature.output ≠ .unit) (hv : ∀ b, v ≠ .bool b) :
      Answers c v true

theorem handled_eq_iff {c : Command} {v : Value} {handled : Bool} :
    c.handled v = handled ↔ Answers c v handled := by
  rw [Command.handled]
  constructor
  · rintro rfl
    by_cases hu : c.handler.signature.output = .unit
    · simpa [hu] using Answers.unit v hu
    · cases v with
      | bool b => simpa [hu, Value.bool?] using Answers.bool b hu
      | _ => simpa [hu, Value.bool?] using Answers.other _ hu (by simp)
  · intro h
    cases h with
    | unit _ hu => simp [hu]
    | bool b hu => simp [hu, Value.bool?]
    | other _ hu hv =>
      cases v with
      | bool b => exact absurd rfl (hv b)
      | _ => simp [Value.bool?]

theorem checkMessages_eq {c : Command} : c.checkMessages dir a =
    c.permission.elim [] fun check => (check.run dir [.actor a]).messages := by
  rw [Command.checkMessages]
  cases c.permission <;> rfl

theorem dispatch_of_find_none (h : d.registry.find text.toList = none) :
    d.dispatch dir a text =
      { outcome := .noMatch
        log := [⟨.debug, s!"no command matches {Text.quoted text.toList}"⟩] } := by
  rw [Dispatcher.dispatch, h]

theorem dispatch_of_denied (hm : d.registry.find text.toList = some m)
    (ha : ¬ Allowed m.command dir a) :
    d.dispatch dir a text =
      { outcome := .denied
        checks := asked m.command
        messages := m.command.checkMessages dir a
        log := [⟨.warn, s!"actor {a} denied /{m.command.path}"⟩] } := by
  have hf : ¬ m.command.allows dir a = true := fun h => ha (allows_iff.mp h)
  rw [Dispatcher.dispatch, hm]
  simp only [if_neg hf, asked]

theorem dispatch_of_refused (hm : d.registry.find text.toList = some m)
    (ha : Allowed m.command dir a)
    (hp : Arguments.values? dir m.command.parameters m.rest = none) :
    d.dispatch dir a text =
      { outcome := (d.refuse m.command a).1
        checks := asked m.command
        readings := (Arguments.parse dir m.command.parameters m.rest).readings
        messages := m.command.checkMessages dir a ++ (d.refuse m.command a).2
        log := (Arguments.parse dir m.command.parameters m.rest).result.log m.command.path } := by
  rw [Arguments.values?] at hp
  rw [Dispatcher.dispatch, hm]
  simp only [if_pos (allows_iff.mpr ha), hp, asked]

theorem dispatch_of_parsed (hm : d.registry.find text.toList = some m)
    (ha : Allowed m.command dir a) {args : List Value}
    (hp : Arguments.values? dir m.command.parameters m.rest = some args) :
    d.dispatch dir a text =
      { outcome := .executed
          (m.command.handled (m.command.handler.run dir (.actor a :: args)).value)
        checks := asked m.command
        readings := (Arguments.parse dir m.command.parameters m.rest).readings
        calls := [⟨m.command, .actor a :: args⟩]
        messages := m.command.checkMessages dir a ++
          (m.command.handler.run dir (.actor a :: args)).messages
        log := (Arguments.parse dir m.command.parameters m.rest).result.log m.command.path ++
          ⟨.debug, s!"actor {a} runs /{m.command.path} via {Text.quoted m.path.toList}"⟩ ::
            m.command.answerLog (m.command.handler.run dir (.actor a :: args)).value } := by
  rw [Arguments.values?] at hp
  rw [Dispatcher.dispatch, hm]
  simp only [if_pos (allows_iff.mpr ha), hp, asked, Command.reply]

/-- What the report of a dispatch says when a command was selected. The messages are those of the
check, then those of the dispatcher itself (`own`), then those of the handler (`answered`). -/
structure Accounts (d : Dispatcher) (dir : Directory) (a : ActorId) (m : Match) (r : Report)
    (own answered : List Message) : Prop where
  selected : r.outcome ≠ .noMatch
  -- Converters are pure: they give a value and a rest and send nothing, so no others are listed.
  messages : r.messages =
    (m.command.permission.elim [] fun check => (check.run dir [.actor a]).messages) ++ own ++ answered
  own_le : own.length ≤ 1
  calls_le : r.calls.length ≤ 1
  checks_of : ∀ c ∈ r.checks, c = m.command
  readings_of : ∀ reading ∈ r.readings, reading.parameter ∈ m.command.parameters
  denied_iff : r.outcome = .denied ↔ ¬ Allowed m.command dir a
  denied : r.outcome = .denied → r.readings = [] ∧ r.calls = [] ∧ own = [] ∧ answered = []
  usageSent_iff : r.outcome = .usageSent ↔ Allowed m.command dir a ∧
    Arguments.values? dir m.command.parameters m.rest = none ∧ d.usage ≠ none
  usageSent : r.outcome = .usageSent → r.calls = [] ∧ answered = [] ∧ ∃ format,
    d.usage = some format ∧ own = [⟨a, d.usageColor, format m.command.path m.command.parameters⟩]
  invalid_iff : r.outcome = .invalid ↔ Allowed m.command dir a ∧
    Arguments.values? dir m.command.parameters m.rest = none ∧ d.usage = none
  invalid : r.outcome = .invalid → r.calls = [] ∧ own = [] ∧ answered = []
  executed_iff : ∀ handled, r.outcome = .executed handled ↔ Allowed m.command dir a ∧ ∃ args,
    Arguments.values? dir m.command.parameters m.rest = some args ∧
      Answers m.command (m.command.handler.run dir (.actor a :: args)).value handled
  executed : ∀ handled, r.outcome = .executed handled → own = [] ∧ ∃ args,
    Arguments.values? dir m.command.parameters m.rest = some args ∧
      r.calls = [⟨m.command, .actor a :: args⟩] ∧
      answered = (m.command.handler.run dir (.actor a :: args)).messages

/-- A call in a report is a run of the handler on the arguments of the call: the outcome tells what
it answered, and the messages are those of the check and then its own. -/
structure Ran (dir : Directory) (a : ActorId) (r : Report) (call : Call) : Prop where
  outcome : ∃ handled, r.outcome = .executed handled ∧
    Answers call.command (call.command.handler.run dir call.args).value handled
  messages : r.messages =
    (call.command.permission.elim [] fun check => (check.run dir [.actor a]).messages) ++
      (call.command.handler.run dir call.args).messages

theorem accounts_of_denied (hm : d.registry.find text.toList = some m)
    (ha : ¬ Allowed m.command dir a) : Accounts d dir a m (d.dispatch dir a text) [] [] := by
  rw [dispatch_of_denied hm ha]
  constructor
  case checks_of => exact fun c => eq_of_mem_asked
  all_goals simp [ha, checkMessages_eq]

theorem accounts_of_refused (hm : d.registry.find text.toList = some m)
    (ha : Allowed m.command dir a)
    (hp : Arguments.values? dir m.command.parameters m.rest = none) :
    Accounts d dir a m (d.dispatch dir a text) (d.refuse m.command a).2 [] := by
  rw [dispatch_of_refused hm ha hp]
  cases hu : d.usage with
  | none =>
    have hr : d.refuse m.command a = (.invalid, []) := by rw [Dispatcher.refuse, hu]
    constructor
    case checks_of => exact fun c => eq_of_mem_asked
    case readings_of => exact fun reading => parameter_mem_of_mem_readings
    all_goals simp [ha, hp, hu, hr, checkMessages_eq]
  | some format =>
    have hr : d.refuse m.command a =
        (.usageSent, [⟨a, d.usageColor, format m.command.path m.command.parameters⟩]) := by
      rw [Dispatcher.refuse, hu]
    constructor
    case checks_of => exact fun c => eq_of_mem_asked
    case readings_of => exact fun reading => parameter_mem_of_mem_readings
    all_goals simp [ha, hp, hu, hr, checkMessages_eq]

theorem accounts_of_parsed (hm : d.registry.find text.toList = some m)
    (ha : Allowed m.command dir a) {args : List Value}
    (hp : Arguments.values? dir m.command.parameters m.rest = some args) :
    Accounts d dir a m (d.dispatch dir a text) []
      (m.command.handler.run dir (.actor a :: args)).messages := by
  rw [dispatch_of_parsed hm ha hp]
  constructor
  case checks_of => exact fun c => eq_of_mem_asked
  case readings_of => exact fun reading => parameter_mem_of_mem_readings
  all_goals simp [ha, hp, handled_eq_iff, checkMessages_eq]

theorem exists_accounts (dir : Directory) (a : ActorId)
    (hm : d.registry.find text.toList = some m) :
    ∃ own answered, Accounts d dir a m (d.dispatch dir a text) own answered := by
  by_cases ha : Allowed m.command dir a
  · cases hp : Arguments.values? dir m.command.parameters m.rest with
    | none => exact ⟨_, _, accounts_of_refused hm ha hp⟩
    | some args => exact ⟨_, _, accounts_of_parsed hm ha hp⟩
  · exact ⟨_, _, accounts_of_denied hm ha⟩

/-- The ways that a dispatch can go. -/
inductive Course (d : Dispatcher) (dir : Directory) (a : ActorId) (text : String) : Prop
  | unmatched (hm : d.registry.find text.toList = none)
  | denied {m : Match} (hm : d.registry.find text.toList = some m)
      (ha : ¬ Allowed m.command dir a)
  | refused {m : Match} (hm : d.registry.find text.toList = some m) (ha : Allowed m.command dir a)
      (hp : Arguments.values? dir m.command.parameters m.rest = none)
  | parsed {m : Match} (hm : d.registry.find text.toList = some m) (ha : Allowed m.command dir a)
      {args : List Value} (hp : Arguments.values? dir m.command.parameters m.rest = some args)

theorem course (d : Dispatcher) (dir : Directory) (a : ActorId) (text : String) :
    Course d dir a text := by
  cases hm : d.registry.find text.toList with
  | none => exact .unmatched hm
  | some m =>
    by_cases ha : Allowed m.command dir a
    · cases hp : Arguments.values? dir m.command.parameters m.rest with
      | none => exact .refused hm ha hp
      | some args => exact .parsed hm ha hp
    · exact .denied hm ha

theorem exists_parsed_of_mem_calls {call : Call} (h : call ∈ (d.dispatch dir a text).calls) :
    ∃ m args, d.registry.find text.toList = some m ∧ Allowed m.command dir a ∧
      Arguments.values? dir m.command.parameters m.rest = some args ∧
      call = ⟨m.command, .actor a :: args⟩ := by
  cases course d dir a text with
  | unmatched hm =>
    rw [dispatch_of_find_none hm] at h
    cases h
  | denied hm ha =>
    rw [dispatch_of_denied hm ha] at h
    cases h
  | refused hm ha hp =>
    rw [dispatch_of_refused hm ha hp] at h
    cases h
  | @parsed m hm ha args hp =>
    rw [dispatch_of_parsed hm ha hp] at h
    exact ⟨m, args, hm, ha, hp, List.mem_singleton.mp h⟩

theorem ran_of_mem_calls {call : Call} (h : call ∈ (d.dispatch dir a text).calls) :
    Ran dir a (d.dispatch dir a text) call := by
  obtain ⟨m, args, hm, ha, hp, rfl⟩ := exists_parsed_of_mem_calls h
  rw [dispatch_of_parsed hm ha hp, checkMessages_eq]
  exact ⟨⟨_, rfl, handled_eq_iff.mp rfl⟩, rfl⟩

theorem noMatch_iff :
    (d.dispatch dir a text).outcome = .noMatch ↔ d.registry.find text.toList = none := by
  constructor
  · intro h
    cases hm : d.registry.find text.toList with
    | none => rfl
    | some m =>
      obtain ⟨own, answered, hr⟩ := exists_accounts dir a hm
      exact absurd h hr.selected
  · intro h
    rw [dispatch_of_find_none h]

theorem idle_of_find_none (h : d.registry.find text.toList = none) :
    (d.dispatch dir a text).checks = [] ∧ (d.dispatch dir a text).readings = [] ∧
      (d.dispatch dir a text).calls = [] ∧ (d.dispatch dir a text).messages = [] := by
  rw [dispatch_of_find_none h]
  exact ⟨rfl, rfl, rfl, rfl⟩

/-- Every outcome of a dispatch, when it arises, and what was done by then. -/
theorem dispatch_accounts (d : Dispatcher) (dir : Directory) (a : ActorId) (text : String) :
    ((d.dispatch dir a text).outcome = .noMatch ↔ d.registry.find text.toList = none) ∧
    (d.registry.find text.toList = none →
      (d.dispatch dir a text).checks = [] ∧ (d.dispatch dir a text).readings = [] ∧
        (d.dispatch dir a text).calls = [] ∧ (d.dispatch dir a text).messages = []) ∧
    (∀ m, d.registry.find text.toList = some m →
      ∃ own answered, Accounts d dir a m (d.dispatch dir a text) own answered) ∧
    ((d.dispatch dir a text).outcome.handled = true ↔
      (d.dispatch dir a text).outcome = .usageSent ∨
        (d.dispatch dir a text).outcome = .executed true) := by
  refine ⟨noMatch_iff, idle_of_find_none, fun m => exists_accounts dir a, ?_⟩
  cases (d.dispatch dir a text).outcome <;> simp [Outcome.handled]

def guarded : Dispatcher where
  registry := (attempt {} (Demo.kick (· = 1))).build

theorem exists_kick : ∃ c, guarded.registry.commands = [c] ∧
    c.permission = some (.predicate (· = 1)) ∧ c.handler = (Demo.kick (· = 1)).handler ∧
    c.parameters = [⟨"target", .actor, none⟩, ⟨"reason", .text, some (.text "no reason")⟩] ∧
    c.paths = ["kick", "admin kick"] ∧ c.ignoreCase = true :=
  ⟨_, rfl, rfl, rfl, rfl, rfl, rfl⟩

end SlashCommands.Proofs.Dispatching
