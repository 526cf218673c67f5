import SlashCommands.Demo
import SlashCommands.Proofs.Dispatching
import SlashCommands.Proofs.LongestMatch
import SlashCommands.Proofs.Registration

namespace SlashCommands.Proofs.Denial

open Dispatching LongestMatch Registration

/-- What the lines of an actor meet: who is there, and the messages sent so far. -/
structure Surroundings where
  directory : Directory
  outbox : List Message

/-- A line of the actor, or anything that others do to the surroundings in between. -/
inductive Event
  | line (text : String)
  | change (f : Surroundings → Surroundings)

structure Exchange where
  before : Surroundings
  text : String
  report : Report

def Exchange.after (e : Exchange) : Surroundings :=
  { e.before with outbox := e.before.outbox ++ e.report.messages }

section

variable (d : Dispatcher) (a : ActorId)

def exchange (s : Surroundings) (text : String) : Exchange :=
  ⟨s, text, d.dispatch s.directory a text⟩

def exchanges : Surroundings → List Event → List Exchange
  | _, [] => []
  | s, .line text :: events =>
    exchange d a s text :: exchanges (exchange d a s text).after events
  | s, .change f :: events => exchanges (f s) events

def final : Surroundings → List Event → Surroundings
  | s, [] => s
  | s, .line text :: events => final (exchange d a s text).after events
  | s, .change f :: events => final (f s) events

end

/-- A check that does not answer true refuses the actor, whatever else it answers. -/
def Refuses (check : Procedure) (dir : Directory) (a : ActorId) : Prop :=
  (check.run dir [.actor a]).value ≠ .bool true

def Silent (check : Procedure) (dir : Directory) (a : ActorId) : Prop :=
  (check.run dir [.actor a]).messages = []

def Reaches (d : Dispatcher) (c : Command) (text : String) : Prop :=
  ∃ m, d.registry.find text.toList = some m ∧ m.command = c

/-- The report of a denial, which depends on the command and the actor only: the check was asked,
nothing was read, called or sent. -/
def denial (c : Command) (a : ActorId) : Report where
  outcome := .denied
  checks := [c]
  log := [⟨.warn, s!"actor {a} denied /{c.path}"⟩]

variable {d : Dispatcher} {dir : Directory} {a : ActorId} {c : Command} {check : Procedure}
  {s : Surroundings} {text : String} {texts : List String} {events : List Event} {e : Exchange}

theorem not_allowed_of_refuses (hcheck : c.permission = some check) (h : Refuses check dir a) :
    ¬ Allowed c dir a := mt (allowed_iff_of_check hcheck).mp h

theorem command_ne_of_refuses (hcheck : c.permission = some check)
    (h : c ∈ (d.dispatch dir a text).checks → Refuses check dir a) {call : Call}
    (hcall : call ∈ (d.dispatch dir a text).calls) : call.command ≠ c := by
  obtain ⟨m, args, hm, hallowed, hparsed, rfl⟩ := exists_parsed_of_mem_calls hcall
  rintro rfl
  -- The command was run, so its check was asked before; by `h` it refused, but it has allowed.
  refine not_allowed_of_refuses hcheck (h ?_) hallowed
  rw [dispatch_of_parsed hm hallowed hparsed, asked, hcheck]
  exact List.mem_singleton_self _

theorem eq_exchange_of_mem (h : e ∈ exchanges d a s events) : e = exchange d a e.before e.text := by
  induction events generalizing s with
  | nil => cases h
  | cons event events ih =>
    cases event with
    | line text =>
      obtain rfl | h := List.mem_cons.mp h
      · rfl
      · exact ih h
    | change f => exact ih h

theorem dispatch_eq_denial (hcheck : c.permission = some check) (h : Refuses check dir a)
    (hsilent : Silent check dir a) (hreach : Reaches d c text) :
    d.dispatch dir a text = denial c a := by
  obtain ⟨m, hm, rfl⟩ := hreach
  have hmessages : m.command.checkMessages dir a = [] := by
    rw [Command.checkMessages, hcheck]
    exact hsilent
  rw [dispatch_of_denied hm (not_allowed_of_refuses hcheck h), hmessages, asked, hcheck]
  rfl

theorem after_of_denial (s : Surroundings) (text : String) (c : Command) (a : ActorId) :
    Exchange.after ⟨s, text, denial c a⟩ = s := by
  rw [Exchange.after, denial, List.append_nil]

theorem exchanges_of_denied (hcheck : c.permission = some check)
    (h : Refuses check s.directory a) (hsilent : Silent check s.directory a)
    (hreach : ∀ text ∈ texts, Reaches d c text) :
    exchanges d a s (texts.map .line) = texts.map (⟨s, ·, denial c a⟩) ∧
      final d a s (texts.map .line) = s := by
  induction texts with
  | nil => exact ⟨rfl, rfl⟩
  | cons text texts ih =>
    have hexchange : exchange d a s text = ⟨s, text, denial c a⟩ := by
      rw [exchange, dispatch_eq_denial hcheck h hsilent (hreach text List.mem_cons_self)]
    -- Nothing has changed after the first line, so the others meet the same surroundings.
    obtain ⟨hexchanges, hfinal⟩ := ih fun text' hmem => hreach text' (.tail _ hmem)
    rw [List.map_cons, List.map_cons, exchanges, final, hexchange, after_of_denial, hexchanges]
    exact ⟨rfl, hfinal⟩

theorem reaches_of_selects {path : String} {rest : List Char} (hc : d.registry.commands = [c])
    (h : Selects c path text.toList rest) : Reaches d c text := by
  cases hm : d.registry.find text.toList with
  | none => exact absurd h (find_eq_none_iff.mp hm c (by simp [hc]) path rest)
  | some m =>
    have hmem := (selects_of_find hm).1
    rw [hc, List.mem_singleton] at hmem
    exact ⟨m, hm, hmem⟩

/-- While its check refuses an actor, no line of the actor runs the handler of a command, whatever
others do in between. If the check sends nothing, all lines that reach the command get one and the
same report, and any number of them leaves the surroundings as they are. -/
theorem denial_complete (d : Dispatcher) (a : ActorId) (hcheck : c.permission = some check) :
    (∀ s events,
      (∀ e ∈ exchanges d a s events, c ∈ e.report.checks → Refuses check e.before.directory a) →
        ∀ e ∈ exchanges d a s events, ∀ call ∈ e.report.calls, call.command ≠ c) ∧
    ∀ s, Refuses check s.directory a → Silent check s.directory a →
      (∀ text₁ text₂, Reaches d c text₁ → Reaches d c text₂ →
        d.dispatch s.directory a text₁ = d.dispatch s.directory a text₂) ∧
      ∀ texts : List String, (∀ text ∈ texts, Reaches d c text) →
        exchanges d a s (texts.map .line) = texts.map (⟨s, ·, denial c a⟩) ∧
          final d a s (texts.map .line) = s := by
  refine ⟨fun s events hrefuses e he call hcall => ?_, fun s hrefuses hsilent => ⟨?_, ?_⟩⟩
  · have hasked := hrefuses e he
    rw [eq_exchange_of_mem he] at hasked hcall
    exact command_ne_of_refuses hcheck hasked hcall
  · intro text₁ text₂ hreach₁ hreach₂
    rw [dispatch_eq_denial hcheck hrefuses hsilent hreach₁,
      dispatch_eq_denial hcheck hrefuses hsilent hreach₂]
  · exact fun texts => exchanges_of_denied hcheck hrefuses hsilent

def lone : Surroundings := ⟨(World.ofActors [⟨7, "Bob", false⟩]).directory, []⟩

theorem denial_complete_kick : ∃ c, guarded.registry.commands = [c] ∧
    (∀ e ∈ exchanges guarded 7 lone
        [.line "KICK 1", .change fun _ => ⟨(World.ofActors [⟨1, "Ann", true⟩]).directory, []⟩,
          .line "admin kick 1 bye"],
      ∀ call ∈ e.report.calls, call.command ≠ c) ∧
    (exchanges guarded 7 lone (["kick", "Admin KICK 7 bye"].map .line)).map (·.report) =
      [denial c 7, denial c 7] ∧
    final guarded 7 lone (["kick", "Admin KICK 7 bye"].map .line) = lone := by
  obtain ⟨c, hcommands, hcheck, -, -, hpaths, hcase⟩ := exists_kick
  have hrefuses (dir : Directory) : Refuses (.predicate (· = 1)) dir 7 :=
    fun h => absurd (Value.bool.inj h) (by decide)
  have hfits {path text : String} {rest : List Char} (hpath : path ∈ c.paths)
      (h : stripPath true path.toList (Text.trimSpaces text.toList) = some rest) :
      Reaches guarded c text :=
    reaches_of_selects hcommands (selects_iff_stripPath.mpr ⟨hpath, hcase ▸ h⟩)
  have hreach : ∀ text ∈ ["kick", "Admin KICK 7 bye"], Reaches guarded c text := by
    intro text hmem
    obtain rfl | rfl := List.mem_pair.mp hmem
    · exact hfits (by simp [hpaths] : "kick" ∈ c.paths) (by decide +kernel : _ = some [])
    · exact hfits (by simp [hpaths] : "admin kick" ∈ c.paths)
        (by decide +kernel : _ = some " 7 bye".toList)
  obtain ⟨hnever, hdenied⟩ := denial_complete guarded 7 hcheck
  obtain ⟨-, hsame⟩ := hdenied lone (hrefuses _) rfl
  obtain ⟨hexchanges, hfinal⟩ := hsame _ hreach
  exact ⟨c, hcommands, hnever _ _ fun e _ _ => hrefuses _, congrArg _ hexchanges, hfinal⟩

end SlashCommands.Proofs.Denial
