import Mathlib.Data.List.Nodup
import SlashCommands.Proofs.RosterChange
import SlashCommands.Proofs.RosterEntries

namespace SlashCommands.Proofs.RosterHistory

open ActorLookup RosterChange RosterEntries

/-- An actor comes, or takes the place of one with the same id, or whoever has an id leaves. -/
inductive Step
  | connect (a : Actor)
  | disconnect (id : ActorId)

namespace Step

def id : Step → ActorId
  | connect a => a.id
  | disconnect id => id

def actor? : Step → Option Actor
  | connect a => some a
  | disconnect _ => none

end Step

def step (w : World) : Step → World
  | .connect a => w.connect a
  | .disconnect id => (w.dismiss id).1

def after (steps : List Step) : World := steps.foldl step {}

/-- The last of the steps with an id. -/
def last? (steps : List Step) (id : ActorId) : Option Step :=
  (steps.filter (·.id == id)).getLast?

/-- No question about who is there tells two worlds apart. -/
structure AnswersAlike (w w' : World) : Prop where
  lookup : ∀ token, w.directory.lookup token = w'.directory.lookup token
  name? : ∀ id, w.directory.name? id = w'.directory.name? id
  ids : w.roster.ids = w'.roster.ids
  isConnected : ∀ id, w.roster.isConnected id = w'.roster.isConnected id
  isAdmin : ∀ id, w.roster.isAdmin id = w'.roster.isAdmin id

variable {r r' : Roster} {w : World} {s : Step} {steps others : List Step} {a : Actor}
  {id : ActorId}

theorem get?_disconnect (r : Roster) (j i : ActorId) :
    (r.disconnect j).get? i = if j = i then none else r.get? i := by
  rw [Roster.get?, Roster.disconnect, List.find?_filter]
  by_cases hji : j = i
  · rw [if_pos hji, List.find?_eq_none]
    simp [hji]
  · have hsame : (fun b : Actor => decide ((b.id != j) = true ∧ (b.id == i) = true)) =
        fun b : Actor => b.id == i := by
      funext b
      by_cases hb : b.id = i
      · simp [hb, Ne.symm hji]
      · simp [hb]
    rw [if_neg hji, hsame]
    rfl

theorem mem_actors_iff : a ∈ r.actors ↔ r.get? a.id = some a := by
  constructor
  · intro ha
    obtain ⟨b, hb⟩ := Option.isSome_iff_exists.mp (isConnected_iff.mpr ⟨a, ha, rfl⟩)
    have hid : b.id = a.id := by simpa using List.find?_some hb
    have hids : (r.actors.map (·.id)).Nodup :=
      (List.pairwise_map.mpr r.ascending).imp UInt32.ne_of_lt
    rw [hb, List.inj_on_of_nodup_map hids (List.mem_of_find?_eq_some hb) ha hid]
  · exact List.mem_of_find?_eq_some

theorem nodup_actors (r : Roster) : r.actors.Nodup :=
  r.ascending.imp fun hlt heq => UInt32.ne_of_lt hlt (congrArg Actor.id heq)

theorem eq_of_get? (h : ∀ id, r.get? id = r'.get? id) : r = r' := by
  apply eq_of_actors
  have hperm : r.actors.Perm r'.actors := by
    rw [List.perm_ext_iff_of_nodup (nodup_actors r) (nodup_actors r')]
    intro a
    rw [mem_actors_iff, mem_actors_iff, h]
  -- The same actors, in ascending order both times.
  apply hperm.eq_of_pairwise _ r.ascending r'.ascending
  intro a b _ _ hab hba
  exact absurd hba (UInt32.lt_asymm hab)

theorem dismiss_iff (w : World) (id : ActorId) :
    (w.dismiss id).2 = true ↔ w.roster.isConnected id = true := by
  rw [isConnected_iff, World.dismiss]
  simp only [World.disconnect, Roster.disconnect, decide_eq_true_eq,
    List.length_filter_lt_length_iff_exists]
  simp

theorem get?_step (w : World) (s : Step) (id : ActorId) :
    (step w s).roster.get? id = if s.id = id then s.actor? else w.roster.get? id := by
  cases s with
  | connect a => exact get?_connect w.roster a id
  | disconnect j => exact get?_disconnect w.roster j id

theorem after_append_singleton (steps : List Step) (s : Step) :
    after (steps ++ [s]) = step (after steps) s := by
  rw [after, after, List.foldl_append, List.foldl_cons, List.foldl_nil]

theorem last?_append_singleton (steps : List Step) (s : Step) (id : ActorId) :
    last? (steps ++ [s]) id = if s.id = id then some s else last? steps id := by
  rw [last?, last?, List.filter_append]
  by_cases h : s.id = id <;> simp [h]

theorem id_of_last? (h : last? steps id = some s) : s.id = id := by
  have hmem := List.mem_of_getLast? h
  exact eq_of_beq (List.mem_filter.mp hmem).2

theorem get?_after (steps : List Step) (id : ActorId) :
    (after steps).roster.get? id = (last? steps id).bind Step.actor? := by
  induction steps using List.reverseRecOn with
  | nil => rfl
  | append_singleton steps s ih =>
    rw [after_append_singleton, get?_step, last?_append_singleton, ih]
    by_cases h : s.id = id
    · rw [if_pos h, if_pos h, Option.bind_some]
    · rw [if_neg h, if_neg h]

theorem get?_after_eq_some_iff :
    (after steps).roster.get? id = some a ↔ last? steps id = some (.connect a) := by
  rw [get?_after]
  cases last? steps id with
  | none => simp
  | some s => cases s <;> simp [Step.actor?]

theorem isConnected_after_iff :
    (after steps).roster.isConnected id = true ↔ ∃ a, last? steps id = some (.connect a) := by
  simp only [← get?_after_eq_some_iff]
  exact Option.isSome_iff_exists

theorem mem_ids_iff : id ∈ r.ids ↔ r.isConnected id = true := by
  rw [Roster.ids, List.mem_map, isConnected_iff]

theorem roster_after_eq
    (h : ∀ id a, last? steps id = some (.connect a) ↔ last? others id = some (.connect a)) :
    (after steps).roster = (after others).roster := by
  apply eq_of_get?
  intro id
  apply Option.ext
  intro a
  rw [get?_after_eq_some_iff, get?_after_eq_some_iff, h]

theorem answersAlike_of_roster {w' : World} (h : w.roster = w'.roster) : AnswersAlike w w' := by
  constructor <;> simp [World.directory, h]

/-- The ids of those who are there ascend, and are those for which the last step was that somebody
came. To disconnect an id takes somebody out exactly if somebody has it at that time. Who is there has
the name and the rights with which he came last; for an id that nobody has there are neither. So two
histories lead to worlds that answer alike if the last step with each id is the same in both, and
even if only those agree by which somebody came. -/
theorem roster_of_last_steps (steps : List Step) :
    let w := after steps
    w.roster.ids.Pairwise (· < ·) ∧
    (∀ id, id ∈ w.roster.ids ↔ ∃ a, last? steps id = some (.connect a)) ∧
    (∀ id, w.roster.isConnected id = true ↔ id ∈ w.roster.ids) ∧
    (∀ id, (w.dismiss id).2 = true ↔ w.roster.isConnected id = true) ∧
    (∀ id, w.roster.isConnected id = true → ∃ a, last? steps id = some (.connect a) ∧
      a.id = id ∧ w.directory.name? id = some a.name ∧ w.roster.isAdmin id = a.admin) ∧
    (∀ id, w.roster.isConnected id = false →
      w.directory.name? id = none ∧ w.roster.isAdmin id = false) ∧
    ∀ others,
      (∀ id a, last? steps id = some (.connect a) ↔ last? others id = some (.connect a)) →
        AnswersAlike w (after others) := by
  intro w
  refine ⟨List.pairwise_map.mpr w.roster.ascending, fun id => ?_, fun id => mem_ids_iff.symm,
    dismiss_iff w, fun id hconnected => ?_, fun id hgone => ?_, fun others h => ?_⟩
  · rw [mem_ids_iff, isConnected_after_iff]
  · obtain ⟨a, hlast⟩ := isConnected_after_iff.mp hconnected
    have hget : w.roster.get? id = some a := get?_after_eq_some_iff.mpr hlast
    refine ⟨a, hlast, id_of_last? hlast, ?_, ?_⟩
    · exact congrArg (Option.map Actor.name) hget
    · exact congrArg (Option.any Actor.admin) hget
  · have hget : w.roster.get? id = none := by simpa [Roster.isConnected] using hgone
    constructor
    · exact congrArg (Option.map Actor.name) hget
    · exact congrArg (Option.any Actor.admin) hget
  · exact answersAlike_of_roster (roster_after_eq h)

def rejoined : List Step :=
  [.connect ⟨3, "Ann", true⟩, .connect ⟨5, "Bob", false⟩, .disconnect 3, .connect ⟨3, "Cid", false⟩]

def direct : List Step :=
  [.connect ⟨3, "Cid", false⟩, .disconnect 9, .connect ⟨5, "Bob", false⟩]

theorem roster_of_last_steps_rejoined :
    AnswersAlike (after rejoined) (after direct) ∧ ((after rejoined).dismiss 3).2 = true ∧
      (after rejoined).directory.name? 3 = some "Cid" ∧
      (after rejoined).roster.isAdmin 3 = false ∧
      (after rejoined).directory.name? 9 = none := by
  obtain ⟨-, -, -, hdismiss, hthere, hgone, halike⟩ := roster_of_last_steps rejoined
  have hsame (id : ActorId) (a : Actor) :
      last? rejoined id = some (.connect a) ↔ last? direct id = some (.connect a) := by
    by_cases h3 : 3 = id
    · subst h3
      rfl
    · by_cases h5 : 5 = id
      · subst h5
        rfl
      · by_cases h9 : 9 = id <;> simp [last?, rejoined, direct, Step.id, h3, h5, h9]
  obtain ⟨a, ha, -, hname, hadmin⟩ := hthere 3 rfl
  cases ha
  exact ⟨halike direct hsame, (hdismiss 3).mpr rfl, hname, hadmin, (hgone 9 rfl).1⟩

end SlashCommands.Proofs.RosterHistory
