import Mathlib.Data.List.Induction
import SlashCommands.Roster

namespace SlashCommands.Proofs.RosterEntries

variable {actors : List Actor} {a : Actor} {id : ActorId}

theorem find?_place (a : Actor) (actors : List Actor) (id : ActorId) :
    (Roster.place a actors).find? (·.id == id) =
      if a.id = id then some a else actors.find? (·.id == id) := by
  induction actors with
  | nil => by_cases h : a.id = id <;> simp [Roster.place, h]
  | cons b rest ih =>
    rw [Roster.place]
    split
    · by_cases h : a.id = id <;> simp [h]
    · split
      · rename_i heq
        by_cases h : a.id = id <;> simp [h, ← heq]
      · rename_i hne
        by_cases hb : b.id = id
        · have ha : a.id ≠ id := fun ha => hne (ha.trans hb.symm)
          simp [hb, ha]
        · have hbid : (b.id == id) = false := beq_false_of_ne hb
          simp [hbid, ih]

theorem get?_connect (r : Roster) (a : Actor) (id : ActorId) :
    (r.connect a).get? id = if a.id = id then some a else r.get? id :=
  find?_place a r.actors id

theorem ofList_append_singleton (actors : List Actor) (a : Actor) :
    Roster.ofList (actors ++ [a]) = (Roster.ofList actors).connect a := by
  simp [Roster.ofList]

theorem get?_ofList (actors : List Actor) (id : ActorId) :
    (Roster.ofList actors).get? id = actors.reverse.find? (·.id == id) := by
  induction actors using List.reverseRecOn with
  | nil => rfl
  | append_singleton actors a ih =>
    rw [ofList_append_singleton, get?_connect, ih, List.reverse_append]
    by_cases h : a.id = id
    · simp [h]
    · have hbid : (a.id == id) = false := beq_false_of_ne h
      simp [h, hbid]

/-- The entry that counts for an id is one with no other of this id behind it. -/
theorem get?_ofList_eq_some_iff : (Roster.ofList actors).get? id = some a ↔
    a.id = id ∧ ∃ before after, actors = before ++ a :: after ∧ ∀ b ∈ after, b.id ≠ id := by
  rw [get?_ofList, List.find?_eq_some_iff_append]
  refine and_congr (by simp) ⟨?_, ?_⟩
  · rintro ⟨as, bs, hactors, has⟩
    refine ⟨bs.reverse, as.reverse, ?_, by simpa using has⟩
    rw [← List.reverse_reverse actors, hactors]
    simp
  · rintro ⟨before, after, rfl, hafter⟩
    exact ⟨after.reverse, before.reverse, by simp, by simpa using hafter⟩

theorem exists_get?_ofList (h : a ∈ actors) : ∃ b, (Roster.ofList actors).get? a.id = some b := by
  rw [get?_ofList, ← Option.isSome_iff_exists, List.find?_isSome]
  exact ⟨a, List.mem_reverse.mpr h, by simp⟩

end SlashCommands.Proofs.RosterEntries
