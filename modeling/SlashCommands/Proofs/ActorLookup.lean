import SlashCommands.Proofs.Decimals
import SlashCommands.World

namespace SlashCommands.Proofs.ActorLookup

variable {r : Roster} {id : ActorId}

theorem isConnected_iff : r.isConnected id = true ↔ ∃ a ∈ r.actors, a.id = id := by
  simp [Roster.isConnected, Roster.get?]

theorem exists_name_of_isConnected (h : r.isConnected id = true) :
    ∃ name, r.name? id = some name := by
  obtain ⟨a, ha⟩ := Option.isSome_iff_exists.mp h
  exact ⟨a.name, by rw [Roster.name?, ha, Option.map_some]⟩

/-- Whoever is found by name is among the actors looked through or among the partial fits. -/
theorem found_of_lookupName {needle : List Char} {partials : List ActorId} {actors : List Actor}
    (h : Roster.lookupName needle partials actors = .found id) :
    id ∈ partials ∨ ∃ a ∈ actors, a.id = id := by
  induction actors generalizing partials with
  | nil =>
    unfold Roster.lookupName at h
    split at h
    · cases h
    · cases h
      exact .inl List.mem_cons_self
    · cases h
  | cons a actors ih =>
    simp only [Roster.lookupName] at h
    split at h
    · cases h
      exact .inr ⟨a, List.mem_cons_self, rfl⟩
    · obtain hp | ⟨b, hb, hid⟩ := ih h
      · split at hp
        · obtain rfl | hp := List.mem_cons.mp hp
          · exact .inr ⟨a, List.mem_cons_self, rfl⟩
          · exact .inl hp
        · exact .inl hp
      · exact .inr ⟨b, List.mem_cons_of_mem a hb, hid⟩

theorem isConnected_of_lookup {token : List Char} (h : r.lookup token = .found id) :
    r.isConnected id = true := by
  rw [Roster.lookup] at h
  split at h
  · cases h
  · split at h
    · simp only [Roster.lookupId] at h
      split at h
      · rename_i hn
        cases h
        exact (Bool.and_eq_true_iff.mp hn).2
      · cases h
    · obtain hp | ha := found_of_lookupName h
      · cases hp
      · exact isConnected_iff.mpr ha

theorem lookup_digits (h : r.isConnected id = true) :
    r.lookup (Decimal.digits id.toNat) = .found id := by
  have hne := List.isEmpty_eq_false_iff.mpr (Decimals.digits_ne_nil id.toNat)
  rw [Roster.lookup, if_neg (by simp [hne]), if_pos (Decimals.all_isDigit_digits _)]
  simp only [Roster.lookupId, Decimals.value_digits, UInt32.ofNat_toNat, h]
  simp [UInt32.toNat_lt_size]

def pair : World := .ofActors [⟨1, "Ann", true⟩, ⟨7, "Bob", false⟩]

end SlashCommands.Proofs.ActorLookup
