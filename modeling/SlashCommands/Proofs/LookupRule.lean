import Mathlib.Data.List.Infix
import SlashCommands.Proofs.ActorLookup

namespace SlashCommands.Proofs.LookupRule

open ActorLookup Decimal Decimals Text

abbrev IsNamed (needle : List Char) (a : Actor) : Prop := lower a.name.toList = needle

abbrev NameContains (needle : List Char) (a : Actor) : Prop := needle <:+: lower a.name.toList

def namesakes (r : Roster) (token : List Char) : List Actor := r.actors.filter (IsNamed (lower token))

def partials (r : Roster) (token : List Char) : List Actor :=
  r.actors.filter (NameContains (lower token))

/-- What a token names that can mean any of these actors. -/
def oneOf : List ActorId → Lookup
  | [] => .notFound
  | [id] => .found id
  | _ => .ambiguous

variable {r : Roster} {token needle : List Char} {ids : List ActorId} {actors rest : List Actor}
  {a : Actor}

theorem oneOf_reverse (ids : List ActorId) : oneOf ids.reverse = oneOf ids := by
  match ids with
  | [] | [_] => rfl
  | a :: b :: ids =>
    -- A list of two or more has two or more in either order.
    have hambiguous (l : List ActorId) (h : 2 ≤ l.length) : oneOf l = .ambiguous := by
      match l with
      | [] | [_] => simp at h
      | _ :: _ :: _ => rfl
    rw [hambiguous (a :: b :: ids).reverse (by simp), hambiguous (a :: b :: ids) (by simp)]

theorem lookupName_nil (needle : List Char) (ids : List ActorId) :
    Roster.lookupName needle ids [] = oneOf ids := by
  match ids with
  | [] | [_] | _ :: _ :: _ => rfl

theorem lookupName_cons_of_isNamed (h : IsNamed needle a) :
    Roster.lookupName needle ids (a :: rest) = .found a.id := by
  rw [Roster.lookupName, if_pos h]

theorem lookupName_cons_of_not_isNamed (h : ¬ IsNamed needle a) :
    Roster.lookupName needle ids (a :: rest) =
      Roster.lookupName needle (if NameContains needle a then a.id :: ids else ids) rest := by
  rw [Roster.lookupName, if_neg h]
  simp only [occursIn_iff]

theorem lookupName_of_isNamed (h : actors.filter (IsNamed needle) = a :: rest) :
    Roster.lookupName needle ids actors = .found a.id := by
  induction actors generalizing ids with
  | nil => cases h
  | cons b actors ih =>
    by_cases hb : IsNamed needle b
    · rw [List.filter_cons, if_pos (decide_eq_true hb)] at h
      rw [lookupName_cons_of_isNamed hb, (List.cons.inj h).1]
    · rw [List.filter_cons, if_neg (by simpa using hb)] at h
      rw [lookupName_cons_of_not_isNamed hb]
      exact ih h

/-- Where nobody has the name, it counts in whose names it occurs, and who was met before. -/
theorem lookupName_of_nobody (h : ∀ a ∈ actors, ¬ IsNamed needle a) :
    Roster.lookupName needle ids actors =
      oneOf (((actors.filter (NameContains needle)).map (·.id)).reverse ++ ids) := by
  induction actors generalizing ids with
  | nil => exact lookupName_nil needle ids
  | cons b actors ih =>
    obtain ⟨hb, hactors⟩ := List.forall_mem_cons.mp h
    rw [lookupName_cons_of_not_isNamed hb, ih hactors]
    by_cases hc : NameContains needle b
    · rw [if_pos hc, List.filter_cons, if_pos (decide_eq_true hc), List.map_cons,
        List.reverse_cons, List.append_assoc, List.singleton_append]
    · rw [if_neg hc, List.filter_cons, if_neg (by simpa using hc)]

theorem lookup_of_not_digits (h : ∃ c ∈ token, c.isDigit = false) :
    r.lookup token = Roster.lookupName (lower token) [] r.actors := by
  obtain ⟨c, hc, hdigit⟩ := h
  have hne : token.isEmpty = false := List.isEmpty_eq_false_iff.mpr (List.ne_nil_of_mem hc)
  have hall : token.all Char.isDigit = false := List.all_eq_false.mpr ⟨c, hc, by simp [hdigit]⟩
  simp [Roster.lookup, hne, hall]

theorem lookup_of_namesake (h : ∃ c ∈ token, c.isDigit = false)
    (hnamesakes : namesakes r token = a :: rest) : r.lookup token = .found a.id := by
  rw [lookup_of_not_digits h]
  exact lookupName_of_isNamed hnamesakes

theorem exists_least_namesake (h : ∃ c ∈ token, c.isDigit = false) (hne : namesakes r token ≠ []) :
    ∃ a ∈ namesakes r token, (∀ b ∈ namesakes r token, a.id ≤ b.id) ∧
      r.lookup token = .found a.id := by
  obtain ⟨a, rest, hnamesakes⟩ := List.exists_cons_of_ne_nil hne
  have hascending : (namesakes r token).Pairwise (·.id < ·.id) := r.ascending.filter _
  rw [hnamesakes] at hascending
  refine ⟨a, hnamesakes ▸ List.mem_cons_self, fun b hb => ?_, ?_⟩
  · rw [hnamesakes] at hb
    obtain rfl | hb := List.mem_cons.mp hb
    · exact UInt32.le_refl _
    · exact UInt32.le_of_lt ((List.pairwise_cons.mp hascending).1 b hb)
  · exact lookup_of_namesake h hnamesakes

theorem lookup_of_no_namesake (h : ∃ c ∈ token, c.isDigit = false) (hnone : namesakes r token = []) :
    r.lookup token = oneOf ((partials r token).map (·.id)) := by
  have hnobody : ∀ a ∈ r.actors, ¬ IsNamed (lower token) a := by
    intro a ha hnamed
    exact List.filter_eq_nil_iff.mp hnone a ha (decide_eq_true hnamed)
  rw [lookup_of_not_digits h, lookupName_of_nobody hnobody, List.append_nil, oneOf_reverse]
  rfl

section

variable (hne : token ≠ []) (hdigits : ∀ c ∈ token, c.isDigit = true)

include hne hdigits

theorem lookup_of_digits : r.lookup token = r.lookupId token := by
  rw [Roster.lookup, if_neg (by simpa using hne), if_pos (List.all_eq_true.mpr hdigits)]

theorem lookup_eq_found_iff_of_digits {id : ActorId} :
    r.lookup token = .found id ↔ value token = id.toNat ∧ r.isConnected id = true := by
  rw [lookup_of_digits hne hdigits]
  simp only [Roster.lookupId, Bool.and_eq_true, decide_eq_true_eq]
  constructor
  · intro h
    split at h
    · rename_i hfits
      cases h
      exact ⟨(UInt32.toNat_ofNat_of_lt' hfits.1).symm, hfits.2⟩
    · cases h
  · rintro ⟨hvalue, hconnected⟩
    rw [hvalue, UInt32.ofNat_toNat, if_pos ⟨id.toNat_lt_size, hconnected⟩]

theorem lookup_ne_ambiguous_of_digits : r.lookup token ≠ .ambiguous := by
  rw [lookup_of_digits hne hdigits]
  simp only [Roster.lookupId]
  split <;> simp

theorem lookup_eq_notFound_iff_of_digits :
    r.lookup token = .notFound ↔ ∀ id : ActorId, value token = id.toNat → r.isConnected id = false := by
  constructor
  · intro h id hvalue
    cases hconnected : r.isConnected id with
    | false => rfl
    | true =>
      have hfound := (lookup_eq_found_iff_of_digits hne hdigits).mpr ⟨hvalue, hconnected⟩
      rw [h] at hfound
      cases hfound
  · intro h
    cases hlookup : r.lookup token with
    | found id =>
      obtain ⟨hvalue, hconnected⟩ := (lookup_eq_found_iff_of_digits hne hdigits).mp hlookup
      rw [h id hvalue] at hconnected
      cases hconnected
    | ambiguous => exact absurd hlookup (lookup_ne_ambiguous_of_digits hne hdigits)
    | notFound => rfl

end

/-- The empty token names nobody. Digits, with any zeros in front, name the actor with the id that
they spell, if there is one, and nobody else. Any other token names, of the actors whose name it is,
the one with the least id; if it is nobody's name, it names the only actor in whose name it occurs,
and is ambiguous if it occurs in several. -/
theorem lookup_rule (r : Roster) (token : List Char) :
    (token = [] → r.lookup token = .notFound) ∧
    (token ≠ [] → (∀ c ∈ token, c.isDigit = true) →
      (∀ n, value token = n ↔ ∃ zeros, token = List.replicate zeros '0' ++ digits n) ∧
      (∀ id, r.lookup token = .found id ↔ value token = id.toNat ∧ r.isConnected id = true) ∧
      (r.lookup token = .notFound ↔
        ∀ id : ActorId, value token = id.toNat → r.isConnected id = false)) ∧
    ((∃ c ∈ token, c.isDigit = false) →
      (namesakes r token ≠ [] → ∃ a ∈ namesakes r token,
        (∀ b ∈ namesakes r token, a.id ≤ b.id) ∧ r.lookup token = .found a.id) ∧
      (namesakes r token = [] → r.lookup token = oneOf ((partials r token).map (·.id)))) := by
  refine ⟨fun hnil => ?_, fun hne hdigits => ⟨fun n => ?_, fun id => ?_, ?_⟩, fun h => ⟨?_, ?_⟩⟩
  · rw [hnil]
    rfl
  · exact value_eq_iff hne hdigits
  · exact lookup_eq_found_iff_of_digits hne hdigits
  · exact lookup_eq_notFound_iff_of_digits hne hdigits
  · exact exists_least_namesake h
  · exact lookup_of_no_namesake h

def crowd : Roster := .ofList [⟨1, "Annabel", false⟩, ⟨2, "Joanne", false⟩, ⟨7, "Ann", false⟩]

example : crowd.lookup "ANN".toList = .found 7 ∧ crowd.lookup "an".toList = .ambiguous ∧
    crowd.lookup "007".toList = .found 7 ∧ crowd.lookup "3".toList = .notFound := by decide +kernel

end SlashCommands.Proofs.LookupRule
