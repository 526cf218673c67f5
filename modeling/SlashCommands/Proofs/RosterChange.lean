import SlashCommands.Proofs.LookupRule

namespace SlashCommands.Proofs.RosterChange

open ActorLookup LookupRule

/-- What a token names before and after the actor `j` leaves. -/
inductive Leaves (j : ActorId) : Lookup → Lookup → Prop
  | self {after : Lookup} (h : after ≠ .found j) : Leaves j (.found j) after
  | other {i : ActorId} (h : i ≠ j) : Leaves j (.found i) (.found i)
  | nobody : Leaves j .notFound .notFound
  | one {i : ActorId} (h : i ≠ j) : Leaves j .ambiguous (.found i)
  | several : Leaves j .ambiguous .ambiguous

variable {r s : Roster} {token : List Char} {a : Actor} {i j k : ActorId} {before after : Lookup}

theorem eq_of_actors (h : r.actors = s.actors) : r = s := by
  cases r
  cases s
  cases h
  rfl

theorem filter_place (a : Actor) (actors : List Actor) :
    (Roster.place a actors).filter (·.id != a.id) = actors.filter (·.id != a.id) := by
  induction actors with
  | nil => simp [Roster.place]
  | cons b rest ih =>
    rw [Roster.place]
    split
    · simp
    · split
      · rename_i heq
        simp [heq]
      · rw [List.filter_cons, List.filter_cons, ih]

theorem disconnect_connect (r : Roster) (a : Actor) :
    (r.connect a).disconnect a.id = r.disconnect a.id := by
  apply eq_of_actors
  exact filter_place a r.actors

theorem disconnect_of_not_isConnected (h : r.isConnected j = false) : r.disconnect j = r := by
  apply eq_of_actors
  apply List.filter_eq_self.mpr
  intro b hb
  rw [bne_iff_ne]
  intro hid
  rw [isConnected_iff.mpr ⟨b, hb, hid⟩] at h
  cases h

theorem isConnected_disconnect :
    (r.disconnect j).isConnected i = true ↔ i ≠ j ∧ r.isConnected i = true := by
  simp only [isConnected_iff, Roster.disconnect, List.mem_filter, bne_iff_ne]
  constructor
  · rintro ⟨b, ⟨hb, hne⟩, rfl⟩
    exact ⟨hne, b, hb, rfl⟩
  · rintro ⟨hne, b, hb, rfl⟩
    exact ⟨b, ⟨hb, hne⟩, rfl⟩

theorem lookup_disconnect_ne : (r.disconnect j).lookup token ≠ .found j := by
  intro h
  exact (isConnected_disconnect.mp (isConnected_of_lookup h)).1 rfl

theorem namesakes_disconnect :
    namesakes (r.disconnect j) token = (namesakes r token).filter (·.id != j) :=
  List.filter_comm ..

theorem partials_disconnect :
    partials (r.disconnect j) token = (partials r token).filter (·.id != j) :=
  List.filter_comm ..

theorem leaves_oneOf {actors : List Actor} (h : actors.Pairwise (·.id < ·.id)) :
    Leaves j (oneOf (actors.map (·.id))) (oneOf ((actors.filter (·.id != j)).map (·.id))) := by
  match actors with
  | [] => exact .nobody
  | [b] =>
    by_cases hb : b.id = j
    · rw [List.filter_eq_nil_iff.mpr (by simp [hb]), ← hb]
      exact .self nofun
    · rw [List.filter_eq_self.mpr (by simp [hb])]
      exact .other hb
  | b :: c :: rest =>
    -- The two first have different ids, so one of them at least stays.
    have hbc : b.id ≠ c.id := UInt32.ne_of_lt ((List.pairwise_cons.mp h).1 c List.mem_cons_self)
    have hstay : (b :: c :: rest).filter (·.id != j) ≠ [] := by
      intro hnil
      rw [List.filter_eq_nil_iff] at hnil
      have hb := hnil b (by simp)
      have hc := hnil c (by simp)
      simp only [bne_iff_ne, not_not] at hb hc
      exact hbc (hb.trans hc.symm)
    cases hkept : (b :: c :: rest).filter (·.id != j) with
    | nil => exact absurd hkept hstay
    | cons d kept =>
      have hd : d ∈ (b :: c :: rest).filter (·.id != j) := by simp [hkept]
      cases kept with
      | nil => exact .one (bne_iff_ne.mp (List.mem_filter.mp hd).2)
      | cons e kept => exact .several

theorem Leaves.eq_found (h : Leaves j (.found i) after) (hij : i ≠ j) : after = .found i := by
  cases h with
  | self _ => exact absurd rfl hij
  | other _ => rfl

theorem Leaves.eq_notFound (h : Leaves j .notFound after) : after = .notFound := by
  cases h
  rfl

theorem Leaves.found_or_ambiguous (h : Leaves j .ambiguous after) :
    (∃ i, i ≠ j ∧ after = .found i) ∨ after = .ambiguous := by
  cases h with
  | one h => exact .inl ⟨_, h, rfl⟩
  | several => exact .inr rfl

theorem Leaves.of_found (h : Leaves j before (.found i)) :
    before = .found i ∨ before = .ambiguous ∨ before = .found j := by
  cases h <;> simp

theorem Leaves.of_notFound (h : Leaves j before .notFound) :
    before = .notFound ∨ before = .found j := by
  cases h <;> simp

theorem Leaves.of_ambiguous (h : Leaves j before .ambiguous) :
    before = .ambiguous ∨ before = .found j := by
  cases h <;> simp

/-- Where two rosters differ in one actor only, no token names a second actor in the one and a third in
the other. -/
theorem Leaves.no_third (h : Leaves j (.found i) after) (h' : Leaves j (.found k) after) :
    i = k ∨ i = j ∨ k = j := by
  by_cases hij : i = j
  · exact .inr (.inl hij)
  · by_cases hkj : k = j
    · exact .inr (.inr hkj)
    · have hafter := h'.eq_found hkj
      rw [h.eq_found hij] at hafter
      exact .inl (Lookup.found.inj hafter)

theorem leaves_of_digits (hne : token ≠ []) (hdigits : ∀ c ∈ token, c.isDigit = true) :
    Leaves j (r.lookup token) ((r.disconnect j).lookup token) := by
  cases hlookup : r.lookup token with
  | found i =>
    by_cases hij : i = j
    · subst hij
      exact .self lookup_disconnect_ne
    · obtain ⟨hvalue, hconnected⟩ := (lookup_eq_found_iff_of_digits hne hdigits).mp hlookup
      have hstays := isConnected_disconnect.mpr ⟨hij, hconnected⟩
      rw [(lookup_eq_found_iff_of_digits hne hdigits).mpr ⟨hvalue, hstays⟩]
      exact .other hij
  | ambiguous => exact absurd hlookup (lookup_ne_ambiguous_of_digits hne hdigits)
  | notFound =>
    have hnobody := (lookup_eq_notFound_iff_of_digits hne hdigits).mp hlookup
    have hstill : ∀ i : ActorId, Decimal.value token = i.toNat →
        (r.disconnect j).isConnected i = false := by
      intro i hvalue
      rw [Bool.eq_false_iff]
      intro hconnected
      have hbefore := (isConnected_disconnect.mp hconnected).2
      rw [hnobody i hvalue] at hbefore
      cases hbefore
    rw [(lookup_eq_notFound_iff_of_digits hne hdigits).mpr hstill]
    exact .nobody

theorem leaves_of_not_digits (h : ∃ c ∈ token, c.isDigit = false) :
    Leaves j (r.lookup token) ((r.disconnect j).lookup token) := by
  cases hnamesakes : namesakes r token with
  | nil =>
    have hnone : namesakes (r.disconnect j) token = [] := by
      rw [namesakes_disconnect, hnamesakes, List.filter_nil]
    rw [lookup_of_no_namesake h hnamesakes, lookup_of_no_namesake h hnone, partials_disconnect]
    exact leaves_oneOf (r.ascending.filter _)
  | cons b rest =>
    rw [lookup_of_namesake h hnamesakes]
    by_cases hb : b.id = j
    · rw [hb]
      exact .self lookup_disconnect_ne
    · -- The first with the name is still the first.
      have hfirst : namesakes (r.disconnect j) token = b :: rest.filter (·.id != j) := by
        rw [namesakes_disconnect, hnamesakes, List.filter_cons_of_pos (by simpa using hb)]
      rw [lookup_of_namesake h hfirst]
      exact .other hb

theorem leaves_lookup (r : Roster) (token : List Char) (j : ActorId) :
    Leaves j (r.lookup token) ((r.disconnect j).lookup token) := by
  by_cases hne : token = []
  · subst hne
    exact .nobody
  · by_cases hdigits : ∀ c ∈ token, c.isDigit = true
    · exact leaves_of_digits hne hdigits
    · apply leaves_of_not_digits
      simpa using hdigits

theorem leaves_disconnect (r : Roster) (token : List Char) (j : ActorId) :
    Leaves j ((r.disconnect j).lookup token) ((r.disconnect j).lookup token) := by
  have hgone : (r.disconnect j).isConnected j = false := by
    rw [Bool.eq_false_iff]
    intro h
    exact (isConnected_disconnect.mp h).1 rfl
  have h := leaves_lookup (r.disconnect j) token j
  rwa [disconnect_of_not_isConnected hgone] at h

/-- Who comes, or is replaced, can leave again. -/
theorem leaves_connect (ha : a.id = j) (r : Roster) (token : List Char) :
    Leaves j ((r.connect a).lookup token) ((r.disconnect j).lookup token) := by
  subst ha
  rw [← disconnect_connect]
  exact leaves_lookup (r.connect a) token a.id

/-- A token that named the actor `i` still does when another one leaves; one that named nobody still
does not; and one that could mean several still means somebody. When an actor comes who was not there,
a token that named `i` still does, or can now mean several, or names the newcomer; one that named
nobody, and one that could mean several, stay as they were or name the newcomer. So no change of one
actor, be it that he is replaced, turns a token from a second actor to a third. -/
theorem lookup_of_change (w : World) (token : List Char) (j : ActorId) :
    let before := w.directory.lookup token
    let left := (w.disconnect j).directory.lookup token
    (∀ i, i ≠ j → before = .found i → left = .found i) ∧
    (before = .notFound → left = .notFound) ∧
    (before = .ambiguous → (∃ i, i ≠ j ∧ left = .found i) ∨ left = .ambiguous) ∧
    ∀ a : Actor, a.id = j →
      let joined := (w.connect a).directory.lookup token
      (w.roster.isConnected j = false →
        (∀ i, before = .found i → joined = .found i ∨ joined = .ambiguous ∨ joined = .found j) ∧
        (before = .notFound → joined = .notFound ∨ joined = .found j) ∧
        (before = .ambiguous → joined = .ambiguous ∨ joined = .found j)) ∧
      ∀ i k, before = .found i → left = .found k ∨ joined = .found k → i = k ∨ i = j ∨ k = j := by
  intro before left
  have hleft : Leaves j before left := leaves_lookup w.roster token j
  refine ⟨fun i hij hi => ?_, fun hnobody => ?_, fun hseveral => ?_, fun a ha => ?_⟩
  · rw [hi] at hleft
    exact hleft.eq_found hij
  · rw [hnobody] at hleft
    exact hleft.eq_notFound
  · rw [hseveral] at hleft
    exact hleft.found_or_ambiguous
  · intro joined
    have hjoined : Leaves j joined left := leaves_connect ha w.roster token
    refine ⟨fun hfresh => ?_, fun i k hi hk => ?_⟩
    · have hsame : left = before := by
        have hroster := disconnect_of_not_isConnected hfresh
        exact congrArg (·.lookup token) hroster
      rw [hsame] at hjoined
      refine ⟨fun i hi => ?_, fun hnobody => ?_, fun hseveral => ?_⟩
      · rw [hi] at hjoined
        exact hjoined.of_found
      · rw [hnobody] at hjoined
        exact hjoined.of_notFound
      · rw [hseveral] at hjoined
        exact hjoined.of_ambiguous
    · rw [hi] at hleft
      obtain hk | hk := hk
      · have hagain : Leaves j left left := leaves_disconnect w.roster token j
        rw [hk] at hagain hleft
        exact hleft.no_third hagain
      · rw [hk] at hjoined
        exact hleft.no_third hjoined

theorem lookup_of_change_crowd :
    let w : World := { roster := crowd.disconnect 7 }
    (w.disconnect 1).directory.lookup "joan".toList = .found 2 ∧
      ((w.connect ⟨9, "Hannah", false⟩).directory.lookup "ann".toList = .ambiguous ∨
        (w.connect ⟨9, "Hannah", false⟩).directory.lookup "ann".toList = .found 9) := by
  intro w
  obtain ⟨hstays, -, -, -⟩ := lookup_of_change w "joan".toList 1
  obtain ⟨-, -, -, hcomes⟩ := lookup_of_change w "ann".toList 9
  obtain ⟨hfresh, -⟩ := hcomes ⟨9, "Hannah", false⟩ rfl
  obtain ⟨-, -, hseveral⟩ := hfresh (by decide +kernel)
  exact ⟨hstays 2 (by decide) (by decide +kernel), hseveral (by decide +kernel)⟩

end SlashCommands.Proofs.RosterChange
