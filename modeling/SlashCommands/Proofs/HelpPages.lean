import Mathlib.Algebra.Order.Floor.Semiring
import Mathlib.Data.Rat.Floor
import SlashCommands.Demo

namespace SlashCommands.Proofs.HelpPages

/-- The number of the last page: there are as many as it takes for all rows, six on each. -/
def lastPage (rows : List (String × String)) : Nat := max 1 ⌈(rows.length / 6 : ℚ)⌉₊

def pageRows (rows : List (String × String)) (p : Nat) : List (String × String) :=
  rows.extract ((p - 1) * 6) (min rows.length (6 * p))

/-- The page shown where page `n` is asked for: that page, or else the nearest. -/
structure IsShown (rows : List (String × String)) (n : Int64) (p : Nat) : Prop where
  one_le : 1 ≤ p
  le_last : p ≤ lastPage rows
  asked : 1 ≤ n.toInt → n.toInt ≤ lastPage rows → (p : Int) = n.toInt
  below : n.toInt < 1 → p = 1
  above : lastPage rows < n.toInt → p = lastPage rows

variable {rows : List (String × String)} {p : Nat}

theorem one_le_pages (rows : List (String × String)) : 1 ≤ Help.pages rows.length :=
  Nat.le_max_left ..

theorem pages_le_iff (hp : 1 ≤ p) : Help.pages rows.length ≤ p ↔ rows.length ≤ p * 6 := by
  simp only [Help.pages, Help.pageSize]
  omega

theorem pages_eq (rows : List (String × String)) : Help.pages rows.length = lastPage rows := by
  apply eq_of_forall_ge_iff
  intro p
  have hceil : ⌈(rows.length / 6 : ℚ)⌉₊ ≤ p ↔ rows.length ≤ p * 6 := by
    rw [Nat.ceil_le, div_le_iff₀ (by norm_num)]
    exact_mod_cast Iff.rfl
  rw [lastPage, max_le_iff, hceil]
  constructor
  · intro h
    have hp := Nat.le_trans (one_le_pages rows) h
    exact ⟨hp, (pages_le_iff hp).mp h⟩
  · rintro ⟨hp, h⟩
    exact (pages_le_iff hp).mpr h

example : Help.pages 0 = 1 ∧ Help.pages 6 = 1 ∧ Help.pages 7 = 2 ∧ Help.pages 12 = 2 := by decide

theorem start_lt (hne : rows ≠ []) (h : p ≤ Help.pages rows.length) : (p - 1) * 6 < rows.length := by
  have hpos := List.length_pos_of_ne_nil hne
  simp only [Help.pages, Help.pageSize] at h
  omega

theorem start_le (rows : List (String × String)) (h : p ≤ Help.pages rows.length) :
    (p - 1) * 6 ≤ rows.length := by
  by_cases hne : rows = []
  · subst hne
    have hp : p ≤ 1 := h
    omega
  · exact Nat.le_of_lt (start_lt hne h)

theorem rowsOn_eq (rows : List (String × String)) (hp : 1 ≤ p) :
    Help.rowsOn rows p = pageRows rows p := by
  -- On the last page fewer than six rows are left to take.
  rw [Help.rowsOn, pageRows, List.extract_eq_take_drop, Help.pageSize, List.take_eq_take_iff,
    List.length_drop]
  omega

theorem take_succ_mul (rows : List (String × String)) (p : Nat) :
    rows.take ((p + 1) * 6) = rows.take (p * 6) ++ pageRows rows (p + 1) := by
  rw [← rowsOn_eq rows (Nat.le_add_left 1 p), Help.rowsOn, Nat.add_sub_cancel, Help.pageSize,
    Nat.succ_mul, List.take_add]

theorem flatMap_pageRows (rows : List (String × String)) (p : Nat) :
    (List.range p).flatMap (fun i => pageRows rows (i + 1)) = rows.take (p * 6) := by
  induction p with
  | zero => simp
  | succ p ih =>
    rw [List.range_succ, List.flatMap_append, ih, List.flatMap_singleton, take_succ_mul]

theorem pageRows_ne_nil (hne : rows ≠ []) (hp : 1 ≤ p) (h : p ≤ Help.pages rows.length) :
    pageRows rows p ≠ [] := by
  have hstart := start_lt hne h
  apply List.ne_nil_of_length_pos
  rw [pageRows, List.extract_eq_take_drop, List.length_take, List.length_drop]
  omega

theorem isShown_page (rows : List (String × String)) (n : Int64) :
    IsShown rows n (Help.page n (lastPage rows)) := by
  have hone : 1 ≤ lastPage rows := Nat.le_max_left ..
  constructor
  all_goals
    rw [Help.page]
    omega

theorem exists_run_help (rows : List (String × String)) (dir : Directory) (player : ActorId)
    (n : Int64) : ∃ p, IsShown rows n p ∧
      (Demo.help rows).handler.run dir [.actor player, .int n] =
        ⟨.bool true, ⟨player, .white, s!"Commands (page {p}/{lastPage rows}):"⟩ ::
          (pageRows rows p).map fun row => ⟨player, .grey,
            if row.2 = "" then s!"  /{row.1}" else s!"  /{row.1} - {row.2}"⟩⟩ := by
  have hshown := isShown_page rows n
  refine ⟨_, hshown, ?_⟩
  rw [← rowsOn_eq rows hshown.one_le, ← pages_eq]
  rfl

theorem toNat_toInt (n : Int64) (h : 0 ≤ n.toInt) :
    (n.toInt.toNat : Int) = n.toInt ∧ n.toInt.toNat < UInt64.size := by
  have hlt := n.toInt_lt
  simp only [UInt64.size]
  omega

/-- The help sends the actor who asks for page `n` a line with the number of the page shown, then the
rows of this page. The pages put one after another are the listing, and none is empty but the page of
an empty listing. All that is calculated on the way is neither below zero nor, as long as the number of
rows is a word, too large for one. -/
theorem help_shows_page (rows : List (String × String)) :
    (∀ (dir : Directory) (player : ActorId) (n : Int64), ∃ p : Nat, 1 ≤ p ∧ p ≤ lastPage rows ∧
      (1 ≤ n.toInt → n.toInt ≤ lastPage rows → (p : Int) = n.toInt) ∧
      (n.toInt < 1 → p = 1) ∧
      (lastPage rows < n.toInt → p = lastPage rows) ∧
      (Demo.help rows).handler.run dir [.actor player, .int n] =
        ⟨.bool true, ⟨player, .white, s!"Commands (page {p}/{lastPage rows}):"⟩ ::
          (pageRows rows p).map fun row => ⟨player, .grey,
            if row.2 = "" then s!"  /{row.1}" else s!"  /{row.1} - {row.2}"⟩⟩ ∧
      (p - 1) * 6 ≤ rows.length ∧
      (0 ≤ n.toInt → (n.toInt.toNat : Int) = n.toInt ∧ n.toInt.toNat < UInt64.size)) ∧
    lastPage rows ≤ max 1 rows.length ∧
    (List.range (lastPage rows)).flatMap (fun i => pageRows rows (i + 1)) = rows ∧
    ∀ p, 1 ≤ p → p ≤ lastPage rows → rows ≠ [] → pageRows rows p ≠ [] := by
  have hone := one_le_pages rows
  refine ⟨fun dir player n => ?_, ?_, ?_, fun p hp h hne => ?_⟩
  · obtain ⟨p, hshown, hrun⟩ := exists_run_help rows dir player n
    have hstart := start_le rows (pages_eq rows ▸ hshown.le_last)
    exact ⟨p, hshown.one_le, hshown.le_last, hshown.asked, hshown.below, hshown.above, hrun, hstart,
      toNat_toInt n⟩
  · rw [← pages_eq]
    apply (pages_le_iff (Nat.le_max_left ..)).mpr
    omega
  · rw [← pages_eq, flatMap_pageRows]
    apply List.take_of_length_le
    exact (pages_le_iff hone).mp (Nat.le_refl _)
  · exact pageRows_ne_nil hne hp (pages_eq rows ▸ h)

end SlashCommands.Proofs.HelpPages
