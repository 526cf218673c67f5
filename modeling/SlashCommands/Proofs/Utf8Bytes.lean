import SlashCommands.Text.Utf8

namespace SlashCommands.Proofs.Utf8Bytes

def utf8 (cs : List Char) : List UInt8 := cs.flatMap String.utf8EncodeChar

def IsAscii (p : Char → Bool) : Prop := ∀ c, p c = true → c.toNat < 0x80

def isByteOf (p : Char → Bool) (b : UInt8) : Bool := p (Char.ofUInt8 b)

/-- Cuts a text after a number of bytes. That cannot be inside a character or beyond the end. -/
def cutAt? : Nat → List Char → Option (List Char × List Char)
  | 0, cs => some ([], cs)
  | _ + 1, [] => none
  | n + 1, c :: cs =>
    if c.utf8Size ≤ n + 1 then
      (cutAt? (n + 1 - c.utf8Size) cs).map fun (front, rest) => (c :: front, rest)
    else none

structure BadSlice where
  first : Nat
  last : Nat

/-- The part of a text between two positions, which are counted in bytes. -/
def slice (cs : List Char) (i j : Nat) : Except BadSlice (List Char) :=
  match (cutAt? j cs).bind fun (front, _) => cutAt? i front with
  | some (_, part) => .ok part
  | none => .error ⟨i, j⟩

section

variable {c : Char}

theorem ofUInt8_ofNat (h : c.toNat < 0x80) : Char.ofUInt8 (.ofNat c.toNat) = c := by
  have htoNat : (Char.ofUInt8 (.ofNat c.toNat)).toNat = c.toNat := by
    change (UInt8.ofNat c.toNat).toNat = c.toNat
    rw [UInt8.toNat_ofNat']
    omega
  rw [← Char.ofNat_toNat (Char.ofUInt8 _), htoNat, Char.ofNat_toNat]

theorem utf8EncodeChar_of_lt (h : c.toNat < 0x80) :
    String.utf8EncodeChar c = [.ofNat c.toNat] := by
  have hval : c.val.toNat ≤ 127 := Nat.le_of_lt_succ h
  simp only [String.utf8EncodeChar, if_pos hval]
  rfl

theorem le_of_mem_utf8EncodeChar (h : 0x80 ≤ c.toNat) :
    ∀ b ∈ String.utf8EncodeChar c, 0x80 ≤ b.toNat := by
  have hval : ¬ c.val.toNat ≤ 127 := Nat.not_le_of_lt h
  intro b hb
  simp only [String.utf8EncodeChar, if_neg hval] at hb
  split at hb
  · simp only [List.mem_cons, List.not_mem_nil, or_false] at hb
    obtain rfl | rfl := hb <;> rw [UInt8.toNat_ofNat'] <;> omega
  split at hb
  · simp only [List.mem_cons, List.not_mem_nil, or_false] at hb
    obtain rfl | rfl | rfl := hb <;> rw [UInt8.toNat_ofNat'] <;> omega
  · simp only [List.mem_cons, List.not_mem_nil, or_false] at hb
    obtain rfl | rfl | rfl | rfl := hb <;> rw [UInt8.toNat_ofNat'] <;> omega

end

section

variable {p : Char → Bool} (hp : IsAscii p) {c : Char} {cs : List Char}

include hp

/-- Every byte of a character belongs to a class exactly if the character does. -/
theorem isByteOf_of_mem : ∀ b ∈ String.utf8EncodeChar c, isByteOf p b = p c := by
  intro b hb
  by_cases hc : c.toNat < 0x80
  · rw [utf8EncodeChar_of_lt hc, List.mem_singleton] at hb
    rw [hb, isByteOf, ofUInt8_ofNat hc]
  · have hb := le_of_mem_utf8EncodeChar (Nat.le_of_not_lt hc) b hb
    have hbyte : isByteOf p b = false := by
      rw [Bool.eq_false_iff]
      intro htrue
      exact Nat.not_lt_of_le hb (hp _ htrue)
    have hchar : p c = false := by
      rw [Bool.eq_false_iff]
      exact fun htrue => hc (hp c htrue)
    rw [hbyte, hchar]

theorem utf8_cons (hc : p c = true) (cs : List Char) : utf8 (c :: cs) = .ofNat c.toNat :: utf8 cs := by
  rw [utf8, List.flatMap_cons, utf8EncodeChar_of_lt (hp c hc)]
  rfl

theorem any_head?_utf8 (cs : List Char) :
    (utf8 cs).head?.any (isByteOf p) = cs.head?.any p := by
  cases cs with
  | nil => rfl
  | cons c cs =>
    obtain ⟨b, bs, hbytes⟩ := List.exists_cons_of_ne_nil (String.utf8EncodeChar_ne_nil (c := c))
    have hb := isByteOf_of_mem hp b (hbytes ▸ List.mem_cons_self)
    rw [utf8, List.flatMap_cons, hbytes]
    exact hb

theorem all_utf8EncodeChar (c : Char) : (String.utf8EncodeChar c).all (isByteOf p) = p c := by
  rw [Bool.eq_iff_iff, List.all_eq_true]
  constructor
  · intro h
    obtain ⟨b, hb⟩ := List.exists_mem_of_ne_nil _ (String.utf8EncodeChar_ne_nil (c := c))
    rw [← isByteOf_of_mem hp b hb]
    exact h b hb
  · intro hc b hb
    rw [isByteOf_of_mem hp b hb]
    exact hc

theorem all_utf8 (cs : List Char) : (utf8 cs).all (isByteOf p) = cs.all p := by
  induction cs with
  | nil => rfl
  | cons c cs ih =>
    rw [utf8, List.flatMap_cons, List.all_append, all_utf8EncodeChar hp, List.all_cons, ← ih]
    rfl

theorem length_utf8_of_all (h : cs.all p = true) : (utf8 cs).length = cs.length := by
  induction cs with
  | nil => rfl
  | cons c cs ih =>
    obtain ⟨hc, hcs⟩ := Bool.and_eq_true_iff.mp h
    rw [utf8_cons hp hc, List.length_cons, ih hcs, List.length_cons]

end

theorem utf8_eq_nil_iff {cs : List Char} : utf8 cs = [] ↔ cs = [] := by
  cases cs with
  | nil => exact iff_of_true rfl rfl
  | cons c cs => simp [utf8]

theorem length_utf8_cons (c : Char) (cs : List Char) :
    (utf8 (c :: cs)).length = c.utf8Size + (utf8 cs).length := by
  rw [utf8, List.flatMap_cons, List.length_append, String.length_utf8EncodeChar]
  rfl

theorem cutAt?_append (front rest : List Char) :
    cutAt? (utf8 front).length (front ++ rest) = some (front, rest) := by
  induction front with
  | nil => cases rest <;> rfl
  | cons c front ih =>
    have hpos := c.utf8Size_pos
    obtain ⟨n, hn⟩ : ∃ n, c.utf8Size + (utf8 front).length = n + 1 :=
      Nat.exists_eq_add_one_of_ne_zero (by omega)
    have hrest : n + 1 - c.utf8Size = (utf8 front).length := by omega
    have hle : c.utf8Size ≤ n + 1 := by omega
    rw [length_utf8_cons, hn, List.cons_append, cutAt?, if_pos hle, hrest, ih]
    rfl

theorem slice_append (before part rest : List Char) :
    slice (before ++ part ++ rest) (utf8 before).length (utf8 (before ++ part)).length = .ok part := by
  simp only [slice, cutAt?_append, Option.bind_some]

theorem slice_of_all {p : Char → Bool} (hp : IsAscii p) {before part : List Char}
    (h : (before ++ part).all p = true) (rest : List Char) :
    slice (before ++ part ++ rest) before.length (before ++ part).length = .ok part := by
  have hbefore : before.all p = true := by
    rw [List.all_append, Bool.and_eq_true] at h
    exact h.1
  rw [← length_utf8_of_all hp hbefore, ← length_utf8_of_all hp h]
  exact slice_append before part rest

end SlashCommands.Proofs.Utf8Bytes
