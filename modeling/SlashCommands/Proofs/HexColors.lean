import SlashCommands.Color
import SlashCommands.Proofs.Utf8Bytes

namespace SlashCommands.Proofs.HexColors

open Decimal Utf8Bytes

def alphabet : List Char := "0123456789ABCDEF".toList

def isHex (c : Char) : Bool := alphabet.contains c.toUpper

def hexValue (c : Char) : Nat := alphabet.idxOf c.toUpper

def channelOf (high low : Char) : UInt8 := .ofNat (16 * hexValue high + hexValue low)

def pairs : List Char → List UInt8
  | high :: low :: rest => channelOf high low :: pairs rest
  | _ => []

def channels (c : Color) : List UInt8 := [c.red, c.green, c.blue, c.alpha]

/-- A text of a color, by its digits. -/
structure Spells (s : String) (digits : List Char) : Prop where
  toList_eq : s.toList = '#' :: digits
  isHex : ∀ c ∈ digits, isHex c = true
  length : digits.length = 6 ∨ digits.length = 8

/-- The text in capitals, without a full alpha channel at the end. -/
def normalForm (s : String) : String :=
  let capitals := s.toList.map Char.toUpper
  .ofList (if capitals.drop 7 = ['F', 'F'] then capitals.take 7 else capitals)

/-- Reads a byte in hexadecimal digits, which may have a plus sign in front. -/
def byte? (cs : List Char) : Option UInt8 :=
  let digits := match cs with
    | '+' :: rest => rest
    | _ => cs
  if digits.isEmpty then none
  else (valueIn? 16 hexDigit? digits).bind fun n => if n < UInt8.size then some (.ofNat n) else none

def channelAt (digits : List Char) (i : Nat) : OptionT (Except BadSlice) UInt8 :=
  .mk ((slice digits i (i + 2)).map byte?)

def opaqueAt (digits : List Char) : OptionT (Except BadSlice) Color :=
  return ⟨← channelAt digits 0, ← channelAt digits 2, ← channelAt digits 4, 255⟩

def translucentAt (digits : List Char) : OptionT (Except BadSlice) Color :=
  return ⟨← channelAt digits 0, ← channelAt digits 2, ← channelAt digits 4, ← channelAt digits 6⟩

/-- Reads a color by the bytes of its text: these are checked one by one and counted, and then the
channels are sliced out by their positions. -/
def readBytes (s : String) : OptionT (Except BadSlice) Color :=
  match s.toList with
  | '#' :: digits =>
    if (utf8 digits).all (isByteOf isHex) then
      match (utf8 digits).length with
      | 6 => opaqueAt digits
      | 8 => translucentAt digits
      | _ => failure
    else failure
  | _ => failure

section

variable {c : Char} {digits : List Char}

theorem toUpper_of_le (h : 0x80 ≤ c.toNat) : c.toUpper = c := by
  apply dif_neg
  rintro ⟨-, hle⟩
  exact absurd (Nat.le_trans h (UInt32.le_iff_toNat_le.mp hle)) (by decide)

theorem isAscii_isHex : IsAscii isHex := by
  intro c hc
  have hascii : alphabet.all (fun d => d.toNat < 0x80) = true := by decide
  apply Nat.lt_of_not_le
  intro hle
  rw [isHex, toUpper_of_le hle, List.contains_iff_mem] at hc
  have hlt := List.all_eq_true.mp hascii c hc
  exact Nat.not_lt_of_le hle (of_decide_eq_true hlt)

theorem hexDigit?_of_le (h : 0x80 ≤ c.toNat) : hexDigit? c = none := by
  have hnot : ∀ d : Char, d.toNat < 0x80 → ¬ c ≤ d := fun d hd hle =>
    Nat.not_lt_of_le (Nat.le_trans h (UInt32.le_iff_toNat_le.mp hle)) hd
  have hdigit : c.isDigit = false := by
    simp only [Char.isDigit, Bool.and_eq_false_iff, decide_eq_false_iff_not]
    exact .inr (hnot '9' (by decide))
  rw [hexDigit?, hdigit, if_neg Bool.false_ne_true, if_neg fun h => hnot 'f' (by decide) h.2,
    if_neg fun h => hnot 'F' (by decide) h.2]

theorem hexDigit?_eq (c : Char) : hexDigit? c = if isHex c then some (hexValue c) else none := by
  have hall : ∀ n < 0x80, hexDigit? (.ofNat n) =
      if isHex (.ofNat n) then some (hexValue (.ofNat n)) else none := by decide +kernel
  by_cases hc : c.toNat < 0x80
  · have h := hall c.toNat hc
    rwa [Char.ofNat_toNat] at h
  · rw [hexDigit?_of_le (Nat.le_of_not_lt hc), if_neg (mt (isAscii_isHex c) hc)]

theorem hexValue_lt (h : isHex c = true) : hexValue c < 16 := by
  apply List.idxOf_lt_length_of_mem
  exact List.contains_iff_mem.mp h

theorem hexDigit_hexValue (h : isHex c = true) : Color.hexDigit (hexValue c) = c.toUpper := by
  have hall : alphabet.all (fun d => Color.hexDigit (alphabet.idxOf d) = d) = true := by decide
  have hc := List.all_eq_true.mp hall c.toUpper (List.contains_iff_mem.mp h)
  exact of_decide_eq_true hc

theorem hexDigit?_hexDigit {n : Nat} (h : n < 16) : hexDigit? (Color.hexDigit n) = some n := by
  have hall : ∀ n < 16, hexDigit? (Color.hexDigit n) = some n := by decide
  exact hall n h

theorem mapM_hexDigit?_eq_some_iff {values : List Nat} :
    digits.mapM hexDigit? = some values ↔
      (∀ c ∈ digits, isHex c = true) ∧ values = digits.map hexValue := by
  induction digits generalizing values with
  | nil => exact ⟨fun h => ⟨nofun, (Option.some.inj h).symm⟩, fun h => h.2 ▸ rfl⟩
  | cons c digits ih =>
    rw [List.mapM_cons, hexDigit?_eq]
    by_cases hc : isHex c = true
    · rw [if_pos hc]
      constructor
      · intro h
        obtain ⟨value, hvalue, h⟩ := Option.bind_eq_some_iff.mp h
        obtain ⟨tail, htail, h⟩ := Option.bind_eq_some_iff.mp h
        cases hvalue
        obtain ⟨hhex, rfl⟩ := ih.mp htail
        cases h
        exact ⟨List.forall_mem_cons.mpr ⟨hc, hhex⟩, rfl⟩
      · rintro ⟨hhex, rfl⟩
        rw [ih.mpr ⟨(List.forall_mem_cons.mp hhex).2, rfl⟩]
        rfl
    · rw [if_neg hc]
      exact iff_of_false nofun fun h => hc (h.1 c List.mem_cons_self)

end

section

variable {s : String} {c : Color} {digits : List Char}

theorem length_of_ofNibbles? {values : List Nat} (h : Color.ofNibbles? values = some c) :
    values.length = 6 ∨ values.length = 8 := by
  unfold Color.ofNibbles? at h
  split at h
  · exact .inl rfl
  · exact .inr rfl
  · cases h

theorem ofHex?_of_isHex (hs : s.toList = '#' :: digits) (h : ∀ c ∈ digits, isHex c = true) :
    Color.ofHex? s = Color.ofNibbles? (digits.map hexValue) := by
  have hvalues : digits.mapM hexDigit? = some (digits.map hexValue) :=
    mapM_hexDigit?_eq_some_iff.mpr ⟨h, rfl⟩
  rw [Color.ofHex?, hs]
  simp only [hvalues, Option.bind_some]

theorem exists_spells_of_ofHex? (h : Color.ofHex? s = some c) : ∃ digits, Spells s digits := by
  rw [Color.ofHex?] at h
  split at h
  · rename_i digits hs
    obtain ⟨values, hvalues, hcolor⟩ := Option.bind_eq_some_iff.mp h
    obtain ⟨hhex, rfl⟩ := mapM_hexDigit?_eq_some_iff.mp hvalues
    have hlength := length_of_ofNibbles? hcolor
    rw [List.length_map] at hlength
    exact ⟨digits, hs, hhex, hlength⟩
  · cases h

theorem exists_color_of_spells (h : Spells s digits) : ∃ c, Color.ofHex? s = some c ∧
    channels c = pairs digits ++ if digits.length = 6 then [255] else [] := by
  obtain ⟨hs, hhex, hlength⟩ := h
  rw [ofHex?_of_isHex hs hhex]
  obtain hlength | hlength := hlength
  · match digits, hlength with
    | [_, _, _, _, _, _], _ => exact ⟨_, rfl, rfl⟩
  · match digits, hlength with
    | [_, _, _, _, _, _, _, _], _ => exact ⟨_, rfl, rfl⟩

theorem channelDigits_channel {high low : Char} (hhigh : isHex high = true)
    (hlow : isHex low = true) :
    Color.channelDigits (Color.channel (hexValue high) (hexValue low)) =
      [high.toUpper, low.toUpper] := by
  have hhighLt := hexValue_lt hhigh
  have hlowLt := hexValue_lt hlow
  have hvalue : (Color.channel (hexValue high) (hexValue low)).toNat =
      16 * hexValue high + hexValue low := by
    rw [Color.channel, UInt8.toNat_ofNat']
    omega
  have hdiv : (16 * hexValue high + hexValue low) / 16 = hexValue high := by omega
  have hmod : (16 * hexValue high + hexValue low) % 16 = hexValue low := by omega
  rw [Color.channelDigits, hvalue, hdiv, hmod, hexDigit_hexValue hhigh, hexDigit_hexValue hlow]

theorem channel_eq_full_iff {high low : Char} (hhigh : isHex high = true) (hlow : isHex low = true) :
    Color.channel (hexValue high) (hexValue low) = 255 ↔
      [high.toUpper, low.toUpper] = ['F', 'F'] := by
  constructor
  · intro h
    rw [← channelDigits_channel hhigh hlow, h]
    decide
  · intro h
    simp only [List.cons.injEq, and_true] at h
    rw [hexValue, hexValue, h.1, h.2]
    decide

/-- The printed text of a color is the normal form of every text of it. -/
theorem text_of_ofHex? (h : Color.ofHex? s = some c) : c.text = normalForm s := by
  obtain ⟨digits, hs, hhex, hlength⟩ := exists_spells_of_ofHex? h
  rw [ofHex?_of_isHex hs hhex] at h
  rw [normalForm, hs, Color.text]
  congr 1
  obtain hlength | hlength := hlength
  · match digits, hlength with
    | [r, r', g, g', b, b'], _ =>
      cases h
      simp only [List.forall_mem_cons] at hhex
      obtain ⟨hr, hr', hg, hg', hb, hb', -⟩ := hhex
      simp only [channelDigits_channel, hr, hr', hg, hg', hb, hb']
      rfl
  · match digits, hlength with
    | [r, r', g, g', b, b', a, a'], _ =>
      cases h
      simp only [List.forall_mem_cons] at hhex
      obtain ⟨hr, hr', hg, hg', hb, hb', ha, ha', -⟩ := hhex
      simp only [channelDigits_channel, channel_eq_full_iff, hr, hr', hg, hg', hb, hb', ha, ha']
      change _ = if [a.toUpper, a'.toUpper] = ['F', 'F'] then _ else _
      split <;> rfl

theorem hexDigit?_digits (x : UInt8) :
    hexDigit? (Color.hexDigit (x.toNat / 16)) = some (x.toNat / 16) ∧
      hexDigit? (Color.hexDigit (x.toNat % 16)) = some (x.toNat % 16) := by
  have hlt := x.toNat_lt
  constructor
  · apply hexDigit?_hexDigit
    omega
  · apply hexDigit?_hexDigit
    omega

theorem channel_digits (x : UInt8) : Color.channel (x.toNat / 16) (x.toNat % 16) = x := by
  rw [Color.channel, Nat.div_add_mod]
  exact UInt8.ofNat_toNat

theorem ofHex?_text (c : Color) : Color.ofHex? c.text = some c := by
  obtain ⟨red, green, blue, alpha⟩ := c
  by_cases hfull : alpha = 255
  · simp [Color.ofHex?, Color.text, Color.channelDigits, Color.ofNibbles?, hexDigit?_digits,
      channel_digits, hfull]
  · simp [Color.ofHex?, Color.text, Color.channelDigits, Color.ofNibbles?, hexDigit?_digits,
      channel_digits, hfull]

theorem byte?_pair {high low : Char} (hhigh : isHex high = true) (hlow : isHex low = true) :
    byte? [high, low] = some (Color.channel (hexValue high) (hexValue low)) := by
  have hhighLt := hexValue_lt hhigh
  have hlowLt := hexValue_lt hlow
  have hplus : high ≠ '+' := by
    rintro rfl
    exact absurd hhigh (by decide)
  have hvalue : valueIn? 16 hexDigit? [high, low] = some (16 * hexValue high + hexValue low) := by
    simp [valueIn?, hexDigit?_eq, hhigh, hlow]
  have hsize : 16 * hexValue high + hexValue low < UInt8.size := by
    simp only [UInt8.size]
    omega
  unfold byte?
  split
  · rename_i h
    exact absurd (List.cons.inj h).1 hplus
  · simp only [hvalue, Option.bind_some, if_pos hsize]
    rfl

theorem channelAt_eq {before rest : List Char} {high low : Char} (hall : digits.all isHex = true)
    (hdigits : digits = before ++ [high, low] ++ rest) :
    channelAt digits before.length = pure (Color.channel (hexValue high) (hexValue low)) := by
  subst hdigits
  rw [List.all_append, Bool.and_eq_true] at hall
  have hslice := slice_of_all isAscii_isHex hall.1 rest
  have hpair := List.all_eq_true.mp hall.1
  rw [List.length_append] at hslice
  rw [channelAt, show before.length + 2 = before.length + [high, low].length from rfl, hslice,
    Except.map, byte?_pair (hpair high (by simp)) (hpair low (by simp))]
  rfl

theorem opaqueAt_eq (hall : digits.all isHex = true) (hlength : digits.length = 6) :
    (opaqueAt digits).run = .ok (Color.ofNibbles? (digits.map hexValue)) := by
  match digits, hlength with
  | [r, r', g, g', b, b'], _ =>
    have hred := channelAt_eq hall (rfl : _ = [] ++ [r, r'] ++ [g, g', b, b'])
    have hgreen := channelAt_eq hall (rfl : _ = [r, r'] ++ [g, g'] ++ [b, b'])
    have hblue := channelAt_eq hall (rfl : _ = [r, r', g, g'] ++ [b, b'] ++ [])
    simp only [List.length_cons, List.length_nil, Nat.zero_add, Nat.reduceAdd] at hred hgreen hblue
    rw [opaqueAt, hred, hgreen, hblue]
    rfl

theorem translucentAt_eq (hall : digits.all isHex = true) (hlength : digits.length = 8) :
    (translucentAt digits).run = .ok (Color.ofNibbles? (digits.map hexValue)) := by
  match digits, hlength with
  | [r, r', g, g', b, b', a, a'], _ =>
    have hred := channelAt_eq hall (rfl : _ = [] ++ [r, r'] ++ [g, g', b, b', a, a'])
    have hgreen := channelAt_eq hall (rfl : _ = [r, r'] ++ [g, g'] ++ [b, b', a, a'])
    have hblue := channelAt_eq hall (rfl : _ = [r, r', g, g'] ++ [b, b'] ++ [a, a'])
    have halpha := channelAt_eq hall (rfl : _ = [r, r', g, g', b, b'] ++ [a, a'] ++ [])
    simp only [List.length_cons, List.length_nil, Nat.zero_add, Nat.reduceAdd]
      at hred hgreen hblue halpha
    rw [translucentAt, hred, hgreen, hblue, halpha]
    rfl

theorem ofHex?_eq_none (h : ∀ digits, ¬ Spells s digits) : Color.ofHex? s = none := by
  rw [Option.eq_none_iff_forall_ne_some]
  intro c hc
  obtain ⟨digits, hdigits⟩ := exists_spells_of_ofHex? hc
  exact h digits hdigits

theorem readBytes_eq (s : String) : (readBytes s).run = .ok (Color.ofHex? s) := by
  unfold readBytes
  split
  · rename_i digits hs
    have hdigits : ∀ digits', Spells s digits' → digits' = digits := by
      intro digits' h
      cases hs.symm.trans h.toList_eq
      rfl
    rw [all_utf8 isAscii_isHex]
    split
    · rename_i hall
      have hread := ofHex?_of_isHex hs (List.all_eq_true.mp hall)
      rw [length_utf8_of_all isAscii_isHex hall]
      split
      · rename_i hlength
        rw [hread, opaqueAt_eq hall hlength]
      · rename_i hlength
        rw [hread, translucentAt_eq hall hlength]
      · rename_i hsix height
        rw [ofHex?_eq_none]
        · rfl
        · intro digits' h
          cases hdigits digits' h
          exact h.length.elim hsix height
    · rename_i hall
      rw [ofHex?_eq_none]
      · rfl
      · intro digits' h
        cases hdigits digits' h
        exact hall (List.all_eq_true.mpr h.isHex)
  · rename_i hs
    rw [ofHex?_eq_none]
    · rfl
    · exact fun digits h => hs digits h.toList_eq

theorem ofHex?_eq_iff {s t : String} {c d : Color} (hc : Color.ofHex? s = some c)
    (hd : Color.ofHex? t = some d) : c = d ↔ normalForm s = normalForm t := by
  rw [← text_of_ofHex? hc, ← text_of_ofHex? hd]
  constructor
  · exact congrArg Color.text
  · intro h
    have hread := ofHex?_text c
    rw [h, ofHex?_text d] at hread
    exact (Option.some.inj hread).symm

/-- The texts that are read as colors are a number sign and six or eight digits, whose pairs are the
channels; a text is read alike by its characters and by its bytes. What is printed reads back, and it is the
normal form of every text that is read as the color, so that the normal forms tell the colors apart. -/
theorem hex_texts :
    (∀ s, (∃ c, Color.ofHex? s = some c) ↔ ∃ digits, Spells s digits) ∧
    (∀ s digits, Spells s digits → ∃ c, Color.ofHex? s = some c ∧
      channels c = pairs digits ++ if digits.length = 6 then [255] else []) ∧
    (∀ s, (readBytes s).run = .ok (Color.ofHex? s)) ∧
    (∀ c, Color.ofHex? c.text = some c) ∧
    (∀ s c, Color.ofHex? s = some c → c.text = normalForm s) ∧
    ∀ s t c d, Color.ofHex? s = some c → Color.ofHex? t = some d →
      (c = d ↔ normalForm s = normalForm t) := by
  refine ⟨fun s => ⟨?_, ?_⟩, fun s digits => exists_color_of_spells, readBytes_eq, ofHex?_text,
    fun s c => text_of_ofHex?, fun s t c d => ofHex?_eq_iff⟩
  · rintro ⟨c, hc⟩
    exact exists_spells_of_ofHex? hc
  · rintro ⟨digits, h⟩
    obtain ⟨c, hc, -⟩ := exists_color_of_spells h
    exact ⟨c, hc⟩

end

end SlashCommands.Proofs.HexColors
