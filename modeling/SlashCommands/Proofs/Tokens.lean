import SlashCommands.Proofs.ActorLookup
import SlashCommands.Proofs.ArgumentChain
import SlashCommands.Proofs.Conversion

namespace SlashCommands.Proofs.Tokens

open ActorLookup ArgumentChain Conversion Text

/-- The tokens of a text: the longest stretches of characters that are not blank. -/
def tokens (text : List Char) : List (List Char) := (text.splitOnP isBlank).filter (!·.isEmpty)

def startsFrom (fresh : Bool) : List Char → List (List Char)
  | [] => []
  | c :: rest => (if fresh && !isBlank c then [c :: rest] else []) ++ startsFrom (isBlank c) rest

/-- What stands from each start of a token on: from each character that is not blank, but has a
blank one or nothing before it. -/
def starts (text : List Char) : List (List Char) := startsFrom true text

/-- Parameters that take one token each, but for the last one, which may take all that is left. -/
structure Tokenwise (ps : List Parameter) : Prop where
  builtin : ∀ p ∈ ps, ∀ c, p.kind ≠ .custom c
  text_last : ∀ p ∈ ps.dropLast, p.kind ≠ .text

/-- The value that a parameter takes from a text by its place: what its kind makes of the token at
this place alone, or for a text parameter, what stands from the start of the token on. Where the
tokens have run out it is the default. -/
inductive Takes (dir : Directory) (text : List Char) (i : Nat) (p : Parameter) : Value → Prop
  | token {t : List Char} {v : Value} (ht : (tokens text)[i]? = some t) (hk : p.kind ≠ .text)
      (hv : p.kind.convert dir t = some (v, [])) : Takes dir text i p v
  | text {s : List Char} (hs : (starts text)[i]? = some s) (hk : p.kind = .text) :
      Takes dir text i p (.text (.ofList s))
  | default {v : Value} (hi : (tokens text).length ≤ i) (hv : p.default = some v) :
      Takes dir text i p v

def TakesAll (dir : Directory) (text : List Char) (ps : List Parameter) (vs : List Value) : Prop :=
  vs.length = ps.length ∧ ∀ i p v, ps[i]? = some p → vs[i]? = some v → Takes dir text i p v

section

variable {text t rest : List Char} {c : Char}

theorem breaks_afterToken (text : List Char) : Breaks (afterToken text) := by
  intro c hc
  have hnot := List.head?_dropWhile_not (fun c => !isBlank c) text
  rw [afterToken] at hc
  rw [hc] at hnot
  simpa using hnot

theorem token_token (text : List Char) : token (token text) = token text := by
  have hbreaks : Breaks [] := nofun
  have h := token_append (t := token text) (fun _ => not_isBlank_token) hbreaks
  rwa [List.append_nil] at h

theorem afterToken_token (text : List Char) : afterToken (token text) = [] := by
  have hbreaks : Breaks [] := nofun
  have h := afterToken_append (t := token text) (fun _ => not_isBlank_token) hbreaks
  rwa [List.append_nil] at h

theorem afterToken_cons (hc : isBlank c = false) (text : List Char) :
    afterToken (c :: text) = afterToken text := by
  rw [afterToken, List.dropWhile_cons_of_pos (by simp [hc])]
  rfl

theorem afterToken_cons_blank (hc : isBlank c = true) (text : List Char) :
    afterToken (c :: text) = c :: text := List.dropWhile_cons_of_neg (by simp [hc])

theorem tokens_append_blank (hc : isBlank c = true) (xs ys : List Char) :
    tokens (xs ++ c :: ys) = tokens xs ++ tokens ys := by
  rw [tokens, List.splitOnP_append_cons xs ys hc, List.filter_append]
  rfl

theorem tokens_cons_blank (hc : isBlank c = true) (text : List Char) :
    tokens (c :: text) = tokens text := tokens_append_blank hc [] text

theorem tokens_of_not_isBlank (hne : t ≠ []) (ht : ∀ c ∈ t, isBlank c = false) :
    tokens t = [t] := by
  rw [tokens, List.splitOnP_eq_singleton ht]
  simp [hne]

theorem tokens_append (hne : t ≠ []) (ht : ∀ c ∈ t, isBlank c = false) (hrest : Breaks rest) :
    tokens (t ++ rest) = t :: tokens rest := by
  cases rest with
  | nil =>
    rw [List.append_nil]
    exact tokens_of_not_isBlank hne ht
  | cons c rest =>
    have hc := hrest c rfl
    rw [tokens_append_blank hc, tokens_of_not_isBlank hne ht, tokens_cons_blank hc]
    rfl

theorem tokens_cons (hc : isBlank c = false) (text : List Char) :
    tokens (c :: text) = token (c :: text) :: tokens (afterToken (c :: text)) := by
  have hne : token (c :: text) ≠ [] := by simp [token, hc]
  rw [← tokens_append hne (fun _ => not_isBlank_token) (breaks_afterToken _),
    token_append_afterToken]

theorem starts_cons_blank (hc : isBlank c = true) (text : List Char) :
    starts (c :: text) = starts text := by
  simp [starts, startsFrom, hc]

theorem startsFrom_false (text : List Char) : startsFrom false text = starts (afterToken text) := by
  induction text with
  | nil => rfl
  | cons c text ih =>
    by_cases hc : isBlank c = true
    · rw [afterToken_cons_blank hc, starts_cons_blank hc]
      simp [startsFrom, hc, starts]
    · rw [Bool.not_eq_true] at hc
      rw [afterToken_cons hc, ← ih]
      simp [startsFrom, hc]

theorem starts_cons (hc : isBlank c = false) (text : List Char) :
    starts (c :: text) = (c :: text) :: starts (afterToken (c :: text)) := by
  rw [afterToken_cons hc, ← startsFrom_false]
  simp [starts, startsFrom, hc]

theorem map_token_starts_and (text : List Char) : (starts text).map token = tokens text ∧
    (starts (afterToken text)).map token = tokens (afterToken text) := by
  induction text with
  | nil => exact ⟨rfl, rfl⟩
  | cons c text ih =>
    by_cases hc : isBlank c = true
    · rw [afterToken_cons_blank hc, starts_cons_blank hc, tokens_cons_blank hc]
      exact ⟨ih.1, ih.1⟩
    · rw [Bool.not_eq_true] at hc
      rw [starts_cons hc, tokens_cons hc, afterToken_cons hc, List.map_cons, ih.2]
      exact ⟨rfl, rfl⟩

theorem map_token_starts (text : List Char) : (starts text).map token = tokens text :=
  (map_token_starts_and text).1

theorem eq_trimStart {α : Type} {f : List Char → α}
    (h : ∀ c text, isBlank c = true → f (c :: text) = f text) (text : List Char) :
    f (trimStart text) = f text := by
  induction text with
  | nil => rfl
  | cons c text ih =>
    by_cases hc : isBlank c = true
    · rw [h c text hc, ← ih, trimStart, List.dropWhile_cons_of_pos hc]
      rfl
    · rw [trimStart, List.dropWhile_cons_of_neg hc]

theorem tokens_of_blank (h : trimStart text = []) : tokens text = [] := by
  rw [← eq_trimStart (fun c text hc => tokens_cons_blank hc text), h]
  rfl

theorem starts_of_blank (h : trimStart text = []) : starts text = [] := by
  rw [← eq_trimStart (fun c text hc => starts_cons_blank hc text), h]
  rfl

theorem exists_trimStart_eq_cons (h : trimStart text ≠ []) :
    ∃ c rest, trimStart text = c :: rest ∧ isBlank c = false := by
  obtain ⟨c, rest, hcons⟩ := List.exists_cons_of_ne_nil h
  exact ⟨c, rest, hcons, not_isBlank_head_trimStart (by rw [hcons]; rfl)⟩

theorem tokens_of_text (h : trimStart text ≠ []) :
    tokens text = token (trimStart text) :: tokens (afterToken (trimStart text)) := by
  rw [← eq_trimStart (fun c text hc => tokens_cons_blank hc text)]
  obtain ⟨c, rest, hcons, hc⟩ := exists_trimStart_eq_cons h
  rw [hcons]
  exact tokens_cons hc rest

theorem starts_of_text (h : trimStart text ≠ []) :
    starts text = trimStart text :: starts (afterToken (trimStart text)) := by
  rw [← eq_trimStart (fun c text hc => starts_cons_blank hc text)]
  obtain ⟨c, rest, hcons, hc⟩ := exists_trimStart_eq_cons h
  rw [hcons]
  exact starts_cons hc rest

end

section

variable {dir : Directory} {p : Parameter} {ps : List Parameter} {v : Value} {vs : List Value}
  {text text' rest : List Char} {i : Nat}

/-- A kind that takes one token makes of a text what it makes of the first token alone. -/
theorem convert_eq_some_iff {k : Kind} (hbuiltin : ∀ c, k ≠ .custom c) (htext : k ≠ .text) :
    k.convert dir text = some (v, rest) ↔
      k.convert dir (token text) = some (v, []) ∧ rest = afterToken text := by
  cases k with
  | text => exact absurd rfl htext
  | custom c => exact absurd rfl (hbuiltin c)
  | _ => simp [Kind.convert, byToken_eq_some_iff, token_token, afterToken_token]

theorem convert_text (h : text ≠ []) :
    Kind.text.convert dir text = some (.text (.ofList text), []) := by
  simp [Kind.convert, h]

theorem takes_of_blank (h : trimStart text = []) : Takes dir text i p v ↔ p.default = some v := by
  constructor
  · rintro (⟨ht, -, -⟩ | ⟨hs, -⟩ | ⟨-, hv⟩)
    · simp [tokens_of_blank h] at ht
    · simp [starts_of_blank h] at hs
    · exact hv
  · intro hv
    refine .default ?_ hv
    rw [tokens_of_blank h]
    exact Nat.zero_le i

theorem takes_zero (h : trimStart text ≠ []) (hk : p.kind ≠ .text) :
    Takes dir text 0 p v ↔ p.kind.convert dir (token (trimStart text)) = some (v, []) := by
  constructor
  · rintro (⟨ht, -, hv⟩ | ⟨-, htext⟩ | ⟨hi, -⟩)
    · rw [tokens_of_text h] at ht
      cases ht
      exact hv
    · exact absurd htext hk
    · simp [tokens_of_text h] at hi
  · intro hv
    refine .token ?_ hk hv
    rw [tokens_of_text h]
    rfl

theorem takes_zero_text (h : trimStart text ≠ []) (hk : p.kind = .text) :
    Takes dir text 0 p v ↔ v = .text (.ofList (trimStart text)) := by
  constructor
  · rintro (⟨-, htext, -⟩ | ⟨hs, -⟩ | ⟨hi, -⟩)
    · exact absurd hk htext
    · rw [starts_of_text h] at hs
      cases hs
      rfl
    · simp [tokens_of_text h] at hi
  · rintro rfl
    refine .text ?_ hk
    rw [starts_of_text h]
    rfl

theorem takes_succ (h : trimStart text ≠ []) :
    Takes dir text (i + 1) p v ↔ Takes dir (afterToken (trimStart text)) i p v := by
  constructor
  · rintro (⟨ht, hk, hv⟩ | ⟨hs, hk⟩ | ⟨hi, hv⟩)
    · rw [tokens_of_text h] at ht
      exact .token ht hk hv
    · rw [starts_of_text h] at hs
      exact .text hs hk
    · rw [tokens_of_text h, List.length_cons] at hi
      exact .default (Nat.le_of_succ_le_succ hi) hv
  · rintro (⟨ht, hk, hv⟩ | ⟨hs, hk⟩ | ⟨hi, hv⟩)
    · refine .token ?_ hk hv
      rw [tokens_of_text h]
      exact ht
    · refine .text ?_ hk
      rw [starts_of_text h]
      exact hs
    · refine .default ?_ hv
      rw [tokens_of_text h, List.length_cons]
      exact Nat.succ_le_succ hi

theorem takesAll_of_blank (h : trimStart text = []) :
    TakesAll dir text ps vs ↔ ps.map (·.default) = vs.map some := by
  simp only [TakesAll, takes_of_blank h]
  constructor
  · rintro ⟨hlength, hdefault⟩
    refine List.ext_getElem (by simp [hlength]) fun i hps hvs => ?_
    rw [List.length_map] at hps hvs
    rw [List.getElem_map, List.getElem_map]
    exact hdefault i _ _ (List.getElem?_eq_getElem hps) (List.getElem?_eq_getElem hvs)
  · intro hmap
    have hlength := congrArg List.length hmap
    rw [List.length_map, List.length_map] at hlength
    refine ⟨hlength.symm, fun i p v hp hv => ?_⟩
    have hget := congrArg (·[i]?) hmap
    simpa [hp, hv] using hget

theorem takesAll_cons (h : trimStart text ≠ []) :
    TakesAll dir text (p :: ps) (v :: vs) ↔
      Takes dir text 0 p v ∧ TakesAll dir (afterToken (trimStart text)) ps vs := by
  constructor
  · rintro ⟨hlength, htakes⟩
    refine ⟨htakes 0 p v rfl rfl, Nat.succ.inj hlength, fun i q w hq hw => ?_⟩
    exact (takes_succ h).mp (htakes (i + 1) q w hq hw)
  · rintro ⟨hv, hlength, htakes⟩
    refine ⟨congrArg Nat.succ hlength, fun i q w hq hw => ?_⟩
    cases i with
    | zero =>
      cases hq
      cases hw
      exact hv
    | succ i => exact (takes_succ h).mpr (htakes i q w hq hw)

theorem Tokenwise.tail (h : Tokenwise (p :: ps)) : Tokenwise ps := by
  refine ⟨fun q hq => h.builtin q (.tail p hq), fun q hq => h.text_last q ?_⟩
  cases ps with
  | nil => cases hq
  | cons r ps => exact .tail p hq

theorem Tokenwise.eq_nil_of_text (h : Tokenwise (p :: ps)) (hk : p.kind = .text) : ps = [] := by
  cases ps with
  | nil => rfl
  | cons r ps => exact absurd hk (h.text_last p List.mem_cons_self)

theorem values?_cons_eq_some_iff (h : trimStart text ≠ []) :
    Arguments.values? dir (p :: ps) text = some (v :: vs) ↔
      ∃ rest, p.kind.convert dir (trimStart text) = some (v, rest) ∧
        Arguments.values? dir ps rest = some vs := by
  rw [values?_of_text h, Option.bind_eq_some_iff]
  constructor
  · rintro ⟨⟨w, rest⟩, hw, hvs⟩
    obtain ⟨vs', hvs', he⟩ := Option.map_eq_some_iff.mp hvs
    cases he
    exact ⟨rest, hw, hvs'⟩
  · rintro ⟨rest, hv, hvs⟩
    exact ⟨(v, rest), hv, by rw [hvs, Option.map_some]⟩

theorem values?_eq_some_iff (h : Tokenwise ps) :
    Arguments.values? dir ps text = some vs ↔ TakesAll dir text ps vs := by
  induction ps generalizing text vs with
  | nil =>
    rw [values?_nil]
    cases vs <;> simp [TakesAll]
  | cons p ps ih =>
    by_cases hblank : trimStart text = []
    · rw [values?_eq_of_blank hblank, values?_nil_text_iff, takesAll_of_blank hblank]
    cases vs with
    | nil =>
      refine iff_of_false (fun hnil => ?_) (fun hnil => ?_)
      · cases (exists_left hnil).1
      · cases hnil.1
    | cons v vs =>
      rw [values?_cons_eq_some_iff hblank, takesAll_cons hblank, ← ih h.tail]
      by_cases hk : p.kind = .text
      · -- Nothing is left after a text, but it is the last parameter.
        obtain rfl := h.eq_nil_of_text hk
        rw [takes_zero_text hblank hk, hk, convert_text hblank]
        constructor
        · rintro ⟨rest, hv, hvs⟩
          cases hv
          exact ⟨rfl, hvs⟩
        · rintro ⟨rfl, hvs⟩
          exact ⟨[], rfl, hvs⟩
      · have hbuiltin := h.builtin p List.mem_cons_self
        rw [takes_zero hblank hk]
        constructor
        · rintro ⟨rest, hv, hvs⟩
          obtain ⟨htoken, rfl⟩ := (convert_eq_some_iff hbuiltin hk).mp hv
          exact ⟨htoken, hvs⟩
        · rintro ⟨htoken, hvs⟩
          exact ⟨_, (convert_eq_some_iff hbuiltin hk).mpr ⟨htoken, rfl⟩, hvs⟩

theorem Takes.congr (h : Takes dir text i p v) (hk : p.kind ≠ .text)
    (htokens : tokens text = tokens text') : Takes dir text' i p v := by
  obtain ⟨ht, -, hv⟩ | ⟨-, htext⟩ | ⟨hi, hv⟩ := h
  · exact .token (htokens ▸ ht) hk hv
  · exact absurd htext hk
  · exact .default (htokens ▸ hi) hv

theorem TakesAll.congr (h : TakesAll dir text ps vs) (hps : ∀ p ∈ ps, p.kind ≠ .text)
    (htokens : tokens text = tokens text') : TakesAll dir text' ps vs := by
  refine ⟨h.1, fun i p v hp hv => ?_⟩
  exact (h.2 i p v hp hv).congr (hps p (List.mem_of_getElem? hp)) htokens

/-- Parameters that take one token each get the values that they take by their places, if each of
them takes one. Where the last one takes a text, this is what stands from the start of its token on.
So without a text parameter, texts with the same tokens give the same values. -/
theorem values?_iff_takesAll (h : Tokenwise ps) (dir : Directory) (text : List Char) :
    (starts text).map token = tokens text ∧
    (∀ vs, Arguments.values? dir ps text = some vs ↔ TakesAll dir text ps vs) ∧
    ((∀ p ∈ ps, p.kind ≠ .text) → ∀ text', tokens text' = tokens text →
      Arguments.values? dir ps text' = Arguments.values? dir ps text) := by
  refine ⟨map_token_starts text, fun vs => values?_eq_some_iff h, fun hps text' htokens => ?_⟩
  refine Option.ext fun vs => ?_
  rw [values?_eq_some_iff h, values?_eq_some_iff h]
  exact ⟨fun hvs => hvs.congr hps htokens, fun hvs => hvs.congr hps htokens.symm⟩

end

def channels : List Parameter :=
  [⟨"r", .integer, none⟩, ⟨"g", .integer, none⟩, ⟨"b", .integer, none⟩]

def kicking : List Parameter :=
  [⟨"target", .actor, none⟩, ⟨"reason", .text, some (.text "no reason")⟩]

theorem values?_iff_takesAll_channels :
    Arguments.values? pair.directory channels "\u3000255\t0\u00a0 0 ".toList =
        some [.int 255, .int 0, .int 0] ∧
      TakesAll pair.directory "  bob too  loud".toList kicking [.actor 7, .text "too  loud"] ∧
      ¬ TakesAll pair.directory "  carol ".toList kicking [.actor 7, .text "no reason"] := by
  have hchannels : Tokenwise channels := ⟨by simp [channels], by simp [channels]⟩
  have hkicking : Tokenwise kicking := ⟨by simp [kicking], by simp [kicking]⟩
  obtain ⟨-, -, hspaced⟩ := values?_iff_takesAll hchannels pair.directory "255 0 0".toList
  obtain ⟨-, hloud, -⟩ := values?_iff_takesAll hkicking pair.directory "  bob too  loud".toList
  obtain ⟨-, hcarol, -⟩ := values?_iff_takesAll hkicking pair.directory "  carol ".toList
  refine ⟨?_, (hloud _).mp rfl, fun h => ?_⟩
  · exact (hspaced (by simp [channels]) _ (by decide +kernel)).trans rfl
  · have hnone := (hcarol _).mpr h
    cases hnone

end SlashCommands.Proofs.Tokens
