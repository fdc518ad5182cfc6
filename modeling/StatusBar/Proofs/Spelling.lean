import Mathlib.Data.List.Forall2
import StatusBar.Proofs.Colors

/-!
# How colours are spelled

A colour is read from a text if and only if the text is a spelling of it (`ofHex?_eq_some_iff`).
Among all spellings one stands out: it is complete, in lower case and leaves out an alpha channel of
`ff` (`IsCanonical`). The written form of the colour is that one behind a `#` (`text_eq_iff`), so
that it can stand for all the others (`normalize?_eq_iff`).
-/

namespace StatusBar.Color

open Text (AllBlank IsTight)

/-! ### Hexadecimal digits -/

def lowerDigits : List Char := "0123456789abcdef".toList

def upperDigits : List Char := "0123456789ABCDEF".toList

/-- The character is the digit for the number, in either case. -/
def IsDigit (c : Char) (n : Nat) : Prop := lowerDigits[n]? = some c ∨ upperDigits[n]? = some c

instance {c : Char} {n : Nat} : Decidable (IsDigit c n) := inferInstanceAs (Decidable (_ ∨ _))

section Digits

variable {c : Char} {n : Nat}

theorem IsDigit.lt (h : IsDigit c n) : n < 16 := by
  obtain h | h := h <;> exact (List.getElem?_eq_some_iff.mp h).1

/-- What is to be shown of a digit can be tried on all of them. -/
theorem IsDigit.of_all {P : Char → Prop} [DecidablePred P] (h : IsDigit c n)
    (hall : (lowerDigits ++ upperDigits).all (P ·) = true) : P c := by
  have hmem : c ∈ lowerDigits ++ upperDigits :=
    List.mem_append.mpr (h.imp List.mem_of_getElem? List.mem_of_getElem?)
  exact of_decide_eq_true (List.all_eq_true.mp hall c hmem)

/-- What is to be shown of the characters of ASCII is a finite matter. -/
theorem forall_ascii {P : Char → Prop} (h : ∀ k < 128, P (Char.ofNat k)) (hc : c.toNat < 128) :
    P c := by
  have := h c.toNat hc
  rwa [Char.ofNat_toNat] at this

/-- A character that is read as a digit is in ASCII. -/
theorem toNat_lt_of_digit?_eq_some (h : digit? c = some n) : c.toNat < 128 := by
  have hle (a b : Char) : a ≤ b ↔ a.toNat ≤ b.toNat := Iff.rfl
  unfold digit? at h
  simp only [hle, Char.reduceToNat] at h
  split at h
  · omega
  split at h
  · omega
  split at h
  · omega
  · cases h

theorem getElem?_lowerDigits : ∀ n < 16, lowerDigits[n]? = some (Nat.digitChar n) := by decide

/-- The characters that are read as digits are the hexadecimal digits in either case. -/
theorem digit?_eq_some_iff : digit? c = some n ↔ IsDigit c n := by
  constructor
  · intro h
    have hascii : ∀ k < 128, ∀ n ∈ digit? (Char.ofNat k), IsDigit (Char.ofNat k) n := by
      decide +kernel
    have hlt := toNat_lt_of_digit?_eq_some h
    exact forall_ascii (P := fun c => ∀ n ∈ digit? c, IsDigit c n) hascii hlt n h
  · have hlower : ∀ i : Fin 16, digit? lowerDigits[i] = some i.val := by decide
    have hupper : ∀ i : Fin 16, digit? upperDigits[i] = some i.val := by decide
    rintro (h | h) <;> obtain ⟨hn, rfl⟩ := List.getElem?_eq_some_iff.mp h
    · exact hlower ⟨n, hn⟩
    · exact hupper ⟨n, hn⟩

theorem IsDigit.unique {n' : Nat} (h : IsDigit c n) (h' : IsDigit c n') : n = n' := by
  rw [← digit?_eq_some_iff] at h h'
  exact Option.some.inj (h.symm.trans h')

end Digits

/-! ### Spellings -/

/-- The two digits write the channel in base sixteen. -/
def IsPair (high low : Char) (x : UInt8) : Prop :=
  ∃ h l, IsDigit high h ∧ IsDigit low l ∧ x.toNat = 16 * h + l

/-- The digits spell the colour: with one digit for each channel, which counts twice, or with two,
and with or without the alpha channel. -/
inductive Spells : List Char → Color → Prop
  | short {x y z : Char} {c : Color} :
      IsPair x x c.red → IsPair y y c.green → IsPair z z c.blue → c.alpha = 0xff →
      Spells [x, y, z] c
  | full {x x' y y' z z' : Char} {c : Color} :
      IsPair x x' c.red → IsPair y y' c.green → IsPair z z' c.blue → c.alpha = 0xff →
      Spells [x, x', y, y', z, z'] c
  | withAlpha {x x' y y' z z' a a' : Char} {c : Color} :
      IsPair x x' c.red → IsPair y y' c.green → IsPair z z' c.blue → IsPair a a' c.alpha →
      Spells [x, x', y, y', z, z', a, a'] c

/-- The text is a spelling of the colour, with any number of `#` before it and blanks around. -/
inductive IsText (c : Color) : String → Prop
  | mk {s : String} {before hashes cs after : List Char} :
      AllBlank before → (∀ d ∈ hashes, d = '#') → Spells cs c → AllBlank after →
      s.toList = before ++ (hashes ++ cs) ++ after → IsText c s

/-- A pair spells the channel that is read from it. -/
theorem isPair_iff {high low : Char} {x : UInt8} :
    IsPair high low x ↔
      ∃ h l, digit? high = some h ∧ digit? low = some l ∧ channel h l = x := by
  simp only [IsPair, digit?_eq_some_iff]
  refine exists_congr fun h => exists_congr fun l => and_congr_right fun hh =>
    and_congr_right fun hl => ?_
  have hlt : 16 * h + l < 256 := by
    have := hh.lt
    have := hl.lt
    omega
  rw [← UInt8.toNat_inj, channel, Nat.toUInt8, UInt8.toNat_ofNat_of_lt' hlt]
  exact eq_comm

/-- Characters are read as digits one by one. -/
theorem mapM_digit?_eq_some_iff {cs : List Char} {ds : List Nat} :
    cs.mapM digit? = some ds ↔ List.Forall₂ (fun c n => digit? c = some n) cs ds := by
  induction cs generalizing ds with
  | nil => cases ds <;> simp
  | cons c cs ih =>
    rw [List.mapM_cons, List.forall₂_cons_left_iff]
    simp only [Option.bind_eq_bind, Option.bind_eq_some_iff, ih, pure, Option.some.injEq]
    grind

/-- What spells a colour is read as this colour. -/
theorem Spells.read {cs : List Char} {c : Color} (h : Spells cs c) :
    (cs.mapM digit?).bind ofDigits? = some c := by
  cases h with
  | short hr hg hb ha =>
    obtain ⟨r, r', hx, hx', hred⟩ := isPair_iff.mp hr
    obtain ⟨g, g', hy, hy', hgreen⟩ := isPair_iff.mp hg
    obtain ⟨b, b', hz, hz', hblue⟩ := isPair_iff.mp hb
    -- a digit that stands for both has one value
    obtain rfl := Option.some.inj (hx.symm.trans hx')
    obtain rfl := Option.some.inj (hy.symm.trans hy')
    obtain rfl := Option.some.inj (hz.symm.trans hz')
    simp [hx, hy, hz, ofDigits?, hred, hgreen, hblue, ← ha]
  | full hr hg hb ha =>
    obtain ⟨r, r', hx, hx', hred⟩ := isPair_iff.mp hr
    obtain ⟨g, g', hy, hy', hgreen⟩ := isPair_iff.mp hg
    obtain ⟨b, b', hz, hz', hblue⟩ := isPair_iff.mp hb
    simp [hx, hx', hy, hy', hz, hz', ofDigits?, hred, hgreen, hblue, ← ha]
  | withAlpha hr hg hb ha =>
    obtain ⟨r, r', hx, hx', hred⟩ := isPair_iff.mp hr
    obtain ⟨g, g', hy, hy', hgreen⟩ := isPair_iff.mp hg
    obtain ⟨b, b', hz, hz', hblue⟩ := isPair_iff.mp hb
    obtain ⟨a, a', hw, hw', halpha⟩ := isPair_iff.mp ha
    simp [hx, hx', hy, hy', hz, hz', hw, hw', ofDigits?, hred, hgreen, hblue, halpha]

/-- What is read as a colour spells it. -/
theorem spells_of_read {cs : List Char} {c : Color}
    (h : (cs.mapM digit?).bind ofDigits? = some c) : Spells cs c := by
  obtain ⟨ds, hds, hc⟩ := Option.bind_eq_some_iff.mp h
  rw [mapM_digit?_eq_some_iff] at hds
  have hpair {x y : Char} {n m : Nat} (hx : digit? x = some n) (hy : digit? y = some m) :
      IsPair x y (channel n m) := isPair_iff.mpr ⟨n, m, hx, hy, rfl⟩
  unfold ofDigits? at hc
  split at hc
  · obtain _ | ⟨hx, _ | ⟨hy, _ | ⟨hz, _ | _⟩⟩⟩ := hds
    cases hc
    exact .short (hpair hx hx) (hpair hy hy) (hpair hz hz) rfl
  · obtain _ | ⟨hx, _ | ⟨hx', _ | ⟨hy, _ | ⟨hy', _ | ⟨hz, _ | ⟨hz', _ | _⟩⟩⟩⟩⟩⟩ := hds
    cases hc
    exact .full (hpair hx hx') (hpair hy hy') (hpair hz hz') rfl
  · obtain _ | ⟨hx, _ | ⟨hx', _ | ⟨hy, _ | ⟨hy', _ | ⟨hz, _ | ⟨hz', _ | ⟨hw, _ |
      ⟨hw', _ | _⟩⟩⟩⟩⟩⟩⟩⟩ := hds
    cases hc
    exact .withAlpha (hpair hx hx') (hpair hy hy') (hpair hz hz') (hpair hw hw')
  · cases hc

/-- The digits of a spelling are what its colour is read from. -/
theorem spells_iff {cs : List Char} {c : Color} :
    Spells cs c ↔ (cs.mapM digit?).bind ofDigits? = some c :=
  ⟨Spells.read, spells_of_read⟩

/-! ### Texts -/

theorem isDigit_of_mapM_eq_some {cs : List Char} {ds : List Nat} (h : cs.mapM digit? = some ds) :
    ∀ d ∈ cs, ∃ n, IsDigit d n := by
  rw [mapM_digit?_eq_some_iff] at h
  induction h with
  | nil => simp
  | cons hd _ ih => exact List.forall_mem_cons.mpr ⟨⟨_, digit?_eq_some_iff.mp hd⟩, ih⟩

theorem exists_mapM_eq_some {cs : List Char} (h : ∀ d ∈ cs, ∃ n, IsDigit d n) :
    ∃ ds, cs.mapM digit? = some ds := by
  simp only [mapM_digit?_eq_some_iff]
  induction cs with
  | nil => exact ⟨[], .nil⟩
  | cons d cs ih =>
    obtain ⟨⟨n, hn⟩, hcs⟩ := List.forall_mem_cons.mp h
    obtain ⟨ds, hds⟩ := ih hcs
    exact ⟨n :: ds, .cons (digit?_eq_some_iff.mpr hn) hds⟩

theorem exists_ofDigits? {ds : List Nat} (h : ds.length ∈ [3, 6, 8]) :
    ∃ c, ofDigits? ds = some c := by
  match ds, h with
  | [_, _, _], _ => exact ⟨_, rfl⟩
  | [_, _, _, _, _, _], _ => exact ⟨_, rfl⟩
  | [_, _, _, _, _, _, _, _], _ => exact ⟨_, rfl⟩

/-- Three, six or eight digits spell a colour. -/
theorem exists_spells_iff {cs : List Char} :
    (∃ c, Spells cs c) ↔ cs.length ∈ [3, 6, 8] ∧ ∀ d ∈ cs, ∃ n, IsDigit d n := by
  constructor
  · rintro ⟨c, hc⟩
    refine ⟨by cases hc <;> simp, ?_⟩
    obtain ⟨ds, hds, -⟩ := Option.bind_eq_some_iff.mp (spells_iff.mp hc)
    exact isDigit_of_mapM_eq_some hds
  · rintro ⟨hlength, hdigits⟩
    obtain ⟨ds, hds⟩ := exists_mapM_eq_some hdigits
    rw [(mapM_digit?_eq_some_iff.mp hds).length_eq] at hlength
    obtain ⟨c, hc⟩ := exists_ofDigits? hlength
    exact ⟨c, spells_iff.mpr (Option.bind_eq_some_iff.mpr ⟨ds, hds, hc⟩)⟩

theorem ofHex?_eq_some_iff_spells {s : String} {c : Color} :
    ofHex? s = some c ↔ Spells (significant s) c := spells_iff.symm

/-- Of a text only the digits count, without the blanks around and the hash signs before them. -/
theorem significant_of_isText {s : String} {before hashes cs after : List Char}
    (hbefore : AllBlank before) (hhashes : ∀ d ∈ hashes, d = '#')
    (hdigits : ∀ d ∈ cs, ∃ n, IsDigit d n) (hafter : AllBlank after)
    (hs : s.toList = before ++ (hashes ++ cs) ++ after) : significant s = cs := by
  have hplain (d : Char) (hd : d ∈ cs) : Text.isBlank d = false ∧ d ≠ '#' := by
    obtain ⟨n, hn⟩ := hdigits d hd
    exact hn.of_all (P := fun d => Text.isBlank d = false ∧ d ≠ '#') (by decide +kernel)
  have htight : IsTight (hashes ++ cs) := by
    refine Text.isTight_of_forall fun d hd => ?_
    obtain hd | hd := List.mem_append.mp hd
    · rw [hhashes d hd]
      decide
    · exact (hplain d hd).1
  have hdrop : cs.dropWhile (· == '#') = cs := by
    cases cs with
    | nil => rfl
    | cons d cs => simp [(hplain d List.mem_cons_self).2]
  rw [significant, hs, Text.trimChars_append hbefore hafter htight,
    List.dropWhile_append_of_pos (by simpa using hhashes), hdrop]

/-- **A colour is read from its spellings, and from nothing else.** -/
theorem ofHex?_eq_some_iff {s : String} {c : Color} : ofHex? s = some c ↔ IsText c s := by
  constructor
  · intro h
    obtain ⟨before, after, hbefore, hafter, hs⟩ := Text.exists_eq_append_trimChars s.toList
    have hsplit : Text.trimChars s.toList =
        (Text.trimChars s.toList).takeWhile (· == '#') ++ significant s :=
      (List.takeWhile_append_dropWhile ..).symm
    rw [hsplit] at hs
    refine .mk hbefore (fun d hd => ?_) (ofHex?_eq_some_iff_spells.mp h) hafter hs
    simpa using List.mem_takeWhile_imp hd
  · rintro ⟨hbefore, hhashes, hspells, hafter, hs⟩
    obtain ⟨-, hdigits⟩ := exists_spells_iff.mp ⟨c, hspells⟩
    rw [ofHex?_eq_some_iff_spells, significant_of_isText hbefore hhashes hdigits hafter hs]
    exact hspells

/-! ### The written form -/

/-- The full spelling in lower case, which has the alpha channel only if it is not `ff`. -/
structure IsCanonical (cs : List Char) (c : Color) : Prop where
  spells : Spells cs c
  lower : ∀ d ∈ cs, d ∈ lowerDigits
  length : cs.length = if c.alpha = 0xff then 6 else 8

/-- A colour is written in the canonical way. -/
theorem isCanonical_tail_chars (c : Color) : IsCanonical c.chars.tail c where
  spells := by
    rw [← significant_text]
    exact ofHex?_eq_some_iff_spells.mp c.ofHex?_text
  lower d hd := by
    simp only [chars, List.tail_cons, List.mem_append, or_assoc] at hd
    have hdigit : ∃ n < 16, d = Nat.digitChar n := by
      rcases hd with hd | hd | hd | hd
      · exact mem_digits hd
      · exact mem_digits hd
      · exact mem_digits hd
      · split at hd
        · cases hd
        · exact mem_digits hd
    obtain ⟨n, hn, rfl⟩ := hdigit
    exact List.mem_of_getElem? (getElem?_lowerDigits n hn)
  length := by
    rw [chars, List.tail_cons]
    split <;> rfl

/-- The digits of a channel are the only ones in lower case that spell it. -/
theorem digits_eq_of_isPair {x y : Char} {v : UInt8} (h : IsPair x y v) (hx : x ∈ lowerDigits)
    (hy : y ∈ lowerDigits) : digits v = [x, y] := by
  have hlower {x : Char} {n : Nat} (hn : IsDigit x n) (hx : x ∈ lowerDigits) :
      Nat.digitChar n = x := by
    obtain ⟨i, hi⟩ := List.mem_iff_getElem?.mp hx
    obtain rfl : i = n := IsDigit.unique (.inl hi) hn
    exact Option.some.inj ((getElem?_lowerDigits i hn.lt).symm.trans hi)
  obtain ⟨n, m, hn, hm, hv⟩ := h
  have hdiv : v.toNat / 16 = n := by
    have := hm.lt
    omega
  have hmod : v.toNat % 16 = m := by
    have := hm.lt
    omega
  rw [digits, hdiv, hmod, hlower hn hx, hlower hm hy]

/-- There is one such spelling of each colour. -/
theorem IsCanonical.eq {cs : List Char} {c : Color} (h : IsCanonical cs c) : cs = c.chars.tail := by
  obtain ⟨hspells, hlower, hlength⟩ := h
  rw [chars, List.tail_cons]
  cases hspells with
  | short _ _ _ ha => simp [ha] at hlength
  | full hr hg hb ha =>
    simp only [List.forall_mem_cons] at hlower
    obtain ⟨hx, hx', hy, hy', hz, hz', -⟩ := hlower
    rw [digits_eq_of_isPair hr hx hx', digits_eq_of_isPair hg hy hy',
      digits_eq_of_isPair hb hz hz', if_pos ha]
    rfl
  | withAlpha hr hg hb ha =>
    simp only [List.forall_mem_cons] at hlower
    obtain ⟨hx, hx', hy, hy', hz, hz', hw, hw', -⟩ := hlower
    have halpha : c.alpha ≠ 0xff := by
      intro halpha
      simp [halpha] at hlength
    rw [digits_eq_of_isPair hr hx hx', digits_eq_of_isPair hg hy hy',
      digits_eq_of_isPair hb hz hz', if_neg halpha, digits_eq_of_isPair ha hw hw']
    rfl

/-- **The written form is the canonical spelling behind a `#`.** -/
theorem text_eq_iff {s : String} {c : Color} :
    c.text = s ↔ ∃ cs, s.toList = '#' :: cs ∧ IsCanonical cs c := by
  constructor
  · rintro rfl
    exact ⟨_, String.toList_ofList, isCanonical_tail_chars c⟩
  · rintro ⟨cs, hs, hcs⟩
    apply String.toList_injective
    rw [hs, hcs.eq, text, String.toList_ofList]
    rfl

/-- No two colours are written alike. -/
theorem text_injective : Function.Injective text := by
  intro c c' h
  have := c'.ofHex?_text
  rw [← h, ofHex?_text] at this
  exact Option.some.inj this

/-- The written form of the colour that a text spells. -/
def normalize? (s : String) : Option String := (ofHex? s).map text

/-- A written form is its own. -/
theorem normalize?_normalize? {s t : String} (h : normalize? s = some t) :
    normalize? t = some t := by
  obtain ⟨c, -, rfl⟩ := Option.map_eq_some_iff.mp h
  rw [normalize?, ofHex?_text]
  rfl

theorem normalize?_eq_iff {s s' : String} :
    normalize? s = normalize? s' ↔ ofHex? s = ofHex? s' :=
  (Option.map_injective text_injective).eq_iff

end StatusBar.Color
