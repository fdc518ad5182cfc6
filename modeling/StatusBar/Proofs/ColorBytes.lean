import StatusBar.Proofs.Decoding
import StatusBar.Proofs.Spelling

/-!
# Reading colours from bytes

A machine reads the significant part of a colour's text from its UTF-8 bytes: it cuts slices out of
them, and computes with numbers of eight bits. Slices may be cut in the middle of a character or
beyond the end, and numbers may overflow. Neither happens here, because the bytes are looked at
first (`read_encode`): what passes is ASCII, so that bytes are characters, and no digit exceeds
fifteen.
-/

namespace StatusBar.Color

namespace Bytes

/-! ### The reader -/

/-- Why the reader stops without a colour. -/
inductive Stop where
  | notAColor
  /-- A slice does not begin and end between characters. -/
  | slice
  /-- A product does not fit into eight bits. -/
  | overflow
deriving Repr, DecidableEq

def encode (cs : List Char) : List UInt8 := cs.flatMap String.utf8EncodeChar

/-- A character begins at the byte, or the text ends before it. -/
def isBoundary (bs : List UInt8) (i : Nat) : Bool :=
  match bs[i]? with
  | none => i == bs.length
  | some b => i == 0 || b < 0x80 || 0xc0 ≤ b

/-- The bytes from the `i`th up to but without the `j`th. -/
def slice (bs : List UInt8) (i j : Nat) : Except Stop (List UInt8) :=
  if i ≤ j ∧ isBoundary bs i ∧ isBoundary bs j then .ok ((bs.take j).drop i) else .error .slice

/-- Whether the byte is that of a hexadecimal digit. -/
def isDigit (b : UInt8) : Bool :=
  (0x30 ≤ b && b ≤ 0x39) || (0x41 ≤ b && b ≤ 0x46) || (0x61 ≤ b && b ≤ 0x66)

/-- The number with one more digit, if it still has eight bits. -/
def addDigit? (n : Nat) (b : UInt8) : Option Nat := do
  let d ← digit? (Char.ofNat b.toNat)
  if 16 * n + d < 256 then some (16 * n + d) else none

/-- The number that the bytes write in base sixteen. There may be a plus sign before it. -/
def number (bs : List UInt8) : Except Stop UInt8 :=
  let digits := if bs.head? = some 0x2b ∧ 1 < bs.length then bs.tail else bs
  if digits.isEmpty then .error .notAColor
  else
    match digits.foldlM addDigit? 0 with
    | some n => .ok n.toUInt8
    | none => .error .notAColor

/-- The channel with two digits. -/
def pair (bs : List UInt8) (i : Nat) : Except Stop UInt8 := do number (← slice bs i (i + 2))

/-- The channel with one digit that counts twice. -/
def single (bs : List UInt8) (i : Nat) : Except Stop UInt8 := do
  let x ← number (← slice bs i (i + 1))
  if x.toNat * 17 < 256 then return x * 17 else throw .overflow

/-- Reads the significant part of a colour's text. -/
def read (bs : List UInt8) : Except Stop Color :=
  if !bs.all isDigit then throw .notAColor
  else
    match bs.length with
    | 3 => return ⟨← single bs 0, ← single bs 1, ← single bs 2, 0xff⟩
    | 6 => return ⟨← pair bs 0, ← pair bs 2, ← pair bs 4, 0xff⟩
    | 8 => return ⟨← pair bs 0, ← pair bs 2, ← pair bs 4, ← pair bs 6⟩
    | _ => throw .notAColor

/-! ### Bytes of digits -/

def byte (c : Char) : UInt8 := c.toNat.toUInt8

section Digits

variable {c d : Char} {n m : Nat}

theorem utf8EncodeChar_of_isDigit (h : IsDigit c n) : String.utf8EncodeChar c = [byte c] :=
  h.of_all (P := fun c => String.utf8EncodeChar c = [byte c]) (by decide +kernel)

theorem isDigit_byte (h : IsDigit c n) : isDigit (byte c) = true :=
  h.of_all (P := fun c => isDigit (byte c) = true) (by decide +kernel)

/-- A byte that continues a character is not that of a digit. -/
theorem isDigit_continuation (v : Nat) : isDigit (UInt8.ofNat (v % 64) + 128) = false := by
  have hall : ∀ r < 64, isDigit (UInt8.ofNat r + 128) = false := by decide +kernel
  exact hall _ (Nat.mod_lt v (by decide))

/-- A character is a digit when its bytes are, since the bytes of any other character are not in
ASCII. -/
theorem exists_isDigit_of_all (h : (String.utf8EncodeChar c).all isDigit = true) :
    ∃ n, IsDigit c n := by
  by_cases hc : c.toNat < 128
  · have hascii : ∀ k < 128, (String.utf8EncodeChar (Char.ofNat k)).all isDigit = true →
        (digit? (Char.ofNat k)).isSome = true := by decide +kernel
    have hsome := forall_ascii (P := fun c => (String.utf8EncodeChar c).all isDigit = true →
      (digit? c).isSome = true) hascii hc h
    obtain ⟨n, hn⟩ := Option.isSome_iff_exists.mp hsome
    exact ⟨n, digit?_eq_some_iff.mp hn⟩
  · -- the last byte of a character outside of ASCII continues it
    have hc' : ¬ c.val.toNat ≤ 0x7f := by
      have : c.val.toNat = c.toNat := rfl
      omega
    rw [String.utf8EncodeChar, if_neg hc'] at h
    split at h
    · simp [isDigit_continuation] at h
    split at h <;> simp [isDigit_continuation] at h

/-- The bytes of a text are digits exactly if its characters are. -/
theorem all_isDigit_encode_iff {cs : List Char} :
    (encode cs).all isDigit = true ↔ ∀ c ∈ cs, ∃ n, IsDigit c n := by
  rw [encode, List.all_flatMap, List.all_eq_true]
  refine forall_congr' fun c => forall_congr' fun _ => ⟨exists_isDigit_of_all, ?_⟩
  rintro ⟨n, hn⟩
  rw [utf8EncodeChar_of_isDigit hn]
  simp [isDigit_byte hn]

theorem encode_eq_map {cs : List Char} (h : ∀ c ∈ cs, ∃ n, IsDigit c n) :
    encode cs = cs.map byte := by
  rw [encode, List.map_eq_flatMap]
  refine List.flatMap_congr fun c hc => ?_
  obtain ⟨n, hn⟩ := h c hc
  exact utf8EncodeChar_of_isDigit hn

/-! ### Numbers of digits -/

theorem addDigit?_byte (h : IsDigit c n) {v : Nat} (hv : v < 16) :
    addDigit? v (byte c) = some (16 * v + n) := by
  have hchar : Char.ofNat (byte c).toNat = c :=
    h.of_all (P := fun c => Char.ofNat (byte c).toNat = c) (by decide +kernel)
  have hlt := h.lt
  rw [addDigit?, hchar, digit?_eq_some_iff.mpr h]
  simp only [Option.bind_eq_bind, Option.bind_some]
  rw [if_pos (by omega)]

theorem byte_ne_plus (h : IsDigit c n) : byte c ≠ 0x2b :=
  h.of_all (P := fun c => byte c ≠ 0x2b) (by decide +kernel)

theorem number_single (h : IsDigit c n) : number [byte c] = .ok n.toUInt8 := by
  have hfold : [byte c].foldlM addDigit? 0 = some n := by
    simp [addDigit?_byte h (by decide : 0 < 16)]
  simp [number, hfold]

theorem number_pair (hc : IsDigit c n) (hd : IsDigit d m) :
    number [byte c, byte d] = .ok (channel n m) := by
  have hfold : [byte c, byte d].foldlM addDigit? 0 = some (16 * n + m) := by
    simp [addDigit?_byte hc (by decide : 0 < 16), addDigit?_byte hd hc.lt]
  simp [number, byte_ne_plus hc, hfold, channel]

end Digits

/-! ### Slices of digits -/

section Slices

variable {bs : List UInt8} {i : Nat}

/-- There is a boundary between any two digits, for each is a character of its own. -/
theorem isBoundary_of_all (h : bs.all isDigit = true) (hi : i ≤ bs.length) :
    isBoundary bs i = true := by
  unfold isBoundary
  split
  · rename_i hend
    rw [List.getElem?_eq_none_iff] at hend
    simpa using Nat.le_antisymm hi hend
  · rename_i b hb
    have hdigit : isDigit b = true := List.all_eq_true.mp h b (List.mem_of_getElem? hb)
    have hascii : b < 0x80 := by
      simp only [isDigit, Bool.or_eq_true, Bool.and_eq_true, decide_eq_true_eq,
        UInt8.le_iff_toNat_le] at hdigit
      rw [UInt8.lt_iff_toNat_lt]
      simp at hdigit ⊢
      omega
    simp [hascii]

theorem slice_of_le (h : bs.all isDigit = true) {n : Nat} (hi : i + n ≤ bs.length) :
    slice bs i (i + n) = .ok ((bs.drop i).take n) := by
  rw [slice, if_pos ⟨by omega, isBoundary_of_all h (by omega), isBoundary_of_all h hi⟩,
    List.drop_take, Nat.add_sub_cancel_left]

variable {x y : Char} {v : UInt8}

/-- Two digits in a row are read as the pair they are. -/
theorem pair_of_getElem? (h : bs.all isDigit = true) (hx : bs[i]? = some (byte x))
    (hy : bs[i + 1]? = some (byte y)) (hpair : IsPair x y v) : pair bs i = .ok v := by
  obtain ⟨n, m, hn, hm, rfl⟩ := isPair_iff.mp hpair
  obtain ⟨hi, hx⟩ := List.getElem?_eq_some_iff.mp hx
  obtain ⟨hi', hy⟩ := List.getElem?_eq_some_iff.mp hy
  have hslice : slice bs i (i + 2) = .ok [byte x, byte y] := by
    rw [slice_of_le h (by omega), List.drop_eq_getElem_cons hi, List.drop_eq_getElem_cons hi',
      hx, hy]
    rfl
  rw [pair, hslice]
  exact number_pair (digit?_eq_some_iff.mp hn) (digit?_eq_some_iff.mp hm)

/-- Seventeen times a digit has eight bits. -/
theorem single_of_getElem? (h : bs.all isDigit = true) (hx : bs[i]? = some (byte x))
    (hpair : IsPair x x v) : single bs i = .ok v := by
  obtain ⟨n, m, hn, hm, hv⟩ := hpair
  obtain rfl := hn.unique hm
  obtain ⟨hi, hx⟩ := List.getElem?_eq_some_iff.mp hx
  have hslice : slice bs i (i + 1) = .ok [byte x] := by
    rw [slice_of_le h (by omega), List.drop_eq_getElem_cons hi, hx]
    rfl
  have hlt := hn.lt
  have hdigit : n.toUInt8.toNat = n := by
    apply UInt8.toNat_ofNat_of_lt'
    show n < 256
    omega
  simp only [single, hslice, bind, Except.bind, number_single hn, hdigit]
  rw [if_pos (by omega)]
  congr 1
  rw [← UInt8.toNat_inj, UInt8.toNat_mul, hdigit, hv]
  simp
  omega

end Slices

/-! ### The reader reads colours -/

/-- **What spells a colour is read as this colour.** No slice falls between boundaries, and no
number overflows. -/
theorem read_of_spells {cs : List Char} {c : Color} (h : Spells cs c) :
    read (encode cs) = .ok c := by
  have hdigits := (exists_spells_iff.mp ⟨c, h⟩).2
  have hall := all_isDigit_encode_iff.mpr hdigits
  rw [encode_eq_map hdigits] at hall ⊢
  rw [read, hall]
  cases h with
  | short hr hg hb ha =>
    have hred := single_of_getElem? (i := 0) hall rfl hr
    have hgreen := single_of_getElem? (i := 1) hall rfl hg
    have hblue := single_of_getElem? (i := 2) hall rfl hb
    simp only [List.length_map, List.length_cons, List.length_nil, hred, hgreen, hblue]
    rw [← ha]
    rfl
  | full hr hg hb ha =>
    have hred := pair_of_getElem? (i := 0) hall rfl rfl hr
    have hgreen := pair_of_getElem? (i := 2) hall rfl rfl hg
    have hblue := pair_of_getElem? (i := 4) hall rfl rfl hb
    simp only [List.length_map, List.length_cons, List.length_nil, hred, hgreen, hblue]
    rw [← ha]
    rfl
  | withAlpha hr hg hb ha =>
    have hred := pair_of_getElem? (i := 0) hall rfl rfl hr
    have hgreen := pair_of_getElem? (i := 2) hall rfl rfl hg
    have hblue := pair_of_getElem? (i := 4) hall rfl rfl hb
    have halpha := pair_of_getElem? (i := 6) hall rfl rfl ha
    simp only [List.length_map, List.length_cons, List.length_nil, hred, hgreen, hblue, halpha]
    rfl

/-- What spells no colour is refused, and nothing panics on the way. -/
theorem read_of_forall_not_spells {cs : List Char} (h : ∀ c, ¬ Spells cs c) :
    read (encode cs) = .error .notAColor := by
  by_cases hdigits : ∀ d ∈ cs, ∃ n, IsDigit d n
  · have hlength : (cs.map byte).length ∉ [3, 6, 8] := by
      rw [List.length_map]
      intro hlength
      obtain ⟨c, hc⟩ := exists_spells_iff.mpr ⟨hlength, hdigits⟩
      exact h c hc
    have hall := all_isDigit_encode_iff.mpr hdigits
    rw [encode_eq_map hdigits] at hall ⊢
    rw [read, hall]
    simp only [List.mem_cons, List.not_mem_nil, or_false, not_or] at hlength
    obtain ⟨hthree, hsix, height⟩ := hlength
    split
    · rename_i hfalse
      cases hfalse
    split
    · exact absurd ‹_› hthree
    · exact absurd ‹_› hsix
    · exact absurd ‹_› height
    · rfl
  · rw [← all_isDigit_encode_iff, Bool.not_eq_true] at hdigits
    rw [read, hdigits]
    rfl

/-- **The reader never cuts a character and never overflows.** It reads what is a colour. -/
theorem read_encode (s : String) :
    read (encode (significant s)) = (ofHex? s).elim (.error .notAColor) .ok := by
  cases h : ofHex? s with
  | some c => exact read_of_spells (ofHex?_eq_some_iff_spells.mp h)
  | none =>
    refine read_of_forall_not_spells fun c hc => ?_
    rw [← ofHex?_eq_some_iff_spells, h] at hc
    cases hc

end Bytes

/-- **Texts and colours correspond.** A text without its blanks and leading `#` is a colour exactly
if it has three, six or eight hexadecimal digits, which spell the colour; to find out, no character
is cut and no number overflows. The written form of a colour is one of its spellings, and stands for
all of them. -/
theorem text_and_value_correspond :
    (∀ s, Bytes.read (Bytes.encode (significant s)) =
      (ofHex? s).elim (.error .notAColor) .ok) ∧
    (∀ s, (∃ c, ofHex? s = some c) ↔
      (significant s).length ∈ [3, 6, 8] ∧ ∀ d ∈ significant s, ∃ n, IsDigit d n) ∧
    (∀ s c, ofHex? s = some c ↔ IsText c s) ∧
    (∀ c, ofHex? c.text = some c) ∧
    (∀ c s, c.text = s ↔ ∃ cs, s.toList = '#' :: cs ∧ IsCanonical cs c) ∧
    (∀ s t, normalize? s = some t → normalize? t = some t) ∧
    ∀ s s', normalize? s = normalize? s' ↔ ofHex? s = ofHex? s' := by
  refine ⟨Bytes.read_encode, fun s => ?_, fun s c => ofHex?_eq_some_iff, ofHex?_text,
    fun c s => text_eq_iff, fun s t => normalize?_normalize?, fun s s' => normalize?_eq_iff⟩
  simp only [ofHex?_eq_some_iff_spells]
  exact exists_spells_iff

/-- A colour in two spellings, and a text that has a blank behind its `#`. -/
theorem text_and_value_correspond_dark :
    normalize? " ##1E1e2E\t" = some "#1e1e2e" ∧ normalize? "#1e1e2e" = some "#1e1e2e" ∧
    ofHex? "# fff" = none := by
  have hspelled : normalize? " ##1E1e2E\t" = some "#1e1e2e" := by decide +kernel
  obtain ⟨-, -, -, -, -, hagain, -⟩ := text_and_value_correspond
  exact ⟨hspelled, hagain _ _ hspelled, by decide +kernel⟩

end StatusBar.Color
