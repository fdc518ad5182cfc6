import Mathlib.Data.List.Nodup
import StatusBar.Bar
import StatusBar.Proofs.Decoding
import StatusBar.Widget.Builtin

/-!
# The bar-wide part as an overlay

The settings of a bar are the default settings with some fields replaced. A table gives the fields
of its keys, and a list gives the first fields in their order, which is the same as the table with
these fields (`Section.Gives`). The fields do not know of each other: putting a value into one of
them leaves the others alone (`put_eq_ok_iff`), and from this the whole table is read by induction
on its entries (`foldlM_putEntry_eq_ok_iff`).
-/

namespace StatusBar

open Toml (Table Value)

/-- The content of a place that holds `x` unless it is given something. -/
inductive Overlays {α : Type} (Admits : Value → α → Prop) (x : α) : Option Value → α → Prop where
  | absent : Overlays Admits x none x
  | given {v : Value} {y : α} : Admits v y → Overlays Admits x (some v) y

namespace Overlays

variable {α : Type} {Admits : Value → α → Prop} {x y : α} {v : Value} {given : Option Value}

@[simp] theorem overlays_none : Overlays Admits x none y ↔ y = x := by
  constructor
  · rintro ⟨⟩
    rfl
  · rintro rfl
    exact .absent

@[simp] theorem overlays_some : Overlays Admits x (some v) y ↔ Admits v y := by
  constructor
  · rintro (_ | h)
    exact h
  · exact .given

theorem exists_overlays_iff :
    (∃ y, Overlays Admits x given y) ↔ ∀ v, given = some v → ∃ y, Admits v y := by
  cases given <;> simp

end Overlays

namespace BarSection

/-! ### Fields one by one -/

/-- A field of the settings: its key, the values that fit into it, and where it is. -/
structure Part where
  key : String
  {Content : Type}
  Admits : Value → Content → Prop
  get : BarSection → Content

def Part.all : List Part := [
  ⟨"height", Value.Counts, height⟩,
  ⟨"foreground", Value.Spells, foreground⟩,
  ⟨"background", Value.Spells, background⟩,
  ⟨"line_color", Value.Spells, lineColor⟩,
  ⟨"line_size", Value.Counts, lineSize⟩,
  ⟨"fonts", Value.Lists, fonts⟩,
  ⟨"separator", Value.Spells, separator⟩]

/-- The field of a part: what fits is put into it, and the other fields stay as they are. -/
structure Belongs (f : Field) (p : Part) : Prop where
  key_eq : f.key = p.key
  put_eq_ok_iff : ∀ s v s', f.put s v = .ok s' ↔
    p.Admits v (p.get s') ∧ ∀ q ∈ Part.all, q.key ≠ p.key → q.get s' = q.get s
  exists_put : ∀ s v x, p.Admits v x → ∃ s', f.put s v = .ok s' ∧ p.get s' = x

/-- A field that decodes a value and sets it belongs to the part that admits what is decoded. -/
theorem belongs_of_set {key : String} {α : Type} {decoder : Decoder α} {Admits : Value → α → Prop}
    {get : BarSection → α} {set : BarSection → α → BarSection}
    (hdecoder : ∀ {v x}, decoder v = .ok x ↔ Admits v x) (hget : ∀ s x, get (set s x) = x)
    (hset : ∀ s s', s' = set s (get s') ↔ ∀ q ∈ Part.all, q.key ≠ key → q.get s' = q.get s) :
    Belongs ⟨key, fun s v => do return set s (← decoder v)⟩ ⟨key, Admits, get⟩ where
  key_eq := rfl
  put_eq_ok_iff s v s' := by
    refine Iff.trans ?_ (and_congr hdecoder (hset s s'))
    show (do return set s (← decoder v)) = Except.ok s' ↔ _
    cases hv : decoder v with
    | error m => simp [bind, Except.bind]
    | ok x =>
      simp only [bind, Except.bind, pure, Except.pure, Except.ok.injEq]
      constructor
      · rintro rfl
        rw [hget]
        exact ⟨rfl, rfl⟩
      · rintro ⟨rfl, hs'⟩
        exact hs'.symm
  exists_put s v x hv := by
    refine ⟨set s x, ?_, hget s x⟩
    show (do return set s (← decoder v)) = Except.ok (set s x)
    rw [hdecoder.mpr hv]
    rfl

theorem eq_iff_forall_get {s s' : BarSection} :
    s' = s ↔ ∀ p ∈ Part.all, p.get s' = p.get s := by
  cases s
  cases s'
  simp [Part.all]

/-- **Every field belongs to the part of its place.** -/
theorem forall₂_belongs : List.Forall₂ Belongs fields Part.all := by
  refine .cons (belongs_of_set Decoder.u32_eq_ok_iff (fun _ _ => rfl) fun s s' => ?_) <|
    .cons (belongs_of_set Decoder.string_eq_ok_iff (fun _ _ => rfl) fun s s' => ?_) <|
    .cons (belongs_of_set Decoder.string_eq_ok_iff (fun _ _ => rfl) fun s s' => ?_) <|
    .cons (belongs_of_set Decoder.string_eq_ok_iff (fun _ _ => rfl) fun s s' => ?_) <|
    .cons (belongs_of_set Decoder.u32_eq_ok_iff (fun _ _ => rfl) fun s s' => ?_) <|
    .cons (belongs_of_set Decoder.strings_eq_ok_iff (fun _ _ => rfl) fun s s' => ?_) <|
    .cons (belongs_of_set Decoder.string_eq_ok_iff (fun _ _ => rfl) fun s s' => ?_) .nil
  all_goals
    rw [eq_iff_forall_get]
    simp [Part.all]

/-! ### All entries of a table -/

/-- The settings are `s'` when the entries of a table are put over `s`. -/
def Overlaid (entries : Table) (s s' : BarSection) : Prop :=
  ∀ p ∈ Part.all, Overlays p.Admits (p.get s) (entries.get? p.key) (p.get s')

theorem eq_of_key_eq {p q : Part} (hp : p ∈ Part.all) (hq : q ∈ Part.all) (h : p.key = q.key) :
    p = q := by
  have hkeys : (Part.all.map Part.key).Nodup := by decide
  exact List.inj_on_of_nodup_map hkeys hp hq h

/-- A key is that of a field and of its part, or of neither. -/
theorem find?_or_exists_belongs {fs : List Field} {ps : List Part}
    (h : List.Forall₂ Belongs fs ps) (key : String) :
    (fs.find? (·.key == key) = none ∧ ∀ p ∈ ps, p.key ≠ key) ∨
      ∃ f p, fs.find? (·.key == key) = some f ∧ p ∈ ps ∧ p.key = key ∧ Belongs f p := by
  induction h with
  | nil => exact .inl ⟨rfl, by simp⟩
  | @cons f p fs ps hbelongs _ ih =>
    have hkey := hbelongs.key_eq
    by_cases hp : p.key = key
    · refine .inr ⟨f, p, ?_, List.mem_cons_self, hp, hbelongs⟩
      simp [hkey, hp]
    · have hfind : (f :: fs).find? (·.key == key) = fs.find? (·.key == key) := by
        simp [hkey, hp]
      rw [hfind]
      rcases ih with ⟨hnone, hps⟩ | ⟨f', p', hsome, hp', hrest⟩
      · exact .inl ⟨hnone, List.forall_mem_cons.mpr ⟨hp, hps⟩⟩
      · exact .inr ⟨f', p', hsome, List.mem_cons_of_mem p hp', hrest⟩

theorem get?_cons (key : String) (v : Value) (rest : Table) (key' : String) :
    Table.get? ((key, v) :: rest) key' = if key = key' then some v else rest.get? key' := by
  unfold Table.get?
  rw [List.find?_cons]
  split <;> simp_all

theorem get?_of_not_mem {entries : Table} {key : String} (h : key ∉ entries.map Prod.fst) :
    entries.get? key = none := by
  simp only [List.mem_map, not_exists, not_and] at h
  simpa [Table.get?] using h

theorem overlaid_nil {s s' : BarSection} : Overlaid [] s s' ↔ s' = s := by
  rw [eq_iff_forall_get]
  simp [Overlaid, Table.get?]

/-- An entry with the key of a field is put into it. -/
theorem overlaid_singleton {p : Part} (hp : p ∈ Part.all) {v : Value} {s s' : BarSection} :
    Overlaid [(p.key, v)] s s' ↔
      p.Admits v (p.get s') ∧ ∀ q ∈ Part.all, q.key ≠ p.key → q.get s' = q.get s := by
  simp only [Overlaid, get?_cons]
  constructor
  · intro h
    refine ⟨by simpa using h p hp, fun q hq hkey => ?_⟩
    simpa [Ne.symm hkey, Table.get?] using h q hq
  · rintro ⟨hadmits, hother⟩ q hq
    by_cases hkey : q.key = p.key
    · obtain rfl := eq_of_key_eq hq hp hkey
      simpa using hadmits
    · simpa [Ne.symm hkey, Table.get?] using hother q hq hkey

/-- An entry with another key changes nothing. -/
theorem overlaid_cons_of_forall_ne {key : String} (hkey : ∀ p ∈ Part.all, p.key ≠ key) {v : Value}
    {rest : Table} {s s' : BarSection} :
    Overlaid ((key, v) :: rest) s s' ↔ Overlaid rest s s' := by
  refine forall₂_congr fun p hp => ?_
  rw [get?_cons, if_neg (Ne.symm (hkey p hp))]

/-- A single entry overlays the part of its key, and does nothing if there is none. -/
theorem putEntry_eq_ok_iff {key : String} {v : Value} {s s' : BarSection} :
    putEntry s (key, v) = .ok s' ↔ Overlaid [(key, v)] s s' := by
  unfold putEntry
  rcases find?_or_exists_belongs forall₂_belongs key with
    ⟨hfind, hkey⟩ | ⟨f, p, hfind, hp, rfl, hbelongs⟩
  · rw [hfind, overlaid_cons_of_forall_ne hkey, overlaid_nil]
    simp [eq_comm]
  · rw [hfind, overlaid_singleton hp, ← hbelongs.put_eq_ok_iff]
    show (f.put s v).mapError _ = .ok s' ↔ _
    cases f.put s v <;> simp [Except.mapError]

/-- Entries with different keys are put one after the other. -/
theorem overlaid_cons {key : String} {v : Value} {rest : Table} (h : key ∉ rest.map Prod.fst)
    {s s' : BarSection} :
    Overlaid ((key, v) :: rest) s s' ↔ ∃ t, Overlaid [(key, v)] s t ∧ Overlaid rest t s' := by
  rcases find?_or_exists_belongs forall₂_belongs key with ⟨-, hkey⟩ | ⟨f, p, -, hp, rfl, hbelongs⟩
  · simp [overlaid_cons_of_forall_ne hkey, overlaid_nil]
  · simp only [overlaid_singleton hp]
    constructor
    · intro hs'
      have hadmits : p.Admits v (p.get s') := by
        simpa [get?_cons] using hs' p hp
      obtain ⟨t, hput, ht⟩ := hbelongs.exists_put s v _ hadmits
      obtain ⟨htv, hother⟩ := (hbelongs.put_eq_ok_iff s v t).mp hput
      refine ⟨t, ⟨htv, hother⟩, fun q hq => ?_⟩
      by_cases hkey : q.key = p.key
      · obtain rfl := eq_of_key_eq hq hp hkey
        rw [get?_of_not_mem h, ht]
        exact .absent
      · have hq' := hs' q hq
        rw [get?_cons, if_neg (Ne.symm hkey)] at hq'
        rwa [hother q hq hkey]
    · rintro ⟨t, ⟨hadmits, hother⟩, hrest⟩ q hq
      rw [get?_cons]
      have hq' := hrest q hq
      split
      · rename_i hkey
        obtain rfl := eq_of_key_eq hq hp hkey.symm
        rw [get?_of_not_mem h, Overlays.overlays_none] at hq'
        rw [hq']
        exact .given hadmits
      · rename_i hkey
        rwa [← hother q hq (Ne.symm hkey)]

/-- **Entries with different keys overlay one another**, each in its own part. -/
theorem foldlM_putEntry_eq_ok_iff {entries : Table} (h : (entries.map Prod.fst).Nodup)
    {s s' : BarSection} : entries.foldlM putEntry s = .ok s' ↔ Overlaid entries s s' := by
  induction entries generalizing s with
  | nil =>
    rw [overlaid_nil]
    simp [pure, Except.pure, eq_comm]
  | cons e rest ih =>
    obtain ⟨key, v⟩ := e
    rw [List.map_cons, List.nodup_cons] at h
    rw [overlaid_cons h.1, List.foldlM_cons]
    simp only [← putEntry_eq_ok_iff, ← ih h.2]
    cases putEntry s (key, v) <;> simp [bind, Except.bind]

/-- Values that fit can be put over any settings: the fields do not know of each other. -/
theorem exists_overlaid_iff {entries : Table} {s : BarSection} :
    (∃ s', Overlaid entries s s') ↔
      ∀ p ∈ Part.all, ∀ v, entries.get? p.key = some v → ∃ x, p.Admits v x := by
  constructor
  · rintro ⟨s', h⟩ p hp v hv
    have hcontent := h p hp
    rw [hv] at hcontent
    exact ⟨p.get s', Overlays.overlays_some.mp hcontent⟩
  · intro h
    have hcontent : ∀ p ∈ Part.all,
        ∃ x, Overlays p.Admits (p.get s) (entries.get? p.key) x :=
      fun p hp => Overlays.exists_overlays_iff.mpr (h p hp)
    simp only [Part.all, List.forall_mem_cons, List.not_mem_nil] at hcontent
    obtain ⟨⟨height, hheight⟩, ⟨foreground, hforeground⟩, ⟨background, hbackground⟩,
      ⟨lineColor, hlineColor⟩, ⟨lineSize, hlineSize⟩, ⟨fonts, hfonts⟩,
      ⟨separator, hseparator⟩, -⟩ := hcontent
    refine ⟨⟨height, foreground, background, lineColor, lineSize, fonts, separator⟩, ?_⟩
    simp only [Overlaid, Part.all, List.forall_mem_cons, List.not_mem_nil]
    exact ⟨hheight, hforeground, hbackground, hlineColor, hlineSize, hfonts, hseparator, by simp⟩

/-! ### Tables and lists -/

/-- The keys of the fields in their order. -/
def keys : List String := Part.all.map Part.key

/-- The value at `bar` gives the fields these values: a table those at its keys, a list the first
ones in their order. -/
inductive Gives : Option Value → Table → Prop where
  | nothing : Gives none []
  | table (entries : Table) : Gives (some (.table entries)) entries
  | list {vs : List Value} : vs.length ≤ keys.length → Gives (some (.array vs)) (keys.zip vs)

theorem Gives.unique {given : Option Value} {entries entries' : Table} (h : Gives given entries)
    (h' : Gives given entries') : entries = entries' := by
  cases h <;> cases h' <;> rfl

theorem map_key_fields : fields.map Field.key = keys := rfl

theorem nodup_keys_zip (vs : List Value) : ((keys.zip vs).map Prod.fst).Nodup := by
  have hkeys : keys.Nodup := by decide
  rw [List.zip_eq_zip_take_min, List.map_fst_zip (by simp)]
  exact (List.take_sublist _ _).nodup hkeys

/-- Values are put into the fields in order like the entries of a table. -/
theorem putAll_eq_ok_iff {fs : List Field}
    (hfs : ∀ f ∈ fs, fields.find? (·.key == f.key) = some f) {vs : List Value}
    {s s' : BarSection} :
    putAll s fs vs = .ok s' ↔ ((fs.map Field.key).zip vs).foldlM putEntry s = .ok s' := by
  induction fs generalizing vs s with
  | nil => simp [putAll, pure, Except.pure]
  | cons f fs ih =>
    cases vs with
    | nil => simp [putAll, pure, Except.pure]
    | cons v vs =>
      rw [List.forall_mem_cons] at hfs
      have hput : putEntry s (f.key, v) = (f.put s v).mapError (.inside f.key) := by
        rw [putEntry, hfs.1]
      rw [List.map_cons, List.zip_cons_cons, List.foldlM_cons, hput, putAll]
      cases f.put s v with
      | error m => simp [bind, Except.bind, Except.mapError]
      | ok t => exact ih hfs.2

/-- A section that is written as a list has its values in the order of the keys, and not more of
them. -/
theorem ofList_eq_ok_iff {vs : List Value} {s : BarSection} :
    ofList vs = .ok s ↔ vs.length ≤ keys.length ∧ Overlaid (keys.zip vs) {} s := by
  have hfields : ∀ f ∈ fields, fields.find? (·.key == f.key) = some f := by
    simp only [fields, List.forall_mem_cons, List.not_mem_nil]
    exact ⟨rfl, rfl, rfl, rfl, rfl, rfl, rfl, by simp⟩
  have hputAll (t : BarSection) : putAll {} fields vs = .ok t ↔ Overlaid (keys.zip vs) {} t := by
    rw [putAll_eq_ok_iff hfields, map_key_fields,
      foldlM_putEntry_eq_ok_iff (nodup_keys_zip vs)]
  rw [← hputAll, ofList]
  cases putAll {} fields vs with
  | error m => simp [bind, Except.bind]
  | ok t =>
    show (if vs.length ≤ keys.length then Except.ok t else .error _) = .ok s ↔ _
    by_cases hlength : vs.length ≤ keys.length <;> simp [hlength]

/-- **A section is what it has been given, over the defaults**, written as a table or as a list. -/
theorem ofValue_eq_ok_iff {v : Value}
    (h : ∀ entries, v = .table entries → (entries.map Prod.fst).Nodup) {s : BarSection} :
    ofValue v = .ok s ↔ ∃ entries, Gives (some v) entries ∧ Overlaid entries {} s := by
  cases v with
  | table entries =>
    rw [ofValue, foldlM_putEntry_eq_ok_iff (h entries rfl)]
    constructor
    · exact fun hs => ⟨entries, .table entries, hs⟩
    · rintro ⟨_, ⟨⟩, hs⟩
      exact hs
  | array vs =>
    rw [ofValue, ofList_eq_ok_iff]
    constructor
    · rintro ⟨hlength, hs⟩
      exact ⟨_, .list hlength, hs⟩
    · rintro ⟨_, hgives, hs⟩
      cases hgives with
      | list hlength => exact ⟨hlength, hs⟩
  | string | integer | float | boolean | datetime =>
    simp only [ofValue, reduceCtorEq, false_iff]
    rintro ⟨_, ⟨⟩, -⟩

end BarSection

/-! ### The whole bar-wide part -/

/-- The bar-wide part is the default one, with what is given in its place. -/
structure BarConfig.IsOverlay (c : Config) (b : BarConfig) : Prop where
  modules : Overlays Value.Lists [] (c.root.get? "modules") b.modules
  bar : ∃ entries, BarSection.Gives (c.root.get? "bar") entries ∧
    BarSection.Overlaid entries {} b.bar

/-- A configuration of a bar is read section by section, and an error tells of the section. -/
theorem BarConfig.ofTable_eq (t : Table) : BarConfig.ofTable t = do
    let bar ← (t.get? "bar").elim (.ok {}) fun v =>
      (BarSection.ofValue v).mapError (.inside "bar")
    let modules ← (t.get? "modules").elim (.ok []) fun v =>
      (Decoder.strings v).mapError (.inside "modules")
    return { modules, bar } := by
  unfold BarConfig.ofTable
  cases t.get? "bar" <;> cases t.get? "modules" <;> rfl

namespace Config

/-- The table `bar` has each of its keys once. -/
def HasDistinctBarKeys (c : Config) : Prop :=
  ∀ entries, c.root.get? "bar" = some (.table entries) → (entries.map Prod.fst).Nodup

/-- All that is present has its type: the names of modules, and the fields of the bar, which are
given by a table or as the first elements of a list. -/
structure IsWellTyped (c : Config) : Prop where
  modules : ∀ v, c.root.get? "modules" = some v → ∃ names, v.Lists names
  bar : ∃ entries, BarSection.Gives (c.root.get? "bar") entries ∧
    ∀ p ∈ BarSection.Part.all, ∀ v, entries.get? p.key = some v → ∃ x, p.Admits v x

/-- The two configurations give the same names and the same fields. What else is in them, and
whether the fields are in a table or in a list, may differ. -/
structure AgreeOnBar (c c' : Config) : Prop where
  modules : c.root.get? "modules" = c'.root.get? "modules"
  bar : ∃ entries entries', BarSection.Gives (c.root.get? "bar") entries ∧
    BarSection.Gives (c'.root.get? "bar") entries' ∧
    ∀ p ∈ BarSection.Part.all, entries.get? p.key = entries'.get? p.key

variable {c c' : Config}

/-- **The configuration of a bar overlays the defaults.** -/
theorem barConfig_eq_ok_iff (h : c.HasDistinctBarKeys) {b : BarConfig} :
    c.barConfig = .ok b ↔ b.IsOverlay c := by
  have hmodules (names : List String) : (c.root.get? "modules").elim (.ok [])
      (fun v => (Decoder.strings v).mapError (Mismatch.inside "modules")) = .ok names ↔
      Overlays Value.Lists [] (c.root.get? "modules") names := by
    cases c.root.get? "modules" with
    | none => simp [eq_comm]
    | some v => simp [mapError_eq_ok_iff, Decoder.strings_eq_ok_iff]
  have hbar (s : BarSection) : (c.root.get? "bar").elim (.ok {})
      (fun v => (BarSection.ofValue v).mapError (Mismatch.inside "bar")) = .ok s ↔
      ∃ entries, BarSection.Gives (c.root.get? "bar") entries ∧
        BarSection.Overlaid entries {} s := by
    cases hfind : c.root.get? "bar" with
    | none =>
      constructor
      · rintro ⟨⟩
        exact ⟨[], .nothing, BarSection.overlaid_nil.mpr rfl⟩
      · rintro ⟨_, ⟨⟩, hs⟩
        rw [BarSection.overlaid_nil.mp hs]
        rfl
    | some v =>
      rw [Option.elim_some, mapError_eq_ok_iff]
      exact BarSection.ofValue_eq_ok_iff fun entries hv => h entries (hv ▸ hfind)
  rw [barConfig, mapError_eq_ok_iff, BarConfig.ofTable_eq]
  simp only [bind_eq_ok_iff, hmodules, hbar]
  constructor
  · rintro ⟨s, hs, names, hnames, ⟨⟩⟩
    exact ⟨hnames, hs⟩
  · rintro ⟨hnames, hs⟩
    exact ⟨b.bar, hs, b.modules, hnames, rfl⟩

/-- A configuration can be read exactly if all of it is well typed. -/
theorem exists_barConfig_iff (h : c.HasDistinctBarKeys) :
    (∃ b, c.barConfig = .ok b) ↔ c.IsWellTyped := by
  simp only [barConfig_eq_ok_iff h]
  constructor
  · rintro ⟨b, hmodules, entries, hgives, hbar⟩
    exact ⟨Overlays.exists_overlays_iff.mp ⟨_, hmodules⟩, entries, hgives,
      BarSection.exists_overlaid_iff.mp ⟨_, hbar⟩⟩
  · rintro ⟨hmodules, entries, hgives, hbar⟩
    obtain ⟨modules, hmodules⟩ := Overlays.exists_overlays_iff.mpr hmodules
    obtain ⟨bar, hbar⟩ := BarSection.exists_overlaid_iff.mpr hbar
    exact ⟨⟨modules, bar⟩, hmodules, entries, hgives, hbar⟩

theorem AgreeOnBar.symm (h : c.AgreeOnBar c') : c'.AgreeOnBar c := by
  obtain ⟨hmodules, entries, entries', hgives, hgives', hsame⟩ := h
  exact ⟨hmodules.symm, entries', entries, hgives', hgives, fun p hp => (hsame p hp).symm⟩

theorem AgreeOnBar.isOverlay (h : c.AgreeOnBar c') {b : BarConfig} (hb : b.IsOverlay c) :
    b.IsOverlay c' := by
  obtain ⟨hmodules, entries, entries', hgives, hgives', hsame⟩ := h
  refine ⟨hmodules ▸ hb.modules, entries', hgives', fun p hp => ?_⟩
  obtain ⟨given, hgiven, hbar⟩ := hb.bar
  obtain rfl := hgiven.unique hgives
  rw [← hsame p hp]
  exact hbar p hp

end Config

/-! ### Settings -/

/-- The colour that a text stands for, with the one for a text that is no colour. -/
inductive Color.StandsFor (text : String) (fallback : Color) : Color → Prop where
  | valid {color : Color} : ofHex? text = some color → StandsFor text fallback color
  | invalid : ofHex? text = none → StandsFor text fallback fallback

/-- A text stands for the colour it spells, or for the fallback if it spells none. -/
theorem Color.standsFor_iff {text : String} {fallback color : Color} :
    StandsFor text fallback color ↔ color = (ofHex? text).getD fallback := by
  constructor
  · rintro (h | h) <;> rw [h] <;> rfl
  · rintro rfl
    cases h : ofHex? text with
    | none => exact .invalid h
    | some color => exact .valid h

/-- The settings are those of the section. Each colour is read, and has a fallback of its own. -/
structure BarSettings.Copies (s : BarSection) (settings : BarSettings) : Prop where
  height : settings.height = s.height
  foreground : Color.StandsFor s.foreground .white settings.foreground
  background : Color.StandsFor s.background .dark settings.background
  lineColor : Color.StandsFor s.lineColor .purple settings.lineColor
  lineSize : settings.lineSize = s.lineSize
  fonts : settings.fonts = s.fonts
  separator : settings.separator = s.separator

/-- The settings of a bar are copied from its section, the colours among them read. -/
theorem BarSettings.copies_ofSection (s : BarSection) : (ofSection s).Copies s where
  height := rfl
  foreground := Color.standsFor_iff.mpr rfl
  background := Color.standsFor_iff.mpr rfl
  lineColor := Color.standsFor_iff.mpr rfl
  lineSize := rfl
  fonts := rfl
  separator := rfl

/-- **What a configuration says of the bar is put over the defaults, field by field.** It is
accepted if and only if all that is said has its type. Nothing but the fields counts, and no field
counts for another one. The settings are those of the section, with each colour read on its own.
Without a valid bar-wide part the bar has no modules and the default separator. -/
theorem bar_part_overlays_defaults {ω : Type} (catalog : List (String × Construction ω))
    (c : Config) (hkeys : c.HasDistinctBarKeys) :
    ((∃ b, c.barConfig = .ok b) ↔ c.IsWellTyped) ∧
    (∀ b, c.barConfig = .ok b ↔ b.IsOverlay c) ∧
    (∀ c' : Config, c'.HasDistinctBarKeys → c.AgreeOnBar c' →
      ∀ b, c.barConfig = .ok b ↔ c'.barConfig = .ok b) ∧
    (∀ b, c.barConfig = .ok b → ∃ s, BarSettings.ofConfig c = .ok s ∧ s.Copies b.bar) ∧
    ∀ e, c.barConfig = .error e →
      BarSettings.ofConfig c = .error e ∧
      Bar.build catalog c = ({ slots := [], separator := ({} : BarSection).separator },
        [.barConfigInvalid e.message]) := by
  refine ⟨Config.exists_barConfig_iff hkeys, fun b => Config.barConfig_eq_ok_iff hkeys, ?agree,
    ?settings, ?invalid⟩
  case agree =>
    intro c' hkeys' hagree b
    rw [Config.barConfig_eq_ok_iff hkeys, Config.barConfig_eq_ok_iff hkeys']
    exact ⟨hagree.isOverlay, hagree.symm.isOverlay⟩
  case settings =>
    intro b hb
    refine ⟨.ofSection b.bar, ?_, BarSettings.copies_ofSection b.bar⟩
    rw [BarSettings.ofConfig, hb]
    rfl
  case invalid =>
    intro e he
    have hsettings : BarSettings.ofConfig c = .error e := by
      rw [BarSettings.ofConfig, he]
      rfl
    refine ⟨hsettings, ?_⟩
    rw [Bar.build, hsettings, he]
    rfl

/-- The first two fields, in a list and in a table with a key that is no field. The text of the
foreground is a string and no colour. -/
theorem bar_part_overlays_defaults_list :
    let c : Config := ⟨[("bar", .array [.integer 30, .string "red"])]⟩
    let c' : Config := ⟨[("bar", .table [("dock", .boolean true), ("foreground", .string "red"),
      ("height", .integer 30)]), ("module", .integer 3)]⟩
    c.HasDistinctBarKeys ∧ c'.HasDistinctBarKeys ∧ c.AgreeOnBar c' ∧
      c'.barConfig = .ok { bar := { height := 30, foreground := "red" } } ∧
      ∃ s, BarSettings.ofConfig c = .ok s ∧ s.foreground = .white ∧ s.height = 30 := by
  intro c c'
  have hkeys : c.HasDistinctBarKeys := by
    rintro entries ⟨⟩
  have hkeys' : c'.HasDistinctBarKeys := by
    rintro entries ⟨⟩
    decide
  have hagree : c.AgreeOnBar c' := by
    refine ⟨rfl, _, _, .list (by decide), .table _, ?_⟩
    simp only [BarSection.Part.all, List.forall_mem_cons, List.not_mem_nil]
    exact ⟨rfl, rfl, rfl, rfl, rfl, rfl, rfl, by simp⟩
  have hb : c.barConfig = .ok { bar := { height := 30, foreground := "red" } } := rfl
  obtain ⟨-, -, hsame, hsettings, -⟩ := bar_part_overlays_defaults Builtin.catalog c hkeys
  refine ⟨hkeys, hkeys', hagree, (hsame c' hkeys' hagree _).mp hb, ?_⟩
  obtain ⟨s, hs, hcopies⟩ := hsettings _ hb
  exact ⟨s, hs, (Color.standsFor_iff.mp hcopies.foreground).trans rfl, hcopies.height⟩

end StatusBar
