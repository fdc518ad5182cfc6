import Mathlib.Data.List.Permutation
import StatusBar.Proofs.Operation

/-!
# What a registration reads

A registration reads its keys one after the other and stops at the first value that does not fit.
`Config.Reads` says this of a computation, together with what its result is if all values fit. It
is closed under sequencing (`Config.Reads.bind`), so one lemma for each function that reads leads to
the one about the whole template (`Formats.reads_decorated`): the eleven attributes first, each from
the source that is selected for it, and then the labels in front and behind.
-/

namespace StatusBar

/-- The error that a computation ends in, if it does. -/
def error? {ε α : Type} : Except ε α → Option ε
  | .ok _ => none
  | .error e => some e

theorem error?_eq_none_iff {ε α : Type} {x : Except ε α} : error? x = none ↔ ∃ a, x = .ok a := by
  cases x <;> simp [error?]

theorem error?_eq_some_iff {ε α : Type} {x : Except ε α} {e : ε} :
    error? x = some e ↔ x = .error e := by
  cases x <;> simp [error?]

namespace Config

/-- A key that is read, with the decoder for its value. -/
structure Lookup where
  path : String
  key : String
  {Value : Type}
  decoder : Decoder Value

namespace Lookup

variable (c : Config) (r : Lookup)

/-- The value at the key is one for the decoder, if there is a value. -/
def Fits : Prop := ∀ v, c.find? r.path r.key = some v → ∃ a, r.decoder v = .ok a

/-- The error that the lookup ends in, if it does. -/
def fault? : Option ConfigError :=
  match c.find? r.path r.key with
  | none => none
  | some v =>
    match r.decoder v with
    | .ok _ => none
    | .error m => some (.invalidValue r.path r.key m.message)

variable {c r}

theorem fault?_eq_none_iff : r.fault? c = none ↔ r.Fits c := by
  unfold fault? Fits
  cases c.find? r.path r.key with
  | none => simp
  | some v => cases h : r.decoder v <;> simp [h]

/-- A lookup goes wrong when there is a value at its key and the value is not of the type asked for.
The error tells of the path and the key of the lookup. -/
theorem fault?_eq_some_iff {e : ConfigError} :
    r.fault? c = some e ↔ ∃ v m, c.find? r.path r.key = some v ∧ r.decoder v = .error m ∧
      e = .invalidValue r.path r.key m.message := by
  unfold fault?
  cases c.find? r.path r.key with
  | none => simp
  | some v => cases h : r.decoder v <;> simp [h, eq_comm]

end Lookup

/-- The computation makes the lookups one after the other, up to the first one that fails. If none
fails, its result is as described. -/
structure Reads {α : Type} (c : Config) (lookups : List Lookup) (x : Except ConfigError α)
    (P : α → Prop) : Prop where
  error : error? x = lookups.findSome? (·.fault? c)
  result : ∀ a, x = .ok a → P a

namespace Reads

variable {α β : Type} {c : Config} {rs rs' : List Lookup} {x : Except ConfigError α}
  {P : α → Prop} {Q : β → Prop}

theorem pure {a : α} (h : P a) : Reads c [] (pure a) P where
  error := rfl
  result := by
    rintro _ ⟨⟩
    exact h

/-- One computation after another makes the lookups of the first and then those of the second, and
fails at the first of them that goes wrong. -/
theorem bind {f : α → Except ConfigError β} (hx : Reads c rs x P)
    (hf : ∀ a, P a → Reads c rs' (f a) Q) : Reads c (rs ++ rs') (x >>= f) Q where
  error := by
    rw [List.findSome?_append, ← hx.error]
    cases x with
    | error e => rfl
    | ok a => exact (hf a (hx.result a rfl)).error
  result := by
    intro b hb
    cases x with
    | error e => cases hb
    | ok a => exact (hf a (hx.result a rfl)).result b hb

theorem mono {P' : α → Prop} (hx : Reads c rs x P) (h : ∀ a, P a → P' a) : Reads c rs x P' where
  error := hx.error
  result a ha := h a (hx.result a ha)

end Reads

/-! ### Keys -/

section Keys

variable {α : Type} (c : Config) (decoder : Decoder α) (path key : String)

/-- What there is at a key, decoded. -/
inductive Finds : Option α → Prop where
  | missing : c.find? path key = none → Finds none
  | found {v : Toml.Value} {a : α} : c.find? path key = some v → decoder v = .ok a →
      Finds (some a)

/-- A value with a fallback takes one lookup, and only an ill-typed value makes it fail. -/
theorem reads_getOr (fallback : α) :
    c.Reads [⟨path, key, decoder⟩] (c.getOr decoder path key fallback)
      fun a => ∃ x, c.Finds decoder path key x ∧ a = x.getD fallback := by
  cases hfind : c.find? path key with
  | none =>
    have hgetOr : c.getOr decoder path key fallback = .ok fallback := by rw [getOr, hfind]
    rw [hgetOr]
    refine ⟨by simp [error?, Lookup.fault?, hfind], ?_⟩
    rintro _ ⟨⟩
    exact ⟨none, .missing hfind, rfl⟩
  | some v =>
    have hgetOr : c.getOr decoder path key fallback = decode decoder path key v := by
      rw [getOr, hfind]
    rw [hgetOr, decode]
    cases hdecode : decoder v with
    | error m =>
      refine ⟨by simp [error?, Lookup.fault?, hfind, hdecode, Except.mapError], ?_⟩
      rintro _ ⟨⟩
    | ok a =>
      refine ⟨by simp [error?, Lookup.fault?, hfind, hdecode, Except.mapError], ?_⟩
      rintro _ ⟨⟩
      exact ⟨some a, .found hfind hdecode, rfl⟩

/-- A value that may be missing takes one lookup as well. -/
theorem reads_getOption :
    c.Reads [⟨path, key, decoder⟩] (c.getOption decoder path key) (c.Finds decoder path key) := by
  have hreads := c.reads_getOr (.optional decoder) path key none
  refine ⟨hreads.error.trans ?_, fun x hx => ?_⟩
  · simp only [List.findSome?_singleton, Lookup.fault?, Decoder.optional]
    cases c.find? path key with
    | none => rfl
    | some v => cases hdecode : decoder v <;> simp [hdecode]
  · obtain ⟨_, hfinds, rfl⟩ := hreads.result x hx
    cases hfinds with
    | missing hfind => exact .missing hfind
    | @found v _ hfind hdecode =>
      rw [Decoder.optional] at hdecode
      cases hv : decoder v with
      | error m =>
        rw [hv] at hdecode
        cases hdecode
      | ok a =>
        rw [hv] at hdecode
        cases hdecode
        exact .found hfind hv

variable {c path key} {c' : Config} (h : c.find? path key = c'.find? path key)

include h

theorem getOr_congr (fallback : α) :
    c.getOr decoder path key fallback = c'.getOr decoder path key fallback := by
  rw [getOr, h, getOr]

theorem getOption_congr : c.getOption decoder path key = c'.getOption decoder path key :=
  getOr_congr (.optional decoder) h none

end Keys

end Config

open Config (Lookup)

/-! ### Labels -/

namespace Label

/-- The lookups for the style of the label at `key`. -/
def styleLookups (path key : String) : List Lookup := [
  ⟨path, key ++ "-foreground", Decoder.color⟩,
  ⟨path, key ++ "-background", Decoder.color⟩,
  ⟨path, key ++ "-underline", Decoder.color⟩,
  ⟨path, key ++ "-overline", Decoder.color⟩,
  ⟨path, key ++ "-font", Decoder.usize⟩,
  ⟨path, key ++ "-padding", Decoder.usize⟩]

/-- The lookups for the label at `key` that has no default text. Without a text the label is
absent, and nothing else of it is read. -/
def lookups (c : Config) (path key : String) : List Lookup :=
  ⟨path, key, Decoder.string⟩ :: if c.has path key then styleLookups path key else []

variable (c : Config) (path key : String)

/-- The label has the text, and a style with each property from its key. -/
structure IsStyled (text : String) (l : Label) : Prop where
  text_eq : l.text = text
  foreground : c.Finds .color path (key ++ "-foreground") l.foreground
  background : c.Finds .color path (key ++ "-background") l.background
  underline : c.Finds .color path (key ++ "-underline") l.underline
  overline : c.Finds .color path (key ++ "-overline") l.overline
  font : ∃ x, c.Finds .usize path (key ++ "-font") x ∧ l.font = x.getD 0
  padding : ∃ x, c.Finds .usize path (key ++ "-padding") x ∧ l.padding = x.getD 0

/-- What the label at `key` is when it has no default text. -/
inductive Loads : Option Label → Prop where
  | absent : c.find? path key = none → Loads none
  | found {v : Toml.Value} {text : String} {l : Label} : c.find? path key = some v →
      Decoder.string v = .ok text → IsStyled c path key text l → Loads (some l)

/-- The style of a label takes one lookup for each of its properties, in order. -/
theorem reads_styled (text : String) :
    c.Reads (styleLookups path key) (styled c path key text) (IsStyled c path key text) := by
  unfold styled
  refine (c.reads_getOption .color path _).bind fun _ hforeground => ?_
  refine (c.reads_getOption .color path _).bind fun _ hbackground => ?_
  refine (c.reads_getOption .color path _).bind fun _ hunderline => ?_
  refine (c.reads_getOption .color path _).bind fun _ hoverline => ?_
  refine (c.reads_getOr .usize path _ 0).bind fun _ hfont => ?_
  refine (c.reads_getOr .usize path _ 0).bind fun _ hpadding => ?_
  exact .pure ⟨rfl, hforeground, hbackground, hunderline, hoverline, hfont, hpadding⟩

/-- A label takes a lookup for its text, and those for its style only if there is a text. -/
theorem reads_load : c.Reads (lookups c path key) (load c path key none) (Loads c path key) := by
  show c.Reads ([_] ++ if c.has path key then styleLookups path key else []) _ _
  refine (c.reads_getOption .string path key).bind fun text htext => ?_
  -- whether the style is read depends on what has been found
  cases htext with
  | missing hfind =>
    rw [Config.has, hfind]
    exact .pure (.absent hfind)
  | @found v text hfind hdecode =>
    have hload := (reads_styled c path key text).bind fun l hl =>
      Config.Reads.pure (P := Loads c path key) (a := some l) (.found hfind hdecode hl)
    rw [List.append_nil] at hload
    rw [Config.has, hfind]
    exact hload

variable {c path key} {c' : Config}

/-- A label depends on the values at its own keys and on nothing else. -/
theorem load_congr (htext : c.find? path key = c'.find? path key)
    (hstyle : ∀ s ∈ styleLookups path key, c.find? path s.key = c'.find? path s.key)
    (default : Option String) : load c path key default = load c' path key default := by
  simp only [styleLookups, List.forall_mem_cons] at hstyle
  obtain ⟨hforeground, hbackground, hunderline, hoverline, hfont, hpadding, -⟩ := hstyle
  have hstyled (text : String) : styled c path key text = styled c' path key text := by
    simp only [styled, Config.getOption_congr _ hforeground, Config.getOption_congr _ hbackground,
      Config.getOption_congr _ hunderline, Config.getOption_congr _ hoverline,
      Config.getOr_congr _ hfont, Config.getOr_congr _ hpadding]
  simp only [load, Config.getOption_congr _ htext, hstyled]

end Label

namespace Formats

/-! ### Attributes -/

/-- An attribute of a format: a decoration that the format may have of its own or share with all
others. -/
structure Attribute where
  name : String
  {Value : Type}
  decoder : Decoder Value
  {Stored : Type}
  /-- What is stored for a value, or for its absence. -/
  store : Option Value → Stored
  get : Template → Stored

namespace Attribute

/-- A colour, or none. -/
def ofColor (name : String) (get : Template → Option Color) : Attribute where
  name
  decoder := .color
  store := id
  get

/-- A number, with the one that stands for its absence. -/
def ofNumber {α : Type} (name : String) (decoder : Decoder α) (absent : α) (get : Template → α) :
    Attribute where
  name
  decoder
  store x := x.getD absent
  get

/-- The attributes in the order in which they are read. -/
def all : List Attribute := [
  .ofColor "foreground" (·.style.foreground),
  .ofColor "background" (·.style.background),
  .ofColor "underline" (·.style.underline),
  .ofColor "overline" (·.style.overline),
  .ofNumber "underline-size" .u32 0 (·.style.underlineSize),
  .ofNumber "overline-size" .u32 0 (·.style.overlineSize),
  .ofNumber "spacing" .usize 0 (·.spacing),
  .ofNumber "padding" .usize 0 (·.padding),
  .ofNumber "margin" .usize 0 (·.margin),
  .ofNumber "offset" .i32 0 (·.offset),
  .ofNumber "font" .usize 0 (·.style.font)]

def before (a : Attribute) : List Attribute := all.takeWhile (·.name ≠ a.name)

theorem exists_eq_before_append {a : Attribute} (ha : a ∈ all) :
    ∃ after, all = a.before ++ a :: after := by
  revert a
  simp only [all, List.forall_mem_cons]
  exact ⟨⟨_, rfl⟩, ⟨_, rfl⟩, ⟨_, rfl⟩, ⟨_, rfl⟩, ⟨_, rfl⟩, ⟨_, rfl⟩, ⟨_, rfl⟩, ⟨_, rfl⟩, ⟨_, rfl⟩,
    ⟨_, rfl⟩, ⟨_, rfl⟩, by simp⟩

variable (c : Config) (path name : String) (a : Attribute)

def ownKey : String := s!"{name}-{a.name}"

/-- The key of the attribute in the settings that all formats share. -/
def sharedKey : String := s!"{defaultName}-{a.name}"

/-- The lookup for the attribute of the format `name` of the table at `path`. A value at its own
key hides the shared one, whether it fits or not. -/
def lookup : Lookup :=
  if c.has path (a.ownKey name) then ⟨path, a.ownKey name, a.decoder⟩
  else ⟨Config.settingsPath, a.sharedKey, a.decoder⟩

/-- What the attribute is for the format `name` of the table at `path`. -/
inductive Resolves : a.Stored → Prop where
  | own {v : Toml.Value} {x : a.Value} :
      c.find? path (a.ownKey name) = some v → a.decoder v = .ok x → Resolves (a.store (some x))
  | shared {v : Toml.Value} {x : a.Value} :
      c.find? path (a.ownKey name) = none →
      c.find? Config.settingsPath a.sharedKey = some v → a.decoder v = .ok x →
      Resolves (a.store (some x))
  | absent :
      c.find? path (a.ownKey name) = none →
      c.find? Config.settingsPath a.sharedKey = none → Resolves (a.store none)

variable {c path name a}

/-- A section that has a value of its own for the attribute is asked for it. -/
theorem lookup_of_own {v : Toml.Value} (h : c.find? path (a.ownKey name) = some v) :
    a.lookup c path name = ⟨path, a.ownKey name, a.decoder⟩ := by
  rw [lookup, Config.has, h]
  rfl

/-- A section without a value of its own leaves the attribute to the shared settings. -/
theorem lookup_of_none (h : c.find? path (a.ownKey name) = none) :
    a.lookup c path name = ⟨Config.settingsPath, a.sharedKey, a.decoder⟩ := by
  rw [lookup, Config.has, h]
  rfl

/-- There is only one thing it can be. -/
theorem Resolves.unique {x y : a.Stored} (hx : a.Resolves c path name x)
    (hy : a.Resolves c path name y) : x = y := by
  cases hx <;> cases hy <;> grind

end Attribute

variable (c : Config) (path name : String)

/-- A decoration of a format takes the lookup of its attribute, and resolves to what is found. -/
theorem reads_decoration (a : Attribute) :
    c.Reads [a.lookup c path name] (decoration c path name a.decoder a.name)
      fun x => a.Resolves c path name (a.store x) := by
  unfold decoration
  show c.Reads _ (if c.has path (a.ownKey name) then
    c.getOption a.decoder path (a.ownKey name)
    else c.getOption a.decoder Config.settingsPath a.sharedKey) _
  cases hfind : c.find? path (a.ownKey name) with
  | none =>
    rw [Attribute.lookup_of_none hfind, Config.has, hfind]
    apply (c.reads_getOption a.decoder Config.settingsPath a.sharedKey).mono
    intro x hx
    cases hx with
    | missing hshared => exact .absent hfind hshared
    | found hshared hdecode => exact .shared hfind hshared hdecode
  | some v =>
    rw [Attribute.lookup_of_own hfind, Config.has, hfind]
    apply (c.reads_getOption a.decoder path (a.ownKey name)).mono
    intro x hx
    cases hx with
    | missing hmissing => cases hfind.symm.trans hmissing
    | found hown hdecode => exact .own hown hdecode

/-- The lookups for the decorations of the format `name` of the table at `path`. -/
def lookups : List Lookup :=
  Attribute.all.map (·.lookup c path name) ++
    (Label.lookups c path s!"{name}-prefix" ++ Label.lookups c path s!"{name}-suffix")

/-- The template of a value with its decorations. -/
structure IsDecorated (value : String) (t : Template) : Prop where
  value_eq : t.value = value
  segments_eq : t.segments = Segment.parse value
  attributes : ∀ a ∈ Attribute.all, a.Resolves c path name (a.get t)
  lead : Label.Loads c path s!"{name}-prefix" t.lead
  trail : Label.Loads c path s!"{name}-suffix" t.trail

/-- **A format takes one lookup for each attribute**, in the order of `Attribute.all`, and then
those of its two labels. -/
theorem reads_decorated (value : String) :
    c.Reads (lookups c path name) (decorated c path name value)
      (IsDecorated c path name value) := by
  have hall : lookups c path name = Attribute.all.map (·.lookup c path name) ++
      (Label.lookups c path s!"{name}-prefix" ++
        (Label.lookups c path s!"{name}-suffix" ++ [])) := by
    rw [lookups, List.append_nil]
  rw [hall]
  unfold decorated
  refine (reads_decoration c path name (.ofColor "foreground" _)).bind fun _ hforeground => ?_
  refine (reads_decoration c path name (.ofColor "background" _)).bind fun _ hbackground => ?_
  refine (reads_decoration c path name (.ofColor "underline" _)).bind fun _ hunderline => ?_
  refine (reads_decoration c path name (.ofColor "overline" _)).bind fun _ hoverline => ?_
  refine (reads_decoration c path name (.ofNumber "underline-size" .u32 0 _)).bind fun _ hul => ?_
  refine (reads_decoration c path name (.ofNumber "overline-size" .u32 0 _)).bind fun _ hol => ?_
  refine (reads_decoration c path name (.ofNumber "spacing" .usize 0 _)).bind fun _ hspacing => ?_
  refine (reads_decoration c path name (.ofNumber "padding" .usize 0 _)).bind fun _ hpadding => ?_
  refine (reads_decoration c path name (.ofNumber "margin" .usize 0 _)).bind fun _ hmargin => ?_
  refine (reads_decoration c path name (.ofNumber "offset" .i32 0 _)).bind fun _ hoffset => ?_
  refine (reads_decoration c path name (.ofNumber "font" .usize 0 _)).bind fun _ hfont => ?_
  refine (Label.reads_load c path _).bind fun _ hlead => ?_
  refine (Label.reads_load c path _).bind fun _ htrail => ?_
  refine .pure ⟨rfl, rfl, ?_, hlead, htrail⟩
  simp only [Attribute.all, List.forall_mem_cons, List.not_mem_nil]
  exact ⟨hforeground, hbackground, hunderline, hoverline, hul, hol, hspacing, hpadding, hmargin,
    hoffset, hfont, by simp⟩

/-! ### The same values at the same keys -/

/-- The two configurations have the same values at the keys that a registration of the format `name`
reads. Shared values that are hidden may differ. -/
structure AgreeOn (path name : String) (c c' : Config) : Prop where
  value : c.find? path name = c'.find? path name
  own : ∀ a ∈ Attribute.all, c.find? path (a.ownKey name) = c'.find? path (a.ownKey name)
  shared : ∀ a ∈ Attribute.all, c.find? path (a.ownKey name) = none →
    c.find? Config.settingsPath a.sharedKey = c'.find? Config.settingsPath a.sharedKey
  labels : ∀ key ∈ [s!"{name}-prefix", s!"{name}-suffix"],
    c.find? path key = c'.find? path key ∧
      ∀ s ∈ Label.styleLookups path key, c.find? path s.key = c'.find? path s.key

namespace AgreeOn

variable {path name : String} {c c' : Config} (h : AgreeOn path name c c')

include h

theorem decoration {a : Attribute} (ha : a ∈ Attribute.all) :
    Formats.decoration c path name a.decoder a.name =
      Formats.decoration c' path name a.decoder a.name := by
  have hown : c.find? path s!"{name}-{a.name}" = c'.find? path s!"{name}-{a.name}" := h.own a ha
  unfold Formats.decoration Config.has
  simp only [← hown, Config.getOption_congr _ hown]
  cases hfind : c.find? path s!"{name}-{a.name}" with
  | some v => rfl
  | none => exact Config.getOption_congr _ (h.shared a ha hfind)

/-- Two configurations that agree on the keys that count decorate a format alike. -/
theorem decorated (value : String) :
    Formats.decorated c path name value = Formats.decorated c' path name value := by
  have hattributes : ∀ a ∈ Attribute.all, Formats.decoration c path name a.decoder a.name =
      Formats.decoration c' path name a.decoder a.name := fun _ => h.decoration
  have hlabels (key : String) (hkey : key ∈ [s!"{name}-prefix", s!"{name}-suffix"]) :
      Label.load c path key none = Label.load c' path key none :=
    Label.load_congr (h.labels key hkey).1 (h.labels key hkey).2 none
  simp only [Attribute.all, Attribute.ofColor, Attribute.ofNumber,
    List.forall_mem_cons] at hattributes hlabels
  simp only [Formats.decorated, hattributes, hlabels]

theorem add (f : Formats) (fallback : String) (tags allowed : List String) :
    f.add c path name fallback tags allowed = f.add c' path name fallback tags allowed := by
  simp only [Formats.add, Config.getOr_congr _ h.value, h.decorated]

end AgreeOn

end Formats

end StatusBar
