import StatusBar.Proofs.Decoding
import StatusBar.Proofs.Lines
import StatusBar.Proofs.Lookups
import StatusBar.Proofs.Names
import StatusBar.Proofs.Sections

/-!
# What becomes of a name

Every name that a configuration lists gets a slot. The section of the name goes through one check
after the other; if all are passed there is a module, and else the slot keeps the reason of the
first check that failed. `Slot.Creates` has one case for each check: every section is in one of them
(`exists_creates`), and the slot is the one of that case (`create_of_creates`).

A slot without a module stays as it is and does nothing, whatever is done to it (`calls_failed`).
-/

namespace StatusBar

open Clock (Moment)
open StatusBar.Module (fullName)
open Toml (Value)

/-! ### Kinds -/

namespace Config

variable (c : Config) (path : String)

/-- The section asks for a module of this kind. -/
inductive AsksFor (kind : String) : Prop where
  | mk {v : Value} : c.find? path "type" = some v → v.Spells kind → AsksFor kind

/-- The kind of the section: what it asks for, and nothing if it does not ask for a kind. -/
inductive HasKind : String → Prop where
  | given {kind : String} : c.AsksFor path kind → HasKind kind
  | none : (∀ kind, ¬ c.AsksFor path kind) → HasKind ""

/-- Whether the section lets its module take actions. -/
inductive LetsHandle : Bool → Prop where
  | default : c.find? path "handle-events" = none → LetsHandle true
  | given {b : Bool} : c.find? path "handle-events" = some (.boolean b) → LetsHandle b

variable {c path}

theorem hasTable_of_find? {key : String} {v : Value} (h : c.find? path key = some v) :
    c.hasTable path = true := by
  obtain ⟨t, ht, -⟩ := Option.bind_eq_some_iff.mp h
  rw [hasTable, ht]
  rfl

theorem AsksFor.hasTable {kind : String} (h : c.AsksFor path kind) : c.hasTable path = true := by
  obtain ⟨hfind, -⟩ := h
  exact hasTable_of_find? hfind

theorem not_asksFor_of_find?_eq_none (h : c.find? path "type" = none) (kind : String) :
    ¬ c.AsksFor path kind := by
  rintro ⟨hfind, -⟩
  rw [h] at hfind
  cases hfind

theorem AsksFor.get {kind : String} (h : c.AsksFor path kind) :
    c.get .string path "type" = .ok kind := by
  obtain ⟨hfind, hspells⟩ := h
  rw [Config.get, hfind]
  exact mapError_eq_ok_iff.mpr (Decoder.string_eq_ok_iff.mpr hspells)

theorem get_of_not_spells {key : String} {v : Value} (hfind : c.find? path key = some v)
    (h : ∀ s, ¬ v.Spells s) : c.get .string path key =
      .error (.invalidValue path key (Mismatch.wrongType v "a string").message) := by
  rw [Config.get, hfind]
  simp only [decode, Decoder.string_of_forall_not_spells h, Except.mapError]

theorem getOr_of_ne_boolean {key : String} {v : Value} {b : Bool}
    (hfind : c.find? path key = some v) (h : ∀ b, v ≠ .boolean b) :
    c.getOr .boolean path key b =
      .error (.invalidValue path key (Mismatch.wrongType v "a boolean").message) := by
  rw [getOr, hfind]
  simp only [decode, Decoder.boolean_of_forall_ne h, Except.mapError]

/-- A section lets its module handle events unless it says no, and anything but a truth value is an
error. -/
theorem letsHandle_iff {b : Bool} :
    c.LetsHandle path b ↔ c.getOr .boolean path "handle-events" true = .ok b := by
  unfold getOr decode
  constructor
  · rintro (hfind | hfind)
    · rw [hfind]
    · rw [hfind]
      rfl
  · intro h
    cases hfind : c.find? path "handle-events" with
    | none =>
      rw [hfind] at h
      cases h
      exact .default hfind
    | some v =>
      rw [hfind] at h
      cases v with
      | boolean b' =>
        cases h
        exact .given hfind
      | string | integer | float | datetime | array | table => cases h

end Config

namespace Builtin

def kinds : List String := [ClockWidget.kind, TextWidget.kind]

/-- What is wrong with the section of a widget of a known kind. -/
def faults (kind : String) (c : Config) (path : String) : List ModuleError :=
  if kind = ClockWidget.kind then ClockWidget.faults c path else TextWidget.faults c path

/-- The widget of a section has the kind, and these formats. -/
inductive IsBuilt (kind : String) (c : Config) (path : String) : Builtin → Formats → Prop where
  | clock {w : ClockWidget} {formats : Formats} : kind = ClockWidget.kind →
      ClockWidget.new c path = .ok (w, formats) → IsBuilt kind c path (.clock w) formats
  | text {w : TextWidget} {formats : Formats} : kind = TextWidget.kind →
      TextWidget.new c path = .ok (w, formats) → IsBuilt kind c path (.text w) formats

theorem IsBuilt.kind_eq {kind path : String} {c : Config} {w : Builtin} {formats : Formats}
    (h : IsBuilt kind c path w formats) : Widget.kind w = kind := by
  obtain ⟨hkind, -⟩ | ⟨hkind, -⟩ := h <;> exact hkind.symm

theorem lookup_catalog_of_not_mem {kind : String} (h : kind ∉ kinds) :
    catalog.lookup kind = none := by
  simp only [kinds, List.mem_cons, List.not_mem_nil, or_false, not_or] at h
  rw [catalog, List.lookup_cons, beq_eq_false_iff_ne.mpr h.1, List.lookup_cons,
    beq_eq_false_iff_ne.mpr h.2]
  rfl

/-- A known kind has a construction. It fails with the first fault, and builds the widget else. -/
theorem exists_construct {kind : String} (h : kind ∈ kinds) (c : Config) (path : String) :
    ∃ construct, catalog.lookup kind = some construct ∧
      error? (construct c path) = (faults kind c path).head? ∧
      ∀ w formats, construct c path = .ok (w, formats) ↔ IsBuilt kind c path w formats := by
  simp only [kinds, List.mem_cons, List.not_mem_nil, or_false] at h
  rcases h with rfl | rfl
  · refine ⟨_, rfl, ?_, fun w formats => ?_⟩
    · rw [faults, if_pos rfl, ← ClockWidget.error?_new]
      cases ClockWidget.new c path <;> rfl
    · rw [bind_eq_ok_iff]
      constructor
      · rintro ⟨built, hnew, ⟨⟩⟩
        exact .clock rfl hnew
      · rintro (⟨-, hnew⟩ | ⟨hkind, -⟩)
        · exact ⟨_, hnew, rfl⟩
        · exact absurd hkind (by decide)
  · refine ⟨_, rfl, ?_, fun w formats => ?_⟩
    · rw [faults, if_neg (by decide), ← TextWidget.error?_new]
      cases TextWidget.new c path <;> rfl
    · rw [bind_eq_ok_iff]
      constructor
      · rintro ⟨built, hnew, ⟨⟩⟩
        exact .text rfl hnew
      · rintro (⟨hkind, -⟩ | ⟨-, hnew⟩)
        · exact absurd hkind (by decide)
        · exact ⟨_, hnew, rfl⟩

/-- When nothing is wrong with a section of a known kind, then its widget is built. -/
theorem exists_isBuilt {kind path : String} {c : Config} (hkind : kind ∈ kinds)
    (hfaults : faults kind c path = []) : ∃ w formats, IsBuilt kind c path w formats := by
  obtain ⟨construct, -, herror, hok⟩ := exists_construct hkind c path
  rw [hfaults, List.head?_nil, error?_eq_none_iff] at herror
  obtain ⟨⟨w, formats⟩, hconstruct⟩ := herror
  exact ⟨w, formats, (hok w formats).mp hconstruct⟩

end Builtin

/-- The section is in order, for a module of a known kind. -/
structure Config.IsSound (c : Config) (path kind : String) : Prop where
  hasTable : c.hasTable path = true
  asks : c.AsksFor path kind
  known : kind ∈ Builtin.kinds
  events : ∃ handlesEvents, c.LetsHandle path handlesEvents
  faultless : Builtin.faults kind c path = []

namespace Slot

section Classes

variable (c : Config) (settings : BarSettings) (rawName : String)

/-- The words for a value of the wrong type. -/
def illTyped (path key : String) (v : Value) (expected : String) : String :=
  s!"invalid value for '{key}' in section [{path}]: " ++
    s!"invalid type: {v.describe}, expected {expected}\n"

/-- The slot for a name, by the first check of its section that fails. -/
inductive Creates : Slot Builtin → Prop where
  | sectionMissing :
      c.hasTable (fullName rawName) = false →
      Creates (.failed ⟨rawName, "", s!"no [module.{rawName}] section"⟩)
  | typeMissing :
      c.hasTable (fullName rawName) = true → c.find? (fullName rawName) "type" = none →
      Creates (.failed ⟨rawName, "", s!"missing key 'type' in section [{fullName rawName}]"⟩)
  | typeIllTyped {v : Value} :
      c.find? (fullName rawName) "type" = some v → (∀ kind, ¬ v.Spells kind) →
      Creates (.failed ⟨rawName, "", illTyped (fullName rawName) "type" v "a string"⟩)
  | typeEmpty :
      c.AsksFor (fullName rawName) "" →
      Creates (.failed ⟨rawName, "", "empty module type"⟩)
  | kindUnknown {kind : String} :
      c.AsksFor (fullName rawName) kind → kind ≠ "" → kind ∉ Builtin.kinds →
      Creates (.failed ⟨rawName, kind, s!"unknown module type \"{kind}\""⟩)
  | eventsIllTyped {kind : String} {v : Value} :
      c.AsksFor (fullName rawName) kind → kind ∈ Builtin.kinds →
      c.find? (fullName rawName) "handle-events" = some v → (∀ b, v ≠ .boolean b) →
      Creates (.failed
        ⟨rawName, kind, illTyped (fullName rawName) "handle-events" v "a boolean"⟩)
  | widgetFaulty {kind : String} {handlesEvents : Bool} {e : ModuleError} :
      c.AsksFor (fullName rawName) kind → kind ∈ Builtin.kinds →
      c.LetsHandle (fullName rawName) handlesEvents →
      (Builtin.faults kind c (fullName rawName)).head? = some e →
      Creates (.failed ⟨rawName, kind, e.message⟩)
  | sound {kind : String} {handlesEvents : Bool} {widget : Builtin} {formats : Formats} :
      c.AsksFor (fullName rawName) kind → kind ∈ Builtin.kinds →
      c.LetsHandle (fullName rawName) handlesEvents →
      Builtin.faults kind c (fullName rawName) = [] →
      Builtin.IsBuilt kind c (fullName rawName) widget formats →
      Creates (.live { rawName, handlesEvents, formats, widget, markup := .forBar settings })

end Classes

theorem message_wrongType (path key : String) (v : Value) (expected : String) :
    (ConfigError.invalidValue path key (Mismatch.wrongType v expected).message).message =
      illTyped path key v expected := rfl

variable {c : Config} {settings : BarSettings} {rawName kind : String}

/-! ### What each check leads to -/

/-- A module that cannot be built leaves its kind and the reason behind. -/
theorem create_of_error {e : ModuleError}
    (hkind : (c.get .string (fullName rawName) "type").toOption.getD "" = kind)
    (h : build Builtin.catalog c settings rawName kind = .error e) :
    create Builtin.catalog c settings rawName = .failed ⟨rawName, kind, e.message⟩ := by
  subst hkind
  rw [create, h]

/-- Without a known kind the section is refused for its kind. -/
theorem create_of_not_mem (htable : c.hasTable (fullName rawName) = true)
    (hkind : (c.get .string (fullName rawName) "type").toOption.getD "" = kind)
    (hunknown : kind ∉ Builtin.kinds) :
    create Builtin.catalog c settings rawName =
      .failed ⟨rawName, kind, (kindError c (fullName rawName) kind).message⟩ := by
  apply create_of_error hkind
  rw [build, htable, Builtin.lookup_catalog_of_not_mem hunknown]
  rfl

theorem getD_get (hasks : c.AsksFor (fullName rawName) kind) :
    (c.get .string (fullName rawName) "type").toOption.getD "" = kind := by
  rw [hasks.get]
  rfl

/-- With a known kind it depends on the construction what becomes of the section. -/
theorem build_of_lookup {construct : Construction Builtin}
    (hasks : c.AsksFor (fullName rawName) kind)
    (hlookup : Builtin.catalog.lookup kind = some construct) :
    build Builtin.catalog c settings rawName kind =
      Module.new construct c settings rawName := by
  rw [build, hasks.hasTable, hlookup]
  rfl

/-- The classification is sound: what it says of a slot is what becomes of the name. -/
theorem create_of_creates {s : Slot Builtin} (h : Creates c settings rawName s) :
    create Builtin.catalog c settings rawName = s := by
  have hempty : "" ∉ Builtin.kinds := by decide
  cases h with
  | sectionMissing htable =>
    have hkind : (c.get .string (fullName rawName) "type").toOption.getD "" = "" := by
      rw [Config.get, Config.find?_of_hasTable_eq_false htable]
      rfl
    apply create_of_error hkind (e := .failed s!"no [module.{rawName}] section")
    rw [build, htable]
    rfl
  | typeMissing htable htype =>
    have hget : c.get .string (fullName rawName) "type" =
        .error (.missingKey (fullName rawName) "type") := by
      rw [Config.get, htype]
    rw [create_of_not_mem htable (by rw [hget]; rfl) hempty, kindError, hget]
    rfl
  | typeIllTyped htype hspells =>
    have hget := Config.get_of_not_spells htype hspells
    rw [create_of_not_mem (Config.hasTable_of_find? htype) (by rw [hget]; rfl) hempty, kindError,
      hget, ← message_wrongType]
    rfl
  | typeEmpty hasks =>
    rw [create_of_not_mem hasks.hasTable (getD_get hasks) hempty, kindError, hasks.get]
    rfl
  | kindUnknown hasks hkind hunknown =>
    rw [create_of_not_mem hasks.hasTable (getD_get hasks) hunknown, kindError,
      if_neg (by simpa using hkind)]
    rfl
  | eventsIllTyped hasks hknown hevents hboolean =>
    obtain ⟨construct, hlookup, -, -⟩ := Builtin.exists_construct hknown c (fullName rawName)
    rw [← message_wrongType]
    refine create_of_error (getD_get hasks) (e := .config (.invalidValue _ _ _)) ?_
    rw [build_of_lookup hasks hlookup, Module.new, Config.getOr_of_ne_boolean hevents hboolean]
    rfl
  | widgetFaulty hasks hknown hevents hfault =>
    obtain ⟨construct, hlookup, herror, -⟩ := Builtin.exists_construct hknown c (fullName rawName)
    rw [hfault, error?_eq_some_iff] at herror
    apply create_of_error (getD_get hasks)
    rw [build_of_lookup hasks hlookup, Module.new, Config.letsHandle_iff.mp hevents, herror]
    rfl
  | sound hasks hknown hevents hfaults hbuilt =>
    obtain ⟨construct, hlookup, -, hok⟩ := Builtin.exists_construct hknown c (fullName rawName)
    rw [create, getD_get hasks, build_of_lookup hasks hlookup, Module.new,
      Config.letsHandle_iff.mp hevents, (hok _ _).mpr hbuilt]
    rfl

/-- It misses no section of a known kind: its faults are listed in their order, and the first of
them, if any, decides. -/
theorem exists_creates_of_mem (settings : BarSettings) (hasks : c.AsksFor (fullName rawName) kind)
    (hknown : kind ∈ Builtin.kinds) : ∃ s, Creates c settings rawName s := by
  have hevents : (∃ b, c.LetsHandle (fullName rawName) b) ∨
      ∃ v, c.find? (fullName rawName) "handle-events" = some v ∧ ∀ b, v ≠ .boolean b := by
    cases hfind : c.find? (fullName rawName) "handle-events" with
    | none => exact .inl ⟨_, .default hfind⟩
    | some v =>
      by_cases hboolean : ∃ b, v = .boolean b
      · obtain ⟨b, rfl⟩ := hboolean
        exact .inl ⟨b, .given hfind⟩
      · exact .inr ⟨v, rfl, not_exists.mp hboolean⟩
  obtain ⟨handlesEvents, hhandles⟩ | ⟨v, hfind, hboolean⟩ := hevents
  · cases hfault : (Builtin.faults kind c (fullName rawName)).head? with
    | some e => exact ⟨_, .widgetFaulty hasks hknown hhandles hfault⟩
    | none =>
      have hfaults := List.head?_eq_none_iff.mp hfault
      obtain ⟨widget, formats, hbuilt⟩ := Builtin.exists_isBuilt hknown hfaults
      exact ⟨_, .sound hasks hknown hhandles hfaults hbuilt⟩
  · exact ⟨_, .eventsIllTyped hasks hknown hfind hboolean⟩

/-- It misses no name at all, whether or not there is a section for it. -/
theorem exists_creates (c : Config) (settings : BarSettings) (rawName : String) :
    ∃ s, Creates c settings rawName s := by
  cases htype : c.find? (fullName rawName) "type" with
  | none =>
    cases htable : c.hasTable (fullName rawName) with
    | false => exact ⟨_, .sectionMissing htable⟩
    | true => exact ⟨_, .typeMissing htable htype⟩
  | some v =>
    by_cases hspells : ∃ kind, v.Spells kind
    · obtain ⟨kind, hkind⟩ := hspells
      have hasks : c.AsksFor (fullName rawName) kind := ⟨htype, hkind⟩
      by_cases hknown : kind ∈ Builtin.kinds
      · exact exists_creates_of_mem settings hasks hknown
      by_cases hempty : kind = ""
      · subst hempty
        exact ⟨_, .typeEmpty hasks⟩
      · exact ⟨_, .kindUnknown hasks hempty hknown⟩
    · exact ⟨_, .typeIllTyped htype (not_exists.mp hspells)⟩

/-- **The classification is exact**, since there is one slot for a name and it says which one. -/
theorem create_eq_iff {s : Slot Builtin} :
    create Builtin.catalog c settings rawName = s ↔ Creates c settings rawName s := by
  constructor
  · rintro rfl
    obtain ⟨s, hs⟩ := exists_creates c settings rawName
    rwa [create_of_creates hs]
  · exact create_of_creates

def isLive : Slot Builtin → Bool
  | live _ => true
  | failed _ => false

/-- A slot has the kind that its section asks for, and none if it does not ask properly. -/
theorem hasKind_of_creates {s : Slot Builtin} (h : Creates c settings rawName s) :
    c.HasKind (fullName rawName) s.kind := by
  cases h with
  | sectionMissing htable =>
    refine .none fun kind hasks => ?_
    rw [hasks.hasTable] at htable
    cases htable
  | typeMissing _ htype => exact .none (Config.not_asksFor_of_find?_eq_none htype)
  | typeIllTyped htype hspells =>
    refine .none ?_
    rintro kind ⟨hfind, hkind⟩
    rw [htype, Option.some.injEq] at hfind
    subst hfind
    exact hspells kind hkind
  | typeEmpty hasks => exact .given hasks
  | kindUnknown hasks => exact .given hasks
  | eventsIllTyped hasks => exact .given hasks
  | widgetFaulty hasks => exact .given hasks
  | sound hasks _ _ _ hbuilt =>
    show c.HasKind (fullName rawName) (Widget.kind _)
    rw [hbuilt.kind_eq]
    exact .given hasks

/-- A module comes to life exactly if its section is without fault. -/
theorem isLive_iff_of_creates {s : Slot Builtin} (h : Creates c settings rawName s) :
    s.isLive = true ↔ ∃ kind, c.IsSound (fullName rawName) kind := by
  constructor
  · intro hlive
    cases h with
    | sound hasks hknown hevents hfaults hbuilt =>
      exact ⟨_, hasks.hasTable, hasks, hknown, ⟨_, hevents⟩, hfaults⟩
    | sectionMissing | typeMissing | typeIllTyped | typeEmpty | kindUnknown | eventsIllTyped
    | widgetFaulty => cases hlive
  · rintro ⟨kind, hsound⟩
    obtain ⟨handlesEvents, hevents⟩ := hsound.events
    obtain ⟨widget, formats, hbuilt⟩ := Builtin.exists_isBuilt hsound.known hsound.faultless
    -- one more slot for the name, which is the same
    have hlive : Creates c settings rawName (.live _) :=
      .sound hsound.asks hsound.known hevents hsound.faultless hbuilt
    rw [← create_of_creates h, create_of_creates hlive]
    rfl

/-! ### Slots without a module -/

/-- What a host does to a slot. To drop a slot is to stop it. -/
inductive Call where
  | start (now : Moment)
  | stop (now : Moment)
  | halt (now : Moment) (reason : String)
  | input (now : Moment) (action data : String)
  | contents
  | drop (now : Moment)

section Calls

variable {ω : Type} [Widget ω]

def call (s : Slot ω) : Call → Slot ω
  | .start now => s.start now
  | .stop now => s.stop now
  | .halt now reason => s.halt now reason
  | .input now action data => (s.input now action data).state
  | .contents => s.refresh
  | .drop now => s.stop now

def calls (s : Slot ω) (cs : List Call) : Slot ω := cs.foldl call s

/-- The slot does nothing. -/
structure IsIdle (s : Slot ω) : Prop where
  isRunning : s.isRunning = false
  contents : s.contents = ""
  input : ∀ now action data, (s.input now action data).result = .ok false
  signals : s.signals = []

theorem call_failed (m : FailedModule) (k : Call) : (failed m : Slot ω).call k = failed m := by
  cases k <;> rfl

theorem calls_failed (m : FailedModule) (cs : List Call) :
    (failed m : Slot ω).calls cs = failed m := by
  induction cs with
  | nil => rfl
  | cons k cs ih =>
    rw [calls, List.foldl_cons, call_failed]
    exact ih

theorem isIdle_failed (m : FailedModule) : (failed m : Slot ω).IsIdle :=
  ⟨rfl, rfl, fun _ _ _ => rfl, rfl⟩

end Calls

end Slot

/-- **Every name gets the slot of its section.** It is the one that the first failing check of the
section leaves, or holds the module if there is none; in any case it has the name and the kind of
the section. A slot without a module does nothing, whatever is done to it. So a bar has one slot for
each name in its list. -/
theorem every_name_gets_its_slot (c : Config) :
    (∀ settings rawName,
      let slot := Slot.create Builtin.catalog c settings rawName
      (∀ s, slot = s ↔ Slot.Creates c settings rawName s) ∧
      slot.rawName = rawName ∧ slot.name = "module/" ++ rawName ∧
      c.HasKind (fullName rawName) slot.kind ∧
      (slot.isLive = true ↔ ∃ kind, c.IsSound (fullName rawName) kind) ∧
      (slot.isLive = false → ∀ cs, (slot.calls cs).IsIdle)) ∧
    ∀ b, c.barConfig = .ok b →
      List.Forall₂ (Slot.Creates c (.ofSection b.bar)) b.modules
        (Bar.build Builtin.catalog c).1.slots := by
  refine ⟨fun settings rawName => ?_, fun b hb => ?_⟩
  · intro slot
    have hcreates : Slot.Creates c settings rawName slot := Slot.create_eq_iff.mp rfl
    have hname : slot.rawName = rawName := Slot.rawName_create
    refine ⟨fun s => Slot.create_eq_iff, hname, ?_, Slot.hasKind_of_creates hcreates,
      Slot.isLive_iff_of_creates hcreates, fun hlive cs => ?_⟩
    · rw [Slot.name_eq, hname]
      rfl
    · cases hslot : slot with
      | live m =>
        rw [hslot] at hlive
        cases hlive
      | failed m =>
        rw [Slot.calls_failed]
        exact Slot.isIdle_failed m
  · have hsettings : BarSettings.ofConfig c = .ok (.ofSection b.bar) := by
      rw [BarSettings.ofConfig, hb]
      rfl
    have hslots : (Bar.build Builtin.catalog c).1.slots =
        b.modules.map (Slot.create Builtin.catalog c (.ofSection b.bar)) := by
      simp only [Bar.build, hb, hsettings]
      rfl
    rw [hslots, List.forall₂_map_right_iff]
    exact List.forall₂_same.mpr fun rawName _ => Slot.create_eq_iff.mp rfl

/-- A bar of two names, one of which has no section. -/
theorem every_name_gets_its_slot_two :
    let c : Config := ⟨[
      ("module", .table [("a", .table [("label", .string "on"), ("type", .string "custom/text")])]),
      ("modules", .array [.string "a", .string "b"])]⟩
    c.barConfig = .ok { modules := ["a", "b"] } ∧
    List.Forall₂ (Slot.Creates c (.ofSection {})) ["a", "b"] (Bar.build Builtin.catalog c).1.slots ∧
    (Slot.create Builtin.catalog c default "a").isLive = true ∧
    (Slot.create Builtin.catalog c default "b").isLive = false ∧
    ∀ cs, ((Slot.create Builtin.catalog c default "b").calls cs).IsIdle := by
  intro c
  have hvalid : c.barConfig = .ok { modules := ["a", "b"] } := by cbv
  have hidle : (Slot.create Builtin.catalog c default "b").isLive = false := by decide +kernel
  obtain ⟨-, -, -, -, -, hcalls⟩ := (every_name_gets_its_slot c).1 default "b"
  exact ⟨hvalid, (every_name_gets_its_slot c).2 _ hvalid, by decide +kernel, hidle, hcalls hidle⟩

/-- The kind of a section may be given by a datetime, which is no string. -/
theorem create_datetime_kind :
    let d : Toml.Datetime := { date := some ⟨1979, 5, 27⟩, time := none, offset := none }
    let c : Config := ⟨[("module", .table [("a", .table [("type", .datetime d)])])]⟩
    c.has "module/a" "type" = true ∧
    (∀ s, c.find? "module/a" "type" ≠ some (.string s)) ∧
    Slot.create Builtin.catalog c default "a" =
      .failed ⟨"a", "1979-05-27", "unknown module type \"1979-05-27\""⟩ := by
  intro d c
  have hfind : c.find? "module/a" "type" = some (.datetime d) := by cbv
  refine ⟨by decide +kernel, ?_, ?_⟩
  · intro s hs
    rw [hfind] at hs
    cases hs
  · have htext : d.text = "1979-05-27" := by decide +kernel
    have hasks : c.AsksFor (fullName "a") "1979-05-27" := ⟨hfind, htext ▸ .datetime d⟩
    exact Slot.create_of_creates (.kindUnknown hasks (by decide) (by decide))

end StatusBar
