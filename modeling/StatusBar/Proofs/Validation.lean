import StatusBar.Proofs.Registration

/-!
# Which registrations are valid

A registration is accepted if and only if it is valid, and else it is refused with the first of its
violations (`accepts_exactly_valid`). `Request.IsValid` says what valid means, and
`Request.violations` lists all that is wrong with a request in the order in which it is looked for:
the type of the value, the value, its tags, and then the decorations one key after the other.
-/

namespace StatusBar.Formats.Request

open Config (Lookup)

variable (c : Config) (path : String) (r : Request)

/-! ### Validity -/

inductive HasValue : String → Prop where
  | fallback : c.find? path r.name = none → HasValue r.fallback
  | string {s : String} : c.find? path r.name = some (.string s) → HasValue s
  | datetime {d : Toml.Datetime} : c.find? path r.name = some (.datetime d) → HasValue d.text

/-- The request is valid, and its value is `value`. -/
structure IsValid (value : String) : Prop where
  has : r.HasValue c path value
  notBlank : Text.allBlank value = false
  permitted : ∀ tag ∈ r.tags ++ (Template.parse value).tags, tag ∈ r.permitted
  attributes : ∀ a ∈ Attribute.all, (a.lookup c path r.name).Fits c
  /-- A label that is there fits, its text as well as its style. -/
  labels : ∀ key ∈ [s!"{r.name}-prefix", s!"{r.name}-suffix"], c.has path key = true →
    ∀ s ∈ ⟨path, key, Decoder.string⟩ :: Label.styleLookups path key, s.Fits c

/-! ### Violations -/

def valueLookup : Lookup := ⟨path, r.name, Decoder.string⟩

/-- The value of the format, if it has the right type. -/
def value? : Option String := (c.getOr .string path r.name r.fallback).toOption

/-- Everything that is wrong with a value. -/
def refusals (value : String) : List ModuleError :=
  (if Text.allBlank value then [.undefinedFormat r.name] else []) ++
    ((r.tags ++ (Template.parse value).tags).filter (· ∉ r.permitted)).map
      (.undefinedFormatTag · r.name)

/-- Everything that is wrong with the request. -/
def violations : List ModuleError :=
  ((r.valueLookup path).fault? c).toList.map .config ++
    (r.value? c path).toList.flatMap r.refusals ++
    ((lookups c path r.name).filterMap (·.fault? c)).map .config

variable {c path r}

/-- A value is refused for the first of the reasons there are to refuse it. -/
theorem head?_refusals (value : String) : (r.refusals value).head? = r.refusal? value := by
  unfold refusals refusal?
  split
  · rfl
  · rw [List.nil_append, List.head?_map, List.head?_filter]
    simp

theorem refusals_eq_nil_iff {value : String} : r.refusals value = [] ↔
    Text.allBlank value = false ∧
      ∀ tag ∈ r.tags ++ (Template.parse value).tags, tag ∈ r.permitted := by
  rw [← List.head?_eq_none_iff, head?_refusals, refusal?_eq_none_iff]

/-- **The first violation is found in the order of the registration**: the value itself, what it is
refused for, and then the attributes and labels. -/
theorem head?_violations : (r.violations c path).head? =
    (((r.valueLookup path).fault? c).map .config).or
      (((r.value? c path).bind r.refusal?).or
        (((lookups c path r.name).findSome? (·.fault? c)).map .config)) := by
  have hvalue (e? : Option ConfigError) :
      (e?.toList.map ModuleError.config).head? = e?.map .config := by
    cases e? <;> rfl
  have hrefusals (value? : Option String) :
      (value?.toList.flatMap r.refusals).head? = value?.bind r.refusal? := by
    cases value? with
    | none => rfl
    | some value =>
      rw [Option.toList_some, List.flatMap_singleton, head?_refusals]
      rfl
  rw [violations, List.append_assoc, List.head?_append, List.head?_append, hvalue, hrefusals,
    List.head?_map, List.head?_filterMap]

/-- A value is read exactly if it is what the key has, or the fallback where there is no key. -/
theorem getOr_eq_ok_iff {value : String} :
    c.getOr .string path r.name r.fallback = .ok value ↔ r.HasValue c path value := by
  constructor
  · intro h
    obtain ⟨x, hx, rfl⟩ := (c.reads_getOr .string path r.name r.fallback).result _ h
    cases hx with
    | missing hfind => exact .fallback hfind
    | @found v s hfind hdecode =>
      cases v with
      | string s' =>
        cases hdecode
        exact .string hfind
      | datetime d =>
        cases hdecode
        exact .datetime hfind
      | _ => cases hdecode
  · intro h
    unfold Config.getOr
    cases h with
    | fallback hfind => rw [hfind]
    | string hfind =>
      rw [hfind]
      rfl
    | datetime hfind =>
      rw [hfind]
      rfl

theorem fault?_valueLookup :
    (r.valueLookup path).fault? c = error? (c.getOr .string path r.name r.fallback) := by
  rw [(c.reads_getOr .string path r.name r.fallback).error, List.findSome?_singleton]
  rfl

/-- The first violation is the error of the request. -/
theorem error?_template : error? (r.template c path) = (r.violations c path).head? := by
  rw [head?_violations, fault?_valueLookup, value?]
  cases hvalue : c.getOr .string path r.name r.fallback with
  | error e =>
    rw [template, hvalue]
    rfl
  | ok value =>
    rw [template_eq c path hvalue, ← (reads_decorated c path r.name value).error]
    show _ = (r.refusal? value).or _
    -- the decorations are read only if nothing is wrong with the value
    cases r.refusal? value with
    | some e => rfl
    | none => cases decorated c path r.name value <;> rfl

/-- **A registration fails with its first violation**, and succeeds if there is none. -/
theorem error?_add (f : Formats) :
    error? (f.add c path r.name r.fallback r.tags r.allowed) = (r.violations c path).head? := by
  rw [add_eq, ← error?_template]
  cases r.template c path <;> rfl

/-- All lookups fit if those of the attributes do, and those of the labels that are there. -/
theorem forall_fits_lookups_iff : (∀ s ∈ lookups c path r.name, s.Fits c) ↔
    (∀ a ∈ Attribute.all, (a.lookup c path r.name).Fits c) ∧
      ∀ key ∈ [s!"{r.name}-prefix", s!"{r.name}-suffix"], c.has path key = true →
        ∀ s ∈ ⟨path, key, Decoder.string⟩ :: Label.styleLookups path key, s.Fits c := by
  have hlabel (key : String) : (∀ s ∈ Label.lookups c path key, s.Fits c) ↔
      (c.has path key = true →
        ∀ s ∈ ⟨path, key, Decoder.string⟩ :: Label.styleLookups path key, s.Fits c) := by
    unfold Label.lookups
    cases hfind : c.find? path key with
    | none => simp [Config.has, hfind, Lookup.Fits]
    | some v => simp [Config.has, hfind]
  simp only [lookups, List.forall_mem_append, List.forall_mem_map, hlabel, List.forall_mem_cons,
    List.not_mem_nil]
  simp

/-- **There are no violations exactly if the request is valid.** -/
theorem violations_eq_nil_iff :
    r.violations c path = [] ↔ ∃ value, r.IsValid c path value := by
  have hfaults : (lookups c path r.name).filterMap (·.fault? c) = [] ↔
      ∀ s ∈ lookups c path r.name, s.Fits c := by
    simp [List.filterMap_eq_nil_iff, Lookup.fault?_eq_none_iff]
  rw [violations, List.append_eq_nil_iff, List.append_eq_nil_iff, List.map_eq_nil_iff,
    List.map_eq_nil_iff, hfaults, forall_fits_lookups_iff, fault?_valueLookup, value?]
  constructor
  · rintro ⟨⟨hvalue, hrefusals⟩, hattributes, hlabels⟩
    cases hget : c.getOr .string path r.name r.fallback with
    | error e =>
      rw [hget] at hvalue
      cases hvalue
    | ok value =>
      rw [hget] at hrefusals
      obtain ⟨hblank, hpermitted⟩ :=
        refusals_eq_nil_iff.mp (by simpa [Except.toOption] using hrefusals)
      exact ⟨value, getOr_eq_ok_iff.mp hget, hblank, hpermitted, hattributes, hlabels⟩
  · rintro ⟨value, h⟩
    rw [getOr_eq_ok_iff.mpr h.has]
    refine ⟨⟨rfl, ?_⟩, h.attributes, h.labels⟩
    simpa [Except.toOption] using refusals_eq_nil_iff.mpr ⟨h.notBlank, h.permitted⟩

/-- **A registration is accepted if and only if it is valid.** Otherwise it is refused with the
first of its violations. -/
theorem accepts_exactly_valid (c : Config) (path : String) (r : Request) (f : Formats) :
    ((∃ f', f.add c path r.name r.fallback r.tags r.allowed = .ok f') ↔
      ∃ value, r.IsValid c path value) ∧
    ∀ e, f.add c path r.name r.fallback r.tags r.allowed = .error e ↔
      (r.violations c path).head? = some e := by
  refine ⟨?_, fun e => ?_⟩
  · rw [← error?_eq_none_iff, error?_add, List.head?_eq_none_iff, violations_eq_nil_iff]
  · rw [← error?_eq_some_iff, error?_add]

example :
    let c : Config := ⟨[("module", .table [("test", .table [
      ("format-background", .string "blue"), ("format-prefix", .string ">"),
      ("format-prefix-font", .boolean true)])])]⟩
    let r : Request := ⟨"format", "<a> <b>", ["a"], []⟩
    r.violations c "module/test" = [
      .undefinedFormatTag "b" "format",
      .config (.invalidValue "module/test" "format-background" "'blue' is not a hex color\n"),
      .config (.invalidValue "module/test" "format-prefix-font"
        "invalid type: boolean `true`, expected usize\n")] := by
  decide +kernel

/-- A value that is no string is accepted if it is a datetime. -/
theorem accepts_datetime_value :
    let d : Toml.Datetime := { date := some ⟨1979, 5, 27⟩, time := none, offset := none }
    let c : Config := ⟨[("module", .table [("test", .table [("format", .datetime d)])])]⟩
    c.has "module/test" "format" = true ∧
    (∀ s, c.find? "module/test" "format" ≠ some (.string s)) ∧
    ∃ f', ({} : Formats).add c "module/test" "format" "<label>" ["label"] [] = .ok f' := by
  intro d c
  have hfind : c.find? "module/test" "format" = some (.datetime d) := by cbv
  refine ⟨by decide +kernel, ?_, ?_⟩
  · intro s hs
    rw [hfind] at hs
    cases hs
  · rw [← error?_eq_none_iff]
    decide +kernel

end StatusBar.Formats.Request
