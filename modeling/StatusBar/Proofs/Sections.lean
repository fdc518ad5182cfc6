import StatusBar.Proofs.Clocks
import StatusBar.Proofs.Validation
import StatusBar.Widget.Builtin

/-!
# What is wrong with the section of a widget

A widget is built from the section of its module by one check after the other, and the first one
that fails is reported. `Reports` says this of a computation and a list of faults; it is closed
under sequencing, and all that a configuration reads (`Config.Reads`) is an instance. So a widget is
built if and only if its section has no faults, and is else refused with the first of them
(`error?_new` for each widget).
-/

namespace StatusBar

open Config (Lookup)

/-- The errors of all lookups that fail. -/
def Config.faults (c : Config) (lookups : List Lookup) : List ConfigError :=
  lookups.filterMap (·.fault? c)

/-- The computation ends in the first of the faults. If there are none, its result is as
described. -/
structure Reports {ε α : Type} (faults : List ε) (x : Except ε α) (P : α → Prop) : Prop where
  error : error? x = faults.head?
  result : ∀ a, x = .ok a → P a

namespace Reports

variable {ε α β : Type} {faults faults' : List ε} {x : Except ε α} {P : α → Prop} {Q : β → Prop}

theorem pure {a : α} (h : P a) : Reports [] (pure a : Except ε α) P where
  error := rfl
  result := by
    rintro _ ⟨⟩
    exact h

/-- One computation after another reports the faults of both, those of the first one first. -/
theorem bind {f : α → Except ε β} (hx : Reports faults x P)
    (hf : ∀ a, P a → Reports faults' (f a) Q) : Reports (faults ++ faults') (x >>= f) Q where
  error := by
    rw [List.head?_append, ← hx.error]
    cases x with
    | error e => rfl
    | ok a => exact (hf a (hx.result a rfl)).error
  result b hb := by
    obtain ⟨a, ha, hb⟩ := bind_eq_ok_iff.mp hb
    exact (hf a (hx.result a ha)).result b hb

/-- What fails in the configuration fails in the module that reads it. -/
theorem lift {faults : List ConfigError} {x : Except ConfigError α} (hx : Reports faults x P) :
    Reports (faults.map ModuleError.config) (liftM x) P where
  error := by
    rw [List.head?_map, ← hx.error]
    cases x <;> rfl
  result a ha := hx.result a (ok_of_liftM ha)

theorem of_reads {c : Config} {lookups : List Lookup} {x : Except ConfigError α}
    (h : c.Reads lookups x P) : Reports (c.faults lookups) x P where
  error := by rw [h.error, Config.faults, List.head?_filterMap]
  result := h.result

end Reports

/-! ### Labels with a default text -/

/-- The style of such a label is read in any case. -/
theorem Label.reads_load_some (c : Config) (path key text : String) :
    c.Reads (⟨path, key, Decoder.string⟩ :: styleLookups path key) (load c path key (some text))
      fun label => label.isSome := by
  show c.Reads ([_] ++ styleLookups path key) _ _
  refine (c.reads_getOption .string path key).bind fun found _ => ?_
  have hstyled (text : String) : c.Reads (styleLookups path key)
      (do return some (← styled c path key text)) fun label => label.isSome := by
    have h := (reads_styled c path key text).bind fun label _ =>
      Config.Reads.pure (c := c) (P := fun label : Option Label => label.isSome)
        (a := some label) rfl
    rwa [List.append_nil] at h
  cases found with
  | none => exact hstyled text
  | some text => exact hstyled text

/-! ### The built-in widgets -/

namespace Builtin

/-- The request for the only format of a widget. -/
def request : Formats.Request where
  name := Formats.defaultName
  fallback := "<label>"
  tags := ["label"]

theorem reports_request (c : Config) (path : String) :
    Reports (request.violations c path)
      (({} : Formats).add c path Formats.defaultName "<label>" ["label"] []) fun _ => True where
  error := request.error?_add {}
  result _ _ := trivial

end Builtin

namespace TextWidget

/-- What is wrong with the section of a text, in the order in which it is looked for. -/
def faults (c : Config) (path : String) : List ModuleError :=
  Builtin.request.violations c path ++
    (c.faults (Label.lookups c path "label") ++
      if c.has path "label" then [] else [ConfigError.missingKey path "label"]).map .config

/-- A text fails with the first of its faults, and is built if it has none. -/
theorem error?_new (c : Config) (path : String) : error? (new c path) = (faults c path).head? := by
  refine ((Builtin.reports_request c path).bind (Q := fun _ => True) fun formats _ => ?_).error
  rw [List.map_append]
  refine (Reports.of_reads (Label.reads_load c path "label")).lift.bind fun label hlabel => ?_
  -- the label is absent exactly if its key is
  cases hlabel with
  | absent hfind =>
    rw [Config.has, hfind]
    exact ⟨rfl, fun _ _ => trivial⟩
  | found hfind =>
    rw [Config.has, hfind]
    exact ⟨rfl, fun _ _ => trivial⟩

end TextWidget

namespace ClockWidget

/-- What is wrong with the pattern at a key. -/
def patternFault? (c : Config) (path key : String) : Option ConfigError :=
  match c.find? path key with
  | none => none
  | some v =>
    match Decoder.string v with
    | .error m => some (.invalidValue path key m.message)
    | .ok text =>
      if Clock.Item.isValid text then none
      else some (.invalidValue path key s!"'{text}' is not a valid strftime format")

/-- What is wrong with the section of a clock, in the order in which it is looked for. -/
def faults (c : Config) (path : String) : List ModuleError :=
  Builtin.request.violations c path ++
    (["date", "time", "date-alt", "time-alt"].filterMap (patternFault? c path) ++
      c.faults (⟨path, "label", Decoder.string⟩ :: Label.styleLookups path "label") ++
      c.faults [⟨path, "interval", Decoder.u64⟩]).map .config

/-- A pattern reports if it is of the wrong type or not valid. -/
theorem reports_pattern {c : Config} {path key fallback : String}
    (h : Clock.Item.isValid fallback = true) :
    Reports (patternFault? c path key).toList (pattern c path key fallback)
      fun text => Clock.Item.isValid text = true where
  error := by
    unfold pattern patternFault? Config.getOr Config.decode
    cases c.find? path key with
    | none =>
      simp only [bind, Except.bind, h, if_true]
      rfl
    | some v =>
      cases hv : Decoder.string v with
      | error m => simp [hv, bind, Except.bind, Except.mapError, error?]
      | ok text =>
        simp only [hv, bind, Except.bind, Except.mapError]
        split <;> rfl
  result _ := isValid_of_pattern

/-- **A clock fails with the first of its faults**, and is built if it has none. -/
theorem error?_new (c : Config) (path : String) : error? (new c path) = (faults c path).head? := by
  have hfaults : faults c path = Builtin.request.violations c path ++
      ((patternFault? c path "date").toList.map .config ++
        ((patternFault? c path "time").toList.map .config ++
          ((patternFault? c path "date-alt").toList.map .config ++
            ((patternFault? c path "time-alt").toList.map .config ++
              ((c.faults (⟨path, "label", Decoder.string⟩ ::
                Label.styleLookups path "label")).map .config ++
                  ((c.faults [⟨path, "interval", Decoder.u64⟩]).map .config ++ [])))))) := by
    simp [faults, List.filterMap_eq_flatMap_toList]
  rw [hfaults]
  refine ((Builtin.reports_request c path).bind (Q := fun _ => True) fun formats _ => ?_).error
  refine (reports_pattern (by decide +kernel)).lift.bind fun date hdate => ?_
  refine (reports_pattern (by decide +kernel)).lift.bind fun time htime => ?_
  refine (reports_pattern hdate).lift.bind fun _ _ => ?_
  refine (reports_pattern htime).lift.bind fun _ _ => ?_
  refine (Reports.of_reads (Label.reads_load_some c path "label" _)).lift.bind fun _ _ => ?_
  refine (Reports.of_reads (c.reads_getOr .u64 path "interval" 1)).lift.bind fun _ _ => ?_
  exact .pure trivial

end ClockWidget

end StatusBar
