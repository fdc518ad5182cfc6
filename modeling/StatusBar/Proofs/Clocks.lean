import Mathlib
import StatusBar.Proofs.Operation
import StatusBar.Widget.Clock

/-!
# Which clocks panic

The patterns of a clock are judged twice: when the clock is built, and whenever it is refreshed. The
first judge refuses malformed specifiers, and the second one cannot write them either; but the
second one cannot write the permissive offset `%#z`, and the first one lets it through.

Nothing else goes wrong (`ClockWidget.panics_iff`): an accepted clock panics when a pattern in use
has a permissive offset, or when the moment has no date, and at no other time.
-/

namespace StatusBar

namespace Clock

/-! ### What cannot be written -/

/-- A list of computations has no result when one of its members has none. -/
theorem mapM_eq_none {f : α → Option β} {as : List α} :
    as.mapM f = none ↔ ∃ a ∈ as, f a = none := by
  induction as with
  | nil => simp
  | cons a as ih =>
    rw [List.mapM_cons]
    cases ha : f a with
    | none => simp [ha]
    | some b =>
      have htail : (as.mapM f >>= fun bs => some (b :: bs)) = none ↔ as.mapM f = none := by
        cases as.mapM f <;> simp
      simpa [ha, ih] using htail

theorem Fixed.chars?_eq_none {field : Fixed} {m : Moment} :
    field.chars? m = none ↔ field = .permissiveOffset := by
  cases field <;> simp [Fixed.chars?]

theorem Item.chars?_eq_none {item : Item} {m : Moment} :
    item.chars? m = none ↔ item = .malformed ∨ item = .fixed .permissiveOffset := by
  cases item with
  | fixed field => simp [Item.chars?, Fixed.chars?_eq_none]
  | literal | numeric | malformed => simp [Item.chars?]

/-- A moment cannot be written with a pattern that has an item which cannot be written. -/
theorem format?_eq_none {pattern : String} {m : Moment} :
    format? pattern m = none ↔
      .malformed ∈ Item.parse pattern.toList ∨
        .fixed .permissiveOffset ∈ Item.parse pattern.toList := by
  have hparts : format? pattern m = none ↔
      (Item.parse pattern.toList).mapM (Item.chars? · m) = none := by
    unfold format?
    cases (Item.parse pattern.toList).mapM (Item.chars? · m) <;> simp
  rw [hparts, mapM_eq_none]
  simp only [Item.chars?_eq_none]
  constructor
  · rintro ⟨item, hitem, rfl | rfl⟩
    · exact .inl hitem
    · exact .inr hitem
  · rintro (h | h)
    · exact ⟨_, h, .inl rfl⟩
    · exact ⟨_, h, .inr rfl⟩

/-- Valid patterns are those without a malformed item, and this is all that is looked for. -/
theorem Item.isValid_iff {pattern : String} :
    isValid pattern = true ↔ .malformed ∉ parse pattern.toList := by
  simp only [isValid, List.all_eq_true, bne_iff_ne]
  constructor
  · intro h hmem
    exact h _ hmem rfl
  · rintro h item hitem rfl
    exact h hitem

/-! ### Where a permissive offset comes from -/

namespace Item

theorem suffix_ofSpecifier (cs : List Char) : (ofSpecifier cs).2 <:+ cs := by
  unfold ofSpecifier
  split <;> simp only [List.suffix_cons_iff, List.suffix_refl, or_true]

theorem suffix_ofPadded (cs : List Char) : (ofPadded cs).2 <:+ cs := by
  unfold ofPadded
  split
  · exact (suffix_ofSpecifier _).trans (List.suffix_cons _ _)
  · exact (suffix_ofSpecifier _).trans (List.suffix_cons _ _)
  · exact (suffix_ofSpecifier _).trans (List.suffix_cons _ _)
  · exact (List.suffix_cons _ _).trans (List.suffix_cons _ _)
  · exact List.suffix_cons _ _
  · exact suffix_ofSpecifier _

theorem permissiveOffset_not_mem_ofLetter (c : Char) :
    .fixed .permissiveOffset ∉ ofLetter c := by
  unfold ofLetter
  split <;> simp [zeros, spaces, bare, time, slashedDate]

theorem permissiveOffset_not_mem_ofSpecifier (cs : List Char) :
    .fixed .permissiveOffset ∉ (ofSpecifier cs).1 := by
  unfold ofSpecifier
  split
  case h_11 c rest _ _ _ _ _ _ _ _ _ _ => exact permissiveOffset_not_mem_ofLetter c
  all_goals simp

theorem permissiveOffset_not_mem_repad (pad : Pad) (items : List Item) :
    .fixed .permissiveOffset ∉ repad pad items := by
  unfold repad
  split <;> simp

/-- Only `%#z` stands for a permissive offset. -/
theorem eq_of_mem_ofPadded {cs : List Char} (h : .fixed .permissiveOffset ∈ (ofPadded cs).1) :
    ∃ rest, cs = '#' :: 'z' :: rest := by
  unfold ofPadded at h
  split at h
  · exact absurd h (permissiveOffset_not_mem_repad _ _)
  · exact absurd h (permissiveOffset_not_mem_repad _ _)
  · exact absurd h (permissiveOffset_not_mem_repad _ _)
  · exact ⟨_, rfl⟩
  · simp at h
  · exact absurd h (permissiveOffset_not_mem_ofSpecifier _)

/-- The permissive offset is read from one spelling only, so a pattern with it has this spelling
somewhere. -/
theorem infix_of_mem_parse {cs : List Char} (h : .fixed .permissiveOffset ∈ parse cs) :
    ['%', '#', 'z'] <:+: cs := by
  induction cs using parse.induct with
  | case1 => simp [parse] at h
  | case2 cs ih =>
    rw [parse, List.mem_append] at h
    rcases h with hhead | hrest
    · obtain ⟨rest, rfl⟩ := eq_of_mem_ofPadded hhead
      exact ⟨[], rest, rfl⟩
    · have hsuffix := (suffix_ofPadded cs).trans (List.suffix_cons '%' cs)
      exact (ih hrest).trans hsuffix.isInfix
  | case3 c cs hc ih =>
    rw [parse] at h
    · simp only [List.mem_cons, reduceCtorEq, false_or] at h
      exact (ih h).trans (List.suffix_cons c cs).isInfix
    · exact hc

end Item

end Clock

/-! ### Faces -/

open Clock (Moment)

namespace ClockFace

/-- Whether one of the two patterns has a permissive offset. -/
def HasPermissiveOffset (patterns : ClockFace) : Prop :=
  .fixed .permissiveOffset ∈ Clock.Item.parse patterns.date.toList ∨
    .fixed .permissiveOffset ∈ Clock.Item.parse patterns.time.toList

instance (patterns : ClockFace) : Decidable patterns.HasPermissiveOffset :=
  inferInstanceAs (Decidable (_ ∨ _))

def IsValid (patterns : ClockFace) : Prop :=
  Clock.Item.isValid patterns.date = true ∧ Clock.Item.isValid patterns.time = true

/-- Of two valid patterns the permissive offset alone keeps the clock from being written. -/
theorem at?_eq_none {patterns : ClockFace} (h : patterns.IsValid) {now : Moment} :
    patterns.at? now = none ↔ patterns.HasPermissiveOffset := by
  have hdate : Clock.format? patterns.date now = none ↔
      .fixed .permissiveOffset ∈ Clock.Item.parse patterns.date.toList := by
    simp [Clock.format?_eq_none, Clock.Item.isValid_iff.mp h.1]
  have htime : Clock.format? patterns.time now = none ↔
      .fixed .permissiveOffset ∈ Clock.Item.parse patterns.time.toList := by
    simp [Clock.format?_eq_none, Clock.Item.isValid_iff.mp h.2]
  rw [HasPermissiveOffset, ← hdate, ← htime, at?]
  cases Clock.format? patterns.date now with
  | none => simp
  | some date => cases Clock.format? patterns.time now <;> simp

end ClockFace

/-! ### Clocks -/

namespace ClockWidget

/-- A pattern that is taken from the configuration is a valid one. -/
theorem isValid_of_pattern {c : Config} {path key fallback text : String}
    (h : pattern c path key fallback = .ok text) : Clock.Item.isValid text = true := by
  obtain ⟨text', -, h⟩ := bind_eq_ok_iff.mp h
  split at h
  · cases h
    assumption
  · cases h

/-- What a clock is like that has been built. -/
theorem registers_of_new {c : Config} {path : String} {w : ClockWidget} {formats : Formats}
    (h : new c path = .ok (w, formats)) :
    ({} : Formats).add c path Formats.defaultName "<label>" ["label"] [] = .ok formats ∧
      w.patterns.IsValid ∧ w.alternate.IsValid := by
  obtain ⟨_, hadd, h⟩ := bind_eq_ok_iff.mp h
  obtain ⟨date, hdate, h⟩ := bind_eq_ok_iff.mp h
  obtain ⟨time, htime, h⟩ := bind_eq_ok_iff.mp h
  obtain ⟨dateAlt, hdateAlt, h⟩ := bind_eq_ok_iff.mp h
  obtain ⟨timeAlt, htimeAlt, h⟩ := bind_eq_ok_iff.mp h
  obtain ⟨label, -, h⟩ := bind_eq_ok_iff.mp h
  obtain ⟨interval, -, h⟩ := bind_eq_ok_iff.mp h
  cases h
  exact ⟨hadd, ⟨isValid_of_pattern (ok_of_liftM hdate), isValid_of_pattern (ok_of_liftM htime)⟩,
    isValid_of_pattern (ok_of_liftM hdateAlt), isValid_of_pattern (ok_of_liftM htimeAlt)⟩

theorem exists_formats_of_new {c : Config} {path : String} {w : ClockWidget}
    (h : (new c path).toOption.map (·.1) = some w) : ∃ formats, new c path = .ok (w, formats) := by
  cases hnew : new c path with
  | error e =>
    rw [hnew] at h
    cases h
  | ok built =>
    rw [hnew] at h
    cases h
    exact ⟨built.2, rfl⟩

inductive Panics (w : ClockWidget) (now : Moment) : Panic → Prop where
  | undated : now.isDated = false → Panics w now undated
  | permissive : now.isDated = true → w.active.HasPermissiveOffset → Panics w now unwritable

/-- At a moment without a date every refresh panics, and in one way. -/
theorem panics_undated {w : ClockWidget} {now : Moment} (h : now.isDated = false) {p : Panic} :
    w.Panics now p ↔ p = undated := by
  constructor
  · rintro (_ | ⟨hdated, -⟩)
    · rfl
    · rw [h] at hdated
      cases hdated
  · rintro rfl
    exact .undated h

/-- At a moment with a date only the permissive offset makes a refresh panic. -/
theorem panics_dated {w : ClockWidget} {now : Moment} (h : now.isDated = true) {p : Panic} :
    w.Panics now p ↔ w.active.HasPermissiveOffset ∧ p = unwritable := by
  constructor
  · rintro (hdated | ⟨-, hoffset⟩)
    · rw [h] at hdated
      cases hdated
    · exact ⟨hoffset, rfl⟩
  · rintro ⟨hoffset, rfl⟩
    exact .permissive h hoffset

/-- With valid patterns there are no other panics. -/
theorem refresh_eq_error {w : ClockWidget} (h : w.active.IsValid) {now : Moment} {p : Panic} :
    (w.refresh now).result = .error p ↔ w.Panics now p := by
  have hface : (w.refresh now).result = .error p ↔ w.faceAt now = .error p := by
    unfold refresh
    cases w.faceAt now with
    | error => simp
    | ok face =>
      simp only
      split <;> simp
  rw [hface, faceAt]
  cases hdated : now.isDated with
  | false => simp [panics_undated hdated, eq_comm]
  | true =>
    have hnone : w.active.at? now = none ↔ _ := ClockFace.at?_eq_none h
    rw [panics_dated hdated, ← hnone]
    cases w.active.at? now <;> simp [eq_comm]

theorem update_eq_error {w : ClockWidget} {now : Moment} {f : Failure} :
    (Widget.update w now).result = .error f ↔
      ∃ p, f = .panic p ∧ (w.refresh now).result = .error p := by
  show (w.refresh now).result.mapError Failure.panic = .error f ↔ _
  cases (w.refresh now).result <;> simp [Except.mapError, eq_comm]

/-- A toggle turns the clock first, and panics if the turned clock does. -/
theorem toggle_eq_error {w : ClockWidget} {now : Moment} {data : String} {p : Panic} :
    (Widget.input w now "toggle" data).result = .error p ↔
      ({ w with toggled := !w.toggled }.refresh now).result = .error p := by
  show (w.input now "toggle" data).result = _ ↔ _
  simp only [input, bne_self_eq_false, Bool.false_eq_true, if_false]
  cases ({ w with toggled := !w.toggled }.refresh now).result <;> simp [Except.map]

theorem isValid_active {w : ClockWidget} (hpatterns : w.patterns.IsValid)
    (halternate : w.alternate.IsValid) : w.active.IsValid := by
  unfold active
  split
  · exact halternate
  · exact hpatterns

/-- **An accepted clock panics over `%#z` and undated moments only.** -/
theorem panics_iff {c : Config} {path : String} {w : ClockWidget} {formats : Formats}
    (hnew : new c path = .ok (w, formats)) (toggled : Bool) (shown : ClockFace) (now : Moment)
    (data : String) :
    let clock := { w with toggled, shown }
    let turned := { w with toggled := !toggled, shown }
    (∀ p, (clock.refresh now).result = .error p ↔ clock.Panics now p) ∧
      (∀ f, (Widget.update clock now).result = .error f ↔ ∃ p, f = .panic p ∧ clock.Panics now p) ∧
      (∀ p, (Widget.input clock now "toggle" data).result = .error p ↔ turned.Panics now p) ∧
      (clock.active.HasPermissiveOffset →
        ['%', '#', 'z'] <:+: clock.active.date.toList ∨
          ['%', '#', 'z'] <:+: clock.active.time.toList) := by
  intro clock turned
  obtain ⟨-, hpatterns, halternate⟩ := registers_of_new hnew
  have hclock : clock.active.IsValid := isValid_active hpatterns halternate
  have hturned : turned.active.IsValid := isValid_active hpatterns halternate
  refine ⟨fun p => refresh_eq_error hclock, fun f => ?_, fun p => ?_, ?_⟩
  · simp only [update_eq_error, refresh_eq_error hclock]
  · rw [toggle_eq_error]
    exact refresh_eq_error hturned
  · rintro (hdate | htime)
    · exact .inl (Clock.Item.infix_of_mem_parse hdate)
    · exact .inr (Clock.Item.infix_of_mem_parse htime)

/-- A clock that only panics when it has been turned. -/
theorem panics_iff_alternate :
    let c : Config :=
      { root := [("module", .table [("clock", .table [("time-alt", .string "%#z")])])] }
    let w : ClockWidget :=
      { interval := 1, patterns := ⟨"%Y-%m-%d", "%H:%M:%S"⟩, alternate := ⟨"%Y-%m-%d", "%#z"⟩
        label := { text := "%date% %time%" } }
    (∃ formats, new c "module/clock" = .ok (w, formats)) ∧
      (∀ f, (Widget.update w default).result ≠ .error f) ∧
      (Widget.input w default "toggle" "").result = .error unwritable := by
  intro c w
  have hbuilds : (new c "module/clock").toOption.map (·.1) = some w := by decide +kernel
  obtain ⟨formats, hnew⟩ := exists_formats_of_new hbuilds
  obtain ⟨-, hupdate, hinput, -⟩ := panics_iff hnew false {} default ""
  refine ⟨⟨formats, hnew⟩, fun f hf => ?_, ?_⟩
  · obtain ⟨p, -, hpanics⟩ := (hupdate f).mp hf
    obtain ⟨hoffset, -⟩ := (panics_dated rfl).mp hpanics
    have hwrites : ¬ w.active.HasPermissiveOffset := by decide +kernel
    exact hwrites hoffset
  · refine (hinput unwritable).mpr (.permissive rfl (.inr ?_))
    decide +kernel

/-- A clock that is accepted, and panics at once: when it is updated, and when it is turned. -/
theorem accepted_clock_panics :
    let c : Config := { root := [("module", .table [("clock", .table [("time", .string "%#z")])])] }
    let w : ClockWidget :=
      { interval := 1, patterns := ⟨"%Y-%m-%d", "%#z"⟩, alternate := ⟨"%Y-%m-%d", "%#z"⟩
        label := { text := "%date% %time%" } }
    (∃ formats, new c "module/clock" = .ok (w, formats)) ∧
      (Widget.update w default).result = .error (.panic unwritable) ∧
      (Widget.input w default "toggle" "").result = .error unwritable := by
  intro c w
  have hbuilds : (new c "module/clock").toOption.map (·.1) = some w := by decide +kernel
  exact ⟨exists_formats_of_new hbuilds, by cbv, by cbv⟩

end ClockWidget

end StatusBar
