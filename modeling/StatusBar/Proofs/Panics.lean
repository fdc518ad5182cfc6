import StatusBar.Proofs.Clocks
import StatusBar.Proofs.Failures

/-!
# Panics in a call of the host

The host asks a module for its content and hands it actions. In such a call the widget is asked for
its format, builds tags, or handles the action, and each of these may panic. The widgets here know
their format at all times, so what can go wrong there is a parameter, `formatPanic?`.

Only the building of tags is guarded. There a panic halts the module like any other failure. The
other panics pass on to the host, and the module goes on as if nothing had happened; after a panic
over the format it does not even know that there is something left to render.
-/

namespace StatusBar

open Clock (Moment)

/-- What the host asks of a module. -/
inductive HostCall where
  | contents
  | input (now : Moment) (action data : String)

/-- What the host gets for it. -/
inductive HostCall.Reply where
  | text (shown : String)
  | taken (known : Bool)
deriving DecidableEq

/-- What the widget does when it panics in a call. -/
inductive HostCall.Place where
  | input
  | format
  | build
deriving DecidableEq

variable {ω : Type} [Widget ω] (formatPanic? : ω → Option Panic)

namespace Module

/-- The content, with a widget that may panic when it is asked for its format. The mark has been
taken away by then. -/
def contents (m : Module ω) : Reaction (Module ω) Panic String :=
  match if m.isStale then formatPanic? m.widget else none with
  | some p => ⟨{ m with changed := false }, .error p⟩
  | none => ⟨m.content.2, .ok m.content.1⟩

/-- A widget that knows its format at all times. -/
theorem contents_none (m : Module ω) :
    m.contents (fun _ => none) = ⟨m.content.2, .ok m.content.1⟩ := by
  simp [contents]

end Module

namespace HostCall

/-- The module after a call, and the reply. -/
def make (m : Module ω) : HostCall → Reaction (Module ω) Panic Reply
  | contents => let r := m.contents formatPanic?; ⟨r.state, r.result.map .text⟩
  | input now action data => let r := m.input now action data; ⟨r.state, r.result.map .taken⟩

/-- The reply when nothing comes of the call. -/
def refusal (m : Module ω) : HostCall → Reply
  | contents => .text m.cached
  | input _ _ _ => .taken false

end HostCall

open HostCall (Place)

/-- The widget panics in a call of the host. -/
inductive Module.PanicsIn (m : Module ω) : HostCall → Place → Panic → Prop where
  | input {now : Moment} {action data : String} {widget : ω} {p : Panic} :
      m.accepts = true → Widget.input m.widget now action data = ⟨widget, .error p⟩ →
      PanicsIn m (.input now action data) .input p
  | format {p : Panic} :
      m.isStale = true → formatPanic? m.widget = some p → PanicsIn m .contents .format p
  | build {template : Template} {p : Panic} :
      m.isStale = true → formatPanic? m.widget = none →
      m.formats.find? (Widget.format m.widget) = some template →
      (template.render m.markup (Widget.build m.widget)).text = .error p →
      PanicsIn m .contents .build p

/-- The host does not notice that the widget has panicked: it gets a reply, and a module that is
halted like after any other failure. -/
structure HostCall.Absorbs (call : HostCall) (m : Module ω) (p : Panic) : Prop where
  replies : (call.make formatPanic? m).result = .ok (call.refusal m)
  contained : m.Contained (call.make formatPanic? m).state p.reason

/-- The host gets the panic, and the module neither ends nor shows anything else. -/
structure HostCall.PassesOn (call : HostCall) (m : Module ω) (p : Panic) : Prop where
  panics : (call.make formatPanic? m).result = .error p
  control : (call.make formatPanic? m).state.control = m.control
  cached : (call.make formatPanic? m).state.cached = m.cached
  signals : (call.make formatPanic? m).state.signals = m.signals

namespace Module

variable {m : Module ω} {p : Panic}

/-- An input whose widget panics lets the panic through, and keeps what the widget has changed. -/
theorem make_input_of_panic {now : Moment} {action data : String} {widget : ω}
    (haccepts : m.accepts = true)
    (hinput : Widget.input m.widget now action data = ⟨widget, .error p⟩) :
    HostCall.make formatPanic? m (.input now action data) = ⟨{ m with widget }, .error p⟩ := by
  rw [HostCall.make, input_eq, if_pos haccepts, handle, hinput]
  rfl

/-- A stale module whose format panics lets the panic through, with the claim already taken. -/
theorem make_contents_of_panic (hstale : m.isStale = true)
    (hformat : formatPanic? m.widget = some p) :
    HostCall.make formatPanic? m .contents = ⟨{ m with changed := false }, .error p⟩ := by
  rw [HostCall.make, contents, if_pos hstale, hformat]
  rfl

/-- A call whose format does not panic returns what the module has for content. -/
theorem make_contents (hformat : formatPanic? m.widget = none) :
    HostCall.make formatPanic? m .contents = ⟨m.content.2, .ok (.text m.content.1)⟩ := by
  have hnone : (if m.isStale then formatPanic? m.widget else none) = none := by
    rw [hformat, ite_self]
  rw [HostCall.make, contents, hnone]
  rfl

/-- A panic of a tag is absorbed: the module is halted, and the call returns what it has shown
before. -/
theorem absorbs_build {template : Template} (hstale : m.isStale = true)
    (hformat : formatPanic? m.widget = none)
    (hfind : m.formats.find? (Widget.format m.widget) = some template)
    (htext : (template.render m.markup (Widget.build m.widget)).text = .error p) :
    HostCall.contents.Absorbs formatPanic? m p := by
  have hcontained := (Fails.build hstale hfind htext).halts.contained
  have hmake := make_contents formatPanic? (m := m) hformat
  constructor
  · have hcached : m.content.1 = m.cached := hcontained.cached
    rw [hmake, hcached]
    rfl
  · rw [hmake]
    exact hcontained

end Module

/-- **The host is safe from panics in building only.** Any other panic it gets itself, and one over
the format leaves a module that believes that all is rendered. -/
theorem panic_absorbed_iff_building {m : Module ω} {call : HostCall} {place : Place} {p : Panic}
    (h : m.PanicsIn formatPanic? call place p) :
    (call.Absorbs formatPanic? m p ↔ place = .build) ∧
      (call.PassesOn formatPanic? m p ↔ place ≠ .build) ∧
      (place = .format → (call.make formatPanic? m).state.isStale = false) := by
  have hexclusive : call.Absorbs formatPanic? m p → ¬ call.PassesOn formatPanic? m p := by
    intro habsorbs hpasses
    have hreply := habsorbs.replies
    rw [hpasses.panics] at hreply
    cases hreply
  have hcase : place = .build ∧ call.Absorbs formatPanic? m p ∨
      place ≠ .build ∧ call.PassesOn formatPanic? m p := by
    cases h with
    | input haccepts hinput =>
      have hmake := Module.make_input_of_panic formatPanic? haccepts hinput
      refine .inr ⟨by simp, ?_⟩
      constructor <;> rw [hmake]
    | format hstale hformat =>
      have hmake := Module.make_contents_of_panic formatPanic? hstale hformat
      refine .inr ⟨by simp, ?_⟩
      constructor <;> rw [hmake]
    | build hstale hformat hfind htext =>
      exact .inl ⟨rfl, Module.absorbs_build formatPanic? hstale hformat hfind htext⟩
  refine ⟨?_, ?_, ?_⟩
  · grind
  · grind
  · rintro rfl
    cases h with
    | format hstale hformat =>
      rw [Module.make_contents_of_panic formatPanic? hstale hformat]
      rfl

/-- A widget that does not know its format. -/
theorem panic_absorbed_iff_building_format :
    let m : Module TextWidget :=
      { rawName := "a", formats := {}, widget := ⟨{ text := "on" }⟩, markup := .forBar default }
    let formatPanic? : TextWidget → Option Panic := fun _ => some .unknown
    m.PanicsIn formatPanic? .contents .format .unknown ∧
      ¬ HostCall.contents.Absorbs formatPanic? m .unknown ∧
      HostCall.contents.PassesOn formatPanic? m .unknown ∧
      (HostCall.contents.make formatPanic? m).state.isStale = false := by
  intro m formatPanic?
  have hpanics : m.PanicsIn formatPanic? .contents .format .unknown := .format rfl rfl
  obtain ⟨habsorbed, hpassed, hmark⟩ := panic_absorbed_iff_building formatPanic? hpanics
  exact ⟨hpanics, by simp [habsorbed], by simp [hpassed], hmark rfl⟩

/-- A clock with patterns that cannot be written is turned by the user. -/
theorem panic_of_clock_passes_on :
    let c : Config :=
      { root := [("module", .table [("clock", .table [("time-alt", .string "%#z")])])] }
    let turn : HostCall := .input default "toggle" ""
    let safe : ClockWidget → Option Panic := fun _ => none
    ∃ m, Module.new ClockWidget.new c default "clock" = .ok m ∧
      m.PanicsIn safe turn .input ClockWidget.unwritable ∧
      ¬ turn.Absorbs safe m ClockWidget.unwritable ∧
      (turn.make safe m).result = .error ClockWidget.unwritable ∧
      (turn.make safe m).state.state = .constructed := by
  intro c turn safe
  let w : ClockWidget :=
    { interval := 1, patterns := ⟨"%Y-%m-%d", "%H:%M:%S"⟩, alternate := ⟨"%Y-%m-%d", "%#z"⟩
      label := { text := "%date% %time%" } }
  have hbuilds : (ClockWidget.new c "module/clock").toOption.map (·.1) = some w := by
    decide +kernel
  obtain ⟨formats, hwidget⟩ := ClockWidget.exists_formats_of_new hbuilds
  have hevents : c.getOr .boolean "module/clock" "handle-events" true = .ok true := by cbv
  let m : Module ClockWidget :=
    { rawName := "clock", formats, widget := w, markup := .forBar default }
  have hnew : Module.new ClockWidget.new c default "clock" = .ok m := by
    have hpath : Module.fullName "clock" = "module/clock" := rfl
    rw [Module.new, hpath, hevents, hwidget]
    rfl
  have hinput : Widget.input w default "toggle" "" =
      ⟨{ w with toggled := true }, .error ClockWidget.unwritable⟩ := by cbv
  have hmake := Module.make_input_of_panic safe (m := m) rfl hinput
  refine ⟨m, hnew, .input rfl hinput, fun habsorbs => ?_, ?_, ?_⟩
  · have hreply := habsorbs.replies
    rw [hmake] at hreply
    cases hreply
  · rw [hmake]
  · rw [hmake]
    rfl

end StatusBar
