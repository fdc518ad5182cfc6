import StatusBar.Proofs.Clocks
import StatusBar.Proofs.Failures
import StatusBar.Proofs.Registration

/-!
# A cache that is never stale

The module renders its widget again only after a broadcast. So a widget has to tell of every change
of its state that can be seen, by what `update` and `input` return: it has to be candid
(`IsCandid`). With a candid widget the cache holds what a rendering would give now, whenever the
module is not marked and not halted (`IsFresh.after`). The clock and the text are candid.

One promise is not kept. The clock turns before it is refreshed, and nobody is told of a turn when
the refresh panics (`turned_without_broadcast`). It does no harm to the cache, because what is shown
has not changed.
-/

namespace StatusBar

open Clock (Moment)

/-- A widget that tells of every change that can be seen, and can always be drawn. -/
structure IsCandid (ω : Type) [Widget ω] : Prop where
  format (w : ω) : Widget.format w = Formats.defaultName
  draws (w : ω) (tag : String) (m : Markup) : ∃ shown, (Widget.build w tag m).shown = .ok shown
  update (w : ω) (now : Moment) : (Widget.update w now).result = .ok false →
    Widget.build (Widget.update w now).state = Widget.build w
  input (w : ω) (now : Moment) (action data : String) :
    (Widget.input w now action data).result ≠ .ok true →
      Widget.build (Widget.input w now action data).state = Widget.build w
  hasEvent (w : ω) : Widget.build (Widget.hasEvent w).state = Widget.build w

/-! ### The two widgets -/

namespace ClockWidget

/-- A refresh that reports no change has not made any. -/
theorem refresh_of_unchanged {w : ClockWidget} {now : Moment}
    (h : (w.refresh now).result = .ok false) : (w.refresh now).state = w := by
  unfold refresh at h ⊢
  split
  · rfl
  · split
    · rfl
    · rename_i hface hchanged
      rw [hface] at h
      simp [hchanged] at h

/-- What the clock shows does not depend on which patterns are in use. -/
theorem build_toggled (w : ClockWidget) (toggled : Bool) :
    build { w with toggled } = build w := rfl

theorem toggled_refresh (w : ClockWidget) (now : Moment) :
    (w.refresh now).state.toggled = w.toggled := by
  unfold refresh
  split
  · rfl
  · split <;> rfl

/-- A refresh that panics leaves the clock as it was. -/
theorem state_refresh_of_error {w : ClockWidget} {now : Moment} {p : Panic}
    (h : (w.refresh now).result = .error p) : (w.refresh now).state = w := by
  unfold refresh at h ⊢
  split
  · rfl
  · rename_i hface
    rw [hface] at h
    simp only at h
    split at h <;> cases h

/-- **A clock is candid.** It reports a change whenever one of its texts is another. -/
theorem candid : IsCandid ClockWidget where
  format _ := rfl
  draws w tag m := by
    show ∃ shown, (w.build tag m).shown = .ok shown
    unfold build
    split <;> exact ⟨_, rfl⟩
  update w now h := by
    have hresult : (w.refresh now).result = .ok false := mapError_eq_ok_iff.mp h
    show build (w.refresh now).state = build w
    rw [refresh_of_unchanged hresult]
  input w now action data h := by
    show build (w.input now action data).state = build w
    replace h : (w.input now action data).result ≠ .ok true := h
    unfold input at h ⊢
    split
    · rfl
    · rename_i hknown
      rw [if_neg hknown] at h
      cases hr : ({ w with toggled := !w.toggled }.refresh now).result with
      | error p => rw [state_refresh_of_error hr, build_toggled]
      | ok changed =>
        simp only [hr] at h
        exact absurd rfl h
  hasEvent _ := rfl

end ClockWidget

/-- A text never changes, so it is candid as well. -/
theorem TextWidget.candid : IsCandid TextWidget where
  format _ := rfl
  draws w tag m := by
    show ∃ shown, (w.build tag m).shown = .ok shown
    unfold TextWidget.build
    split <;> exact ⟨_, rfl⟩
  update _ _ _ := rfl
  input _ _ _ _ _ := rfl
  hasEvent _ := rfl

/-! ### Drawing -/

namespace Template

/-- A template is written to its end when all of its tags can be built. -/
theorem exists_advance {build : String → Markup → Fragment}
    (hbuild : ∀ tag m, ∃ shown, (build tag m).shown = .ok shown) (spacing : Nat)
    (segments : List Segment) (p : Progress) :
    ∃ p', advance spacing build segments p = (p', none) := by
  induction segments generalizing p with
  | nil => exact ⟨p, rfl⟩
  | cons s rest ih =>
    cases s with
    | text content => exact ih _
    | tag name =>
      obtain ⟨shown, hshown⟩ := hbuild name p.markup
      simp only [advance, hshown]
      exact ih _

/-- Builders that do not panic make a text. -/
theorem exists_text_of_render {build : String → Markup → Fragment}
    (hbuild : ∀ tag m, ∃ shown, (build tag m).shown = .ok shown) (t : Template) (m : Markup) :
    ∃ text, (t.render m build).text = .ok text := by
  obtain ⟨p, hp⟩ := exists_advance hbuild t.spacing t.segments { markup := m.flush.2 }
  rw [render, hp]
  exact ⟨_, rfl⟩

end Template

namespace Module

variable {ω : Type} [Widget ω]

/-- What a rendering of the widget on an empty markup gives. -/
def drawn (m : Module ω) (blank : Markup) : Except ModuleError String := do
  let template ← m.formats.get (Widget.format m.widget)
  (template.render blank (Widget.build m.widget)).text.mapError fun p => .panicked p.message

/-- A module of which the cache is not stale. -/
structure IsFresh (m : Module ω) (blank : Markup) : Prop where
  markup : m.markup.flush.2 = blank
  /-- Nobody but the host and the main thread is at work. -/
  alone : m.workers = []
  known : ∃ template, m.formats.get Formats.defaultName = .ok template
  cached : m.state ≠ .halted → m.changed = false → m.drawn blank = .ok m.cached

/-- From `m` to `m'` nothing has changed that is of concern to the cache. -/
structure LooksLike (m' m : Module ω) : Prop where
  markup : m'.markup = m.markup := by rfl
  workers : m'.workers = m.workers := by rfl
  formats : m'.formats = m.formats := by rfl
  build : Widget.build m'.widget = Widget.build m.widget := by rfl
  cached : m'.cached = m.cached := by rfl
  changed : m'.changed = m.changed := by rfl
  halted : m.state = .halted → m'.state = .halted := by exact id

namespace IsFresh

variable {m m' : Module ω} {blank : Markup}

/-- What is of no concern to the cache keeps it fresh. -/
theorem of_looksLike (hcandid : IsCandid ω) (h : m.IsFresh blank) (hlike : m'.LooksLike m) :
    m'.IsFresh blank where
  markup := by rw [hlike.markup, h.markup]
  alone := by rw [hlike.workers, h.alone]
  known := by rw [hlike.formats]; exact h.known
  cached hopen hclean := by
    have hdrawn : m'.drawn blank = m.drawn blank := by
      simp only [drawn, hcandid.format, hlike.formats, hlike.build]
    rw [hlike.changed] at hclean
    rw [hdrawn, hlike.cached]
    exact h.cached (mt hlike.halted hopen) hclean

/-- A module that is marked has nothing to keep. -/
theorem of_marked (hmarkup : m.markup.flush.2 = blank) (hworkers : m.workers = [])
    (hknown : ∃ template, m.formats.get Formats.defaultName = .ok template)
    (hmarked : m.changed = true) : m.IsFresh blank where
  markup := hmarkup
  alone := hworkers
  known := hknown
  cached _ hclean := by
    rw [hmarked] at hclean
    cases hclean

theorem broadcast (h : m.IsFresh blank) (widget : ω) :
    ({ m with widget }.broadcast).IsFresh blank :=
  of_marked h.markup h.alone h.known rfl

/-- A failure halts the module, if it has not come to its end, and that is all. -/
theorem fail (hcandid : IsCandid ω) (h : m.IsFresh blank) (e : ModuleError) :
    (m.fail e).IsFresh blank := by
  cases hterminal : m.state.isTerminal with
  | true =>
    rw [fail_of_terminal hterminal]
    exact h
  | false =>
    rw [fail_of_open hterminal]
    exact h.of_looksLike hcandid { halted := fun _ => rfl }

/-- While it runs, a failure halts it whatever has become of the widget. -/
theorem abandon (h : m.IsFresh blank) (hrun : m.state = .running) (widget : ω) (f : Failure) :
    ({ m with widget }.abandon f).IsFresh blank := by
  have hopen : ({ m with widget, main := none } : Module ω).state.isTerminal = false := by
    show m.state.isTerminal = false
    rw [hrun]
    rfl
  rw [Module.abandon, fail_of_open hopen]
  exact ⟨h.markup, h.alone, h.known, fun hhalted => absurd rfl hhalted⟩

/-- A refresh keeps the cache fresh, for a candid widget reports what it changes. -/
theorem refreshWidget (hcandid : IsCandid ω) (h : m.IsFresh blank) (hrun : m.state = .running)
    (now : Moment) : (m.refreshWidget now).IsFresh blank := by
  have hquiet := hcandid.update m.widget now
  unfold Module.refreshWidget Module.update
  rcases hupdate : Widget.update m.widget now with ⟨widget, f | _ | _⟩
  · exact h.abandon hrun widget f
  · rw [hupdate] at hquiet
    exact h.of_looksLike hcandid { build := hquiet rfl }
  · exact h.broadcast widget

/-- A turn of the main thread keeps the cache fresh. -/
theorem pass (hcandid : IsCandid ω) (h : m.IsFresh blank) (now : Moment) :
    (m.pass now).IsFresh blank := by
  unfold Module.pass
  split
  · exact h.of_looksLike hcandid {}
  · rename_i hrunning
    have hrun : m.state = .running := by
      simpa [Module.isRunning, Control.isRunning, Module.state] using hrunning
    split
    · exact h
    · exact h
    · exact h.refreshWidget hcandid hrun now
    · have hquiet := hcandid.hasEvent m.widget
      rcases hevent : Widget.hasEvent m.widget with ⟨widget, p | _ | _⟩ <;> rw [hevent] at hquiet
      · exact h.abandon hrun widget _
      · exact h.of_looksLike hcandid { build := hquiet }
      · have hlooked : ({ m with widget } : Module ω).IsFresh blank :=
          h.of_looksLike hcandid { build := hquiet }
        exact hlooked.refreshWidget hcandid hrun now

/-- A start keeps the cache fresh, whatever the schedule of the widget. -/
theorem start (hcandid : IsCandid ω) (h : m.IsFresh blank) (now : Moment) :
    (m.start now).IsFresh blank := by
  unfold Module.start
  split
  · exact h
  · rename_i control hstart
    have hrun : control.state = .running := by
      unfold Control.start? at hstart
      split at hstart <;> cases hstart
      rfl
    -- a halted module is not started, so it is not brought back to life here
    have hstarted : ({ m with control } : Module ω).IsFresh blank := by
      refine h.of_looksLike hcandid { halted := fun hhalted => ?_ }
      have hnone : m.control.start? = none := by
        rw [Control.start?, show m.control.state = .halted from hhalted]
      rw [hnone] at hstart
      cases hstart
    unfold Module.begin
    split
    · exact hstarted.abandon hrun m.widget _
    · simp only [Module.update]
      rcases Widget.update m.widget now with ⟨widget, f | _⟩
      · exact hstarted.abandon hrun widget f
      · exact hstarted.broadcast widget
    · have hscheduled : ∀ main, ({ m with control, main } : Module ω).IsFresh blank := fun main =>
        hstarted.of_looksLike hcandid {}
      exact (hscheduled _).pass hcandid now
    · exact hstarted.of_looksLike hcandid {}

/-- A stop does not touch the widget, and keeps the cache fresh. -/
theorem stop (hcandid : IsCandid ω) (h : m.IsFresh blank) (now : Moment) :
    (m.stop now).IsFresh blank := by
  have hjoin (control : Control) :
      ({ m with control } : Module ω).join now = { m with control, main := none } := by
    simp [join, atRest, h.alone, Worker.total, run]
  unfold Module.stop
  split
  · rw [hjoin m.control]
    exact h.of_looksLike hcandid {}
  · rename_i control hcancel
    have hopen : m.state ≠ .halted := by
      intro hhalted
      rw [Control.cancel?, show m.control.state = .halted from hhalted] at hcancel
      cases hcancel
    simp only [hjoin]
    split <;> exact h.of_looksLike hcandid { halted := fun hhalted => absurd hhalted hopen }

/-- An input keeps the cache fresh, even if it panics. -/
theorem input (hcandid : IsCandid ω) (h : m.IsFresh blank) (now : Moment) (action data : String) :
    (m.input now action data).state.IsFresh blank := by
  have hquiet := hcandid.input m.widget now action data
  unfold Module.input
  split
  · exact h
  · rcases hinput : Widget.input m.widget now action data with ⟨widget, p | _ | _⟩ <;>
      rw [hinput] at hquiet
    · exact h.of_looksLike hcandid { build := hquiet (by simp) }
    · exact h.of_looksLike hcandid { build := hquiet (by simp) }
    · exact h.broadcast widget

/-- A rendering fills the cache with what it gives. -/
theorem content (hcandid : IsCandid ω) (h : m.IsFresh blank) : m.content.2.IsFresh blank := by
  have hcontent : m.content.2 = (m.refreshWhile fun _ m => m).2 := rfl
  rw [hcontent]
  cases hstale : m.isStale with
  | false =>
    rw [refreshWhile_of_not_isStale hstale]
    exact h
  | true =>
    rw [refreshWhile_of_isStale hstale]
    obtain ⟨template, hknown⟩ := h.known
    obtain ⟨text, htext⟩ :=
      template.exists_text_of_render (hcandid.draws m.widget) m.markup
    -- what the markup holds is dropped first, so a rendering comes out as on an empty one
    have hblank : template.render m.markup (Widget.build m.widget) =
        template.render blank (Widget.build m.widget) := by
      rw [← h.markup, template.render_flush]
    have hdrawn : m.drawn blank = .ok text := by
      rw [drawn, hcandid.format, hknown]
      show (template.render blank (Widget.build m.widget)).text.mapError _ = .ok text
      rw [← hblank, htext]
      rfl
    have hrender : ({ m with changed := false } : Module ω).render =
        { text := .ok text
          asked := (template.render m.markup (Widget.build m.widget)).asked
          module := { m with
            changed := false
            markup := (template.render m.markup (Widget.build m.widget)).markup } } := by
      simp only [render, hcandid.format, hknown, htext]
      rfl
    rw [hrender]
    refine ⟨?_, h.alone, h.known, fun _ _ => hdrawn⟩
    show (template.render m.markup (Widget.build m.widget)).markup.flush.2 = blank
    rw [template.flush_render, h.markup]

end IsFresh

end Module

/-- Whether an operation is one of the host, of the user, or of the main thread. The others are
those of workers, and changes of the widget from outside. -/
def Operation.isOrdinary {ω : Type} : Operation ω → Bool
  | .change _ | .spawn _ _ => false
  | _ => true

namespace Module

variable {ω : Type} [Widget ω] {m : Module ω} {blank : Markup}

/-- No operation makes the cache stale. -/
theorem IsFresh.apply (hcandid : IsCandid ω) (h : m.IsFresh blank) {op : Operation ω}
    (hop : op.isOrdinary) : (op.apply m).IsFresh blank := by
  cases op with
  | start now => exact h.start hcandid now
  | pass now => exact h.pass hcandid now
  | wakeup now =>
    have hwoken : ({ m with control := m.control.wake } : Module ω).IsFresh blank :=
      h.of_looksLike hcandid {}
    exact hwoken.pass hcandid now
  | stop now => exact h.stop hcandid now
  | halt now reason => exact (h.fail hcandid _).stop hcandid now
  | broadcast => exact h.broadcast m.widget
  | input now action data => exact h.input hcandid now action data
  | fail e => exact h.fail hcandid e
  | work now i =>
    have hnobody : m.workerStep? now i = none := by
      simp [workerStep?, h.alone]
    rw [Operation.apply, hnobody]
    exact h
  | content => exact h.content hcandid
  | change widget | spawn name script => cases hop

/-- **The cache stays fresh** through all operations of the host and the main thread. -/
theorem IsFresh.after (hcandid : IsCandid ω) (h : m.IsFresh blank) {ops : List (Operation ω)}
    (hops : ∀ op ∈ ops, op.isOrdinary) : (m.after ops).IsFresh blank := by
  induction ops generalizing m with
  | nil => exact h
  | cons op ops ih =>
    apply ih (h.apply hcandid (hops op List.mem_cons_self))
    intro op hop
    exact hops op (List.mem_cons_of_mem _ hop)

/-- A module that has just been built is marked, so nothing can be stale. -/
theorem isFresh_of_new {ω : Type} [Widget ω] {construct : Construction ω} {c : Config}
    {settings : BarSettings} {rawName : String} {m : Module ω}
    (hconstruct : ∀ path w formats, construct c path = .ok (w, formats) →
      ∃ template, formats.get Formats.defaultName = .ok template)
    (h : Module.new construct c settings rawName = .ok m) : m.IsFresh (.forBar settings) := by
  obtain ⟨handlesEvents, -, h⟩ := bind_eq_ok_iff.mp h
  obtain ⟨⟨widget, formats⟩, hnew, h⟩ := bind_eq_ok_iff.mp h
  cases h
  exact .of_marked rfl rfl (hconstruct _ _ _ hnew) rfl

/-! ### What a turn of the clock does -/

/-- A turn of the clock is told of, unless the clock cannot be refreshed afterwards. -/
structure Turns (m : Module ClockWidget) (now : Moment) (data : String) : Prop where
  turned : (m.input now "toggle" data).state.widget.toggled = !m.widget.toggled
  told : (∀ p, ({ m.widget with toggled := !m.widget.toggled }.refresh now).result ≠ .error p) →
    (m.input now "toggle" data).result = .ok true ∧
      (m.input now "toggle" data).state.changed = true ∧
      (m.input now "toggle" data).state.signals = m.signals ++ [.changed m.name]
  untold (p : Panic) :
    ({ m.widget with toggled := !m.widget.toggled }.refresh now).result = .error p →
      (m.input now "toggle" data).result = .error p ∧
        (m.input now "toggle" data).state.changed = m.changed ∧
        (m.input now "toggle" data).state.signals = m.signals

/-- **A toggle turns the clock**, and tells of it unless the refresh panics. -/
theorem turns {m : Module ClockWidget} (haccepts : m.accepts = true) (now : Moment)
    (data : String) : m.Turns now data := by
  have hwidget : Widget.input m.widget now "toggle" data =
      let r := { m.widget with toggled := !m.widget.toggled }.refresh now
      ⟨r.state, r.result.map fun _ => true⟩ := rfl
  have hturned := ClockWidget.toggled_refresh { m.widget with toggled := !m.widget.toggled } now
  have hinput := m.input_eq now "toggle" data
  simp only [haccepts, if_true, handle, hwidget] at hinput
  cases hr : ({ m.widget with toggled := !m.widget.toggled }.refresh now).result with
  | error p =>
    simp only [hr, Except.map] at hinput
    refine ⟨?_, fun hsafe => absurd hr (hsafe p), fun p' hp' => ?_⟩
    · rw [hinput]
      exact hturned
    · rw [hr] at hp'
      cases hp'
      rw [hinput]
      exact ⟨rfl, rfl, rfl⟩
  | ok changed =>
    simp only [hr, Except.map] at hinput
    refine ⟨?_, fun _ => ?_, fun p hp => ?_⟩
    · rw [hinput]
      exact hturned
    · rw [hinput]
      exact ⟨rfl, rfl, rfl⟩
    · rw [hr] at hp
      cases hp

end Module

theorem Formats.exists_of_add {c : Config} {path name fallback : String}
    {tags allowed : List String} {f f' : Formats}
    (h : f.add c path name fallback tags allowed = .ok f') : ∃ t, f'.get name = .ok t := by
  obtain ⟨t, -, hget⟩ :=
    Request.exists_template_of_add c path (r := { name, fallback, tags, allowed }) h
  exact ⟨t, hget⟩

theorem ClockWidget.known_of_new {c : Config} {path : String} {w : ClockWidget} {formats : Formats}
    (h : new c path = .ok (w, formats)) : ∃ t, formats.get Formats.defaultName = .ok t :=
  Formats.exists_of_add (registers_of_new h).1

theorem TextWidget.known_of_new {c : Config} {path : String} {w : TextWidget} {formats : Formats}
    (h : new c path = .ok (w, formats)) : ∃ t, formats.get Formats.defaultName = .ok t := by
  obtain ⟨formats', hadd, h⟩ := bind_eq_ok_iff.mp h
  obtain ⟨label, -, h⟩ := bind_eq_ok_iff.mp h
  cases label with
  | none => cases h
  | some label =>
    cases h
    exact Formats.exists_of_add hadd

/-- **The clock and the text never leave a stale cache.** What is more, a refresh of the clock that
reports no change has made none, and each turn of the clock that does not panic is told of. -/
theorem never_stale (c : Config) (settings : BarSettings) (rawName : String) :
    (∀ m : Module TextWidget, Module.new TextWidget.new c settings rawName = .ok m →
      ∀ ops, (∀ op ∈ ops, Operation.isOrdinary op) → (m.after ops).IsFresh (.forBar settings)) ∧
    ∀ m : Module ClockWidget, Module.new ClockWidget.new c settings rawName = .ok m →
      ∀ ops, (∀ op ∈ ops, Operation.isOrdinary op) →
        (m.after ops).IsFresh (.forBar settings) ∧
        (∀ now, ((m.after ops).widget.refresh now).result = .ok false →
          ((m.after ops).widget.refresh now).state = (m.after ops).widget) ∧
        ((m.after ops).accepts = true → ∀ now data, (m.after ops).Turns now data) := by
  constructor
  · intro m hnew ops hops
    have hfresh := Module.isFresh_of_new (fun _ _ _ => TextWidget.known_of_new) hnew
    exact hfresh.after TextWidget.candid hops
  · intro m hnew ops hops
    have hfresh := Module.isFresh_of_new (fun _ _ _ => ClockWidget.known_of_new) hnew
    refine ⟨hfresh.after ClockWidget.candid hops, fun now => ?_, fun haccepts now data => ?_⟩
    · exact ClockWidget.refresh_of_unchanged
    · exact Module.turns haccepts now data

/-- What was built has all the properties that can be read off it. -/
theorem exists_ok_of_all {x : Except ε α} {P : α → Bool} (h : (x.toOption.any P) = true) :
    ∃ a, x = .ok a ∧ P a = true := by
  cases x with
  | error e => cases h
  | ok a => exact ⟨a, rfl, h⟩

theorem never_stale_turned :
    let c : Config := { root := [("module", .table [("text", .table [("label", .string "on")])])] }
    let ops : List (Operation ClockWidget) :=
      [.start default, .content, .input default "toggle" "", .content]
    (∃ m, Module.new TextWidget.new c default "text" = .ok m ∧
      (m.after [.content, .broadcast]).IsFresh (.forBar default)) ∧
    ∃ m, Module.new ClockWidget.new c default "clock" = .ok m ∧
      (m.after ops).IsFresh (.forBar default) ∧ (m.after ops).state = .running ∧
      (m.after ops).changed = false ∧ (m.after ops).Turns default "" := by
  intro c ops
  constructor
  · have hbuilds : (Module.new TextWidget.new c default "text").toOption.any (fun _ => true) := by
      decide +kernel
    obtain ⟨m, hnew, -⟩ := exists_ok_of_all hbuilds
    refine ⟨m, hnew, (never_stale c default "text").1 m hnew [.content, .broadcast] ?_⟩
    simp [Operation.isOrdinary]
  · have hbuilds : (Module.new ClockWidget.new c default "clock").toOption.any fun m =>
        (m.after ops).state = .running ∧ (m.after ops).changed = false ∧
          (m.after ops).accepts = true := by
      decide +kernel
    obtain ⟨m, hnew, hm⟩ := exists_ok_of_all hbuilds
    obtain ⟨hrun, hclean, haccepts⟩ := of_decide_eq_true hm
    obtain ⟨hfresh, -, hturns⟩ := (never_stale c default "clock").2 m hnew ops
      (by simp [ops, Operation.isOrdinary])
    exact ⟨m, hnew, hfresh, hrun, hclean, hturns haccepts default ""⟩

/-- The clock is turned, and stays turned, without a broadcast. -/
theorem turned_without_broadcast :
    let c : Config :=
      { root := [("module", .table [("clock", .table [("time-alt", .string "%#z")])])] }
    let turn (m : Module ClockWidget) := m.content.2.input default "toggle" ""
    ∃ m, Module.new ClockWidget.new c default "clock" = .ok m ∧
      (turn m).result = .error ClockWidget.unwritable ∧ (turn m).state.widget.toggled = true ∧
        (turn m).state.state = .constructed ∧ (turn m).state.changed = false ∧
        (turn m).state.signals = [] := by
  intro c turn
  have hbuilds : (Module.new ClockWidget.new c default "clock").toOption.any fun m =>
      (turn m).result = .error ClockWidget.unwritable ∧ (turn m).state.widget.toggled = true ∧
        (turn m).state.state = .constructed ∧ (turn m).state.changed = false ∧
        (turn m).state.signals = [] := by
    decide +kernel
  obtain ⟨m, hnew, hm⟩ := exists_ok_of_all hbuilds
  exact ⟨m, hnew, of_decide_eq_true hm⟩

end StatusBar
