import StatusBar.Proofs.Content
import StatusBar.Proofs.Ending

/-!
# What a failure does

A widget can fail in many places: when its main thread starts, in an update, when it looks for an
event, while it is rendered, in a worker. `Module.Fails` lists them, each with the operation in
which it happens and the words for it. All of them come to the same: the operation does something
nobody else sees, and then it halts the module (`Fails.halts`). So whatever fails, only the state
changes, and the end is told; and a halted module shows for good what it showed before the failure
(`failure_contained`).
-/

namespace StatusBar

open Clock (Moment)

/-- The reason that is given for a panic. -/
def Panic.reason : Panic → String
  | text message => "panicked: " ++ message
  | unknown => "panicked: unknown panic payload"

theorem Panic.message_panicked (p : Panic) :
    (ModuleError.panicked p.message).message = p.reason := by
  cases p <;> rfl

/-- The reason that is given for a failure of a widget. -/
def Failure.reason : Failure → String
  | error e => e.message
  | panic p => p.reason

theorem Failure.message_toError (f : Failure) : f.toError.message = f.reason := by
  cases f with
  | error e => rfl
  | panic p => exact p.message_panicked

variable {ω : Type} [Widget ω]

namespace Module

/-! ### Where a widget can fail -/

/-- The failures of the main thread in one turn. -/
inductive FailsInTurn (m : Module ω) (now : Moment) : Failure → Prop where
  | update {seconds : Nat} {widget : ω} {f : Failure} :
      m.main = some (.interval seconds) → Widget.update m.widget now = ⟨widget, .error f⟩ →
      FailsInTurn m now f
  | hasEvent {idle : Nat} {widget : ω} {p : Panic} :
      m.main = some (.event idle) → Widget.hasEvent m.widget = ⟨widget, .error p⟩ →
      FailsInTurn m now (.panic p)
  | eventUpdate {idle : Nat} {widget widget' : ω} {f : Failure} :
      m.main = some (.event idle) → Widget.hasEvent m.widget = ⟨widget, .ok true⟩ →
      Widget.update widget now = ⟨widget', .error f⟩ → FailsInTurn m now f

/-- The failures of the main thread at its start. -/
inductive FailsAtStart (m : Module ω) (now : Moment) : Failure → Prop where
  | schedule {p : Panic} :
      Widget.schedule m.widget = .error p → FailsAtStart m now (.panic p)
  | static {widget : ω} {f : Failure} :
      Widget.schedule m.widget = .ok .static → Widget.update m.widget now = ⟨widget, .error f⟩ →
      FailsAtStart m now f
  | interval {seconds : Nat} {widget : ω} {f : Failure} :
      Widget.schedule m.widget = .ok (.interval seconds) →
      Widget.update m.widget now = ⟨widget, .error f⟩ → FailsAtStart m now f

/-- The failures in what a worker does. -/
inductive FailsInAction (m : Module ω) (now : Moment) : Action ω → String → Prop where
  | panic (p : Panic) : FailsInAction m now (.panic p) p.reason
  | update {change : ω → Reaction ω Panic Unit} {widget : ω} {p : Panic} :
      change m.widget = ⟨widget, .error p⟩ → FailsInAction m now (.update change) p.reason
  | halt (reason : String) : FailsInAction m now (.halt reason) reason
  /-- The worker wakes the main thread, which fails. -/
  | wakeup {f : Failure} :
      m.state = .running → m.FailsInTurn now f → FailsInAction m now .wakeup f.reason

/-- In an operation something fails, for a reason. -/
inductive Fails (m : Module ω) : Operation ω → String → Prop where
  | start {now : Moment} {f : Failure} :
      m.state = .constructed → m.FailsAtStart now f → Fails m (.start now) f.reason
  | pass {now : Moment} {f : Failure} :
      m.state = .running → m.FailsInTurn now f → Fails m (.pass now) f.reason
  | wakeup {now : Moment} {f : Failure} :
      m.state = .running → m.FailsInTurn now f → Fails m (.wakeup now) f.reason
  /-- The format that the widget wants is not there. -/
  | format : m.isStale = true → m.formats.find? (Widget.format m.widget) = none →
      Fails m .content s!"undefined format \"{Widget.format m.widget}\""
  /-- A tag panics. -/
  | build {template : Template} {p : Panic} :
      m.isStale = true → m.formats.find? (Widget.format m.widget) = some template →
      (template.render m.markup (Widget.build m.widget)).text = .error p →
      Fails m .content p.reason
  | work {now : Moment} {i : Nat} {w : Worker ω} {action : Action ω} {rest : List (Action ω)}
      {reason : String} : m.workers[i]? = some w → w.script = action :: rest →
      m.FailsInAction now action reason → Fails m (.work now i) reason
  /-- A thread halts the module through a handle. -/
  | halt (reason : String) : Fails m (.fail (.failed reason)) reason

/-! ### Nothing but a halt -/

/-- From `m` to `m'` nothing happened that anybody else sees. -/
structure Quiet (m m' : Module ω) : Prop where
  setup : m'.rawName = m.rawName ∧ m'.handlesEvents = m.handlesEvents ∧ m'.formats = m.formats
  cached : m'.cached = m.cached
  signals : m'.signals = m.signals
  isTerminal : m'.state.isTerminal = m.state.isTerminal
  final : m.state.isTerminal = true →
    m'.state = m.state ∧ m'.control.reason = m.control.reason

/-- From `m` to `m'` nothing happened that anybody else sees but a halt at the end. -/
def Halts (m m' : Module ω) (reason : String) : Prop :=
  ∃ before e, Quiet m before ∧ m' = before.fail e ∧ e.message = reason

section Quiet

omit [Widget ω]

variable {m m' m'' : Module ω}

theorem Quiet.trans (h : Quiet m m') (h' : Quiet m' m'') : Quiet m m'' := by
  obtain ⟨hname, hevents, hformats⟩ := h.setup
  obtain ⟨hname', hevents', hformats'⟩ := h'.setup
  refine ⟨⟨hname'.trans hname, hevents'.trans hevents, hformats'.trans hformats⟩,
    h'.cached.trans h.cached, h'.signals.trans h.signals, h'.isTerminal.trans h.isTerminal, ?_⟩
  intro hterminal
  obtain ⟨hstate, hreason⟩ := h.final hterminal
  obtain ⟨hstate', hreason'⟩ := h'.final (h.isTerminal.trans hterminal)
  exact ⟨hstate'.trans hstate, hreason'.trans hreason⟩

/-- Widget, markup, mark and threads are nobody else's business. -/
theorem quiet_with (m : Module ω) (widget : ω) (markup : Markup) (changed : Bool)
    (main : Option Schedule) (workers : List (Worker ω)) :
    Quiet m { m with widget, markup, changed, main, workers } :=
  ⟨⟨rfl, rfl, rfl⟩, rfl, rfl, rfl, fun _ => ⟨rfl, rfl⟩⟩

theorem quiet_work (m : Module ω) (widget : ω) : Quiet m { m with widget } :=
  quiet_with m widget m.markup m.changed m.main m.workers

theorem quiet_withMain (m : Module ω) (main : Option Schedule) : Quiet m { m with main } :=
  quiet_with m m.widget m.markup m.changed main m.workers

theorem quiet_wake (m : Module ω) : Quiet m { m with control := m.control.wake } :=
  ⟨⟨rfl, rfl, rfl⟩, rfl, rfl, rfl, fun _ => ⟨rfl, rfl⟩⟩

theorem Quiet.halts (h : Quiet m m') (e : ModuleError) : Halts m (m'.fail e) e.message :=
  ⟨m', e, h, rfl, rfl⟩

theorem Quiet.abandons (h : Quiet m m') (f : Failure) : Halts m (m'.abandon f) f.reason := by
  have hhalts := (h.trans (quiet_withMain m' none)).halts f.toError
  rwa [f.message_toError] at hhalts

theorem Quiet.trans_halts {reason : String} (h : Quiet m m') (h' : Halts m' m'' reason) :
    Halts m m'' reason := by
  obtain ⟨before, e, hquiet, rfl, rfl⟩ := h'
  exact (h.trans hquiet).halts e

/-- It does not matter whether a worker notes its progress before a halt or after it. -/
theorem Halts.withWorkers {reason : String} (h : Halts m m' reason) (workers : List (Worker ω)) :
    Halts m { m' with workers } reason := by
  obtain ⟨before, e, hquiet, rfl, rfl⟩ := h
  have hfail : { before.fail e with workers } = Module.fail { before with workers } e := by
    unfold fail
    cases before.control.halt? e.message <;> rfl
  rw [hfail]
  have hworkers := quiet_with before before.widget before.markup before.changed before.main workers
  exact (hquiet.trans hworkers).halts e

end Quiet

/-! ### Every failure is a halt -/

variable {m : Module ω} {now : Moment}

/-- A refresh that fails changes the widget and halts the module. -/
theorem refreshWidget_of_error {widget : ω} {f : Failure}
    (h : Widget.update m.widget now = ⟨widget, .error f⟩) :
    m.refreshWidget now = { m with widget }.abandon f := by
  have hupdate : m.update now = ⟨{ m with widget }, .error f⟩ := by rw [update, h]
  rw [refreshWidget, hupdate]

/-- **A failure in a turn of the main thread halts the module and does nothing else.** The widget
may have been changed before. -/
theorem FailsInTurn.halts {f : Failure} (h : m.FailsInTurn now f) (hrunning : m.state = .running) :
    Halts m (m.pass now) f.reason := by
  have hruns : m.isRunning = true := by
    have hstate : m.control.state = .running := hrunning
    simp [isRunning, Control.isRunning, hstate]
  cases h with
  | @update seconds widget f hmain hupdate =>
    have hpass : m.pass now = { m with widget }.abandon f := by
      simp [pass, hruns, hmain, refreshWidget_of_error hupdate]
    rw [hpass]
    exact (quiet_work m widget).abandons f
  | @hasEvent idle widget p hmain hevent =>
    have hpass : m.pass now = { m with widget }.abandon (.panic p) := by
      simp [pass, hruns, hmain, hevent]
    rw [hpass]
    exact (quiet_work m widget).abandons (.panic p)
  | @eventUpdate idle widget widget' f hmain hevent hupdate =>
    have hpass : m.pass now = { m with widget := widget' }.abandon f := by
      simp only [pass, hruns, hmain, hevent]
      exact refreshWidget_of_error (m := { m with widget, main := some (.event idle) }) hupdate
    rw [hpass]
    exact (quiet_work m widget').abandons f

theorem FailsInTurn.halts_wakeup {f : Failure} (h : m.FailsInTurn now f)
    (hrunning : m.state = .running) : Halts m (m.wakeup now) f.reason := by
  have hwoken : FailsInTurn { m with control := m.control.wake } now f := by
    cases h with
    | update hmain hupdate => exact .update hmain hupdate
    | hasEvent hmain hevent => exact .hasEvent hmain hevent
    | eventUpdate hmain hevent hupdate => exact .eventUpdate hmain hevent hupdate
  exact (quiet_wake m).trans_halts (hwoken.halts hrunning)

/-- **A failure at the start halts the module**, which has come to run by then. -/
theorem FailsAtStart.halts {f : Failure} (h : m.FailsAtStart now f)
    (hconstructed : m.state = .constructed) : Halts m (m.start now) f.reason := by
  have hstate : m.control.state = .constructed := hconstructed
  have hstart :
      m.start now = { m with control := { m.control with state := .running } }.begin now := by
    simp [start, Control.start?, hstate]
  have hquiet : Quiet m { m with control := { m.control with state := .running } } := by
    refine ⟨⟨rfl, rfl, rfl⟩, rfl, rfl, ?_, ?_⟩
    · rw [hconstructed]
      rfl
    · rw [hconstructed]
      intro hterminal
      cases hterminal
  rw [hstart]
  refine hquiet.trans_halts ?_
  cases h with
  | @schedule p hschedule =>
    simp only [begin, hschedule]
    exact (quiet_withMain _ _).abandons (.panic p)
  | @static widget f hschedule hupdate =>
    simp only [begin, hschedule, update, hupdate]
    exact (quiet_work _ widget).abandons f
  | @interval seconds widget f hschedule hupdate =>
    simp only [begin, hschedule]
    exact (quiet_withMain _ (some (.interval seconds))).trans_halts
      (FailsInTurn.halts (.update rfl hupdate) rfl)

/-- **A failure of a worker halts the module**, whether it panics, halts by itself or wakes the main
thread, which fails. -/
theorem FailsInAction.halts {action : Action ω} {reason : String}
    (h : m.FailsInAction now action reason) (since : Option UInt64) (workers : List (Worker ω)) :
    let r := m.perform now since action
    r.2 ≠ .resting ∧ Halts m (conclude { r.1 with workers } r.2) reason := by
  have hquiet (widget : ω) : Quiet m { m with widget, workers } :=
    quiet_with m widget m.markup m.changed m.main workers
  cases h with
  | panic p =>
    refine ⟨by simp [perform], ?_⟩
    rw [← p.message_panicked]
    exact (hquiet m.widget).halts _
  | @update change widget p hchange =>
    simp only [perform, hchange]
    refine ⟨by simp, ?_⟩
    rw [← p.message_panicked]
    exact (hquiet widget).halts _
  | halt =>
    refine ⟨by simp [perform], ?_⟩
    exact Halts.withWorkers ((quiet_work m m.widget).halts (.failed reason)) workers
  | wakeup hrunning hturn =>
    refine ⟨by simp [perform], ?_⟩
    exact (hturn.halts_wakeup hrunning).withWorkers workers

/-- What cannot be rendered halts the module. -/
theorem halts_content (hstale : m.isStale = true) {e : ModuleError}
    (htext : { m with changed := false }.render.text = .error e) :
    Halts m m.content.2 e.message := by
  have hcontent : m.content.2 = (m.refreshWhile fun _ m => m).2 := rfl
  have hquiet : Quiet m { m with changed := false }.render.module := by
    unfold render
    split
    · exact quiet_with m m.widget m.markup false m.main m.workers
    · exact quiet_with m m.widget _ false m.main m.workers
  rw [hcontent, refreshWhile_of_isStale hstale]
  simp only [htext, settle]
  exact hquiet.halts e

/-- **Every failure is a halt, and nothing else.** -/
theorem Fails.halts {op : Operation ω} {reason : String} (h : m.Fails op reason) :
    Halts m (op.apply m) reason := by
  cases h with
  | start hconstructed hfails => exact hfails.halts hconstructed
  | pass hrunning hfails => exact hfails.halts hrunning
  | wakeup hrunning hfails => exact hfails.halts_wakeup hrunning
  | format hstale hfind =>
    refine halts_content hstale (e := .undefinedFormat (Widget.format m.widget)) ?_
    simp [render, Formats.get, hfind]
  | @build template p hstale hfind htext =>
    rw [← p.message_panicked]
    refine halts_content hstale ?_
    simp [render, Formats.get, hfind, htext, Except.mapError]
  | @work now i w action rest reason hw hscript hfails =>
    obtain ⟨hacts, hhalts⟩ := hfails.halts w.restingSince
      (m.workers.set i (w.after m.control.wakeups (m.perform now w.restingSince action).2))
    have hstep : m.workerStep? now i = _ := workerStep?_of_action hw hscript
    simp only [hacts, false_and, if_false] at hstep
    rw [Operation.apply, hstep]
    exact hhalts
  | halt reason => exact (quiet_work m m.widget).halts (.failed reason)

/-! ### What a halt changes -/

/-- What changes from `m` to `m'` when something fails for a reason. -/
structure Contained (m m' : Module ω) (reason : String) : Prop where
  setup : m'.rawName = m.rawName ∧ m'.handlesEvents = m.handlesEvents ∧ m'.formats = m.formats
  cached : m'.cached = m.cached
  halted : m.state.isTerminal = false →
    m'.state = .halted ∧ m'.control.reason = some reason ∧
      m'.signals = m.signals ++ [.halted m.name reason]
  /-- At its end a module cares for no failure. -/
  late : m.state.isTerminal = true →
    m'.state = m.state ∧ m'.control.reason = m.control.reason ∧ m'.signals = m.signals

/-- The module is halted for a reason. It shows a text, and takes no action. -/
structure IsDisabled (m : Module ω) (shown reason : String) : Prop where
  state : m.state = .halted
  reason : m.control.reason = some reason
  shows : m.content.1 = shown
  refuses : ∀ now action data, m.input now action data = ⟨m, .ok false⟩

section Halt

omit [Widget ω]

variable {m m' : Module ω}

theorem fail_of_terminal (h : m.state.isTerminal = true) (e : ModuleError) : m.fail e = m := by
  rw [fail, halt?_of_terminal h]

/-- A module before its end is halted: state and reason are set, and the signal is sent. -/
theorem fail_of_open (h : m.state.isTerminal = false) (e : ModuleError) :
    m.fail e =
      Module.emit
        { m with control := { m.control with state := .halted, reason := some e.message } }
        (.halted m.name e.message) := by
  rw [fail, halt?_of_open h]

/-- What does nothing but to halt is contained. -/
theorem Halts.contained {reason : String} (h : Halts m m' reason) : Contained m m' reason := by
  obtain ⟨before, e, hquiet, rfl, rfl⟩ := h
  have hname : before.name = m.name := congrArg fullName hquiet.setup.1
  cases hterminal : before.state.isTerminal with
  | true =>
    rw [fail_of_terminal hterminal]
    refine ⟨hquiet.setup, hquiet.cached, fun hopen => ?_, fun hclosed => ?_⟩
    · rw [← hquiet.isTerminal, hterminal] at hopen
      cases hopen
    · obtain ⟨hstate, hreason⟩ := hquiet.final hclosed
      exact ⟨hstate, hreason, hquiet.signals⟩
  | false =>
    rw [fail_of_open hterminal]
    refine ⟨hquiet.setup, hquiet.cached, fun _ => ⟨rfl, rfl, ?_⟩, fun hclosed => ?_⟩
    · rw [← hname, ← hquiet.signals]
      rfl
    · rw [← hquiet.isTerminal, hterminal] at hclosed
      cases hclosed

/-! ### A halt is for good -/

/-- From `m` to `m'` the module neither shows anything new nor comes to another end. -/
structure Stays (m m' : Module ω) : Prop where
  state : m'.state = m.state
  reason : m'.control.reason = m.control.reason
  cached : m'.cached = m.cached
  endings : endings m'.signals = endings m.signals

theorem Stays.refl (m : Module ω) : Stays m m := ⟨rfl, rfl, rfl, rfl⟩

theorem Stays.trans {m'' : Module ω} (h : Stays m m') (h' : Stays m' m'') : Stays m m'' :=
  ⟨h'.state.trans h.state, h'.reason.trans h.reason, h'.cached.trans h.cached,
    h'.endings.trans h.endings⟩

/-- At its end, nothing that is done to a module moves it. -/
theorem stays_act (hterminal : m.state.isTerminal = true) (a : Act ω) :
    Stays m (told (m.act a)) := by
  have hfate := fate_act m a
  obtain ⟨hstate, hreason, howed⟩ := hfate.goesOn (.inr hterminal)
  refine ⟨(state_told _).trans hstate, ?_, (evolves_act m a).cached, ?_⟩
  · rw [← hreason]
    rcases m.act a with ⟨m', _ | s⟩ <;> rfl
  · rw [signals_told, endings_append, endings_toList howed, hfate.signals, List.append_nil]

theorem stays_go (hterminal : m.state.isTerminal = true) (h : Go m m') : Stays m m' := by
  induction h with
  | refl => exact .refl m
  | tail _ hstep ih =>
    refine ih.trans ?_
    cases hstep with
    | act a => exact stays_act (ih.state ▸ hterminal) a
    | note => exact ⟨rfl, rfl, rfl, rfl⟩

end Halt

theorem stays_stop (hhalted : m.state = .halted) (now : Moment) : Stays m (m.stop now) := by
  have hcancel : m.cancel = (m, false) := by rw [cancel_eq, hhalted]
  have hstop : m.stop now = m.join now := by
    rw [stop_eq, hcancel]
    rfl
  rw [hstop]
  exact stays_go (by rw [hhalted]; rfl) (go_join m now)

/-- **A halted module stays as it is**, whatever is done with it next. -/
theorem stays_apply (hhalted : m.state = .halted) (op : Operation ω) : Stays m (op.apply m) := by
  have hterminal : m.state.isTerminal = true := by
    rw [hhalted]
    rfl
  cases op with
  | start now =>
    have hstart : m.start now = m := by
      have hstate : m.control.state = .halted := hhalted
      simp [start, Control.start?, hstate]
    rw [Operation.apply, hstart]
    exact .refl m
  | pass now => exact stays_go hterminal (go_pass m now)
  | wakeup now => exact stays_go hterminal (go_wakeup m now)
  | stop now => exact stays_stop hhalted now
  | halt now reason =>
    have hfail := fail_of_terminal hterminal (.failed reason)
    rw [Operation.apply, halt, hfail]
    exact stays_stop hhalted now
  | broadcast => exact stays_go hterminal (go_broadcast m)
  | input now action data => exact stays_go hterminal (go_input m now action data)
  | change widget => exact stays_go hterminal (go_work m widget)
  | fail e => exact stays_go hterminal (go_fail m e)
  | spawn name script => exact ⟨rfl, rfl, rfl, rfl⟩
  | work now i =>
    cases hstep : m.workerStep? now i with
    | none => simpa [Operation.apply, hstep] using Stays.refl m
    | some m' => simpa [Operation.apply, hstep] using stays_go hterminal (go_workerStep? hstep)
  | content =>
    have hcontent : m.content.2 = (m.refreshWhile fun _ m => m).2 := rfl
    rw [Operation.apply, hcontent, refreshWhile_of_not_isStale (by simp [isStale, hhalted])]
    exact .refl m

theorem stays_after (hhalted : m.state = .halted) (ops : List (Operation ω)) :
    Stays m (m.after ops) := by
  induction ops generalizing m with
  | nil => exact .refl m
  | cons op ops ih =>
    have hstays := stays_apply hhalted op
    exact hstays.trans (ih (hstays.state.trans hhalted))

theorem isDisabled_of_halted {reason : String} (hhalted : m.state = .halted)
    (hreason : m.control.reason = some reason) : m.IsDisabled m.cached reason := by
  refine ⟨hhalted, hreason, (stays_apply hhalted .content).cached, fun now action data => ?_⟩
  simp [input_eq, accepts, hhalted]

end Module

/-- The panic that an operation passes on to who takes it. -/
def Operation.panic? (m : Module ω) : Operation ω → Option Panic
  | .input now action data =>
    match (m.input now action data).result with
    | .error p => some p
    | .ok _ => none
  | _ => none

/-- **A failure disables its module, and changes nothing else.** -/
theorem failure_contained {m : Module ω} {op : Operation ω} {reason : String}
    (h : m.Fails op reason) :
    op.panic? m = none ∧ (∀ look ∈ m.lookBy? op, look.text = m.cached) ∧
      m.Contained (op.apply m) reason ∧
      (m.state.isTerminal = false → ∀ ops : List (Operation ω),
        let later := (op.apply m).after ops
        later.IsDisabled m.cached reason ∧
          endings later.signals = endings (op.apply m).signals) := by
  have hcontained := h.halts.contained
  refine ⟨?_, ?_, hcontained, ?_⟩
  · cases h <;> rfl
  · rintro look hlook
    cases op with
    | content =>
      cases hlook
      exact hcontained.cached
    | _ => cases hlook
  · intro hopen ops
    obtain ⟨hhalted, hreason, -⟩ := hcontained.halted hopen
    have hstays := Module.stays_after hhalted ops
    have hdisabled := Module.isDisabled_of_halted (hstays.state.trans hhalted)
      (hstays.reason.trans hreason)
    rw [hstays.cached, hcontained.cached] at hdisabled
    exact ⟨hdisabled, hstays.endings⟩

/-- A worker panics when the text has been shown. -/
theorem failure_contained_worker :
    let formats : Formats := { entries := [(Formats.defaultName, Template.parse "<label>")] }
    let m : Module TextWidget :=
      { rawName := "a", formats, widget := ⟨{ text := "on" }⟩, markup := .forBar default }
    let shown := m.after [.content, .spawn "w" [.panic .unknown]]
    shown.Fails (.work default 0) "panicked: unknown panic payload" ∧
      ((Operation.work default 0).apply shown).signals =
        [.halted "module/a" "panicked: unknown panic payload"] ∧
      (((Operation.work default 0).apply shown).after
        [.change ⟨{ text := "off" }⟩, .broadcast, .start default]).content.1 = "on" := by
  intro formats m shown
  have hshown : shown =
      { m with
        changed := false, cached := "on"
        workers := [{ name := "w", script := [.panic .unknown] }] } := by
    show m.after _ = _
    cbv
  have hfails : shown.Fails (.work default 0) "panicked: unknown panic payload" := by
    rw [hshown]
    exact .work rfl rfl (.panic .unknown)
  obtain ⟨-, -, hcontained, hlater⟩ := failure_contained hfails
  have hopen : shown.state.isTerminal = false := by rw [hshown]; rfl
  refine ⟨hfails, ?_, ?_⟩
  · rw [(hcontained.halted hopen).2.2, hshown]
    rfl
  · rw [(hlater hopen _).1.shows, hshown]

end StatusBar
