import Mathlib
import StatusBar.Bar
import StatusBar.Proofs.Life
import StatusBar.Widget.Text

/-!
# How a module ends

A module can be stopped by its owner and halted by anybody, any number of times and at any moment.
Of all this only one thing takes effect at last, and the host is told of it in one signal.

Where a life can stand is `Standing`: it lists what state, reason and owner can be together, and
which signals have been sent or are owed by then. Every step goes from such a place to another
(`Sound.step`), and so the end is told once whatever the order of steps (`ends_once`).
-/

namespace StatusBar

open Clock (Moment)
open Relation (ReflTransGen)

variable {ω : Type}

/-- The signals that tell of an end. -/
def endings (signals : List Signal) : List Signal := signals.filter Signal.isTerminal

/-- The module has told of its end in one signal, which agrees with its state, and a halt has the
reason `halt?`. -/
structure Module.EndsOnce (m : Module ω) (halt? : Option String) : Prop where
  once : ∃ s, endings m.signals = [s] ∧
    (∀ name, s = .stopped name ↔
      name = m.name ∧ m.state = .stopped ∧ m.control.reason = none) ∧
    (∀ name reason, s = .halted name reason ↔
      name = m.name ∧ m.state = .halted ∧ m.control.reason = some reason)
  reason : m.control.reason = halt?

/-- The reason of the first halt that took effect, which is one that met a module before its end. -/
def firstHalt (tries : List (State × String)) : Option String :=
  (tries.find? fun t => !t.1.isTerminal).map (·.2)

theorem firstHalt_append_eq_or (tries new : List (State × String)) :
    firstHalt (tries ++ new) = (firstHalt tries).or (firstHalt new) := by
  rw [firstHalt, List.find?_append, Option.map_or, firstHalt, firstHalt]

/-- One more try counts if it has met an open module and is the first to do so. -/
theorem firstHalt_append (tries : List (State × String)) (s : State) (reason : String) :
    firstHalt (tries ++ [(s, reason)]) =
      (firstHalt tries).or (if s.isTerminal then none else some reason) := by
  have hlast : firstHalt [(s, reason)] = if s.isTerminal then none else some reason := by
    cases h : s.isTerminal <;> simp [firstHalt, h]
  rw [firstHalt_append_eq_or, hlast]

@[simp] theorem endings_append (l₁ l₂ : List Signal) :
    endings (l₁ ++ l₂) = endings l₁ ++ endings l₂ := List.filter_append ..

theorem endings_toList {owed : Option Signal} (h : ∀ s ∈ owed, s.isTerminal = false) :
    endings owed.toList = [] := by
  cases owed with
  | none => rfl
  | some s => simp [endings, h s rfl]

namespace Owner

/-- Whether the owner is in a stop that has had something to stop. -/
def hasCancelled : Owner → Bool
  | stopping cancelled _ => cancelled
  | free | gone => false

def isStopping : Owner → Bool
  | stopping _ _ => true
  | free | gone => false

end Owner

namespace Life

/-- The signals of the end that have been sent or are owed. -/
def ends (l : Life ω) : List Signal := endings (l.module.signals ++ l.owed)

/-- Where a life can stand. -/
inductive Standing (l : Life ω) : Prop where
  | fresh : l.module.state = .constructed ∨ l.module.state = .running →
      l.module.control.reason = none → l.owner = .free → l.ends = [] → Standing l
  /-- A stop is under way, and will tell of itself unless a halt comes before. -/
  | leaving : l.module.state = .stopping ∨ l.module.state = .stopped →
      l.module.control.reason = none → l.owner.hasCancelled = true → l.ends = [] → Standing l
  | stopped : l.module.state = .stopped → l.module.control.reason = none →
      l.owner.hasCancelled = false → l.ends = [.stopped l.module.name] → Standing l
  | halted (reason : String) : l.module.state = .halted → l.module.control.reason = some reason →
      l.ends = [.halted l.module.name reason] → Standing l

/-- What holds of every life. -/
structure Sound (l : Life ω) : Prop where
  standing : l.Standing
  reason : l.module.control.reason = firstHalt l.tries

/-- The module is at its end, and its owner has nothing to say about it any more. -/
def IsOver (l : Life ω) : Prop := l.module.state.isTerminal = true ∧ l.owner.hasCancelled = false

/-- What a single step does. -/
structure Advances (l l' : Life ω) : Prop where
  /-- The state stays, or moves one place on. -/
  forward : l'.module.state = l.module.state ∨ l.module.state.Next l'.module.state
  /-- A module at its end keeps state and reason. -/
  final : l.module.state.isTerminal = true →
    l'.module.state = l.module.state ∧ l'.module.control.reason = l.module.control.reason
  /-- Once the end is told it is not told again. -/
  silent : l.IsOver → l'.IsOver ∧ l'.ends.Perm l.ends
  /-- A stop returns when the module is at its end, and has no threads left. -/
  joined : l.owner.isStopping = true → l'.owner.isStopping = false →
    l'.module.state.isTerminal = true ∧ l'.module.IsAlone

/-! ### Steps that may halt the module -/

theorem ends_becomes (l : Life ω) {reason? : Option String} {r : Module ω × Option Signal}
    (hfate : l.module.Fate reason? r) :
    (l.becomes reason? r).ends = l.ends ++ endings r.2.toList := by
  simp only [ends, becomes, hfate.signals, ← List.append_assoc]
  rw [endings_append]

/-- Where a life stands depends on little. -/
theorem Standing.congr {l l' : Life ω} (h : l.Standing) (hname : l'.module.name = l.module.name)
    (hstate : l'.module.state = l.module.state)
    (hreason : l'.module.control.reason = l.module.control.reason) (howner : l'.owner = l.owner)
    (hends : l'.ends.Perm l.ends) : l'.Standing := by
  cases h with
  | fresh hs hr ho he =>
    rw [he, List.perm_nil] at hends
    exact .fresh (hstate ▸ hs) (hreason ▸ hr) (howner ▸ ho) hends
  | leaving hs hr ho he =>
    rw [he, List.perm_nil] at hends
    exact .leaving (hstate ▸ hs) (hreason ▸ hr) (howner ▸ ho) hends
  | stopped hs hr ho he =>
    rw [he, List.perm_singleton, ← hname] at hends
    exact .stopped (hstate ▸ hs) (hreason ▸ hr) (howner ▸ ho) hends
  | halted reason hs hr he =>
    rw [he, List.perm_singleton, ← hname] at hends
    exact .halted reason (hstate ▸ hs) (hreason ▸ hr) hends

/-- Before its end a module has no reason, and has told of no end. -/
theorem Standing.of_open {l : Life ω} (h : l.Standing) (hopen : l.module.state.isTerminal = false) :
    l.module.control.reason = none ∧ l.ends = [] := by
  cases h with
  | fresh _ hr _ he => exact ⟨hr, he⟩
  | leaving _ hr _ he => exact ⟨hr, he⟩
  | stopped hs => simp [hs, State.isTerminal] at hopen
  | halted _ hs => simp [hs, State.isTerminal] at hopen

/-- **A step that may halt the module is sound.** It ends a module that is open, and only takes note
when it comes too late. -/
theorem Sound.becomes {l : Life ω} (h : l.Sound) {reason? : Option String}
    {r : Module ω × Option Signal} (hfate : l.module.Fate reason? r) :
    (l.becomes reason? r).Sound := by
  have hends := ends_becomes l hfate
  rcases Module.goes_or_ends l.module reason? with hgoes | ⟨reason, rfl, hopen⟩
  · -- a halt that comes too late is noted, and that is all
    obtain ⟨hstate, hreason, howed⟩ := hfate.goesOn hgoes
    rw [endings_toList howed, List.append_nil] at hends
    refine ⟨h.standing.congr hfate.name hstate hreason rfl (.of_eq hends), ?_⟩
    show r.1.control.reason = firstHalt (l.tries ++ _)
    rw [hreason, h.reason]
    cases reason? with
    | none => simp
    | some reason =>
      have hterminal : l.module.state.isTerminal = true := by simpa using hgoes
      simp [firstHalt_append, hterminal]
  · -- no halt has met an open module before, or there would be a reason
    obtain ⟨hstate, hreason, howed⟩ := hfate.ends reason rfl hopen
    obtain ⟨hnone, hempty⟩ := h.standing.of_open hopen
    rw [hempty, howed] at hends
    refine ⟨.halted reason hstate hreason ?_, ?_⟩
    · rw [hends]
      exact congrArg (fun name => [Signal.halted name reason]) hfate.name.symm
    · show r.1.control.reason = firstHalt (l.tries ++ [(l.module.state, reason)])
      rw [hreason, firstHalt_append, ← h.reason, hnone]
      simp [hopen]

/-- Such a step takes the module to its end or leaves its control alone. -/
theorem advances_becomes {l : Life ω} {reason? : Option String} {r : Module ω × Option Signal}
    (hfate : l.module.Fate reason? r) : l.Advances (l.becomes reason? r) where
  forward := by
    rcases Module.goes_or_ends l.module reason? with hgoes | ⟨reason, rfl, hopen⟩
    · exact .inl (hfate.goesOn hgoes).1
    · have hstate : (l.becomes (some reason) r).module.state = .halted :=
        (hfate.ends reason rfl hopen).1
      rw [hstate]
      exact .inr (.halt hopen)
  final hterminal := by
    obtain ⟨hstate, hreason, -⟩ := hfate.goesOn (.inr hterminal)
    exact ⟨hstate, hreason⟩
  silent hover := by
    obtain ⟨hstate, -, howed⟩ := hfate.goesOn (.inr hover.1)
    refine ⟨⟨by rw [← hover.1, ← hstate]; rfl, hover.2⟩, ?_⟩
    rw [ends_becomes l hfate, endings_toList howed, List.append_nil]
  joined hstopping hfree := by
    have hsame : (l.becomes reason? r).owner = l.owner := rfl
    rw [hsame, hstopping] at hfree
    cases hfree

/-! ### All steps -/

theorem not_isOver_of_open {l : Life ω} (hopen : l.module.state.isTerminal = false) :
    ¬ l.IsOver := by
  intro hover
  rw [hover.1] at hopen
  cases hopen

/-- A step that leaves the control alone. -/
theorem advances_of_eq {l l' : Life ω} (hcontrol : l'.module.control = l.module.control)
    (hquiet : l.owner.hasCancelled = false → l'.owner.hasCancelled = false)
    (hends : l'.ends.Perm l.ends)
    (hjoined : l.owner.isStopping = true → l'.owner.isStopping = false →
      l'.module.state.isTerminal = true ∧ l'.module.IsAlone) : l.Advances l' where
  forward := .inl (congrArg Control.state hcontrol)
  final _ := ⟨congrArg Control.state hcontrol, congrArg Control.reason hcontrol⟩
  silent hover := by
    refine ⟨⟨?_, hquiet hover.2⟩, hends⟩
    rw [← hover.1]
    exact congrArg (fun c => c.state.isTerminal) hcontrol
  joined := hjoined

theorem advances_of_owner_eq {l l' : Life ω} (hcontrol : l'.module.control = l.module.control)
    (howner : l'.owner = l.owner) (hends : l'.ends.Perm l.ends) : l.Advances l' := by
  refine advances_of_eq hcontrol (by rw [howner]; exact id) hends fun hstopping hfree => ?_
  rw [howner, hstopping] at hfree
  cases hfree

/-- A step of the lifecycle while no stop returns. -/
theorem advances_of_next {l l' : Life ω} (hnext : l.module.state.Next l'.module.state)
    (howner : l.owner.isStopping = false) : l.Advances l' := by
  have hopen : l.module.state.isTerminal = false := by
    -- the cases of a step need variables for its ends
    generalize l.module.state = s at hnext
    generalize l'.module.state = s' at hnext
    cases hnext with
    | halt h => exact h
    | start | cancel | discard | finish => rfl
  refine ⟨.inr hnext, ?_, fun hover => absurd hover (not_isOver_of_open hopen), ?_⟩
  · rw [hopen]
    intro h
    cases h
  · rw [howner]
    intro h
    cases h

/-- A signal that is sent is no longer owed, and the ends are the same in another order. -/
theorem ends_send {l : Life ω} {before after : List Signal} {s : Signal}
    (h : l.owed = before ++ s :: after) :
    (Life.ends { l with module := l.module.emit s, owed := before ++ after }).Perm l.ends := by
  refine List.Perm.filter _ ?_
  show ((l.module.signals ++ [s]) ++ (before ++ after)).Perm (l.module.signals ++ l.owed)
  rw [h, List.append_assoc]
  have hmiddle : (before ++ s :: after).Perm ([s] ++ (before ++ after)) := List.perm_middle
  exact hmiddle.symm.append_left _

/-- A start is sound: it takes a constructed module one place on, and does nothing to any other. -/
theorem Sound.start {l : Life ω} (h : l.Sound) (howner : l.owner = .free)
    (main : Option Schedule) :
    Sound { l with module := l.module.launch main } ∧
      l.Advances { l with module := l.module.launch main } := by
  rw [Module.launch_eq]
  split
  · rename_i hstate
    have hopen : l.module.state.isTerminal = false := by
      rw [hstate]
      rfl
    obtain ⟨hnone, hempty⟩ := h.standing.of_open hopen
    constructor
    · exact ⟨.fresh (.inr rfl) hnone howner hempty, h.reason⟩
    · apply advances_of_next
      · rw [hstate]
        exact .start
      · rw [howner]
        rfl
  · exact ⟨h, advances_of_owner_eq rfl rfl .rfl⟩

/-- The first half of a stop is sound. It finds something to stop only in a module that nobody has
stopped or halted before. -/
theorem Sound.stop {l : Life ω} (h : l.Sound) (howner : l.owner = .free) (last : Bool) :
    Sound { l with module := l.module.cancel.1, owner := .stopping l.module.cancel.2 last } ∧
      l.Advances
        { l with module := l.module.cancel.1, owner := .stopping l.module.cancel.2 last } := by
  have hfree : l.owner.isStopping = false := by
    rw [howner]
    rfl
  have hcancel := l.module.cancel_eq
  -- only a fresh module is taken further; otherwise the call finds nothing to stop
  cases h.standing with
  | fresh hstate hnone _ hempty =>
    rcases hstate with hstate | hstate
    · rw [hstate] at hcancel
      rw [hcancel]
      refine ⟨⟨.leaving (.inr rfl) hnone rfl hempty, h.reason⟩, advances_of_next ?_ hfree⟩
      rw [hstate]
      exact .discard
    · rw [hstate] at hcancel
      rw [hcancel]
      refine ⟨⟨.leaving (.inl rfl) hnone rfl hempty, h.reason⟩, advances_of_next ?_ hfree⟩
      rw [hstate]
      exact .cancel
  | leaving _ _ hcancelled =>
    rw [howner] at hcancelled
    cases hcancelled
  | stopped hstate hnone _ hends =>
    rw [hstate] at hcancel
    rw [hcancel]
    refine ⟨⟨.stopped hstate hnone rfl hends, h.reason⟩, ?_⟩
    exact advances_of_eq rfl (fun _ => rfl) .rfl fun hstopping => by simp [hfree] at hstopping
  | halted reason hstate hreason hends =>
    rw [hstate] at hcancel
    rw [hcancel]
    refine ⟨⟨.halted reason hstate hreason hends, h.reason⟩, ?_⟩
    exact advances_of_eq rfl (fun _ => rfl) .rfl fun hstopping => by simp [hfree] at hstopping

/-- **The second half of a stop is sound.** Only an owner that has found something to stop, and has
not been forestalled by a halt, tells of the end. -/
theorem Sound.join {l : Life ω} (h : l.Sound) {cancelled last : Bool}
    (howner : l.owner = .stopping cancelled last) (halone : l.module.IsAlone) {owner : Owner}
    (hleft : owner.isStopping = false) :
    Sound { l.becomes none (l.module.finish cancelled) with owner } ∧
      l.Advances { l.becomes none (l.module.finish cancelled) with owner } := by
  have hquiet : owner.hasCancelled = false := by
    cases owner with
    | stopping => cases hleft
    | free | gone => rfl
  have hcancelled : l.owner.hasCancelled = cancelled := by
    rw [howner]
    rfl
  cases h.standing with
  | fresh _ _ hfree _ =>
    -- the owner of a fresh module is free
    rw [howner] at hfree
    cases hfree
  | leaving hstate hnone htrue hempty =>
    -- only here the owner has something to tell, and nobody has told of an end before
    obtain rfl : true = cancelled := by rw [← htrue, hcancelled]
    rw [Module.finish_of_stopping hstate]
    refine ⟨⟨.stopped rfl hnone hquiet ?_, ?_⟩, ?_, ?_, ?_, fun _ _ => ⟨rfl, halone⟩⟩
    · show endings (l.module.signals ++ (l.owed ++ [.stopped l.module.name])) = _
      rw [← List.append_assoc, endings_append, show endings (l.module.signals ++ l.owed) = [] from
        hempty]
      rfl
    · show l.module.control.reason = firstHalt (l.tries ++ [])
      rw [List.append_nil, h.reason]
    · rcases hstate with hstate | hstate
      · rw [hstate]
        exact .inr .finish
      · rw [hstate]
        exact .inl rfl
    · intro hterminal
      rcases hstate with hstate | hstate
      · simp [hstate, State.isTerminal] at hterminal
      · exact ⟨hstate.symm, rfl⟩
    · intro hover
      rw [hover.2] at htrue
      cases htrue
  | stopped hstate hnone hfalse hends =>
    obtain rfl : false = cancelled := by rw [← hfalse, hcancelled]
    have hsame : l.becomes none (l.module.finish false) = l := l.becomes_self
    rw [hsame]
    refine ⟨⟨.stopped hstate hnone hquiet hends, h.reason⟩, ?_⟩
    exact advances_of_eq rfl (fun _ => hquiet) .rfl fun _ _ => ⟨by rw [hstate]; rfl, halone⟩
  | halted reason hstate hreason hends =>
    rw [Module.finish_of_halted hstate, becomes_self]
    refine ⟨⟨.halted reason hstate hreason hends, h.reason⟩, ?_⟩
    exact advances_of_eq rfl (fun _ => hquiet) .rfl fun _ _ => ⟨by rw [hstate]; rfl, halone⟩

variable [Widget ω]

/-- **Every step is sound**, and advances. -/
theorem Sound.step {l l' : Life ω} (h : l.Sound) (hstep : Step l l') :
    l'.Sound ∧ l.Advances l' := by
  cases hstep with
  | act a _ =>
    have hfate := Module.fate_act l.module a
    exact ⟨h.becomes hfate, advances_becomes hfate⟩
  | @read _ _ r _ _ =>
    have hfate := Module.fate_next l.module r
    have hread := h.becomes hfate
    have hadvances := advances_becomes hfate
    exact ⟨⟨hread.standing.congr rfl rfl rfl rfl .rfl, hread.reason⟩, hadvances.forward,
      hadvances.final, hadvances.silent, hadvances.joined⟩
  | note | call | answer _ _ _ | spawn _ _ _ =>
    exact ⟨⟨h.standing.congr rfl rfl rfl rfl .rfl, h.reason⟩, advances_of_owner_eq rfl rfl .rfl⟩
  | send before after howed =>
    exact ⟨⟨h.standing.congr rfl rfl rfl rfl (ends_send howed), h.reason⟩,
      advances_of_owner_eq rfl rfl (ends_send howed)⟩
  | start main howner => exact h.start howner main
  | stop last howner => exact h.stop howner last
  | join howner halone => exact h.join howner halone (by split <;> rfl)

theorem Sound.run {l l' : Life ω} (h : l.Sound) (hrun : Run l l') : l'.Sound := by
  induction hrun with
  | refl => exact h
  | tail _ hstep ih => exact (ih.step hstep).1

/-- No step changes the name of the module. -/
theorem name_step {l l' : Life ω} (hstep : Step l l') : l'.module.name = l.module.name := by
  cases hstep with
  | act a _ => exact (Module.fate_act l.module a).name
  | @read _ _ r _ _ => exact (Module.fate_next l.module r).name
  | stop last _ => exact l.module.name_cancel
  | @join cancelled _ _ _ => exact l.module.name_finish cancelled
  | start main _ => exact l.module.name_launch main
  | note | send _ _ _ | call | answer _ _ _ | spawn _ _ _ => rfl

/-- What is promised of a life. -/
structure Orderly (l : Life ω) : Prop where
  /-- In every step the state stays, or moves one place on. -/
  forward : ∀ l', Step l l' →
    l'.module.state = l.module.state ∨ l.module.state.Next l'.module.state
  /-- A module at its end keeps state and reason. -/
  final : ∀ l', Run l l' → l.module.state.isTerminal = true →
    l'.module.state = l.module.state ∧ l'.module.control.reason = l.module.control.reason
  /-- Once the end is told it is not told again. -/
  silent : ∀ l', Run l l' → l.IsOver → l'.ends.Perm l.ends
  /-- A stop returns when the module is at its end, and has no threads left. -/
  joined : ∀ l', Step l l' → l.owner.isStopping = true → l'.owner.isStopping = false →
    l'.module.state.isTerminal = true ∧ l'.module.IsAlone
  /-- When the module has been dropped and nothing is left to be sent, it has told of its end
  once. -/
  once : l.owner = .gone → l.owed = [] → l.module.EndsOnce (firstHalt l.tries)

/-- At its end a module keeps its state and its reason for good. -/
theorem Sound.final {l l' : Life ω} (h : l.Sound) (hrun : Run l l')
    (hterminal : l.module.state.isTerminal = true) :
    l'.module.state = l.module.state ∧ l'.module.control.reason = l.module.control.reason := by
  induction hrun with
  | refl => exact ⟨rfl, rfl⟩
  | tail hrun hstep ih =>
    obtain ⟨hstate, hreason⟩ := ih
    obtain ⟨hstate', hreason'⟩ := ((h.run hrun).step hstep).2.final (hstate ▸ hterminal)
    exact ⟨hstate'.trans hstate, hreason'.trans hreason⟩

/-- Once it is over, nobody tells of an end any more. -/
theorem Sound.silent {l l' : Life ω} (h : l.Sound) (hrun : Run l l') (hover : l.IsOver) :
    l'.IsOver ∧ l'.ends.Perm l.ends := by
  induction hrun with
  | refl => exact ⟨hover, .rfl⟩
  | tail hrun hstep ih =>
    obtain ⟨hover, hends⟩ := ih
    obtain ⟨hover', hends'⟩ := ((h.run hrun).step hstep).2.silent hover
    exact ⟨hover', hends'.trans hends⟩

omit [Widget ω] in
/-- **A module that has been dropped has ended once**, for the reason of the first halt that took
effect. -/
theorem Sound.endsOnce {l : Life ω} (h : l.Sound) (hgone : l.owner = .gone) (howed : l.owed = []) :
    l.module.EndsOnce (firstHalt l.tries) := by
  have hsent : l.ends = endings l.module.signals := by rw [ends, howed, List.append_nil]
  refine ⟨?_, h.reason⟩
  cases h.standing with
  | fresh _ _ hfree _ =>
    rw [hgone] at hfree
    cases hfree
  | leaving _ _ hcancelled _ =>
    rw [hgone] at hcancelled
    cases hcancelled
  | stopped hstate hreason _ hends =>
    refine ⟨.stopped l.module.name, hsent ▸ hends, fun name => ?_, fun name reason => ?_⟩
    · simp [hstate, hreason, eq_comm]
    · simp [hstate]
  | halted reason hstate hreason hends =>
    refine ⟨.halted l.module.name reason, hsent ▸ hends, fun name => ?_, fun name reason' => ?_⟩
    · simp [hstate]
    · simp [hstate, hreason, eq_comm]

theorem Sound.orderly {l : Life ω} (h : l.Sound) : l.Orderly where
  forward _ hstep := (h.step hstep).2.forward
  final _ hrun := h.final hrun
  silent _ hrun hover := (h.silent hrun hover).2
  joined _ hstep := (h.step hstep).2.joined
  once := h.endsOnce

omit [Widget ω] in
/-- A life begins with a module that has just been built. -/
theorem sound_of_new {construct : Construction ω} {c : Config} {settings : BarSettings}
    {rawName : String} {m : Module ω} (h : Module.new construct c settings rawName = .ok m) :
    Sound { module := m } := by
  obtain ⟨handlesEvents, formats, widget, rfl⟩ := Module.eq_of_new h
  exact ⟨.fresh (.inl rfl) rfl rfl rfl, rfl⟩

end Life

/-! ### All modules of a bar -/

/-- The modules of a bar that could be built, at the beginning of their lives. -/
def Bar.lives (b : Bar ω) : List (Life ω) :=
  b.slots.filterMap fun
    | .live m => some { module := m }
    | .failed _ => none

namespace Life

variable [Widget ω]

/-- One of several lives goes one step further. -/
inductive AnyStep : List (Life ω) → List (Life ω) → Prop where
  | step (before after : List (Life ω)) {l l' : Life ω} :
      Step l l' → AnyStep (before ++ l :: after) (before ++ l' :: after)

abbrev AnyRun : List (Life ω) → List (Life ω) → Prop := ReflTransGen AnyStep

theorem anyRun_singleton {l l' : Life ω} (h : Run l l') : AnyRun [l] [l'] :=
  h.lift (fun l => [l]) fun _ _ hstep => .step [] [] hstep

/-- All lives of a bar stay sound, whichever of them takes the next step. -/
theorem sound_of_anyRun {lives lives' : List (Life ω)} (h : ∀ l ∈ lives, l.Sound)
    (hrun : AnyRun lives lives') : ∀ l ∈ lives', l.Sound := by
  induction hrun with
  | refl => exact h
  | tail _ hstep ih =>
    obtain ⟨before, after, hstep⟩ := hstep
    simp only [List.mem_append, List.mem_cons] at ih ⊢
    rintro l (hbefore | rfl | hafter)
    · exact ih l (.inl hbefore)
    · exact ((ih _ (.inr (.inl rfl))).step hstep).1
    · exact ih l (.inr (.inr hafter))

theorem map_name_anyRun {lives lives' : List (Life ω)} (hrun : AnyRun lives lives') :
    lives'.map (·.module.name) = lives.map (·.module.name) := by
  induction hrun with
  | refl => rfl
  | tail _ hstep ih =>
    obtain ⟨before, after, hstep⟩ := hstep
    rw [← ih]
    simp [name_step hstep]

end Life

/-- What lives in a bar has been built as a module. -/
theorem exists_new_of_build {catalog : List (String × Construction ω)} {c : Config} {m : Module ω}
    (h : Slot.live m ∈ (Bar.build catalog c).1.slots) :
    ∃ construct settings rawName, Module.new construct c settings rawName = .ok m := by
  obtain ⟨rawName, -, hslot⟩ := List.mem_map.mp h
  simp only [Slot.create] at hslot
  split at hslot
  · rename_i m' hbuild
    cases hslot
    obtain ⟨construct, hnew⟩ := Slot.exists_new_of_build hbuild
    exact ⟨construct, _, _, hnew⟩
  · cases hslot

/-- A bar begins with sound lives. -/
theorem sound_of_mem_lives {catalog : List (String × Construction ω)} {c : Config} {l : Life ω}
    (h : l ∈ (Bar.build catalog c).1.lives) : l.Sound := by
  simp only [Bar.lives, List.mem_filterMap] at h
  obtain ⟨slot, hslot, hlife⟩ := h
  cases slot with
  | failed => cases hlife
  | live m =>
    cases hlife
    obtain ⟨construct, settings, rawName, hnew⟩ := exists_new_of_build hslot
    exact Life.sound_of_new hnew

variable [Widget ω]

/-- **Every module ends once.** -/
theorem ends_once :
    (∀ {construct : Construction ω} {c : Config} {settings : BarSettings} {rawName : String}
      {m : Module ω}, Module.new construct c settings rawName = .ok m →
      (∀ l, Life.Run { module := m } l → l.Orderly) ∧
      -- the operations of the module are among the runs
      ∀ (ops : List (Operation ω)) (now : Moment), ((m.after ops).stop now).IsAlone ∧
        ∃ tries, Life.Run { module := m }
            { module := (m.after ops).stop now, owner := .gone, tries } ∧
          ((m.after ops).stop now).EndsOnce (firstHalt tries)) ∧
    -- all modules of a bar
    ∀ (catalog : List (String × Construction ω)) (c : Config) (lives : List (Life ω)),
      Life.AnyRun (Bar.build catalog c).1.lives lives →
      (∀ l ∈ lives, l.owner = .gone ∧ l.owed = []) →
      lives.map (·.module.name) = (Bar.build catalog c).1.lives.map (·.module.name) ∧
        ∀ l ∈ lives, l.module.EndsOnce (firstHalt l.tries) := by
  refine ⟨fun hnew => ⟨fun l hrun => ?_, fun ops now => ⟨Module.isAlone_stop _ now, ?_⟩⟩, ?_⟩
  · exact ((Life.sound_of_new hnew).run hrun).orderly
  · obtain ⟨tries, hrun⟩ := Life.leads_drop _ ops now []
    exact ⟨tries, hrun, ((Life.sound_of_new hnew).run hrun).endsOnce rfl rfl⟩
  · intro catalog c lives hrun hrest
    refine ⟨Life.map_name_anyRun hrun, fun l hl => ?_⟩
    have hsound := Life.sound_of_anyRun (fun _ => sound_of_mem_lives) hrun l hl
    exact hsound.endsOnce (hrest l hl).1 (hrest l hl).2

/-- A module that is started and halted, stopped in vain and dropped; and a bar with one module that
is dropped at once. -/
theorem ends_once_label :
    let construct : Construction TextWidget := fun _ _ => .ok (⟨{ text := "on" }⟩, {})
    let c : Config := { root := [("modules", .array [.string "a"]),
      ("module", .table [("a", .table [("type", .string "label")])])] }
    let ops : List (Operation TextWidget) :=
      [.start default, .halt default "gone", .stop default, .fail (.failed "late")]
    ∃ m, Module.new construct c default "a" = .ok m ∧
      ((m.after ops).stop default).EndsOnce (some "gone") ∧
      ∃ lives, Life.AnyRun (Bar.build [("label", construct)] c).1.lives lives ∧
        lives.map (·.module.name) = ["module/a"] ∧
        ∀ l ∈ lives, l.module.EndsOnce (firstHalt l.tries) := by
  intro construct c ops
  have hevents : c.getOr .boolean (Module.fullName "a") "handle-events" true = .ok true := by cbv
  let m (settings : BarSettings) : Module TextWidget :=
    { rawName := "a", formats := {}, widget := ⟨{ text := "on" }⟩, markup := .forBar settings }
  have hnew (settings : BarSettings) : Module.new construct c settings "a" = .ok (m settings) := by
    unfold Module.new
    simp only [hevents]
    rfl
  refine ⟨_, hnew default, ?_, ?_⟩
  · obtain ⟨-, tries, -, hends⟩ := (ends_once.1 (hnew default)).2 ops default
    have hgone : firstHalt tries = some "gone" := by
      rw [← hends.reason]
      decide +kernel
    rwa [hgone] at hends
  · have hbar : c.barConfig = .ok { modules := ["a"] } := by cbv
    have hkind : c.get .string (Module.fullName "a") "type" = .ok "label" := by cbv
    have htable : c.hasTable (Module.fullName "a") = true := by decide +kernel
    let settings := (BarSettings.ofConfig c).toOption.getD default
    have hlives : (Bar.build [("label", construct)] c).1.lives = [{ module := m settings }] := by
      simp [settings, Bar.build, Bar.lives, hbar, Slot.create, Slot.build, hkind, htable,
        Except.toOption, hnew]
    obtain ⟨tries, hdrop⟩ := Life.leads_drop (m settings) [] default []
    have hrun := Life.anyRun_singleton hdrop
    rw [← hlives] at hrun
    obtain ⟨hnames, hends⟩ := ends_once.2 _ _ _ hrun (by simp)
    refine ⟨_, hrun, ?_, hends⟩
    rw [hnames, hlives]
    decide +kernel

end StatusBar
