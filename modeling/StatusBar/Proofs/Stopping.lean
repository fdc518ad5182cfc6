import StatusBar.Proofs.Ending

/-!
# Failures while a module is stopped

A stop consists of two halves, and between them the owner waits for the threads (`Waits`). They go
on meanwhile, and one of them may fail. What comes of that is decided by the first half: a module
that runs is only told to stop, and a failure still ends it; a module that has never been started is
stopped at once, and cares for no failure any more (`halt_wins_iff_running`).
-/

namespace StatusBar

open Relation (ReflTransGen)

variable {ω : Type}

namespace Life

def cancel (l : Life ω) (last : Bool) : Life ω :=
  { l with module := l.module.cancel.1, owner := .stopping l.module.cancel.2 last }

def finish (l : Life ω) (cancelled last : Bool) : Life ω :=
  { l.becomes none (l.module.finish cancelled) with owner := if last then .gone else .free }

variable [Widget ω]

/-- Any number of steps during which the owner waits in a stop. -/
def Waits : Life ω → Life ω → Prop :=
  ReflTransGen fun l l' => Step l l' ∧ l'.owner.isStopping = true

/-! ### One step -/

/-- What a step does while the owner waits: there may be a halt, which ends the module unless it is
at its end. -/
structure Lingers (l l' : Life ω) (reason? : Option String) : Prop where
  owner : l'.owner = l.owner
  tries : l'.tries = l.tries ++ reason?.toList.map (l.module.state, ·)
  goesOn : reason? = none ∨ l.module.state.isTerminal = true → l'.module.state = l.module.state
  halts : reason? ≠ none → l.module.state.isTerminal = false → l'.module.state = .halted

omit [Widget ω] in
/-- A step that may halt the module leaves the owner waiting. -/
theorem lingers_becomes {l : Life ω} {reason? : Option String} {r : Module ω × Option Signal}
    (hfate : l.module.Fate reason? r) : l.Lingers (l.becomes reason? r) reason? where
  owner := rfl
  tries := rfl
  goesOn hgoes := (hfate.goesOn hgoes).1
  halts hreason hopen := by
    obtain ⟨reason, rfl⟩ := Option.ne_none_iff_exists'.mp hreason
    exact (hfate.ends reason rfl hopen).1

omit [Widget ω] in
/-- So does a step that changes neither owner nor state and halts nothing. -/
theorem lingers_of_eq {l l' : Life ω} (howner : l'.owner = l.owner) (htries : l'.tries = l.tries)
    (hstate : l'.module.state = l.module.state) : l.Lingers l' none where
  owner := howner
  tries := by simpa using htries
  goesOn _ := hstate
  halts hreason := absurd rfl hreason

/-- **While the owner waits, every step leaves it waiting**, and does no more to the module than to
halt it. -/
theorem exists_lingers {l l' : Life ω} (hstopping : l.owner.isStopping = true)
    (hstep : Step l l') (hstopping' : l'.owner.isStopping = true) :
    ∃ reason?, l.Lingers l' reason? := by
  have hbusy : l.owner ≠ .free := by
    intro hfree
    rw [hfree] at hstopping
    cases hstopping
  cases hstep with
  | act a _ => exact ⟨_, lingers_becomes (Module.fate_act l.module a)⟩
  | @read _ _ r _ _ =>
    obtain ⟨howner, htries, hgoesOn, hhalts⟩ := lingers_becomes (Module.fate_next l.module r)
    exact ⟨_, howner, htries, hgoesOn, hhalts⟩
  | note | send | call | answer => exact ⟨none, lingers_of_eq rfl rfl rfl⟩
  | start _ hfree | spawn _ _ hfree | stop _ hfree => exact absurd hfree hbusy
  | @join _ last _ _ =>
    -- a step that ends the stop is none of these
    cases last <;> cases hstopping'

/-! ### The whole stop -/

theorem Waits.run {l l' : Life ω} (h : Waits l l') : Run l l' :=
  ReflTransGen.mono (fun _ _ hstep => hstep.1) _ _ h

theorem Waits.owner_eq {l l' : Life ω} (hstopping : l.owner.isStopping = true) (h : Waits l l') :
    l'.owner = l.owner := by
  induction h with
  | refl => rfl
  | tail _ hstep ih =>
    obtain ⟨reason?, hlingers⟩ := exists_lingers (by rw [ih, hstopping]) hstep.1 hstep.2
    exact hlingers.owner.trans ih

/-- A module that is at its end when the owner begins to wait stays there, whoever fails. -/
theorem Waits.of_terminal {l l' : Life ω} (hstopping : l.owner.isStopping = true)
    (hterminal : l.module.state.isTerminal = true) (h : Waits l l') :
    ∃ new, l'.tries = l.tries ++ new ∧ l'.module.state = l.module.state := by
  induction h with
  | refl => exact ⟨[], (List.append_nil _).symm, rfl⟩
  | @tail w w' hwaits hstep ih =>
    obtain ⟨new, htries, hstate⟩ := ih
    have howner := Waits.owner_eq hstopping hwaits
    obtain ⟨reason?, hlingers⟩ := exists_lingers (by rw [howner, hstopping]) hstep.1 hstep.2
    refine ⟨new ++ reason?.toList.map (w.module.state, ·), ?_, ?_⟩
    · rw [hlingers.tries, htries, List.append_assoc]
    · rw [hlingers.goesOn (.inr (hstate ▸ hterminal)), hstate]

/-- Before its end a module waits where it is, until the first halt. -/
theorem Waits.of_open {l l' : Life ω} (hstopping : l.owner.isStopping = true)
    (hopen : l.module.state.isTerminal = false) (h : Waits l l') :
    ∃ new, l'.tries = l.tries ++ new ∧
      (new = [] ∧ l'.module.state = l.module.state ∨
        ∃ reason rest, new = (l.module.state, reason) :: rest ∧ l'.module.state = .halted) := by
  induction h with
  | refl => exact ⟨[], (List.append_nil _).symm, .inl ⟨rfl, rfl⟩⟩
  | @tail w w' hwaits hstep ih =>
    obtain ⟨new, htries, hnew⟩ := ih
    have howner := Waits.owner_eq hstopping hwaits
    obtain ⟨reason?, hlingers⟩ := exists_lingers (by rw [howner, hstopping]) hstep.1 hstep.2
    refine ⟨new ++ reason?.toList.map (w.module.state, ·), ?_, ?_⟩
    · rw [hlingers.tries, htries, List.append_assoc]
    rcases hnew with ⟨rfl, hstate⟩ | ⟨reason, rest, rfl, hstate⟩
    · cases reason? with
      | none => exact .inl ⟨rfl, (hlingers.goesOn (.inl rfl)).trans hstate⟩
      | some reason =>
        refine .inr ⟨reason, [], by simp [hstate], ?_⟩
        exact hlingers.halts (by simp) (hstate ▸ hopen)
    · refine .inr ⟨reason, _, List.cons_append, ?_⟩
      rw [hlingers.goesOn (.inr (by rw [hstate]; rfl)), hstate]

/-- What a life is like after a stop: halted for a reason, or stopped. The signal of the end has
been sent or is owed, and there is no other. -/
structure HasEnded (l : Life ω) (halt? : Option String) : Prop where
  state : l.module.state = if halt?.isSome then .halted else .stopped
  reason : l.module.control.reason = halt?
  ends : l.ends = [halt?.elim (.stopped l.module.name) (.halted l.module.name)]

omit [Widget ω] in
/-- **A sound life whose owner has nothing to tell any more has ended** for the reason of the first
halt that took effect, or without one. -/
theorem Sound.hasEnded {l : Life ω} (h : l.Sound) (howner : l.owner.hasCancelled = false)
    (hterminal : l.module.state.isTerminal = true) : l.HasEnded (firstHalt l.tries) := by
  rw [← h.reason]
  cases h.standing with
  | fresh hstate =>
    rcases hstate with hstate | hstate <;> rw [hstate] at hterminal <;> cases hterminal
  | leaving _ _ hcancelled =>
    rw [howner] at hcancelled
    cases hcancelled
  | stopped hstate hreason _ hends =>
    rw [hreason]
    exact ⟨hstate, hreason, hends⟩
  | halted reason hstate hreason hends =>
    rw [hreason]
    exact ⟨hstate, hreason, hends⟩

omit [Widget ω] in
/-- No halt has taken effect on a module that is stopped. -/
theorem Sound.firstHalt_of_stopped {l : Life ω} (h : l.Sound) (hstate : l.module.state = .stopped) :
    firstHalt l.tries = none := by
  rw [← h.reason]
  cases h.standing with
  | fresh _ hreason => exact hreason
  | leaving _ hreason => exact hreason
  | stopped _ hreason => exact hreason
  | halted _ hhalted =>
    rw [hstate] at hhalted
    cases hhalted

omit [Widget ω] in
/-- An owner who is free finds an open module before its start, or running. -/
theorem Standing.of_free {l : Life ω} (h : l.Standing) (hfree : l.owner = .free)
    (hopen : l.module.state.isTerminal = false) :
    l.module.state = .constructed ∨ l.module.state = .running := by
  cases h with
  | fresh hstate => exact hstate
  | leaving _ _ hcancelled =>
    rw [hfree] at hcancelled
    cases hcancelled
  | stopped hstate | halted _ hstate =>
    rw [hstate] at hopen
    cases hopen

/-- **A failure wins over the stop of a running module, and only of a running one.** -/
theorem halt_wins_iff_running {construct : Construction ω} {c : Config} {settings : BarSettings}
    {rawName : String} {m : Module ω} (hnew : Module.new construct c settings rawName = .ok m)
    {l w : Life ω} (hrun : Run { module := m } l) (hfree : l.owner = .free)
    (hopen : l.module.state.isTerminal = false) (last : Bool) (hwaits : Waits (l.cancel last) w)
    (halone : w.module.IsAlone) :
    Step l (l.cancel last) ∧ Step w (w.finish true last) ∧
      (w.module.state ≠ .stopped ↔ l.module.state = .running) ∧
      ∃ new, w.tries = l.tries ++ new ∧
        (w.finish true last).HasEnded
          (if l.module.state = .running then new.head?.map (·.2) else none) := by
  have hsound := (sound_of_new hnew).run hrun
  have hbegun := (hsound.stop hfree last).1
  have hcancel := l.module.cancel_eq
  have hstopping : (l.cancel last).owner.isStopping = true := rfl
  have hwaiting := hbegun.run hwaits.run
  have hnone : firstHalt l.tries = none := by
    rw [← hsound.reason]
    exact (hsound.standing.of_open hopen).1
  have hleft : (if last then Owner.gone else .free).isStopping = false := by cases last <;> rfl
  have hquiet : (if last then Owner.gone else .free).hasCancelled = false := by cases last <;> rfl
  have howner : w.owner = .stopping true last := by
    have hsame := Waits.owner_eq hstopping hwaits
    rcases hsound.standing.of_free hfree hopen with hstate | hstate <;>
      simp [hsame, cancel, hcancel, hstate]
  have hends : (w.finish true last).HasEnded (firstHalt w.tries) := by
    obtain ⟨hended, hjoined⟩ := hwaiting.join howner halone hleft
    have htold : (w.finish true last).tries = w.tries := List.append_nil _
    rw [← htold]
    exact Sound.hasEnded hended hquiet (hjoined.joined (by rw [howner]; rfl) hleft).1
  refine ⟨.stop last hfree, .join howner halone, ?_⟩
  rcases hsound.standing.of_free hfree hopen with hstate | hstate
  · -- the first half of the stop is the end already
    rw [hstate] at hcancel
    have hstopped : (l.cancel last).module.state = .stopped := by
      rw [cancel, hcancel]
      rfl
    obtain ⟨new, htries, hstays⟩ := Waits.of_terminal hstopping (by rw [hstopped]; rfl) hwaits
    rw [hstopped] at hstays
    rw [hwaiting.firstHalt_of_stopped hstays] at hends
    refine ⟨by simp [hstays, hstate], new, htries, ?_⟩
    simpa [hstate] using hends
  · rw [hstate] at hcancel
    have hleaving : (l.cancel last).module.state = .stopping := by
      rw [cancel, hcancel]
      rfl
    obtain ⟨new, htries, hnew⟩ := Waits.of_open hstopping (by rw [hleaving]; rfl) hwaits
    rw [hleaving] at hnew
    have hfirst : firstHalt w.tries = firstHalt new := by
      have hsame : (l.cancel last).tries = l.tries := rfl
      rw [htries, hsame, firstHalt_append_eq_or, hnone, Option.none_or]
    rw [hfirst] at hends
    refine ⟨?_, new, htries, ?_⟩
    · rcases hnew with ⟨-, hstays⟩ | ⟨_, _, -, hhalted⟩
      · simp [hstays, hstate]
      · simp [hhalted, hstate]
    · have hhead : firstHalt new = new.head?.map (·.2) := by
        rcases hnew with ⟨rfl, -⟩ | ⟨reason, rest, rfl, -⟩ <;> rfl
      rwa [if_pos hstate, ← hhead]

/-- A worker of a running module fails while it is joined. -/
theorem halt_wins_iff_running_late :
    let m : Module TextWidget :=
      { rawName := "a", formats := {}, widget := ⟨{ text := "on" }⟩, markup := .forBar default }
    let l : Life TextWidget := { module := (m.spawn "w" [.halt "late"]).launch none }
    ∃ w, Run { module := m } l ∧ Waits (l.cancel false) w ∧ w.tries = [(.stopping, "late")] ∧
      (w.finish true false).HasEnded (some "late") := by
  intro m l
  have hnew : Module.new (fun _ _ => .ok (m.widget, {})) {} default "a" = .ok m :=
    Module.new_empty ..
  have hspawn : Run { module := m } { module := m.spawn "w" [.halt "late"] } :=
    .single (.spawn "w" [.halt "late"] rfl)
  have hrun : Run { module := m } l := hspawn.tail (.start none rfl)
  have hhalt : Waits (l.cancel false) _ := .single ⟨.act (.halt (.failed "late")) (by simp), rfl⟩
  let w : Worker TextWidget := { name := "w", script := [.halt "late"] }
  have hbusy : w ∈ (l.cancel false).module.workers := List.mem_singleton_self w
  have hwaits := hhalt.tail
    ⟨.note none [{ name := "w", script := [], answers := [.done] }]
      (Module.not_isAlone_of_worker hbusy rfl), rfl⟩
  obtain ⟨-, -, -, new, htries, hends⟩ :=
    halt_wins_iff_running hnew hrun rfl rfl false hwaits ⟨rfl, by simp [Worker.isDone]⟩
  have hnew : new = [(.stopping, "late")] := htries.symm
  rw [hnew] at hends
  exact ⟨_, hrun, hwaits, rfl, hends⟩

/-- The same failure in a module that has never been started: the module is stopped while the worker
is still at work, and nobody hears of the failure. -/
theorem stop_of_constructed_late :
    let m : Module TextWidget :=
      { rawName := "a", formats := {}, widget := ⟨{ text := "on" }⟩, markup := .forBar default }
    let spawned := m.spawn "w" [.halt "late"]
    Module.new (fun _ _ => .ok (m.widget, {})) {} default "a" = .ok m ∧
      spawned.state = .constructed ∧ spawned.cancel.1.state = .stopped ∧
      ¬ spawned.cancel.1.IsAlone ∧
      (spawned.stop default).workers.map Worker.answers = [[.done]] ∧
      (spawned.stop default).state = .stopped ∧ (spawned.stop default).control.reason = none ∧
      (spawned.stop default).signals = [.stopped "module/a"] := by
  intro m spawned
  have hnew : Module.new (fun _ _ => .ok (m.widget, {})) {} default "a" = .ok m :=
    Module.new_empty ..
  refine ⟨hnew, rfl, rfl, ?_, by decide +kernel, by decide +kernel, by decide +kernel,
    by decide +kernel⟩
  let w : Worker TextWidget := { name := "w", script := [.halt "late"] }
  have hbusy : w ∈ spawned.cancel.1.workers := List.mem_singleton_self w
  exact Module.not_isAlone_of_worker hbusy rfl

end Life

end StatusBar
