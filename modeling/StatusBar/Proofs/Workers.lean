import StatusBar.Proofs.Threads

/-!
# What workers do to a module

A step of a worker is a run of undisturbed changes, and so is what `atRest` and `join` do.

Each step of a worker lowers `Worker.left`, and `atRest` takes as many steps as that allows. So it
ends only when no worker can go on. In a module that does not run nobody rests, and then all workers
are done: `isAlone_join`.
-/

namespace StatusBar

open Clock (Moment)

namespace Worker

variable {ω : Type}

/-- The number of steps a worker has left. Lying down to rest is one, and waking up another. -/
def left (w : Worker ω) : Nat := 2 * w.script.length - if w.isResting then 1 else 0

/-- Every action leaves a worker with fewer steps to go, unless it rests once more. -/
theorem left_after {w : Worker ω} {action : Action ω} {rest : List (Action ω)}
    (hscript : w.script = action :: rest) {o : Outcome} (ho : ¬ (o = .resting ∧ w.isResting = true))
    (wakeups : UInt64) : (w.after wakeups o).left < w.left := by
  have hlength : w.script.length = rest.length + 1 := by rw [hscript, List.length_cons]
  cases o with
  | answered a =>
    have htail : (w.after wakeups (.answered a)).left = 2 * rest.length := by
      simp [left, after, isResting, hscript]
    rw [htail, left, hlength]
    split <;> omega
  | resting =>
    have hawake : w.isResting = false := by simpa using ho
    have hlies : (w.after wakeups .resting).left = 2 * w.script.length - 1 := by
      simp [left, after, isResting]
    rw [hlies, left, hlength, hawake, if_neg (by simp)]
    omega
  | panicked p =>
    have hends : (w.after wakeups (.panicked p)).left = 0 := by
      simp [left, after, isResting]
    rw [hends, left, hlength]
    split <;> omega

@[simp] theorem total_cons (measure : Worker ω → Nat) (w : Worker ω) (ws : List (Worker ω)) :
    total measure (w :: ws) = measure w + total measure ws := rfl

/-- A worker with fewer steps to go takes all workers nearer to their end. -/
theorem total_left_set {ws : List (Worker ω)} {i : Nat} {w w' : Worker ω} (hw : ws[i]? = some w)
    (h : w'.left < w.left) : total left (ws.set i w') < total left ws := by
  induction ws generalizing i with
  | nil => simp at hw
  | cons v ws ih =>
    cases i with
    | zero =>
      obtain rfl : v = w := by simpa using hw
      simpa using h
    | succ i => simpa using ih (by simpa using hw)

/-- The steps that are left are no more than those that are allowed for. -/
theorem total_left_le_pending (ws : List (Worker ω)) : total left ws ≤ total pending ws := by
  induction ws with
  | nil => exact Nat.le_refl _
  | cons w ws ih =>
    have hw : w.left ≤ w.pending := Nat.sub_le _ _
    simp only [total_cons]
    omega

end Worker

namespace Module

variable {ω : Type}

@[simp] theorem workers_broadcast (m : Module ω) : m.broadcast.workers = m.workers := rfl

@[simp] theorem workers_fail (m : Module ω) (e : ModuleError) : (m.fail e).workers = m.workers := by
  unfold fail
  split <;> rfl

@[simp] theorem workers_abandon (m : Module ω) (f : Failure) :
    (m.abandon f).workers = m.workers := workers_fail _ _

/-- What the outcome of an action does to the module beside the action: a panic halts it. -/
def conclude (m : Module ω) : Outcome → Module ω
  | .panicked p => m.fail (.panicked p.message)
  | .answered _ | .resting => m

@[simp] theorem workers_conclude (m : Module ω) (o : Outcome) :
    (m.conclude o).workers = m.workers := by
  cases o with
  | panicked p => exact workers_fail m _
  | answered | resting => rfl

theorem go_conclude (m : Module ω) (o : Outcome) : Go m (m.conclude o) := by
  cases o with
  | panicked p => exact go_fail m _
  | answered | resting => exact .refl

variable [Widget ω]

/-- What a worker does in a single action is something that threads do. -/
theorem go_perform (m : Module ω) (now : Moment) (restingSince : Option UInt64)
    (action : Action ω) : Go m (m.perform now restingSince action).1 := by
  cases action with
  | update change =>
    simp only [perform]
    split <;> exact go_work m _
  | broadcast => exact go_broadcast m
  | halt reason => exact go_fail m _
  | wakeup => exact go_wakeup m now
  | rest =>
    simp only [perform]
    split <;> exact .refl
  | isRunning | name | pause | panic => exact .refl

@[simp] theorem workers_refreshWidget (m : Module ω) (now : Moment) :
    (m.refreshWidget now).workers = m.workers := by
  have hupdate : (m.update now).state.workers = m.workers := rfl
  unfold refreshWidget
  split <;> rename_i h <;> rw [h] at hupdate <;> simpa using hupdate

@[simp] theorem workers_pass (m : Module ω) (now : Moment) : (m.pass now).workers = m.workers := by
  unfold pass
  split
  · rfl
  · split
    · rfl
    · rfl
    · exact workers_refreshWidget m now
    · split <;> simp

@[simp] theorem workers_wakeup (m : Module ω) (now : Moment) :
    (m.wakeup now).workers = m.workers := workers_pass _ now

/-- No action of a worker touches the workers themselves. -/
@[simp] theorem workers_perform (m : Module ω) (now : Moment) (restingSince : Option UInt64)
    (action : Action ω) : (m.perform now restingSince action).1.workers = m.workers := by
  cases action with
  | update change =>
    simp only [perform]
    split <;> rfl
  | rest =>
    simp only [perform]
    split <;> rfl
  | halt reason => exact workers_fail m _
  | wakeup => exact workers_wakeup m now
  | broadcast | isRunning | name | pause | panic => rfl

/-- A worker with something left to do performs the first action of its script. -/
theorem workerStep?_of_action {m : Module ω} {now : Moment} {i : Nat} {w : Worker ω}
    {action : Action ω} {rest : List (Action ω)} (hw : m.workers[i]? = some w)
    (hscript : w.script = action :: rest) :
    m.workerStep? now i =
      let r := m.perform now w.restingSince action
      if r.2 = .resting ∧ w.isResting = true then none
      else some (conclude
        { r.1 with workers := m.workers.set i (w.after m.control.wakeups r.2) } r.2) := by
  simp only [workerStep?, hw, hscript, List.head?_cons, bind, Option.bind_some]
  split
  · rfl
  · cases (m.perform now w.restingSince action).2 <;> rfl

theorem workerStep?_eq_none {m : Module ω} {now : Moment} {i : Nat}
    (h : ∀ w, m.workers[i]? = some w → w.isDone = true) : m.workerStep? now i = none := by
  cases hw : m.workers[i]? with
  | none => simp [workerStep?, hw]
  | some w =>
    have hscript : w.script = [] := by simpa [Worker.isDone] using h w hw
    simp [workerStep?, hw, hscript]

/-- A worker that takes a step has performed the first action of its script. -/
theorem workerStep?_eq_some {m m' : Module ω} {now : Moment} {i : Nat}
    (h : m.workerStep? now i = some m') :
    ∃ w action rest, m.workers[i]? = some w ∧ w.script = action :: rest ∧
      let r := m.perform now w.restingSince action
      ¬ (r.2 = .resting ∧ w.isResting = true) ∧
      m' =
        conclude { r.1 with workers := m.workers.set i (w.after m.control.wakeups r.2) } r.2 := by
  cases hw : m.workers[i]? with
  | none => simp [workerStep?, hw] at h
  | some w =>
    cases hscript : w.script with
    | nil => simp [workerStep?, hw, hscript] at h
    | cons action rest =>
      rw [workerStep?_of_action hw hscript] at h
      simp only [Option.ite_none_left_eq_some, Option.some.injEq] at h
      exact ⟨w, action, rest, rfl, hscript, h.1, h.2.symm⟩

/-- A step of a worker is something that threads do. -/
theorem go_workerStep? {m m' : Module ω} {now : Moment} {i : Nat}
    (h : m.workerStep? now i = some m') : Go m m' := by
  obtain ⟨w, action, rest, hw, hscript, -, rfl⟩ := workerStep?_eq_some h
  refine (go_perform m now w.restingSince action).trans (.head (.note _ _ ?_) (go_conclude _ _))
  apply not_isAlone_of_worker (w := w)
  · rw [workers_perform]
    exact List.mem_of_getElem? hw
  · simp [Worker.isDone, hscript]

theorem go_anyStep? {m m' : Module ω} {now : Moment} {i j : Nat}
    (h : m.anyStep? now i = some (j, m')) : Go m m' := by
  obtain ⟨k, -, hk⟩ := List.exists_of_findSome?_eq_some h
  obtain ⟨m'', hstep, heq⟩ := Option.map_eq_some_iff.mp hk
  cases heq
  exact go_workerStep? hstep

theorem go_run (now : Moment) (fuel i : Nat) (m : Module ω) : Go m (run now fuel i m) := by
  induction fuel generalizing i m with
  | zero => exact .refl
  | succ fuel ih =>
    rw [run]
    split
    · exact .refl
    · rename_i j m' h
      exact (go_anyStep? h).trans (ih j m')

theorem go_atRest (m : Module ω) (now : Moment) : Go m (m.atRest now) := go_run now _ _ m

theorem go_join (m : Module ω) (now : Moment) : Go m (m.join now) :=
  (go_atRest m now).trans (go_endMain _)

/-! ### Waiting for the workers -/

/-- **Every step takes the workers nearer to their end.** -/
theorem total_left_workerStep? {m m' : Module ω} {now : Moment} {i : Nat}
    (h : m.workerStep? now i = some m') :
    Worker.total Worker.left m'.workers < Worker.total Worker.left m.workers := by
  obtain ⟨w, action, rest, hw, hscript, ho, rfl⟩ := workerStep?_eq_some h
  rw [workers_conclude]
  exact Worker.total_left_set hw (Worker.left_after hscript ho _)

/-- If nobody takes a step, then no worker can. -/
theorem workerStep?_eq_none_of_anyStep? {m : Module ω} {now : Moment} {i : Nat}
    (h : m.anyStep? now i = none) (j : Nat) : m.workerStep? now j = none := by
  by_cases hj : j < m.workers.length
  · have hnone := List.findSome?_eq_none_iff.mp h j (by simp [hj])
    simpa using hnone
  · apply workerStep?_eq_none
    intro w hw
    rw [List.getElem?_eq_none (by omega)] at hw
    cases hw

/-- With enough steps a run ends only when no worker can go on. -/
theorem workerStep?_run {now : Moment} {fuel i : Nat} {m : Module ω}
    (hfuel : Worker.total Worker.left m.workers ≤ fuel) (j : Nat) :
    (run now fuel i m).workerStep? now j = none := by
  induction fuel generalizing i m with
  | zero =>
    rw [run]
    -- a step would lower the measure below zero
    cases hstep : m.workerStep? now j with
    | none => rfl
    | some m' =>
      have := total_left_workerStep? hstep
      omega
  | succ fuel ih =>
    rw [run]
    cases hany : m.anyStep? now i with
    | none => exact workerStep?_eq_none_of_anyStep? hany j
    | some next =>
      obtain ⟨k, m'⟩ := next
      obtain ⟨k', -, hk⟩ := List.exists_of_findSome?_eq_some hany
      obtain ⟨m'', hstep, heq⟩ := Option.map_eq_some_iff.mp hk
      cases heq
      have := total_left_workerStep? hstep
      exact ih (by omega)

/-- **At rest no worker can take a step.** The fuel that is given to the run is enough. -/
theorem workerStep?_atRest (m : Module ω) (now : Moment) (j : Nat) :
    (m.atRest now).workerStep? now j = none :=
  workerStep?_run (Worker.total_left_le_pending m.workers) j

/-- Nobody lies down in a module that does not run. -/
theorem perform_ne_resting {m : Module ω} (hm : m.state ≠ .running) (now : Moment)
    (restingSince : Option UInt64) (action : Action ω) :
    (m.perform now restingSince action).2 ≠ .resting := by
  cases action with
  | update change =>
    simp only [perform]
    split <;> simp
  | rest =>
    have hwoken : m.isWoken (restingSince.getD m.control.wakeups) = true := by
      simp [isWoken, Observation.decide?, hm]
    simp [perform, hwoken]
  | broadcast | halt | wakeup | isRunning | name | pause | panic => simp [perform]

/-- A worker that can take no step is done, when the module does not run. -/
theorem isDone_of_stuck {m : Module ω} {now : Moment} (hm : m.state ≠ .running)
    (h : ∀ j, m.workerStep? now j = none) {w : Worker ω} (hw : w ∈ m.workers) :
    w.isDone = true := by
  obtain ⟨j, hj⟩ := List.mem_iff_getElem?.mp hw
  cases hscript : w.script with
  | nil => simp [Worker.isDone, hscript]
  | cons action rest =>
    have hstep := h j
    rw [workerStep?_of_action hj hscript] at hstep
    simp [perform_ne_resting hm] at hstep

/-- Joining leaves no thread behind, provided the module does not run. -/
theorem isAlone_join {m : Module ω} (hm : m.state ≠ .running) (now : Moment) :
    (m.join now).IsAlone := by
  refine ⟨rfl, fun w hw => ?_⟩
  have hstill : (m.atRest now).state ≠ .running := (go_atRest m now).state_ne_running hm
  exact isDone_of_stuck hstill (workerStep?_atRest m now) hw

end Module

end StatusBar
