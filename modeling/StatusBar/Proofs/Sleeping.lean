import Mathlib.Logic.Basic
import Mathlib.Logic.Relation
import StatusBar.Lifecycle

/-!
# Sleeping among other threads

A thread that sleeps looks at the control and at the clock, and lies down again until somebody tells
it of a change, its time has passed, or for no reason at all. `sleep` is the answer it gives to what
it has seen (`IsExact`). `Sleeper` is the thread among the others, who change the control while it
does not hold the lock, and tell the sleepers only afterwards.

Two things could go wrong. A change could be made when the thread has looked and does not listen
yet: then it would lie there with something to be seen and nobody to tell it. It never does, for it
lets the lock go and listens at once (`Sound.calm`). And a wake-up from before the sleep could end
it: but the thread compares the counter with what it was when it took the lock, so what was before
is without effect (`exists_run_alike`).
-/

namespace StatusBar

open Relation (ReflTransGen)

namespace Observation

/-- The module runs, and nobody has woken the sleepers since the counter stood at `generation`. -/
def IsQuiet (generation : UInt64) (o : Observation) : Prop :=
  o.state = .running ∧ o.wakeups = generation

variable {deadline : Option Nat} {generation : UInt64} {o : Observation}

theorem decide?_of_quiet (h : o.IsQuiet generation) :
    o.decide? deadline generation = if deadline.any (· ≤ o.now) then some true else none := by
  obtain ⟨hstate, hwakeups⟩ := h
  simp [decide?, hstate, hwakeups]

/-- A sleep is cut short exactly if there is something to be seen. -/
theorem decide?_eq_some_false_iff : o.decide? deadline generation = some false ↔
    ¬ o.IsQuiet generation := by
  constructor
  · intro h hquiet
    rw [decide?_of_quiet hquiet] at h
    split at h <;> cases h
  · intro h
    rw [IsQuiet, not_and_or] at h
    exact if_pos h

/-- A sleep is over exactly if all is quiet and the deadline is reached. -/
theorem decide?_eq_some_true_iff : o.decide? deadline generation = some true ↔
    o.IsQuiet generation ∧ deadline.any (· ≤ o.now) = true := by
  by_cases h : o.IsQuiet generation
  · simp [decide?_of_quiet h, h]
  · simp [decide?_eq_some_false_iff.mpr h, h]

/-- A sleep goes on exactly if all is quiet and the deadline is still to come. -/
theorem decide?_eq_none_iff : o.decide? deadline generation = none ↔
    o.IsQuiet generation ∧ deadline.any (· ≤ o.now) = false := by
  by_cases h : o.IsQuiet generation
  · simp [decide?_of_quiet h, h]
  · simp [decide?_eq_some_false_iff.mpr h, h]

/-- Only the difference of the two counters matters. -/
theorem decide?_add (generation woken : UInt64) (state : State) (now : Nat) :
    (Observation.mk state (generation + woken) now).decide? deadline generation =
      (Observation.mk state woken now).decide? deadline 0 := by
  simp [decide?]

/-- The clock has reached the deadline, if it can. -/
theorem any_deadline?_iff {start duration : Nat} (h : o.now ≤ endOfTime) :
    (deadline? start duration).any (· ≤ o.now) = true ↔ start + duration ≤ o.now := by
  unfold deadline?
  split
  · simp
  · simp only [Option.any_none, Bool.false_eq_true, false_iff]
    omega

end Observation

/-! ### The answer to what was seen -/

/-- The answer of a sleep to what it has seen, pass by pass. There is none while it goes on. -/
structure IsExact (start duration : Nat) (generation : UInt64) (passes : List Observation)
    (answer : Option Bool) : Prop where
  elapsed : answer = some true ↔ ∃ before o after, passes = before ++ o :: after ∧
    start + duration ≤ o.now ∧ ∀ p ∈ before ++ [o], p.IsQuiet generation
  /-- What the clock shows in the pass does not matter. -/
  disturbed : answer = some false ↔ ∃ before o after, passes = before ++ o :: after ∧
    ¬ o.IsQuiet generation ∧ ∀ p ∈ before, p.IsQuiet generation ∧ p.now < start + duration
  goesOn : answer = none ↔ ∀ p ∈ passes, p.IsQuiet generation ∧ p.now < start + duration
  endless : deadline? start duration = none → answer ≠ some true

section Answer

variable {start duration : Nat} {deadline : Option Nat} {generation : UInt64}
  {passes more : List Observation}

theorem sleep_cons {o : Observation} : sleep deadline generation (o :: more) =
    (o.decide? deadline generation).or (sleep deadline generation more) := by
  rw [sleep, List.findSome?_cons]
  cases o.decide? deadline generation <;> rfl

theorem sleep_append : sleep deadline generation (passes ++ more) =
    (sleep deadline generation passes).or (sleep deadline generation more) :=
  List.findSome?_append

theorem sleep_ne_some_false (h : ∀ p ∈ passes, p.IsQuiet generation) :
    sleep deadline generation passes ≠ some false := by
  intro hfalse
  obtain ⟨p, hmem, hp⟩ := List.exists_of_findSome?_eq_some hfalse
  exact Observation.decide?_eq_some_false_iff.mp hp (h p hmem)

/-- **A sleep is answered exactly.** The passes are gone through one by one; the first that decides
is the answer, and the ones before it have been quiet. -/
theorem isExact_sleep (hclock : ∀ o ∈ passes, o.now ≤ endOfTime) :
    IsExact start duration generation passes
      (sleep (deadline? start duration) generation passes) := by
  have hgoesOn (o : Observation) (ho : o.now ≤ endOfTime) :
      o.decide? (deadline? start duration) generation = none ↔
        o.IsQuiet generation ∧ o.now < start + duration := by
    rw [Observation.decide?_eq_none_iff, ← Bool.not_eq_true, Observation.any_deadline?_iff ho,
      Nat.not_le]
  constructor
  case elapsed =>
    constructor
    · intro h
      obtain ⟨before, o, after, rfl, ho, hbefore⟩ := List.findSome?_eq_some_iff.mp h
      have hnow : o.now ≤ endOfTime := hclock o (by simp)
      rw [Observation.decide?_eq_some_true_iff, Observation.any_deadline?_iff hnow] at ho
      refine ⟨before, o, after, rfl, ho.2, fun p hmem => ?_⟩
      rcases List.mem_append.mp hmem with hp | hp
      · exact (Observation.decide?_eq_none_iff.mp (hbefore p hp)).1
      · rw [List.mem_singleton.mp hp]
        exact ho.1
    · rintro ⟨before, o, after, rfl, hlate, hquiet⟩
      have hnow : o.now ≤ endOfTime := hclock o (by simp)
      have ho : o.decide? (deadline? start duration) generation = some true :=
        Observation.decide?_eq_some_true_iff.mpr
          ⟨hquiet o (by simp), (Observation.any_deadline?_iff hnow).mpr hlate⟩
      have hbefore : sleep (deadline? start duration) generation before ≠ some false :=
        sleep_ne_some_false fun p hp => hquiet p (List.mem_append_left _ hp)
      rw [sleep_append]
      -- the sleep may have ended in an earlier pass already, but not otherwise
      rcases hsleep : sleep (deadline? start duration) generation before with _ | _ | _
      · rw [Option.none_or, sleep_cons, ho]
        rfl
      · exact absurd hsleep hbefore
      · rfl
  case disturbed =>
    rw [sleep, List.findSome?_eq_some_iff]
    constructor
    · rintro ⟨before, o, after, rfl, ho, hbefore⟩
      refine ⟨before, o, after, rfl, Observation.decide?_eq_some_false_iff.mp ho, fun p hp => ?_⟩
      exact (hgoesOn p (hclock p (List.mem_append_left _ hp))).mp (hbefore p hp)
    · rintro ⟨before, o, after, rfl, ho, hbefore⟩
      refine ⟨before, o, after, rfl, Observation.decide?_eq_some_false_iff.mpr ho, fun p hp => ?_⟩
      exact (hgoesOn p (hclock p (List.mem_append_left _ hp))).mpr (hbefore p hp)
  case goesOn =>
    rw [sleep, List.findSome?_eq_none_iff]
    exact forall₂_congr fun p hp => hgoesOn p (hclock p hp)
  case endless =>
    intro hnone htrue
    obtain ⟨p, -, hp⟩ := List.exists_of_findSome?_eq_some htrue
    rw [Observation.decide?_eq_some_true_iff, hnone] at hp
    cases hp.2

end Answer

/-! ### A sleeper and the others -/

namespace Sleeper

/-- Where a thread that sleeps is. -/
inductive Stage where
  /-- Has read the clock, and does not have the lock yet. -/
  | arriving
  /-- Holds the lock, and is about to look at the control and the clock. -/
  | looking
  /-- Has let the lock go and listens. It may have been told of something since. -/
  | waiting (told : Bool)
  | returned (answer : Bool)
deriving DecidableEq

/-- What the thread has seen in one pass. -/
structure Pass extends Observation where
  /-- The wake-ups since the thread took the lock. -/
  woken : Nat

/-- What the thread would have seen if the counter had stood at zero when it took the lock. -/
def Pass.sinceLock (p : Pass) : Observation :=
  { p.toObservation with wakeups := UInt64.ofNat p.woken }

/-- The stage after a pass. -/
def Stage.decided : Option Bool → Stage
  | some answer => returned answer
  | none => waiting false

/-- The stage when somebody tells the sleepers of a change. -/
def Stage.tell : Stage → Stage
  | waiting _ => waiting true
  | s => s

def Stage.answer? : Stage → Option Bool
  | returned answer => some answer
  | _ => none

/-- A step in the life of the module. -/
inductive Change (c c' : Control) : Prop where
  | start : c.start? = some c' → Change c c'
  | cancel : c.cancel? = some c' → Change c c'
  | finish : c.finish? = some c' → Change c c'
  | halt (reason : String) : c.halt? reason = some c' → Change c c'

end Sleeper

open Sleeper (Stage Pass Change)

/-- A thread that sleeps, and what it sleeps on. -/
structure Sleeper where
  control : Control
  /-- What the clock shows. -/
  now : Nat
  stage : Stage := .arriving
  /-- The counter of wake-ups when the thread took the lock. -/
  generation : UInt64 := 0
  /-- The wake-ups since then. -/
  woken : Nat := 0
  /-- What the thread has seen so far. -/
  passes : List Pass := []
  /-- How many changes there have been that the sleepers have not been told of yet. -/
  owed : Nat := 0

namespace Sleeper

/-- A thread that is about to take the lock. -/
def arriving (c : Control) (now owed : Nat) : Sleeper := { control := c, now, owed }

/-- What there is to be seen at the moment. -/
def sight (s : Sleeper) : Pass where
  state := s.control.state
  wakeups := s.control.wakeups
  now := s.now
  woken := s.woken

/-- What the thread has seen so far of the control and the clock. -/
def observations (s : Sleeper) : List Observation := s.passes.map (·.toObservation)

def answer? (s : Sleeper) : Option Bool := s.stage.answer?

/-- The steps of all that take part, while the thread sleeps until a deadline. -/
inductive Step (deadline : Option Nat) : Sleeper → Sleeper → Prop where
  | tick {s} (now : Nat) : s.now ≤ now → now ≤ endOfTime → Step deadline s { s with now }
  /-- Others wake the sleepers, when they have the lock. They tell them later. -/
  | wake {s} : s.stage ≠ .looking → Step deadline s { s with
      control := s.control.wake
      woken := if s.stage = .arriving then 0 else s.woken + 1
      owed := s.owed + 1 }
  | change {s c} : s.stage ≠ .looking → Change s.control c →
      Step deadline s { s with control := c, owed := s.owed + 1 }
  | tell {s owed} : s.owed = owed + 1 → Step deadline s { s with owed, stage := s.stage.tell }
  | lock {s} : s.stage = .arriving →
      Step deadline s { s with stage := .looking, generation := s.control.wakeups }
  /-- With the lock the thread looks, and returns with the lock or lets it go and listens. -/
  | look {s} : s.stage = .looking → Step deadline s { s with
      passes := s.passes ++ [s.sight]
      stage := .decided (s.sight.decide? deadline s.generation) }
  /-- The thread has been told of a change, or its time has passed, or there is no reason. -/
  | getUp {s told} : s.stage = .waiting told → Step deadline s { s with stage := .looking }

abbrev Run (deadline : Option Nat) : Sleeper → Sleeper → Prop := ReflTransGen (Step deadline)

/-! ### What is always true of it -/

/-- The counter stands where it was if and only if the wake-ups since have gone round. -/
theorem add_ofNat_eq_self_iff (generation : UInt64) (woken : Nat) :
    generation + UInt64.ofNat woken = generation ↔ UInt64.size ∣ woken := by
  rw [← UInt64.toNat_inj, UInt64.toNat_add, UInt64.toNat_ofNat', Nat.dvd_iff_mod_eq_zero]
  have hlt := generation.toNat_lt_size
  simp only [UInt64.size] at hlt ⊢
  omega

/-- What is always true of the thread. -/
structure Sound (deadline : Option Nat) (s : Sleeper) : Prop where
  answer : s.answer? = sleep deadline s.generation s.observations
  /-- The thread has gone on after all passes but the last. -/
  before : sleep deadline s.generation s.observations.dropLast = none
  fresh : s.stage = .arriving → s.passes = [] ∧ s.woken = 0
  counter : s.stage ≠ .arriving → s.control.wakeups = s.generation + UInt64.ofNat s.woken
  counters : ∀ p ∈ s.passes, p.wakeups = s.generation + UInt64.ofNat p.woken
  clock : s.now ≤ endOfTime
  clocks : ∀ p ∈ s.passes, p.now ≤ endOfTime
  /-- There is nothing to be seen that nobody tells the thread of. -/
  calm : s.stage = .waiting false → s.owed = 0 → s.sight.IsQuiet s.generation

variable {deadline : Option Nat} {s s' t : Sleeper}

/-- A change is a step of the lifecycle, and wakes nobody by itself. -/
theorem Change.next {c c' : Control} (h : Change c c') :
    c.state.Next c'.state ∧ c'.wakeups = c.wakeups := by
  cases h with
  | start h =>
    unfold Control.start? at h
    split at h <;> cases h
    case h_1 hc => exact ⟨by rw [hc]; exact .start, rfl⟩
  | cancel h =>
    unfold Control.cancel? at h
    split at h <;> cases h
    case h_1 hc => exact ⟨by rw [hc]; exact .cancel, rfl⟩
    case h_2 hc => exact ⟨by rw [hc]; exact .discard, rfl⟩
  | finish h =>
    unfold Control.finish? at h
    split at h <;> cases h
    case h_1 hc => exact ⟨by rw [hc]; exact .finish, rfl⟩
  | halt reason h =>
    unfold Control.halt? at h
    split at h
    case isTrue => cases h
    case isFalse hopen =>
      cases h
      exact ⟨.halt (Bool.eq_false_iff.mpr hopen), rfl⟩

/-- Every step of the lifecycle can be made as a change. -/
theorem exists_change_of_next {c : Control} {state : State} (h : c.state.Next state) :
    ∃ c', Change c c' ∧ c'.state = state := by
  generalize hc : c.state = old at h
  cases h with
  | start => exact ⟨_, .start (by rw [Control.start?, hc]), rfl⟩
  | cancel => exact ⟨_, .cancel (by rw [Control.cancel?, hc]), rfl⟩
  | discard => exact ⟨_, .cancel (by rw [Control.cancel?, hc]), rfl⟩
  | finish => exact ⟨_, .finish (by rw [Control.finish?, hc]), rfl⟩
  | halt hopen => exact ⟨_, .halt "" (if_neg (by simp [hc, hopen])), rfl⟩

@[simp] theorem Stage.tell_eq_arriving_iff {stage : Stage} :
    stage.tell = .arriving ↔ stage = .arriving := by
  cases stage <;> simp [Stage.tell]

@[simp] theorem Stage.tell_eq_looking_iff {stage : Stage} :
    stage.tell = .looking ↔ stage = .looking := by
  cases stage <;> simp [Stage.tell]

theorem Stage.tell_eq_waiting_iff {stage : Stage} :
    stage.tell = .waiting true ↔ ∃ told, stage = .waiting told := by
  cases stage <;> simp [Stage.tell]

@[simp] theorem Stage.tell_tell (stage : Stage) : stage.tell.tell = stage.tell := by
  cases stage <;> rfl

@[simp] theorem Stage.answer?_tell (stage : Stage) : stage.tell.answer? = stage.answer? := by
  cases stage <;> rfl

@[simp] theorem Stage.answer?_decided (d : Option Bool) : (decided d).answer? = d := by
  cases d <;> rfl

@[simp] theorem Stage.decided_ne_arriving (d : Option Bool) : decided d ≠ .arriving := by
  cases d <;> exact nofun

theorem Stage.decided_eq_waiting_iff {d : Option Bool} {told : Bool} :
    decided d = .waiting told ↔ d = none ∧ told = false := by
  cases d <;> simp [decided, eq_comm]

/-- A thread that has yet to take the lock has seen nothing. -/
theorem sound_arriving (deadline : Option Nat) (c : Control) {now : Nat} (hnow : now ≤ endOfTime)
    (owed : Nat) : (arriving c now owed).Sound deadline where
  answer := rfl
  before := rfl
  fresh _ := ⟨rfl, rfl⟩
  counter h := absurd rfl h
  counters := nofun
  clock := hnow
  clocks := nofun
  calm := nofun

/-- **Every step keeps what is always true of a sleeper.** Only a look adds a pass; all others move
the counter and the count of wake-ups together, or do not touch them. -/
theorem sound_step (h : s.Sound deadline) (hstep : Step deadline s s') : s'.Sound deadline := by
  cases hstep with
  | tick now hle hend => exact { h with clock := hend }
  | wake hfree =>
    refine { h with fresh := ?fresh, counter := ?counter, calm := nofun }
    case fresh => exact fun harriving => ⟨(h.fresh harriving).1, if_pos harriving⟩
    case counter =>
      intro hlocked
      show s.control.wakeups + 1 = _
      rw [h.counter hlocked, if_neg hlocked, UInt64.ofNat_add, UInt64.add_assoc]
      rfl
  | change hfree hchange =>
    exact { h with
      counter := fun hlocked => hchange.next.2.trans (h.counter hlocked)
      calm := nofun }
  | tell howed =>
    exact { h with
      answer := by rw [answer?, Stage.answer?_tell]; exact h.answer
      fresh := fun hstage => h.fresh (Stage.tell_eq_arriving_iff.mp hstage)
      counter := fun hstage => h.counter (mt Stage.tell_eq_arriving_iff.mpr hstage)
      calm := fun hstage => by
        -- whoever has been told is not left alone
        cases hs : s.stage <;> simp [hs, Stage.tell] at hstage }
  | lock hstage =>
    obtain ⟨hpasses, hwoken⟩ := h.fresh hstage
    have hnothing : s.observations = [] := by rw [observations, hpasses]; rfl
    exact { h with
      answer := by
        show none = sleep deadline s.control.wakeups s.observations
        rw [hnothing]
        rfl
      before := by
        show sleep deadline s.control.wakeups s.observations.dropLast = none
        rw [hnothing]
        rfl
      fresh := nofun
      counter := fun _ => by simp [hwoken]
      counters := by simp [hpasses]
      calm := nofun }
  | look hstage =>
    have hgoesOn : sleep deadline s.generation s.observations = none := by
      rw [← h.answer, answer?, hstage]
      rfl
    have hcounter : s.sight.wakeups = s.generation + UInt64.ofNat s.sight.woken :=
      h.counter (by simp [hstage])
    have hobservations : (s.passes ++ [s.sight]).map (·.toObservation) =
        s.observations ++ [s.sight.toObservation] := by simp [observations]
    refine { h with
      answer := ?answer, before := ?before, counters := ?counters, clocks := ?clocks, calm := ?calm
      fresh := fun harriving => absurd harriving (Stage.decided_ne_arriving _)
      counter := fun _ => hcounter }
    case answer =>
      show (Stage.decided _).answer? = sleep deadline s.generation _
      rw [observations, hobservations, sleep_append, hgoesOn, Option.none_or, Stage.answer?_decided]
      simp [sleep]
    case before =>
      rw [observations, hobservations, List.dropLast_concat]
      exact hgoesOn
    case counters =>
      intro p hmem
      rcases List.mem_append.mp hmem with hp | hp
      · exact h.counters p hp
      · rw [List.mem_singleton.mp hp]
        exact hcounter
    case clocks =>
      intro p hmem
      rcases List.mem_append.mp hmem with hp | hp
      · exact h.clocks p hp
      · rw [List.mem_singleton.mp hp]
        exact h.clock
    case calm =>
      intro hwaiting _
      -- the thread listens since it has looked, and it has looked just now
      have hnone : s.sight.decide? deadline s.generation = none :=
        (Stage.decided_eq_waiting_iff.mp hwaiting).1
      exact (Observation.decide?_eq_none_iff.mp hnone).1
  | getUp hstage =>
    have hgoesOn : s.answer? = none := by rw [answer?, hstage]; rfl
    exact { h with
      answer := hgoesOn.symm.trans h.answer
      fresh := nofun
      counter := fun _ => h.counter (by simp [hstage])
      calm := nofun }

theorem sound_run {c : Control} {now owed : Nat} (hnow : now ≤ endOfTime)
    (hrun : Run deadline (arriving c now owed) s) : s.Sound deadline := by
  induction hrun with
  | refl => exact sound_arriving deadline c hnow owed
  | tail _ hstep ih => exact sound_step ih hstep

/-! ### What was before the sleep -/

/-- The second thread does as the first, and nobody wakes it before it takes the lock. -/
structure Alike (wakeups : UInt64) (s s' : Sleeper) : Prop where
  state : s'.control.state = s.control.state
  now : s'.now = s.now
  /-- The threads may have been told of different changes. -/
  stage : s'.stage.tell = s.stage.tell
  woken : s'.woken = s.woken
  arriving : s'.stage = .arriving → s'.control.wakeups = wakeups
  locked : s'.stage ≠ .arriving → s'.generation = wakeups

variable {wakeups : UInt64}

theorem Pass.decide?_sinceLock {p : Pass} {generation : UInt64}
    (h : p.wakeups = generation + UInt64.ofNat p.woken) :
    p.decide? deadline generation = p.sinceLock.decide? deadline 0 := by
  rw [sinceLock, ← Observation.decide?_add generation, ← h]

theorem Sound.decide?_sight (h : s.Sound deadline) (hlocked : s.stage ≠ .arriving) :
    s.sight.decide? deadline s.generation = s.sight.sinceLock.decide? deadline 0 :=
  Pass.decide?_sinceLock (h.counter hlocked)

namespace Alike

theorem answer?_eq (h : Alike wakeups s s') : s'.answer? = s.answer? := by
  rw [answer?, ← Stage.answer?_tell, h.stage, Stage.answer?_tell, answer?]

theorem arriving_iff (h : Alike wakeups s s') : s'.stage = .arriving ↔ s.stage = .arriving := by
  rw [← Stage.tell_eq_arriving_iff, h.stage, Stage.tell_eq_arriving_iff]

theorem looking_iff (h : Alike wakeups s s') : s'.stage = .looking ↔ s.stage = .looking := by
  rw [← Stage.tell_eq_looking_iff, h.stage, Stage.tell_eq_looking_iff]

/-- **What the first thread does, the second can do as well.** It leaves out the wake-ups from
before the sleep, and what the other is told of. -/
theorem exists_step (h : Alike wakeups s s') (hs : s.Sound deadline) (hs' : s'.Sound deadline)
    (hstep : Step deadline s t) : ∃ t', Run deadline s' t' ∧ Alike wakeups t t' := by
  cases hstep with
  | tick now hle hend =>
    exact ⟨{ s' with now }, .single (.tick now (h.now ▸ hle) hend), { h with now := rfl }⟩
  | wake hfree =>
    by_cases harriving : s.stage = .arriving
    · -- this is a wake-up from before the sleep, and the second thread does without it
      have harriving' : s'.stage = .arriving := h.arriving_iff.mpr harriving
      exact ⟨s', .refl, { h with
        woken := (hs'.fresh harriving').2.trans (if_pos harriving).symm }⟩
    · have harriving' : s'.stage ≠ .arriving := mt h.arriving_iff.mp harriving
      refine ⟨_, .single (.wake (mt h.looking_iff.mp hfree)), { h with
        woken := ?_, arriving := fun hstage => absurd hstage harriving' }⟩
      show (if _ then _ else _) = if _ then _ else _
      rw [if_neg harriving, if_neg harriving', h.woken]
  | change hfree hchange =>
    have hnext : s'.control.state.Next _ := h.state ▸ hchange.next.1
    obtain ⟨d, hd, hstate⟩ := exists_change_of_next hnext
    exact ⟨_, .single (.change (mt h.looking_iff.mp hfree) hd), { h with
      state := hstate
      arriving := fun hstage => hd.next.2.trans (h.arriving hstage) }⟩
  | tell howed =>
    exact ⟨s', .refl, { h with stage := h.stage.trans (Stage.tell_tell _).symm }⟩
  | lock hstage =>
    have hstage' : s'.stage = .arriving := h.arriving_iff.mpr hstage
    exact ⟨_, .single (.lock hstage'), { h with
      stage := rfl
      arriving := nofun
      locked := fun _ => h.arriving hstage' }⟩
  | look hstage =>
    have hstage' : s'.stage = .looking := h.looking_iff.mpr hstage
    have hlocked' : s'.stage ≠ .arriving := by simp [hstage']
    have hsight : s'.sight.sinceLock = s.sight.sinceLock := by
      simp [Pass.sinceLock, sight, h.state, h.now, h.woken]
    have hdecide : s'.sight.decide? deadline s'.generation =
        s.sight.decide? deadline s.generation := by
      rw [hs'.decide?_sight hlocked', hsight, hs.decide?_sight (by simp [hstage])]
    refine ⟨_, .single (.look hstage'), { h with
      stage := ?_, arriving := ?_, locked := fun _ => h.locked hlocked' }⟩
    · rw [hdecide]
    · exact fun harriving => absurd harriving (Stage.decided_ne_arriving _)
  | getUp hstage =>
    have hwaiting : s'.stage.tell = .waiting true := by rw [h.stage, hstage]; rfl
    obtain ⟨told, hstage'⟩ := Stage.tell_eq_waiting_iff.mp hwaiting
    exact ⟨_, .single (.getUp hstage'), { h with
      stage := rfl
      arriving := nofun
      locked := fun _ => h.locked (by simp [hstage']) }⟩

end Alike

/-- So the second thread can follow any run of the first. -/
theorem exists_run_alike {c c' : Control} {now owed : Nat} (hnow : now ≤ endOfTime)
    (hrun : Run deadline (arriving c now owed) s) (hstate : c'.state = c.state) (owed' : Nat) :
    ∃ s', Run deadline (arriving c' now owed') s' ∧ Alike c'.wakeups s s' := by
  induction hrun with
  | refl =>
    exact ⟨_, .refl, { state := hstate, now := rfl, stage := rfl, woken := rfl
                       arriving := fun _ => rfl, locked := fun h => absurd rfl h }⟩
  | tail hrun hstep ih =>
    obtain ⟨s', hrun', halike⟩ := ih
    obtain ⟨t', hstep', halike'⟩ :=
      halike.exists_step (sound_run hnow hrun) (sound_run hnow hrun') hstep
    exact ⟨t', hrun'.trans hstep', halike'⟩

/-! ### The sleep as a whole -/

/-- The thread misses nothing, and nothing else disturbs it. -/
structure Attentive (start duration : Nat) (s : Sleeper) : Prop where
  exact : IsExact start duration s.generation s.observations s.answer?
  /-- It has answered in the last pass, if at all. -/
  prompt : sleep (deadline? start duration) s.generation s.observations.dropLast = none
  /-- It goes by the wake-ups since it took the lock, wherever the counter stood. -/
  sinceLock : s.answer? = sleep (deadline? start duration) 0 (s.passes.map (·.sinceLock))
  noticed : ∀ p ∈ s.passes, ¬ UInt64.size ∣ p.woken → s.answer? = some false
  /-- It is not left alone with something to be seen. -/
  told : s.stage = .waiting false → s.owed = 0 → s.control.state = .running ∧ UInt64.size ∣ s.woken

/-- The passes of a sleep count from the lock on, wherever the counter stood. -/
theorem sleep_sinceLock {generation : UInt64} {passes : List Pass}
    (h : ∀ p ∈ passes, p.wakeups = generation + UInt64.ofNat p.woken) :
    sleep deadline generation (passes.map (·.toObservation)) =
      sleep deadline 0 (passes.map (·.sinceLock)) := by
  induction passes with
  | nil => rfl
  | cons p passes ih =>
    obtain ⟨hp, hpasses⟩ := List.forall_mem_cons.mp h
    rw [List.map_cons, List.map_cons, sleep_cons, sleep_cons, Pass.decide?_sinceLock hp, ih hpasses]

namespace Sound

/-- A pass of a thread that has been woken decides for it, unless the counter has gone all the way
round. -/
theorem decide?_of_woken (h : s.Sound deadline) {p : Pass} (hmem : p ∈ s.passes)
    (hwoken : ¬ UInt64.size ∣ p.woken) : p.decide? deadline s.generation = some false := by
  rw [Observation.decide?_eq_some_false_iff]
  rintro ⟨-, hwakeups⟩
  rw [h.counters p hmem, add_ofNat_eq_self_iff] at hwakeups
  exact hwoken hwakeups

/-- So a thread that has been woken, and has seen it, comes back early. -/
theorem answer?_of_woken (h : s.Sound deadline) {p : Pass} (hmem : p ∈ s.passes)
    (hwoken : ¬ UInt64.size ∣ p.woken) : s.answer? = some false := by
  have hp : p.decide? deadline s.generation = some false := h.decide?_of_woken hmem hwoken
  obtain ⟨before, last, hpasses⟩ : ∃ before last, s.passes = before ++ [last] :=
    ⟨_, _, (List.dropLast_concat_getLast (List.ne_nil_of_mem hmem)).symm⟩
  have hbefore : sleep deadline s.generation (before.map (·.toObservation)) = none := by
    simpa [observations, hpasses] using h.before
  have hanswer : s.answer? = last.decide? deadline s.generation := by
    rw [h.answer, observations, hpasses, List.map_append, sleep_append, hbefore]
    simp [sleep]
  rcases List.mem_append.mp (hpasses ▸ hmem) with hmem | hmem
  · -- the thread would not have gone on after such a pass
    have hnone : p.decide? deadline s.generation = none :=
      List.findSome?_eq_none_iff.mp hbefore _ (List.mem_map_of_mem hmem)
    rw [hnone] at hp
    cases hp
  · rw [hanswer, ← List.mem_singleton.mp hmem, hp]

/-- **A sound sleeper is attentive**, as soon as its deadline is the one of its sleep. -/
theorem attentive {start duration : Nat} (h : s.Sound (deadline? start duration)) :
    s.Attentive start duration where
  exact := by
    rw [h.answer]
    refine isExact_sleep fun o hmem => ?_
    obtain ⟨p, hp, rfl⟩ := List.mem_map.mp hmem
    exact h.clocks p hp
  prompt := h.before
  sinceLock := h.answer.trans (sleep_sinceLock h.counters)
  noticed _ := h.answer?_of_woken
  told hwaiting howed := by
    obtain ⟨hstate, hwakeups⟩ := h.calm hwaiting howed
    have hcounter : s.control.wakeups = s.generation + UInt64.ofNat s.woken :=
      h.counter (by simp [hwaiting])
    exact ⟨hstate, (add_ofNat_eq_self_iff _ _).mp (hcounter.symm.trans hwakeups)⟩

end Sound

end Sleeper

open Sleeper (Run arriving)

/-- **A sleep is exact.** It answers to what the thread has seen as it should, whatever that is. And
among others the thread sees all that it has to see: a wake-up while it sleeps is noticed, and one
from before does nothing, since without it the same can happen. -/
theorem sleep_is_exact (start duration : Nat) :
    (∀ generation passes, (∀ o ∈ passes, o.now ≤ endOfTime) →
      IsExact start duration generation passes
        (sleep (deadline? start duration) generation passes)) ∧
    ∀ c now owed s, now ≤ endOfTime → Run (deadline? start duration) (arriving c now owed) s →
      s.Attentive start duration ∧
      ∀ c' owed', c'.state = c.state →
        ∃ s', Run (deadline? start duration) (arriving c' now owed') s' ∧
          (s'.stage ≠ .arriving → s'.generation = c'.wakeups) ∧
          s'.now = s.now ∧ s'.answer? = s.answer? := by
  constructor
  · intro generation passes hclock
    exact isExact_sleep hclock
  · intro c now owed s hnow hrun
    refine ⟨(Sleeper.sound_run hnow hrun).attentive, fun c' owed' hstate => ?_⟩
    obtain ⟨s', hrun', halike⟩ := Sleeper.exists_run_alike hnow hrun hstate owed'
    exact ⟨s', hrun', halike.locked, halike.now, halike.answer?_eq⟩

/-- The thread gets up when its time has passed, but it has been woken too, and that goes before.
The wake-up from before it took the lock does nothing. -/
theorem sleep_is_exact_woken :
    IsExact 5 10 0 [⟨.running, 0, 7⟩, ⟨.running, 0, 15⟩] (some true) ∧
    ∃ s, Run (deadline? 5 10) (arriving { state := .running, wakeups := 2 } 5 0) s ∧
      s.Attentive 5 10 ∧ s.answer? = some false ∧
      s.passes.map (fun p => (p.wakeups, p.now, p.woken)) = [(3, 6, 0), (4, 20, 1)] ∧
      ∃ s', Run (deadline? 5 10) (arriving { state := .running } 5 0) s' ∧
        (s'.stage ≠ .arriving → s'.generation = 0) ∧ s'.now = 20 ∧ s'.answer? = some false := by
  have hexact := sleep_is_exact 5 10
  have hwake : Run (deadline? 5 10) (arriving { state := .running, wakeups := 2 } 5 0) _ :=
    .single (.wake nofun)
  have hrun := hwake
    |>.tail (.lock rfl)
    |>.tail (.tell rfl)
    |>.tail (.tick 6 (by decide) (by decide))
    |>.tail (.look rfl)
    |>.tail (.wake nofun)
    |>.tail (.tick 20 (by decide) (by decide))
    |>.tail (.getUp rfl)
    |>.tail (.look rfl)
  obtain ⟨hattentive, hbefore⟩ := hexact.2 _ _ _ _ (by decide) hrun
  exact ⟨hexact.1 0 [⟨.running, 0, 7⟩, ⟨.running, 0, 15⟩] (by decide), _, hrun, hattentive,
    rfl, rfl, hbefore { state := .running } 0 rfl⟩

end StatusBar
