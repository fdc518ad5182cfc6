import Mathlib
import StatusBar.Proofs.Calls
import StatusBar.Proofs.Operation
import StatusBar.Widget.Text

/-!
# Many readers

Any number of callers may ask for the content of a module at the same time, while others broadcast,
halt the module and change its widget. `Readers` is the module with all of them at one moment, and a
`Step` takes one of them one step further. Whoever renders or changes the widget has to take it
first. A reader looks before it takes the widget, and again when it has it; it lets the widget go
when the text is stored or has turned out to be an error. One that nobody disturbs does what
`Module.content` does (`run_content`).

The history of broadcasts and renderings is kept along. Main statement (`broadcasts_survive`): there
is one rendering at a time, and a broadcast for each but the first; and when no reader is under way
and the mark is not set, the last rendering has begun after the last broadcast, and its text is the
one that is shown.
-/

namespace StatusBar

open Relation (ReflTransGen)

/-- Who has the widget for itself. -/
inductive Holder (ι : Type) where
  | reader (i : ι)
  /-- A thread that changes the widget. -/
  | writer

/-- What matters for the content in the long run. -/
inductive Readers.Event (ι : Type) where
  | broadcast
  /-- A reader has taken the mark away, and begins to render. -/
  | claim (i : ι)
  /-- A reader has rendered. -/
  | draw (i : ι) (text : Except ModuleError String)

/-- A module with all who read it, where `ι` has a name for every reader. -/
structure Readers (ω ι : Type) where
  module : Module ω
  /-- How far the call of each reader has come, if it has made one. -/
  calls : ι → Option Reading := fun _ => none
  holder : Option (Holder ι) := none
  /-- What has happened so far, the oldest first. -/
  history : List (Readers.Event ι) := []

/-- Whether the next step is one that only the holder of the widget takes. -/
def Reading.needsWidget : Reading → Bool
  | waiting => true
  | claimed => true
  | drawn (.ok _) => true
  | looking | drawn (.error _) | returning | done _ => false

theorem Reading.needsWidget_of_holdsWidget {c : Reading} (h : c.holdsWidget = true) :
    c.needsWidget = true := by
  cases c with
  | claimed => rfl
  | drawn text =>
    cases text with
    | ok text => rfl
    | error e => cases h
  | looking | waiting | returning | done => cases h

namespace Readers

variable {ω ι : Type}

namespace Event

/-- What a change by a thread adds to the history. -/
def ofAct : Act ω → List (Event ι)
  | .mark => [broadcast]
  | .work _ | .wake | .halt _ => []

/-- What a step of a reader adds to the history, given how far it has come by it. -/
def ofReading (i : ι) : Reading → List (Event ι)
  | .claimed => [claim i]
  | .drawn text => [draw i text]
  | .looking | .waiting | .returning | .done _ => []

/-- What a call for the content adds to the history. -/
def ofContent [Widget ω] (i : ι) (m : Module ω) : List (Event ι) :=
  if m.isStale then [.claim i, .draw i { m with changed := false }.render.text] else []

def isBroadcast : Event ι → Bool
  | broadcast => true
  | claim _ | draw _ _ => false

def isClaim : Event ι → Bool
  | claim _ => true
  | broadcast | draw _ _ => false

end Event

section Steps

variable [Widget ω] [DecidableEq ι]

/-- The step of a reader whose call has come as far as `c`. -/
def read (r : Readers ω ι) (i : ι) (c : Reading) : Readers ω ι :=
  { r with
    module := (c.next r.module).2.1
    calls := Function.update r.calls i (some (c.next r.module).1)
    history := r.history ++ Event.ofReading i (c.next r.module).1 }

/-- Somebody goes one step further. -/
inductive Step : Readers ω ι → Readers ω ι → Prop where
  /-- A thread broadcasts, wakes the others or halts the module, or it changes the widget, which it
  has taken before. -/
  | act {r : Readers ω ι} (a : Act ω) :
      (∀ widget, a = .work widget → r.holder = some .writer) →
      Step r { r with module := (r.module.act a).1, history := r.history ++ Event.ofAct a }
  /-- The module is started or stopped, its threads come further, signals are sent or taken. None
  of this undoes a halt. -/
  | other {r : Readers ω ι} (control : Control) (main : Option Schedule)
      (workers : List (Worker ω)) (signals : List Signal) :
      (r.module.state = .halted → control.state = .halted) →
      Step r { r with module := { r.module with control, main, workers, signals } }
  | take {r : Readers ω ι} (h : Holder ι) :
      r.holder = none → (∀ i, h = .reader i → r.calls i = some .waiting) →
      Step r { r with holder := some h }
  | letGo {r : Readers ω ι} {h : Holder ι} :
      r.holder = some h → (∀ i c, h = .reader i → r.calls i = some c → c.needsWidget = false) →
      Step r { r with holder := none }
  | call {r : Readers ω ι} {i : ι} :
      r.calls i = none → Step r { r with calls := Function.update r.calls i (some .looking) }
  | read {r : Readers ω ι} {i : ι} {c : Reading} :
      r.calls i = some c → (r.holder = some (.reader i) ↔ c.needsWidget = true) →
      Step r (r.read i c)
  | answer {r : Readers ω ι} {i : ι} {text : String} :
      r.calls i = some (.done text) → r.holder ≠ some (.reader i) →
      Step r { r with calls := Function.update r.calls i none }

abbrev Run : Readers ω ι → Readers ω ι → Prop := ReflTransGen Step

/-! ### Without a break -/

/-- A step of a reader, by what its call comes to. -/
theorem step_next {r : Readers ω ι} {i : ι} {c d : Reading} {m : Module ω} {s : Option Signal}
    (hi : r.calls i = some c) (hholder : r.holder = some (.reader i) ↔ c.needsWidget = true)
    (hnext : c.next r.module = (d, m, s)) :
    Step r { r with
      module := m
      calls := Function.update r.calls i (some d)
      history := r.history ++ Event.ofReading i d } := by
  have hread := Step.read hi hholder
  rwa [read, hnext] at hread

/-- A reader that does not need the widget any more lets it go. -/
theorem step_letGo {r : Readers ω ι} {i : ι} {c : Reading} (hi : r.calls i = some c)
    (hholder : r.holder = some (.reader i)) (hc : c.needsWidget = false) :
    Step r { r with holder := none } := by
  refine .letGo hholder ?_
  rintro j c' ⟨⟩ hj
  rw [hi] at hj
  cases hj
  exact hc

/-- A reader that nobody disturbs takes the mark away. -/
theorem run_claim {r : Readers ω ι} {i : ι} (hi : r.calls i = none) (hfree : r.holder = none)
    (hstale : r.module.isStale = true) :
    Run r { r with
      module := { r.module with changed := false }
      calls := Function.update r.calls i (some .claimed)
      holder := some (.reader i)
      history := r.history ++ [.claim i] } := by
  have hlook : Reading.looking.next r.module = (.waiting, r.module, none) := by
    rw [Reading.next, if_pos hstale]
  have hwait : Reading.waiting.next r.module =
      (.claimed, { r.module with changed := false }, none) := by
    rw [Reading.next, Module.claim?_of_isStale hstale]
  have hcall : Run r { r with calls := Function.update r.calls i (some .looking) } :=
    .single (.call hi)
  have hlooks := hcall.tail (step_next (Function.update_self ..)
    (by simp [hfree, Reading.needsWidget]) hlook)
  have htakes := hlooks.tail (.take (.reader i) hfree (by
    rintro j ⟨⟩
    exact Function.update_self ..))
  have hclaims := htakes.tail (step_next (Function.update_self ..)
    (by simp [Reading.needsWidget]) hwait)
  simpa [Event.ofReading] using hclaims

/-- What was rendered is stored or halts the module. -/
theorem run_settle {r : Readers ω ι} {i : ι} (hi : r.calls i = some .claimed)
    (hholder : r.holder = some (.reader i)) :
    Run r { r with
      module := r.module.render.module.settle r.module.render.text
      calls := Function.update r.calls i none
      holder := none
      history := r.history ++ [.draw i r.module.render.text] } := by
  have hdraw : Run r _ := .single (step_next hi (by simp [hholder, Reading.needsWidget])
    (d := .drawn r.module.render.text) (m := r.module.render.module) (s := none) rfl)
  cases htext : r.module.render.text with
  | ok text =>
    rw [htext] at hdraw
    have hstore := hdraw.tail (step_next (Function.update_self ..)
      (by simp [hholder, Reading.needsWidget])
      (d := .done text) (m := r.module.render.module.settle (.ok text)) (s := none) rfl)
    have hletGo := hstore.tail (step_letGo (Function.update_self ..) hholder rfl)
    have hanswer := hletGo.tail (.answer (i := i) (Function.update_self ..) (by simp))
    simpa [Event.ofReading] using hanswer
  | error e =>
    rw [htext] at hdraw
    have hletGo := hdraw.tail (step_letGo (Function.update_self ..) hholder rfl)
    let m := (r.module.render.module.act (.halt e)).1
    have hhalt := hletGo.tail (step_next (Function.update_self ..)
      (by simp [Reading.needsWidget]) (d := .returning) (m := m)
      (s := (r.module.render.module.act (.halt e)).2) rfl)
    have htold := hhalt.tail
      (.other m.control m.main m.workers (r.module.render.module.fail e).signals id)
    have hreturn := htold.tail (step_next (Function.update_self ..)
      (by simp [Reading.needsWidget]) (d := .done m.cached)
      (m := { m with signals := (r.module.render.module.fail e).signals }) (s := none) rfl)
    have hanswer := hreturn.tail (.answer (i := i) (Function.update_self ..)
      (by simp))
    have hfail : r.module.render.module.settle (.error e) =
        { m with signals := (r.module.render.module.fail e).signals } := by
      simp only [Module.settle, m, ← Module.told_halt]
      rcases r.module.render.module.act (.halt e) with ⟨m, _ | s⟩ <;> rfl
    rw [hfail]
    simpa [Event.ofReading] using hanswer

/-- A reader that nobody disturbs does what `content` does. -/
theorem run_content {r : Readers ω ι} {i : ι} (hi : r.calls i = none) (hfree : r.holder = none) :
    Run r { r with
      module := r.module.content.2
      history := r.history ++ Event.ofContent i r.module } := by
  have hcontent : r.module.content.2 = (r.module.refreshWhile fun _ m => m).2 := rfl
  have hcalls : Function.update r.calls i none = r.calls := by
    rw [← hi, Function.update_eq_self]
  rw [hcontent, Event.ofContent]
  cases hstale : r.module.isStale with
  | false =>
    rw [Module.refreshWhile_of_not_isStale hstale]
    have hlook : Reading.looking.next r.module = (.done r.module.cached, r.module, none) := by
      rw [Reading.next, hstale, if_neg Bool.false_ne_true]
    have hcall : Run r { r with calls := Function.update r.calls i (some .looking) } :=
      .single (.call hi)
    have hdone := hcall.tail (step_next (Function.update_self ..)
      (by simp [hfree, Reading.needsWidget]) hlook)
    have hanswer := hdone.tail (.answer (i := i) (Function.update_self ..) (by simp [hfree]))
    simpa [Event.ofReading, hcalls] using hanswer
  | true =>
    rw [Module.refreshWhile_of_isStale hstale]
    have hsettle := (run_claim hi hfree hstale).trans (run_settle (Function.update_self ..) rfl)
    simpa [hcalls, hfree] using hsettle

end Steps

/-! ### The last rendering -/

structure Attempt (ι : Type) where
  reader : ι
  /-- What has come of it. -/
  output : Option (Except ModuleError String) := none
  /-- Whether there has been a broadcast since it took the mark away. -/
  overtaken : Bool := false

section Latest

variable [DecidableEq ι]

/-- The last attempt when one more thing has happened. -/
def Attempt.next? (last : Option (Attempt ι)) : Event ι → Option (Attempt ι)
  | .broadcast => last.map fun a => { a with overtaken := true }
  | .claim i => some { reader := i }
  | .draw i text => last.map fun a => if a.reader = i then { a with output := some text } else a

/-- The last attempt of a history. -/
def latest (history : List (Event ι)) : Option (Attempt ι) := history.foldl Attempt.next? none

@[simp] theorem latest_append_broadcast (history : List (Event ι)) :
    latest (history ++ [.broadcast]) =
      (latest history).map fun a => { a with overtaken := true } := by
  simp [latest, Attempt.next?]

@[simp] theorem latest_append_claim (history : List (Event ι)) (i : ι) :
    latest (history ++ [.claim i]) = some { reader := i } := by
  simp [latest, Attempt.next?]

/-- A rendering is the output of the last attempt. -/
theorem latest_append_draw {history : List (Event ι)} {a : Attempt ι}
    (h : latest history = some a) (text : Except ModuleError String) :
    latest (history ++ [.draw a.reader text]) = some { a with output := some text } := by
  have hstep : latest (history ++ [.draw a.reader text]) =
      Attempt.next? (latest history) (.draw a.reader text) := by simp [latest]
  rw [hstep, h]
  simp [Attempt.next?]

end Latest

/-! ### The invariant -/

section Invariant

variable [DecidableEq ι]

/-- What holds all the time. -/
structure Coherent (r : Readers ω ι) : Prop where
  /-- Who renders or has rendered, and not yet stored it, has the widget. -/
  holds : ∀ i c, r.calls i = some c → c.holdsWidget = true → r.holder = some (.reader i)
  counts : r.history.countP Event.isClaim + (if r.module.changed then 1 else 0) ≤
    1 + r.history.countP Event.isBroadcast
  /-- The mark is set again by every broadcast that comes after the last attempt. -/
  unmarked : r.module.changed = false → ∃ a, latest r.history = some a ∧ a.overtaken = false
  ends : ∀ a, latest r.history = some a → a.overtaken = false →
    ∃ before, r.history = before ++ .claim a.reader :: a.output.toList.map (.draw a.reader)
  /-- Who has the widget for rendering has made the last attempt. -/
  claimed : ∀ i, r.calls i = some .claimed →
    ∃ a, latest r.history = some a ∧ a.reader = i ∧ a.output = none
  drawn : ∀ i text, r.calls i = some (.drawn (.ok text)) →
    ∃ a, latest r.history = some a ∧ a.reader = i ∧ a.output = some (.ok text)
  /-- The last attempt is still under way, or its text is shown. -/
  pending : ∀ a, latest r.history = some a → a.output = none → r.calls a.reader = some .claimed
  stored : ∀ a text, latest r.history = some a → a.output = some (.ok text) →
    r.calls a.reader = some (.drawn (.ok text)) ∨ r.module.cached = text

/-- Little of a step matters: who renders, and what is marked and shown. -/
theorem Coherent.congr {r r' : Readers ω ι} (h : r.Coherent)
    (hchanged : r'.module.changed = r.module.changed) (hcached : r'.module.cached = r.module.cached)
    (hhistory : r'.history = r.history)
    (hcalls : ∀ i c, c.holdsWidget = true → (r'.calls i = some c ↔ r.calls i = some c))
    (hholder : ∀ i c, r.calls i = some c → c.holdsWidget = true →
      r.holder = some (.reader i) → r'.holder = some (.reader i)) : r'.Coherent where
  holds i c hc hholds := by
    have hc := (hcalls i c hholds).mp hc
    exact hholder i c hc hholds (h.holds i c hc hholds)
  counts := by
    rw [hhistory, hchanged]
    exact h.counts
  unmarked hunmarked := by
    rw [hhistory]
    exact h.unmarked (hchanged ▸ hunmarked)
  ends := by
    rw [hhistory]
    exact h.ends
  claimed i hi := by
    rw [hhistory]
    exact h.claimed i ((hcalls i _ rfl).mp hi)
  drawn i text hi := by
    rw [hhistory]
    exact h.drawn i text ((hcalls i _ rfl).mp hi)
  pending a ha houtput := by
    rw [hhistory] at ha
    exact (hcalls _ _ rfl).mpr (h.pending a ha houtput)
  stored a text ha houtput := by
    rw [hhistory] at ha
    rw [hcached, hcalls _ _ rfl]
    exact h.stored a text ha houtput

/-- There is one holder, so nobody else renders after a step of it. -/
theorem Coherent.eq_of_update {r : Readers ω ι} (h : r.Coherent) {i j : ι}
    (hi : r.holder = some (.reader i)) {o : Option Reading} {c : Reading}
    (hholds : c.holdsWidget = true) (hj : Function.update r.calls i o j = some c) :
    j = i ∧ o = some c := by
  by_cases hji : j = i
  · subst hji
    rw [Function.update_self] at hj
    exact ⟨rfl, hj⟩
  · rw [Function.update_of_ne hji] at hj
    have hholder := h.holds j c hj hholds
    rw [hi] at hholder
    cases hholder
    exact absurd rfl hji

/-- A call goes on, and neither before nor afterwards it renders. -/
theorem Coherent.move {r r' : Readers ω ι} (h : r.Coherent) {i : ι} {o : Option Reading}
    (hbefore : ∀ c, r.calls i = some c → c.holdsWidget = false)
    (hafter : ∀ c, o = some c → c.holdsWidget = false)
    (hcalls : r'.calls = Function.update r.calls i o) (hholder : r'.holder = r.holder)
    (hhistory : r'.history = r.history) (hchanged : r'.module.changed = r.module.changed)
    (hcached : r'.module.cached = r.module.cached) : r'.Coherent := by
  refine h.congr hchanged hcached hhistory (fun j c hholds => ?_) (fun j c _ _ hj => hholder ▸ hj)
  rw [hcalls]
  by_cases hji : j = i
  · subst hji
    rw [Function.update_self]
    constructor
    · intro hc
      rw [hafter c hc] at hholds
      cases hholds
    · intro hc
      rw [hbefore c hc] at hholds
      cases hholds
  · rw [Function.update_of_ne hji]

/-! ### The steps that count -/

/-- **A broadcast sets the mark and overtakes the last attempt.** -/
theorem Coherent.broadcast {r : Readers ω ι} (h : r.Coherent) :
    Coherent { r with
      module := (r.module.act .mark).1, history := r.history ++ [.broadcast] } where
  holds := h.holds
  counts := by
    have hcounts := h.counts
    simp only [Module.act, List.countP_append, List.countP_singleton, Event.isClaim,
      Event.isBroadcast]
    split at hcounts <;> simp <;> omega
  unmarked hunmarked := by cases hunmarked
  ends a ha hovertaken := by
    rw [latest_append_broadcast] at ha
    obtain ⟨a', -, rfl⟩ := Option.map_eq_some_iff.mp ha
    cases hovertaken
  claimed i hi := by
    obtain ⟨a, ha, hreader, houtput⟩ := h.claimed i hi
    exact ⟨{ a with overtaken := true }, by rw [latest_append_broadcast, ha]; rfl, hreader, houtput⟩
  drawn i text hi := by
    obtain ⟨a, ha, hreader, houtput⟩ := h.drawn i text hi
    exact ⟨{ a with overtaken := true }, by rw [latest_append_broadcast, ha]; rfl, hreader, houtput⟩
  pending a ha houtput := by
    rw [latest_append_broadcast] at ha
    obtain ⟨a', ha', rfl⟩ := Option.map_eq_some_iff.mp ha
    exact h.pending a' ha' houtput
  stored a text ha houtput := by
    rw [latest_append_broadcast] at ha
    obtain ⟨a', ha', rfl⟩ := Option.map_eq_some_iff.mp ha
    exact h.stored a' text ha' houtput

/-- A reader takes the mark away. -/
theorem Coherent.claim {r : Readers ω ι} (h : r.Coherent) {i : ι}
    (hi : r.holder = some (.reader i)) (hmarked : r.module.changed = true) :
    Coherent { r with
      module := { r.module with changed := false }
      calls := Function.update r.calls i (some .claimed)
      history := r.history ++ [.claim i] } := by
  have hlatest := latest_append_claim r.history i
  constructor
  · intro j c hj hholds
    obtain ⟨rfl, -⟩ := h.eq_of_update hi hholds hj
    exact hi
  · have hcounts := h.counts
    rw [hmarked, if_pos rfl] at hcounts
    simp only [List.countP_append, List.countP_singleton, Event.isClaim, Event.isBroadcast]
    simp
    omega
  · intro _
    exact ⟨_, hlatest, rfl⟩
  · intro a ha _
    rw [hlatest] at ha
    cases ha
    exact ⟨r.history, rfl⟩
  · intro j hj
    obtain ⟨rfl, -⟩ := h.eq_of_update hi rfl hj
    exact ⟨_, hlatest, rfl, rfl⟩
  · intro j text hj
    obtain ⟨-, hc⟩ := h.eq_of_update hi rfl hj
    cases hc
  · intro a ha _
    rw [hlatest] at ha
    cases ha
    exact Function.update_self ..
  · intro a text ha houtput
    rw [hlatest] at ha
    cases ha
    cases houtput

/-- A reader has rendered. -/
theorem Coherent.draw {r : Readers ω ι} (h : r.Coherent) {i : ι} (hi : r.calls i = some .claimed)
    {m : Module ω} (hchanged : m.changed = r.module.changed)
    (text : Except ModuleError String) :
    Coherent { r with
      module := m
      calls := Function.update r.calls i (some (.drawn text))
      history := r.history ++ [.draw i text] } := by
  have hholder := h.holds i _ hi rfl
  obtain ⟨a, ha, rfl, houtput⟩ := h.claimed i hi
  have hlatest := latest_append_draw ha text
  constructor
  · intro j c hj hholds
    obtain ⟨rfl, -⟩ := h.eq_of_update hholder hholds hj
    exact hholder
  · have hcounts := h.counts
    rw [← hchanged] at hcounts
    simpa [List.countP_append, Event.isClaim, Event.isBroadcast] using hcounts
  · intro hunmarked
    obtain ⟨a', ha', hovertaken⟩ := h.unmarked (hchanged ▸ hunmarked)
    rw [ha] at ha'
    cases ha'
    exact ⟨_, hlatest, hovertaken⟩
  · intro a' ha' hovertaken
    rw [hlatest] at ha'
    cases ha'
    obtain ⟨before, hbefore⟩ := h.ends a ha hovertaken
    refine ⟨before, ?_⟩
    rw [hbefore, houtput]
    simp
  · intro j hj
    obtain ⟨-, hc⟩ := h.eq_of_update hholder rfl hj
    cases hc
  · intro j shown hj
    obtain ⟨rfl, hc⟩ := h.eq_of_update hholder rfl hj
    cases hc
    exact ⟨_, hlatest, rfl, rfl⟩
  · intro a' ha' hnone
    rw [hlatest] at ha'
    cases ha'
    cases hnone
  · intro a' shown ha' hsome
    rw [hlatest] at ha'
    cases ha'
    cases hsome
    exact .inl (Function.update_self ..)

/-- A reader stores the text. -/
theorem Coherent.store {r : Readers ω ι} (h : r.Coherent) {i : ι} {text : String}
    (hi : r.calls i = some (.drawn (.ok text))) :
    Coherent { r with
      module := { r.module with cached := text }
      calls := Function.update r.calls i (some (.done text)) } := by
  have hholder := h.holds i _ hi rfl
  have hnobody {j : ι} {c : Reading} (hholds : c.holdsWidget = true) :
      Function.update r.calls i (some (.done text)) j ≠ some c := by
    intro hj
    obtain ⟨-, hc⟩ := h.eq_of_update hholder hholds hj
    cases hc
    cases hholds
  obtain ⟨a, ha, rfl, houtput⟩ := h.drawn i text hi
  constructor
  · intro j c hj hholds
    exact absurd hj (hnobody hholds)
  · exact h.counts
  · exact h.unmarked
  · exact h.ends
  · intro j hj
    exact absurd hj (hnobody rfl)
  · intro j shown hj
    exact absurd hj (hnobody rfl)
  · intro a' ha' hnone
    rw [ha] at ha'
    cases ha'
    rw [houtput] at hnone
    cases hnone
  · intro a' shown ha' hsome
    rw [ha] at ha'
    cases ha'
    rw [houtput] at hsome
    cases hsome
    exact .inr rfl

/-! ### All steps -/

variable [Widget ω]

omit [DecidableEq ι] in
/-- A reader without the widget takes the mark away, or leaves the content alone. -/
theorem claims_or_leaves (m : Module ω) (i : ι) {c : Reading} (hc : c.holdsWidget = false) :
    c = .waiting ∧ m.changed = true ∨
      (c.next m).1.holdsWidget = false ∧ Event.ofReading i (c.next m).1 = [] ∧
        (c.next m).2.1.changed = m.changed ∧ (c.next m).2.1.cached = m.cached := by
  cases c with
  | looking =>
    right
    rw [Reading.next]
    split <;> exact ⟨rfl, rfl, rfl, rfl⟩
  | waiting =>
    cases hmarked : m.changed with
    | true => exact .inl ⟨rfl, rfl⟩
    | false =>
      right
      simp only [Reading.next, Module.claim?, hmarked]
      exact ⟨rfl, rfl, hmarked, rfl⟩
  | drawn text =>
    cases text with
    | ok text => cases hc
    | error e =>
      exact .inr ⟨rfl, rfl, m.changed_act_halt e, m.cached_act (.halt e)⟩
  | claimed => cases hc
  | returning | done => exact .inr ⟨rfl, rfl, rfl, rfl⟩

/-- **A reader keeps the rest coherent.** If it takes the mark away it makes an attempt of its own,
and if it renders or stores it is still the last that has made one: nobody else has had the widget
since. -/
theorem Coherent.read {r : Readers ω ι} (h : r.Coherent) {i : ι} {c : Reading}
    (hi : r.calls i = some c) (hholder : r.holder = some (.reader i) ↔ c.needsWidget = true) :
    (r.read i c).Coherent := by
  cases hc : c.holdsWidget with
  | false =>
    rcases claims_or_leaves r.module i hc with ⟨rfl, hmarked⟩ | ⟨hafter, hevents, hchanged, hcached⟩
    · have hclaim := h.claim (hholder.mpr rfl) hmarked
      simpa [Readers.read, Reading.next, Module.claim?, hmarked, Event.ofReading] using hclaim
    · refine h.move (i := i) (o := some (c.next r.module).1) ?_ ?_ rfl rfl ?_ hchanged hcached
      · intro c' hc'
        rw [hi] at hc'
        cases hc'
        exact hc
      · intro c' hc'
        cases hc'
        exact hafter
      · rw [Readers.read, hevents, List.append_nil]
  | true =>
    cases c with
    | claimed => exact h.draw hi (Module.changed_render _) _
    | drawn text =>
      cases text with
      | ok text =>
        simpa [Readers.read, Reading.next, Module.settle, Event.ofReading] using h.store hi
      | error e => cases hc
    | looking | waiting | returning | done => cases hc

/-- **Every step keeps what holds all the time.** Apart from broadcasts and readers, none of them
touches what is marked, rendered or shown. -/
theorem Coherent.step {r r' : Readers ω ι} (h : r.Coherent) (hstep : Step r r') :
    r'.Coherent := by
  have hsame (i : ι) (c : Reading) (_ : c.holdsWidget = true) :
      r.calls i = some c ↔ r.calls i = some c := Iff.rfl
  cases hstep with
  | act a hwork =>
    cases a with
    | mark => exact h.broadcast
    | work widget => exact h.congr rfl rfl (List.append_nil _) hsame fun _ _ _ _ hj => hj
    | wake => exact h.congr rfl rfl (List.append_nil _) hsame fun _ _ _ _ hj => hj
    | halt e =>
      exact h.congr (Module.changed_act_halt _ e) (Module.cached_act _ (.halt e))
        (List.append_nil _) hsame fun _ _ _ _ hj => hj
  | other control main workers signals hhalted =>
    exact h.congr rfl rfl rfl hsame fun _ _ _ _ hj => hj
  | take holder hfree _ =>
    refine h.congr rfl rfl rfl hsame fun i c _ _ hj => ?_
    rw [hfree] at hj
    cases hj
  | letGo hheld hdone =>
    refine h.congr rfl rfl rfl hsame fun i c hi hholds hj => ?_
    -- a reader that renders does not let the widget go
    rw [hheld] at hj
    have hneeds := hdone i c (Option.some.inj hj) hi
    rw [Reading.needsWidget_of_holdsWidget hholds] at hneeds
    cases hneeds
  | call hi =>
    refine h.move (fun c hc => ?_) (fun c hc => ?_) rfl rfl rfl rfl rfl
    · rw [hi] at hc
      cases hc
    · cases hc
      rfl
  | read hi hholder => exact h.read hi hholder
  | answer hi _ =>
    refine h.move (fun c hc => ?_) (fun c hc => ?_) rfl rfl rfl rfl rfl
    · rw [hi] at hc
      cases hc
      rfl
    · cases hc

theorem Coherent.run {r r' : Readers ω ι} (h : r.Coherent) (hrun : Run r r') : r'.Coherent := by
  induction hrun with
  | refl => exact h
  | tail _ hstep ih => exact ih.step hstep

omit [Widget ω] in
/-- A module that has just been built is marked. -/
theorem coherent_of_new {construct : Construction ω} {c : Config} {settings : BarSettings}
    {rawName : String} {m : Module ω} (h : Module.new construct c settings rawName = .ok m) :
    Coherent ({ module := m } : Readers ω ι) := by
  obtain ⟨handlesEvents, formats, widget, rfl⟩ := Module.eq_of_new h
  constructor
  · intro i c hi
    cases hi
  · exact Nat.le_refl _
  · intro hunmarked
    cases hunmarked
  · intro a ha
    cases ha
  · intro i hi
    cases hi
  · intro i text hi
    cases hi
  · intro a ha
    cases ha
  · intro a text ha
    cases ha

end Invariant

/-- Whether a reader has begun to render, and not yet stored what has come of it. -/
def IsRendering (r : Readers ω ι) (i : ι) : Prop :=
  ∃ c, r.calls i = some c ∧ c.holdsWidget = true

/-- **Broadcasts survive any interleaving with readers.** -/
theorem broadcasts_survive [Widget ω] [DecidableEq ι] {construct : Construction ω} {c : Config}
    {settings : BarSettings} {rawName : String} {m : Module ω}
    (hnew : Module.new construct c settings rawName = .ok m) {r : Readers ω ι}
    (hrun : Run { module := m } r) :
    (∀ i j, r.IsRendering i → r.IsRendering j → i = j) ∧
    r.history.countP Event.isClaim ≤ 1 + r.history.countP Event.isBroadcast ∧
    ((∀ i, r.calls i = none) → r.module.changed = false →
      ∃ before i text, r.history = before ++ [.claim i, .draw i text] ∧
        ∀ shown, text = .ok shown → r.module.cached = shown) := by
  have h := (coherent_of_new hnew).run hrun
  refine ⟨?_, ?_, ?_⟩
  · rintro i j ⟨ci, hi, hholdsi⟩ ⟨cj, hj, hholdsj⟩
    have hholder := h.holds i ci hi hholdsi
    rw [h.holds j cj hj hholdsj] at hholder
    cases hholder
    rfl
  · have hcounts := h.counts
    omega
  · intro hidle hunmarked
    obtain ⟨a, ha, hovertaken⟩ := h.unmarked hunmarked
    obtain ⟨before, hbefore⟩ := h.ends a ha hovertaken
    cases houtput : a.output with
    | none =>
      have hclaimed := h.pending a ha houtput
      rw [hidle] at hclaimed
      cases hclaimed
    | some text =>
      refine ⟨before, a.reader, text, ?_, ?_⟩
      · rw [hbefore, houtput]
        rfl
      · rintro shown rfl
        rcases h.stored a shown ha houtput with hdrawn | hcached
        · rw [hidle] at hdrawn
          cases hdrawn
        · exact hcached

/-- A broadcast that comes while one reader renders, and a second reader. -/
theorem broadcasts_survive_overlapping :
    let formats : Formats := { entries := [(Formats.defaultName, Template.parse "<label>")] }
    let m : Module TextWidget :=
      { rawName := "a", formats, widget := ⟨{ text := "on" }⟩, markup := .forBar default }
    Module.new (fun _ _ => .ok (m.widget, formats)) {} default "a" = .ok m ∧
      ∃ r : Readers TextWidget Bool, Run { module := m } r ∧
        r.history = [.claim false, .broadcast, .draw false (.ok "on"), .claim true,
          .draw true (.ok "off")] ∧
        r.history.countP Event.isClaim ≤ 1 + r.history.countP Event.isBroadcast ∧
        (∀ i, r.calls i = none) ∧ r.module.changed = false ∧
        ∃ before i text, r.history = before ++ [.claim i, .draw i text] ∧
          ∀ shown, text = .ok shown → r.module.cached = shown := by
  intro formats m
  have hnew : Module.new (fun _ _ => .ok (m.widget, formats)) {} default "a" = .ok m :=
    Module.new_empty ..
  let off : Module TextWidget := { m with widget := ⟨{ text := "off" }⟩, cached := "on" }
  have hon : m.render = { text := .ok "on", asked := ["label"], module := m } := by cbv
  have hclaim : Run ({ module := m } : Readers TextWidget Bool) _ :=
    run_claim (i := false) rfl rfl rfl
  let claimed : Readers TextWidget Bool :=
    { module := m, calls := Function.update (fun _ => none) false (some .claimed)
      holder := some (.reader false), history := [.claim false, .broadcast] }
  have hmark : Run { module := m } claimed := hclaim.tail (.act .mark (by rintro _ ⟨⟩))
  let drawn : Readers TextWidget Bool :=
    { module := { m with cached := "on" }
      history := [.claim false, .broadcast, .draw false (.ok "on")] }
  have hdraw : Run claimed drawn := by
    have hsettle := run_settle (r := claimed) (i := false) rfl rfl
    simpa [claimed, hon, Module.settle] using hsettle
  have htake : Step drawn { drawn with holder := some .writer } :=
    .take .writer rfl (by rintro _ ⟨⟩)
  have hwork := (ReflTransGen.single htake).tail (.act (.work off.widget) fun _ _ => rfl)
  have hletGo := hwork.tail (.letGo rfl (by rintro _ _ ⟨⟩))
  have hcontent : off.content.2 = { off with changed := false, cached := "off" } := by cbv
  have hadds : Event.ofContent true off = [.claim true, .draw true (.ok "off")] := by cbv
  have hread := hletGo.trans (run_content (r := { drawn with module := off }) (i := true) rfl rfl)
  simp only [hcontent, hadds] at hread
  have hrun := (hmark.trans hdraw).trans hread
  obtain ⟨-, hcounts, hlast⟩ := broadcasts_survive hnew hrun
  exact ⟨hnew, _, hrun, rfl, hcounts, fun _ => rfl, rfl, hlast (fun _ => rfl) rfl⟩

end Readers

end StatusBar
