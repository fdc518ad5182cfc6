import StatusBar.Proofs.Readers

/-!
# What a halted module still renders

A reader looks twice before it renders, and only the first look asks whether the module is halted.
Between the two it waits for the widget. So a reader that waits when the module is halted is not
stopped by that: it may take the mark away and render. It does so once at most, because its next
call ends at the first look (`Since`).

Nobody else begins to render (`frozen_iff_nobody_waits`).
-/

namespace StatusBar

open Relation (ReflTransGen)

namespace Module

variable {ω : Type}

theorem isStale_of_halted {m : Module ω} (h : m.state = .halted) : m.isStale = false := by
  simp [isStale, h]

/-- Nothing that is done to a halted module brings it back. -/
theorem state_act_of_halted {m : Module ω} (h : m.state = .halted) (a : Act ω) :
    (m.act a).1.state = .halted := by
  rcases state_act m a with hkeep | hhalt
  · rw [hkeep, h]
  · exact hhalt

@[simp] theorem cached_render [Widget ω] (m : Module ω) : m.render.module.cached = m.cached := by
  unfold render
  split <;> rfl

end Module

namespace Reading

variable {ω : Type} [Widget ω]

theorem state_next_of_halted {m : Module ω} (h : m.state = .halted) (c : Reading) :
    (c.next m).2.1.state = .halted := by
  have hterminal : m.state.isTerminal = true := by
    rw [h]
    rfl
  rw [((Module.fate_next m c).goesOn (.inr hterminal)).1, h]

/-- Nobody comes to wait for the widget of a halted module. -/
theorem next_ne_waiting {m : Module ω} (h : m.state = .halted) (c : Reading) :
    (c.next m).1 ≠ .waiting := by
  cases c with
  | looking => simp [next, Module.isStale_of_halted h]
  | waiting =>
    rw [next]
    split <;> simp
  | claimed | returning | done => simp [next]
  | drawn text => cases text <;> simp [next]

/-- Only who has waited takes the mark away. -/
theorem eq_waiting_of_next {m : Module ω} {c : Reading} (h : (c.next m).1 = .claimed) :
    c = .waiting := by
  cases c with
  | waiting => rfl
  | looking =>
    rw [next] at h
    split at h <;> cases h
  | drawn text => cases text <;> cases h
  | claimed | returning | done => cases h

/-- Who renders after a step has just taken the mark away, or has rendered before. -/
theorem holdsWidget_of_next {m : Module ω} {c : Reading} (h : (c.next m).1.holdsWidget = true) :
    (c.next m).1 = .claimed ∨ c.holdsWidget = true := by
  cases c with
  | looking =>
    rw [next] at h
    split at h <;> cases h
  | waiting =>
    cases hmarked : m.changed with
    | true => exact .inl (by simp [next, Module.claim?, hmarked])
    | false =>
      have hdone : waiting.next m = (done m.cached, m, none) := by
        simp [next, Module.claim?, hmarked]
      rw [hdone] at h
      cases h
  | claimed => exact .inr rfl
  | drawn text => cases text <;> cases h
  | returning | done => cases h

end Reading

namespace Readers

variable {ω ι : Type}

/-- The readers that have begun to render, in order. -/
def claimants (history : List (Event ι)) : List ι :=
  history.filterMap fun
    | .claim i => some i
    | .broadcast | .draw _ _ => none

@[simp] theorem claimants_append (before later : List (Event ι)) :
    claimants (before ++ later) = claimants before ++ claimants later := by
  simp [claimants]

@[simp] theorem claimants_ofAct (a : Act ω) : claimants (Event.ofAct (ι := ι) a) = [] := by
  cases a <;> rfl

theorem claimants_ofReading (i : ι) {c : Reading} (h : c ≠ .claimed) :
    claimants (Event.ofReading i c) = [] := by
  cases c with
  | claimed => exact absurd rfl h
  | looking | waiting | drawn | returning | done => rfl

variable [Widget ω] [DecidableEq ι]

/-- From `r` on, only the readers in `late` begin to render, and each of them once. What is shown
changes by their renderings and by those under way at `r`, and by nothing else. -/
structure FrozenBut (r : Readers ω ι) (late : ι → Prop) : Prop where
  begins : ∀ r', Run r r' → ∃ later, r'.history = r.history ++ later ∧
    (claimants later).Nodup ∧ ∀ i ∈ claimants later, late i
  shows : ∀ w w', Run r w → Step w w' → w'.module.cached ≠ w.module.cached →
    ∃ i text, (r.IsRendering i ∨ late i) ∧ w.calls i = some (.drawn (.ok text)) ∧
      w'.module.cached = text

/-- From `r` on nobody begins to render. -/
abbrev IsFrozen (r : Readers ω ι) : Prop := r.FrozenBut fun _ => False

/-! ### After a halt -/

/-- How it stands when the module has been halted at `r`, or before. -/
structure Since (r r' : Readers ω ι) : Prop where
  halted : r'.module.state = .halted
  waits : ∀ i, r'.calls i = some .waiting → r.calls i = some .waiting
  renders : ∀ i, r'.IsRendering i → r.IsRendering i ∨ r.calls i = some .waiting
  /-- Who has begun to render has waited before, and does not wait again. -/
  begun : ∃ later, r'.history = r.history ++ later ∧ (claimants later).Nodup ∧
    ∀ i ∈ claimants later, r.calls i = some .waiting ∧ r'.calls i ≠ some .waiting

omit [Widget ω] [DecidableEq ι] in
theorem Since.refl {r : Readers ω ι} (h : r.module.state = .halted) : Since r r where
  halted := h
  waits _ hi := hi
  renders _ hi := .inl hi
  begun := ⟨[], by simp, List.nodup_nil, by simp [claimants]⟩

omit [Widget ω] [DecidableEq ι] in
/-- Nobody begins to render, and nobody comes to wait. -/
theorem Since.keep {r w w' : Readers ω ι} (h : Since r w) (hhalted : w'.module.state = .halted)
    {more : List (Event ι)} (hmore : claimants more = [])
    (hhistory : w'.history = w.history ++ more)
    (hwaits : ∀ i, w'.calls i = some .waiting → w.calls i = some .waiting)
    (hrenders : ∀ i, w'.IsRendering i → w.IsRendering i) : Since r w' where
  halted := hhalted
  waits i hi := h.waits i (hwaits i hi)
  renders i hi := h.renders i (hrenders i hi)
  begun := by
    obtain ⟨later, hlater, hnodup, hbegun⟩ := h.begun
    refine ⟨later ++ more, by rw [hhistory, hlater, List.append_assoc], ?_, ?_⟩
    · rwa [claimants_append, hmore, List.append_nil]
    · intro i hi
      rw [claimants_append, hmore, List.append_nil] at hi
      exact ⟨(hbegun i hi).1, fun hw => (hbegun i hi).2 (hwaits i hw)⟩

omit [Widget ω] in
/-- A call goes on, but not to wait, and not to begin to render. -/
theorem Since.move {r w w' : Readers ω ι} (h : Since r w) {i : ι} {o : Option Reading}
    (hhalted : w'.module.state = .halted) (hcalls : w'.calls = Function.update w.calls i o)
    (hwaits : o ≠ some .waiting)
    (hrenders : ∀ c, o = some c → c.holdsWidget = true → w.IsRendering i)
    {more : List (Event ι)} (hmore : claimants more = [])
    (hhistory : w'.history = w.history ++ more) : Since r w' := by
  refine h.keep hhalted hmore hhistory (fun j hj => ?_) ?_
  · rw [hcalls] at hj
    by_cases hji : j = i
    · subst hji
      rw [Function.update_self] at hj
      exact absurd hj hwaits
    · rwa [Function.update_of_ne hji] at hj
  · rintro j ⟨c, hc, hholds⟩
    rw [hcalls] at hc
    by_cases hji : j = i
    · subst hji
      rw [Function.update_self] at hc
      exact hrenders c hc hholds
    · rw [Function.update_of_ne hji] at hc
      exact ⟨c, hc, hholds⟩

omit [Widget ω] in
/-- A reader that has waited takes the mark away. -/
theorem Since.claim {r w : Readers ω ι} (h : Since r w) {i : ι} (hi : w.calls i = some .waiting)
    {m : Module ω} (hhalted : m.state = .halted) :
    Since r { w with
      module := m
      calls := Function.update w.calls i (some .claimed)
      history := w.history ++ [.claim i] } where
  halted := hhalted
  waits j hj := by
    by_cases hji : j = i
    · subst hji
      simp at hj
    · exact h.waits j (by simpa [hji] using hj)
  renders j := by
    rintro ⟨c, hc, hholds⟩
    by_cases hji : j = i
    · subst hji
      exact .inr (h.waits j hi)
    · exact h.renders j ⟨c, by simpa [hji] using hc, hholds⟩
  begun := by
    obtain ⟨later, hlater, hnodup, hbegun⟩ := h.begun
    have hnew : i ∉ claimants later := fun hmem => (hbegun i hmem).2 hi
    refine ⟨later ++ [.claim i], by rw [hlater, List.append_assoc], ?_, ?_⟩
    · rw [claimants_append]
      exact hnodup.append (List.nodup_singleton i) (by simpa [claimants] using hnew)
    · intro j hj
      rw [claimants_append, List.mem_append] at hj
      by_cases hji : j = i
      · subst hji
        exact ⟨h.waits j hi, by simp⟩
      · rcases hj with hj | hj
        · exact ⟨(hbegun j hj).1, by simpa [hji] using (hbegun j hj).2⟩
        · exact absurd (by simpa [claimants] using hj) hji

/-- A reader that comes further after the halt adds at most itself to those who have begun, and then
does not wait again. -/
theorem Since.read {r w : Readers ω ι} (h : Since r w) {i : ι} {c : Reading}
    (hi : w.calls i = some c) : Since r (w.read i c) := by
  have hhalted := Reading.state_next_of_halted h.halted c
  by_cases hclaimed : (c.next w.module).1 = .claimed
  · obtain rfl := Reading.eq_waiting_of_next hclaimed
    rw [Readers.read, hclaimed]
    exact h.claim hi hhalted
  · refine h.move (i := i) (o := some (c.next w.module).1) hhalted rfl ?_ ?_
      (claimants_ofReading i hclaimed) rfl
    · exact fun hwaits => Reading.next_ne_waiting h.halted c (Option.some.inj hwaits)
    · rintro _ ⟨⟩ hholds
      exact ⟨c, hi, (Reading.holdsWidget_of_next hholds).resolve_left hclaimed⟩

/-- Every step after the halt keeps to this. -/
theorem Since.step {r w w' : Readers ω ι} (h : Since r w) (hstep : Step w w') : Since r w' := by
  cases hstep with
  | act a hwork =>
    exact h.keep (Module.state_act_of_halted h.halted a) (claimants_ofAct a) rfl
      (fun _ hi => hi) (fun _ hi => hi)
  | other control main workers signals hhalted =>
    exact h.keep (hhalted h.halted) rfl (List.append_nil _).symm (fun _ hi => hi) (fun _ hi => hi)
  | take | letGo =>
    exact h.keep h.halted rfl (List.append_nil _).symm (fun _ hi => hi) (fun _ hi => hi)
  | call hi =>
    refine h.move (o := some .looking) h.halted rfl (by simp) ?_ rfl (List.append_nil _).symm
    rintro _ ⟨⟩ ⟨⟩
  | read hi _ => exact h.read hi
  | answer hi _ =>
    exact h.move (o := none) h.halted rfl (by simp) (by rintro _ ⟨⟩) rfl (List.append_nil _).symm

theorem Since.run {r w : Readers ω ι} (h : r.module.state = .halted) (hrun : Run r w) :
    Since r w := by
  induction hrun with
  | refl => exact .refl h
  | tail _ hstep ih => exact ih.step hstep

/-- What is shown changes only when somebody stores what has been rendered. -/
theorem exists_drawn_of_cached_ne {w w' : Readers ω ι} (hstep : Step w w')
    (hcached : w'.module.cached ≠ w.module.cached) :
    ∃ i text, w.calls i = some (.drawn (.ok text)) ∧ w'.module.cached = text := by
  cases hstep with
  | act a _ => exact absurd (Module.cached_act _ a) hcached
  | other | take | letGo | call | answer => exact absurd rfl hcached
  | @read i c hi _ =>
    cases c with
    | drawn text =>
      cases text with
      | ok text => exact ⟨i, text, hi, rfl⟩
      | error e => exact absurd (Module.cached_act _ (.halt e)) hcached
    | claimed => exact absurd (Module.cached_render _) hcached
    | looking =>
      simp only [Readers.read, Reading.next] at hcached
      split at hcached <;> exact absurd rfl hcached
    | waiting =>
      simp only [Readers.read, Reading.next, Module.claim?] at hcached
      cases hmarked : w.module.changed <;> simp [hmarked] at hcached
    | returning | done => exact absurd rfl hcached

/-- **After a halt nobody begins to render but those who wait already.** -/
theorem frozenBut_of_halted {r : Readers ω ι} (h : r.module.state = .halted) :
    r.FrozenBut fun i => r.calls i = some .waiting where
  begins r' hrun := by
    obtain ⟨later, hlater, hnodup, hbegun⟩ := (Since.run h hrun).begun
    exact ⟨later, hlater, hnodup, fun i hi => (hbegun i hi).1⟩
  shows w w' hrun hstep hcached := by
    obtain ⟨i, text, hi, htext⟩ := exists_drawn_of_cached_ne hstep hcached
    exact ⟨i, text, (Since.run h hrun).renders i ⟨_, hi, rfl⟩, hi, htext⟩

/-! ### A reader that waits is not stopped -/

/-- Whoever has the widget lets it go. A call of `i` has come no further by then. -/
structure Frees (i : ι) (r r' : Readers ω ι) : Prop where
  run : Run r r'
  free : r'.holder = none
  call : r'.calls i = r.calls i
  history : ∃ later, r'.history = r.history ++ later

theorem exists_frees_of_letGo {r : Readers ω ι} {h : Holder ι} (hheld : r.holder = some h)
    (hdone : ∀ j c, h = .reader j → r.calls j = some c → c.needsWidget = false) (i : ι) :
    ∃ r', Frees i r r' :=
  ⟨{ r with holder := none }, .single (.letGo hheld hdone), rfl, rfl, [], (List.append_nil _).symm⟩

/-- A reader at the widget takes a step before. -/
theorem exists_frees_of_read {r : Readers ω ι} {i j : ι} {c : Reading} (hij : i ≠ j)
    (hj : r.calls j = some c) (hheld : r.holder = some (.reader j)) (hc : c.needsWidget = true)
    (h : ∃ r', Frees i (r.read j c) r') : ∃ r', Frees i r r' := by
  obtain ⟨r', hfrees⟩ := h
  obtain ⟨later, hlater⟩ := hfrees.history
  refine ⟨r', .head (.read hj (by simp [hheld, hc])) hfrees.run, hfrees.free, ?_, ?_⟩
  · rw [hfrees.call]
    exact Function.update_of_ne hij ..
  · exact ⟨_, by rw [hlater, Readers.read, List.append_assoc]⟩

/-- A reader that renders comes to its end and frees the widget, without the help of the one who
waits. -/
theorem exists_frees_of_reader {r : Readers ω ι} {i j : ι} (hij : i ≠ j)
    (hheld : r.holder = some (.reader j)) (hj : r.calls j ≠ some .waiting) :
    ∃ r', Frees i r r' := by
  have hends (w : Readers ω ι) (hholds : w.holder = some (.reader j)) {o : Option Reading}
      (ho : w.calls j = o) (hdone : ∀ c, o = some c → c.needsWidget = false) :
      ∃ r', Frees i w r' := by
    refine exists_frees_of_letGo hholds ?_ i
    rintro _ c ⟨⟩ hc
    exact hdone c (ho ▸ hc)
  have hstores (w : Readers ω ι) (hholds : w.holder = some (.reader j)) {text : String}
      (hdrawn : w.calls j = some (.drawn (.ok text))) : ∃ r', Frees i w r' := by
    apply exists_frees_of_read hij hdrawn hholds rfl
    exact hends _ hholds (Function.update_self ..) (by rintro _ ⟨⟩; rfl)
  cases hcall : r.calls j with
  | none => exact hends r hheld hcall (by rintro _ ⟨⟩)
  | some c =>
    cases c with
    | waiting => exact absurd hcall hj
    | claimed =>
      apply exists_frees_of_read hij hcall hheld rfl
      have hdraws : (r.read j .claimed).calls j = some (.drawn r.module.render.text) :=
        Function.update_self ..
      cases htext : r.module.render.text with
      | ok text => exact hstores _ hheld (htext ▸ hdraws)
      | error e =>
        rw [htext] at hdraws
        exact hends _ hheld hdraws (by rintro _ ⟨⟩; rfl)
    | drawn text =>
      cases text with
      | ok text => exact hstores r hheld hcall
      | error e => exact hends r hheld hcall (by rintro _ ⟨⟩; rfl)
    | looking | returning | done => exact hends r hheld hcall (by rintro _ ⟨⟩; rfl)

/-- When somebody waits, then sooner or later somebody who waits may have the widget. -/
theorem exists_waiting_at_widget {r : Readers ω ι} {i : ι} (hi : r.calls i = some .waiting) :
    ∃ r' j later, Run r r' ∧ r'.calls j = some .waiting ∧ r'.holder = some (.reader j) ∧
      r'.history = r.history ++ later := by
  have htake (h : ∃ w, Frees i r w) :
      ∃ r' j later, Run r r' ∧ r'.calls j = some .waiting ∧ r'.holder = some (.reader j) ∧
        r'.history = r.history ++ later := by
    obtain ⟨w, hrun, hfree, hcall, later, hlater⟩ := h
    rw [hi] at hcall
    refine ⟨{ w with holder := some (.reader i) }, i, later, hrun.tail (.take _ hfree ?_), hcall,
      rfl, hlater⟩
    rintro _ ⟨⟩
    exact hcall
  cases hholder : r.holder with
  | none => exact htake ⟨r, .refl, hholder, rfl, [], (List.append_nil _).symm⟩
  | some h =>
    cases h with
    | writer => exact htake (exists_frees_of_letGo hholder (by rintro _ _ ⟨⟩) i)
    | reader j =>
      by_cases hj : r.calls j = some .waiting
      · exact ⟨r, j, [], .refl, hj, hholder, (List.append_nil _).symm⟩
      · have hij : i ≠ j := by
          rintro rfl
          exact hj hi
        exact htake (exists_frees_of_reader hij hholder hj)

/-- A reader that waits makes sure that somebody begins to render, be it this reader or another. -/
theorem exists_claim_of_waiting {r : Readers ω ι} {i : ι} (hi : r.calls i = some .waiting) :
    ∃ r' j later, Run r r' ∧ r'.history = r.history ++ later ∧ j ∈ claimants later := by
  obtain ⟨w, j, later, hrun, hj, hheld, hlater⟩ := exists_waiting_at_widget hi
  have hmark := hrun.tail (.act .mark (by rintro _ ⟨⟩))
  have hclaim := hmark.tail (step_next hj (by simp [hheld, Reading.needsWidget])
    (d := .claimed) (m := { w.module with changed := false }) (s := none) rfl)
  refine ⟨_, j, later ++ [.broadcast, .claim j], hclaim, ?_, by simp [claimants]⟩
  simp [hlater, Event.ofAct, Event.ofReading]

/-- **A halted module is frozen unless a reader waits.** The readers that wait when it is halted may
render once more each, and nobody else may. -/
theorem frozen_iff_nobody_waits {r : Readers ω ι} (hhalted : r.module.state = .halted) :
    (∀ r', Run r r' → r'.module.state = .halted) ∧
    r.FrozenBut (fun i => r.calls i = some .waiting) ∧
    (r.IsFrozen ↔ ∀ i, r.calls i ≠ some .waiting) := by
  have hfrozen := frozenBut_of_halted hhalted
  refine ⟨fun r' hrun => (Since.run hhalted hrun).halted, hfrozen, ?_, ?_⟩
  · intro h i hi
    obtain ⟨r', j, later, hrun, hlater, hj⟩ := exists_claim_of_waiting hi
    obtain ⟨later', hlater', -, hnobody⟩ := h.begins r' hrun
    rw [hlater, List.append_cancel_left_eq] at hlater'
    exact hnobody j (hlater' ▸ hj)
  · intro h
    constructor
    · intro r' hrun
      obtain ⟨later, hlater, hnodup, hlate⟩ := hfrozen.begins r' hrun
      exact ⟨later, hlater, hnodup, fun i hi => h i (hlate i hi)⟩
    · intro w w' hrun hstep hcached
      obtain ⟨i, text, hi, htext⟩ := hfrozen.shows w w' hrun hstep hcached
      exact ⟨i, text, .inl (hi.resolve_right (h i)), htext⟩

/-- The module is halted while a reader renders, and nobody waits. -/
theorem frozen_iff_nobody_waits_rendering :
    let r : Readers TextWidget Bool := {
      module := { rawName := "a", formats := {}, widget := ⟨{}⟩, markup := .forBar default
                  control := { state := .halted, reason := some "enough" } }
      calls := Function.update (fun _ => none) false (some .claimed)
      holder := some (.reader false) }
    r.module.state = .halted ∧ r.IsRendering false ∧ r.IsFrozen := by
  intro r
  have hrendering : r.IsRendering false := ⟨.claimed, rfl, rfl⟩
  refine ⟨rfl, hrendering, (frozen_iff_nobody_waits rfl).2.2.mpr ?_⟩
  intro i
  cases i <;> simp [r, Function.update]

/-- The module is halted while a reader waits. The reader renders all the same, and what it has
rendered is shown. -/
theorem waiting_reader_renders :
    let formats : Formats := { entries := [(Formats.defaultName, Template.parse "<label>")] }
    let m : Module TextWidget :=
      { rawName := "a", formats, widget := ⟨{ text := "on" }⟩, markup := .forBar default }
    let r : Readers TextWidget Bool := {
      module := { m with control := { state := .halted, reason := some "enough" } }
      calls := Function.update (fun _ => none) false (some .waiting) }
    Module.new (fun _ _ => .ok (m.widget, formats)) {} default "a" = .ok m ∧
      Run { module := m } r ∧ r.module.state = .halted ∧ (∀ i, ¬ r.IsRendering i) ∧
      r.module.cached = "" ∧ ¬ r.IsFrozen ∧
      ∃ r', Run r r' ∧ r'.history = [.claim false, .draw false (.ok "on")] ∧
        r'.module.cached = "on" := by
  intro formats m r
  have hlook : Run ({ module := m } : Readers TextWidget Bool)
      { module := m, calls := Function.update (fun _ => none) false (some .waiting) } := by
    have hcall : Run ({ module := m } : Readers TextWidget Bool) _ :=
      .single (.call (i := false) rfl)
    have hlooks := hcall.tail (step_next (Function.update_self ..) (by simp [Reading.needsWidget])
      (d := .waiting) (m := m) (s := none) rfl)
    simpa [Event.ofReading] using hlooks
  have hhalt : Run { module := m } r :=
    hlook.tail (.act (.halt (.failed "enough")) (by rintro _ ⟨⟩))
  have hidle : ∀ i, ¬ r.IsRendering i := by
    rintro (_ | _) ⟨c, hc, hholds⟩
    · cases hc
      cases hholds
    · cases hc
  let claimed : Readers TextWidget Bool :=
    { module := { r.module with changed := false }
      calls := Function.update (fun _ => none) false (some .claimed)
      holder := some (.reader false), history := [.claim false] }
  have hclaim : Run r claimed := by
    have htake : Run r { r with holder := some (.reader false) } :=
      .single (.take _ rfl (by rintro _ ⟨⟩; rfl))
    have hclaims := htake.tail (step_next (i := false) rfl (by simp [Reading.needsWidget])
      (d := .claimed) (m := { r.module with changed := false }) (s := none) rfl)
    simpa [r, claimed, Event.ofReading] using hclaims
  have hon : claimed.module.render =
      { text := .ok "on", asked := ["label"], module := claimed.module } := by cbv
  have hsettle := run_settle (r := claimed) (i := false) rfl rfl
  rw [hon] at hsettle
  have hrun := hclaim.trans hsettle
  refine ⟨Module.new_empty .., hhalt, rfl, hidle, rfl, ?_, _, hrun, rfl, rfl⟩
  intro h
  obtain ⟨later, hlater, -, hnobody⟩ := h.begins _ hrun
  obtain rfl : [.claim false, .draw false (.ok "on")] = later := hlater
  exact hnobody false (by simp [claimants])

end Readers

end StatusBar
