import StatusBar.Proofs.Names

/-!
# To whom an action goes

An action names its target, and the slots of this name are asked in the order of the bar until one
takes the action. What a slot makes of it is one of four things (`Slot.Answers`), and all that is
known of a slot follows from that. `Bar.Routes` says what comes of an action for every slot of the
bar, for the answer and for the signals; it holds as long as no widget panics
(`input_reaches_first_willing`).
-/

namespace StatusBar

open Clock (Moment)

namespace Slot

variable {ω : Type} {now : Moment} {target action data : String}

/-- The slot takes no action at all. -/
inductive Refuses : Slot ω → Prop where
  | failed (m : FailedModule) : Refuses (.failed m)
  | halted {m : Module ω} : m.state = .halted → Refuses (.live m)
  /-- The module is configured not to handle events. -/
  | deaf {m : Module ω} : m.handlesEvents = false → Refuses (.live m)

theorem refuses_of_not_accepts {m : Module ω} (h : m.accepts = false) : (live m).Refuses := by
  rw [Module.accepts, Bool.and_eq_false_iff] at h
  rcases h with hevents | hstate
  · exact .deaf hevents
  · exact .halted (by simpa using hstate)

theorem not_accepts_of_refuses {m : Module ω} (h : (live m).Refuses) : m.accepts = false := by
  cases h with
  | halted hhalted => simp [Module.accepts, hhalted]
  | deaf hevents => simp [Module.accepts, hevents]

variable [Widget ω]

/-- What a slot that is asked makes of an action. -/
inductive Answers (now : Moment) (action data : String) :
    Slot ω → Reaction (Slot ω) Panic Bool → Prop where
  | refused {s : Slot ω} : s.Refuses → Answers now action data s ⟨s, .ok false⟩
  /-- The widget is asked, and does not know the action. -/
  | unknown {m : Module ω} {widget : ω} : m.accepts = true →
      Widget.input m.widget now action data = ⟨widget, .ok false⟩ →
      Answers now action data (live m) ⟨live { m with widget }, .ok false⟩
  /-- The widget knows the action. The module is marked and tells the host. -/
  | taken {m : Module ω} {widget : ω} : m.accepts = true →
      Widget.input m.widget now action data = ⟨widget, .ok true⟩ →
      Answers now action data (live m) ⟨live { m with
        widget, changed := true, signals := m.signals ++ [.changed m.name] }, .ok true⟩
  | panicked {m : Module ω} {widget : ω} {p : Panic} : m.accepts = true →
      Widget.input m.widget now action data = ⟨widget, .error p⟩ →
      Answers now action data (live m) ⟨live { m with widget }, .error p⟩

/-- **How a slot answers an action**, by what its module does with it. -/
theorem answers_input (now : Moment) (action data : String) (s : Slot ω) :
    s.Answers now action data (s.input now action data) := by
  cases s with
  | failed m => exact .refused (.failed m)
  | live m =>
    rw [input, Module.input_eq]
    cases haccepts : m.accepts with
    | false => exact .refused (refuses_of_not_accepts haccepts)
    | true =>
      simp only [if_true, Module.handle]
      rcases hinput : Widget.input m.widget now action data with ⟨widget, p | _ | _⟩
      · exact .panicked haccepts hinput
      · exact .unknown haccepts hinput
      · exact .taken haccepts hinput

variable {s : Slot ω} {r : Reaction (Slot ω) Panic Bool}

/-- Without a panic, the answer is whether the slot takes the action. -/
theorem Answers.result (h : s.Answers now action data r) (hsafe : ∀ p, r.result ≠ .error p) :
    r.result = .ok (s.takes now action data) := by
  cases h with
  | refused hrefuses =>
    cases s with
    | failed m => rfl
    | live m => simp [takes, not_accepts_of_refuses hrefuses]
  | unknown haccepts hinput | taken haccepts hinput => simp [takes, haccepts, hinput]
  | @panicked m widget p => exact absurd rfl (hsafe p)

theorem Answers.state_of_refuses (h : s.Answers now action data r) (hrefuses : s.Refuses) :
    r.state = s := by
  cases h with
  | refused => rfl
  | unknown haccepts _ | taken haccepts _ | panicked haccepts _ =>
    rw [not_accepts_of_refuses hrefuses] at haccepts
    cases haccepts

theorem not_takes_of_refuses (h : s.Refuses) : s.takes now action data = false := by
  cases s with
  | failed m => rfl
  | live m => simp [takes, not_accepts_of_refuses h]

/-- Only a slot that takes the action sends a signal, and only one. -/
theorem Answers.signals (h : s.Answers now action data r) (hsafe : ∀ p, r.result ≠ .error p) :
    r.state.signals =
      s.signals ++ if s.takes now action data then [.changed s.name] else [] := by
  have hresult := h.result hsafe
  cases h with
  | refused | unknown =>
    rw [← Except.ok.inj hresult]
    exact (List.append_nil _).symm
  | taken =>
    rw [← Except.ok.inj hresult]
    rfl
  | panicked => cases hresult

/-- Whether the slot would take an action for a target if it were asked. -/
def isWilling (now : Moment) (target action data : String) (s : Slot ω) : Bool :=
  s.rawName == target && s.takes now action data

end Slot

namespace Bar

variable {ω : Type} [Widget ω] {now : Moment} {target action data : String}

/-! ### One round -/

/-- An offer to the first slot goes on to the rest if it is not willing. -/
theorem offer_cons {s : Slot ω} {rest : List (Slot ω)}
    (hsafe : s.rawName = target → ∀ p, (s.input now action data).result ≠ .error p) :
    offer now target action data (s :: rest) =
      if s.isWilling now target action data then
        ⟨(s.input now action data).state :: rest, .ok true⟩
      else
        let r := offer now target action data rest
        ⟨(if s.rawName = target then (s.input now action data).state else s) :: r.state,
          r.result⟩ := by
  rw [offer]
  by_cases hname : s.rawName = target
  · have hresult := (s.answers_input now action data).result (hsafe hname)
    have hwilling : s.isWilling now target action data = s.takes now action data := by
      simp [Slot.isWilling, hname]
    rw [if_neg (not_not.mpr hname), if_pos hname, hwilling]
    rcases hinput : s.input now action data with ⟨s', r⟩
    rw [hinput] at hresult
    obtain rfl : r = _ := hresult
    cases s.takes now action data <;> rfl
  · have hwilling : s.isWilling now target action data = false := by
      simp [Slot.isWilling, hname]
    rw [if_pos hname, if_neg hname, hwilling]
    rfl

variable {slots : List (Slot ω)}
  (hsafe : ∀ s ∈ slots, s.rawName = target → ∀ p, (s.input now action data).result ≠ .error p)

include hsafe

/-- The slots after an action. Whether a slot is asked depends on those in front of it. -/
theorem getElem?_offer (i : Nat) :
    (offer now target action data slots).state[i]? = slots[i]?.map fun s =>
      if s.rawName = target ∧ (slots.take i).any (·.isWilling now target action data) = false then
        (s.input now action data).state
      else s := by
  induction slots generalizing i with
  | nil => rfl
  | cons s rest ih =>
    rw [List.forall_mem_cons] at hsafe
    rw [offer_cons hsafe.1]
    cases hwilling : s.isWilling now target action data with
    | true =>
      have hname : s.rawName = target := by
        rw [Slot.isWilling, Bool.and_eq_true, beq_iff_eq] at hwilling
        exact hwilling.1
      -- nobody behind it is asked
      cases i with
      | zero => simp [hname]
      | succ i => simp [hwilling]
    | false =>
      cases i with
      | zero => simp
      | succ i => simpa [hwilling] using ih hsafe.2 i

/-- An offer is taken if one of the slots is willing to. -/
theorem result_offer :
    (offer now target action data slots).result =
      .ok (slots.any (·.isWilling now target action data)) := by
  induction slots with
  | nil => rfl
  | cons s rest ih =>
    rw [List.forall_mem_cons] at hsafe
    rw [offer_cons hsafe.1, List.any_cons]
    cases s.isWilling now target action data with
    | true => rfl
    | false => exact ih hsafe.2

/-- One signal is sent if the action is taken, and none otherwise. -/
theorem signals_offer :
    ((offer now target action data slots).state.flatMap Slot.signals).Perm
      (slots.flatMap Slot.signals ++
        if slots.any (·.isWilling now target action data) then
          [.changed (Module.fullName target)] else []) := by
  induction slots with
  | nil => exact .nil
  | cons s rest ih =>
    rw [List.forall_mem_cons] at hsafe
    have hown (hname : s.rawName = target) :=
      (s.answers_input now action data).signals (hsafe.1 hname)
    rw [offer_cons hsafe.1, List.any_cons]
    cases hwilling : s.isWilling now target action data with
    | true =>
      rw [Slot.isWilling, Bool.and_eq_true, beq_iff_eq] at hwilling
      obtain ⟨hname, htakes⟩ := hwilling
      have hinput : (s.input now action data).state.signals =
          s.signals ++ [.changed (Module.fullName target)] := by
        rw [hown hname, htakes, Slot.name_eq, hname]
        rfl
      simp only [Bool.true_or, if_true, List.flatMap_cons, hinput, List.append_assoc]
      exact (List.perm_append_comm).append_left s.signals
    | false =>
      have hkeep :
          (if s.rawName = target then (s.input now action data).state else s).signals =
            s.signals := by
        split
        · rename_i hname
          have htakes : s.takes now action data = false := by
            simpa [Slot.isWilling, hname] using hwilling
          rw [hown hname, htakes]
          exact List.append_nil _
        · rfl
      simp only [Bool.false_eq_true, if_false, Bool.false_or, List.flatMap_cons, hkeep,
        List.append_assoc]
      exact (ih hsafe.2).append_left s.signals

omit hsafe

/-! ### The round as a whole -/

/-- Where an action goes, and what comes of it. -/
structure Routes (b : Bar ω) (now : Moment) (target action data : String) : Prop where
  /-- The answer is whether there is a willing slot. -/
  answer : (b.input now target action data).result =
    .ok (b.slots.any (·.isWilling now target action data))
  /-- A slot of the name is asked when none in front of it is willing. -/
  asked : ∀ i s, b.slots[i]? = some s → s.rawName = target →
    (b.slots.take i).any (·.isWilling now target action data) = false →
    ∃ r, s.Answers now action data r ∧ r.result = .ok (s.isWilling now target action data) ∧
      (b.input now target action data).state.slots[i]? = some r.state
  /-- The first willing slot is marked, and tells the host. -/
  taken : ∀ i s, b.slots[i]? = some s → s.isWilling now target action data = true →
    (b.slots.take i).any (·.isWilling now target action data) = false →
    ∃ m, (b.input now target action data).state.slots[i]? = some (.live m) ∧
      m.changed = true ∧ m.signals = s.signals ++ [.changed s.name]
  /-- The slots of other names, and those behind the first willing one, are left alone. -/
  spared : ∀ i s, b.slots[i]? = some s →
    s.rawName ≠ target ∨ (b.slots.take i).any (·.isWilling now target action data) = true →
    (b.input now target action data).state.slots[i]? = some s
  /-- A slot that takes no action at all is left alone wherever it stands. -/
  refused : ∀ (i : Nat) (s : Slot ω), b.slots[i]? = some s → s.Refuses →
    s.isWilling now target action data = false ∧
      (b.input now target action data).state.slots[i]? = some s
  /-- One signal is sent if there is a willing slot, and none otherwise. -/
  signals : ((b.input now target action data).state.slots.flatMap Slot.signals).Perm
    (b.slots.flatMap Slot.signals ++
      if b.slots.any (·.isWilling now target action data) then
        [.changed (Module.fullName target)] else [])
  /-- The bar has no other slots than before, and what it has drawn stays drawn. -/
  frame : (b.input now target action data).state.slots.length = b.slots.length ∧
    (b.input now target action data).state.separator = b.separator ∧
    (b.input now target action data).state.last = b.last

end Bar

/-- **An action reaches the first willing module.** The slots of its name are asked one after the
other, up to this module and not further, and nothing else happens to the bar. No widget that is
asked may panic, for a panic ends the round. -/
theorem input_reaches_first_willing {ω : Type} [Widget ω] {b : Bar ω} {now : Moment}
    {target action data : String}
    (hsafe : ∀ s ∈ b.slots, s.rawName = target →
      ∀ p, (s.input now action data).result ≠ .error p) :
    b.Routes now target action data := by
  have hslot (i : Nat) (s : Slot ω) (hs : b.slots[i]? = some s) :
      (b.input now target action data).state.slots[i]? = some
        (if s.rawName = target ∧
            (b.slots.take i).any (·.isWilling now target action data) = false then
          (s.input now action data).state else s) := by
    have h := Bar.getElem?_offer hsafe i
    rw [hs] at h
    exact h
  have hanswers (s : Slot ω) (hs : s ∈ b.slots) (hname : s.rawName = target) :
      (s.input now action data).result = .ok (s.isWilling now target action data) := by
    have h := (s.answers_input now action data).result (hsafe s hs hname)
    simpa [Slot.isWilling, hname] using h
  refine ⟨Bar.result_offer hsafe, ?asked, ?taken, ?spared, ?refused, Bar.signals_offer hsafe,
    ?frame⟩
  case asked =>
    intro i s hs hname hfirst
    refine ⟨s.input now action data, s.answers_input now action data,
      hanswers s (List.mem_of_getElem? hs) hname, ?_⟩
    rw [hslot i s hs, if_pos ⟨hname, hfirst⟩]
  case taken =>
    intro i s hs hwilling hfirst
    rw [Slot.isWilling, Bool.and_eq_true, beq_iff_eq] at hwilling
    obtain ⟨hname, htakes⟩ := hwilling
    rw [hslot i s hs, if_pos ⟨hname, hfirst⟩]
    have hresult := Slot.input_of_takes htakes
    have hinput := s.answers_input now action data
    generalize s.input now action data = r at hinput hresult
    cases hinput with
    | taken => exact ⟨_, rfl, rfl, rfl⟩
    | refused | unknown | panicked => cases hresult
  case spared =>
    intro i s hs hspared
    rw [hslot i s hs, if_neg]
    rintro ⟨hname, hfirst⟩
    rcases hspared with hother | hbehind
    · exact hother hname
    · rw [hfirst] at hbehind
      cases hbehind
  case refused =>
    intro i s hs hrefuses
    have hkeep := (s.answers_input now action data).state_of_refuses hrefuses
    refine ⟨?_, ?_⟩
    · rw [Slot.isWilling, Slot.not_takes_of_refuses hrefuses, Bool.and_false]
    · rw [hslot i s hs, hkeep, ite_self]
  case frame =>
    exact ⟨(Bar.turns_offer b.slots).length_eq.symm, rfl, rfl⟩

/-- The first module of the name could not be built, and the second one handles no events. So the
third one takes the action, and the fourth is not asked. -/
theorem input_reaches_first_willing_third :
    let clock : ClockWidget := { interval := 1, patterns := {}, alternate := {}, label := {} }
    let m : Module ClockWidget :=
      { rawName := "c", formats := {}, widget := clock, markup := .forBar default }
    let deaf : Module ClockWidget := { m with handlesEvents := false }
    let b : Bar ClockWidget :=
      { slots := [.failed ⟨"c", "", ""⟩, .live deaf, .live m, .live m], separator := "" }
    let after := (b.input default "c" "toggle" "").state
    (∀ s ∈ b.slots, s.rawName = "c" → ∀ p, (s.input default "toggle" "").result ≠ .error p) ∧
      b.Routes default "c" "toggle" "" ∧
      (b.slots.map (·.isWilling default "c" "toggle" "") = [false, false, true, true]) ∧
      after.slots.map Slot.signals = [[], [], [.changed "module/c"], []] := by
  intro clock m deaf b after
  have hanswer : ∀ s ∈ b.slots,
      (s.input default "toggle" "").result.toOption.isSome = true := by decide +kernel
  have hsafe : ∀ s ∈ b.slots, s.rawName = "c" →
      ∀ p, (s.input default "toggle" "").result ≠ .error p := by
    intro s hs _ p hpanic
    have h := hanswer s hs
    rw [hpanic] at h
    cases h
  exact ⟨hsafe, input_reaches_first_willing hsafe, by decide +kernel, by decide +kernel⟩

end StatusBar
