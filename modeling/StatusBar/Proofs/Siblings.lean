import StatusBar.Proofs.Calls
import StatusBar.Proofs.Locality

/-!
# Modules beside each other

Two bars are built from configurations that differ at one key of the table `module` only, and then
the same is done to both of them. All that can be told apart are the modules under this key: a slot
with another name is the same in both bars at all times (`section_leaves_siblings_alone`).
-/

namespace StatusBar

open Clock (Moment)

/-! ### A module keeps its name -/

namespace Module

variable {ω : Type}

@[simp] theorem rawName_told (r : Module ω × Option Signal) : (told r).rawName = r.1.rawName := by
  obtain ⟨m, _ | s⟩ := r <;> rfl

theorem rawName_act (m : Module ω) (a : Act ω) : (m.act a).1.rawName = m.rawName := by
  cases a with
  | work | wake | mark => rfl
  | halt e =>
    rw [act]
    split <;> rfl

theorem rawName_go {m m' : Module ω} (h : Go m m') : m'.rawName = m.rawName := by
  induction h with
  | refl => rfl
  | tail _ hstep ih =>
    rw [← ih]
    cases hstep with
    | act a => rw [rawName_told, rawName_act]
    | note => rfl

variable [Widget ω]

theorem rawName_start (m : Module ω) (now : Moment) : (m.start now).rawName = m.rawName := by
  unfold start
  split
  · rfl
  · rename_i control _
    obtain ⟨schedule, hgo⟩ := go_begin { m with control } now
    have hname := rawName_go hgo
    exact hname

theorem rawName_stop (m : Module ω) (now : Moment) : (m.stop now).rawName = m.rawName := by
  have hcancel : m.cancel.1.rawName = m.rawName := by
    unfold cancel
    split <;> rfl
  have hfinish (m : Module ω) (cancelled : Bool) :
      (m.finish cancelled).1.rawName = m.rawName := by
    cases cancelled <;> rfl
  rw [stop_eq, rawName_told, hfinish, rawName_go (go_join _ now), hcancel]

theorem rawName_pass (m : Module ω) (now : Moment) : (m.pass now).rawName = m.rawName :=
  rawName_go (go_pass m now)

/-- Not even a refresh that fails changes the name of a module. -/
theorem rawName_refresh (m : Module ω) : m.refresh.rawName = m.rawName := by
  have hrender (m : Module ω) : m.render.module.rawName = m.rawName := by
    unfold render
    split <;> rfl
  have hsettle (m : Module ω) (text : Except ModuleError String) :
      (m.settle text).rawName = m.rawName := by
    cases text with
    | ok text => rfl
    | error e => exact rawName_go (go_fail m e)
  unfold refresh
  cases hstale : m.isStale with
  | false => rw [refreshWhile_of_not_isStale hstale]
  | true =>
    rw [refreshWhile_of_isStale hstale]
    simp only [hsettle, hrender]

end Module

/-! ### What can be seen beside a module -/

namespace Slot

variable {ω : Type}

/-- The slot for somebody who does not look at the modules under `x`. -/
def beside (x : String) (s : Slot ω) : String × Option (Slot ω) :=
  (s.rawName, if Module.IsUnder x s.rawName then none else some s)

theorem beside_apply (x : String) {f : Slot ω → Slot ω} (hf : ∀ s, (f s).rawName = s.rawName)
    (s : Slot ω) : (f s).beside x = ((s.beside x).1, (s.beside x).2.map f) := by
  unfold beside
  rw [hf]
  split <;> rfl

/-- Two slots of one name under `x` look the same from beside. -/
theorem beside_of_isUnder {x : String} {s s' : Slot ω} (hname : s'.rawName = s.rawName)
    (h : Module.IsUnder x s.rawName) : s'.beside x = s.beside x := by
  unfold beside
  rw [hname, if_pos h, if_pos h]

/-- Slots that are not under `x` can be told apart from beside. -/
theorem eq_of_beside {x : String} {s s' : Slot ω} (h : s.beside x = s'.beside x)
    (hname : ¬ Module.IsUnder x s.rawName) : s = s' := by
  obtain ⟨hrawName, hslot⟩ := Prod.mk.inj h
  rw [if_neg hname, ← hrawName, if_neg hname] at hslot
  exact Option.some.inj hslot

theorem rawName_mapLive {f : Module ω → Module ω} (hf : ∀ m, (f m).rawName = m.rawName)
    (s : Slot ω) : (s.mapLive f).rawName = s.rawName := by
  cases s with
  | live m => exact hf m
  | failed m => rfl

theorem rawName_takeSignals (s : Slot ω) : s.takeSignals.2.rawName = s.rawName := by
  cases s <;> rfl

theorem rawName_input [Widget ω] (now : Moment) (action data : String) (s : Slot ω) :
    (s.input now action data).state.rawName = s.rawName := by
  cases s with
  | live m => exact Module.rawName_go (Module.go_input m now action data)
  | failed m => rfl

end Slot

/-! ### What is done to a bar -/

/-- What the host does to a bar, or a main thread of it. -/
inductive Bar.Operation where
  | start (now : Moment)
  /-- A turn of the main thread in the `i`th slot. -/
  | pass (now : Moment) (i : Nat)
  | redraw
  | input (now : Moment) (target action data : String)
  | takeSignals
  | stop (now : Moment)

namespace Bar

variable {ω : Type} [Widget ω]

def apply (b : Bar ω) : Operation → Bar ω
  | .start now => b.start now
  | .pass now i => { b with slots := b.slots.modify i (Slot.pass now) }
  | .redraw => b.redraw.2
  | .input now target action data => (b.input now target action data).state
  | .takeSignals => b.takeSignals.2
  | .stop now => b.stop now

def after (b : Bar ω) (ops : List Operation) : Bar ω := ops.foldl apply b

/-- The bar for somebody who does not look at the modules under `x`. -/
def beside (x : String) (b : Bar ω) : List (String × Option (Slot ω)) :=
  b.slots.map (Slot.beside x)

variable {x : String} {f : Slot ω → Slot ω} {slots slots' : List (Slot ω)}

omit [Widget ω] in
/-- What looks the same from beside does so after an operation on all slots. -/
theorem beside_map (hf : ∀ s, (f s).rawName = s.rawName)
    (h : slots.map (Slot.beside x) = slots'.map (Slot.beside x)) :
    (slots.map f).map (Slot.beside x) = (slots'.map f).map (Slot.beside x) := by
  have hmap (l : List (Slot ω)) : (l.map f).map (Slot.beside x) =
      (l.map (Slot.beside x)).map fun e => (e.1, e.2.map f) := by
    simp [Slot.beside_apply x hf]
  rw [hmap, hmap, h]

omit [Widget ω] in
/-- It does so after an operation on one of the slots, be it one that is not to be seen. -/
theorem beside_modify (hf : ∀ s, (f s).rawName = s.rawName) (i : Nat)
    (h : slots.map (Slot.beside x) = slots'.map (Slot.beside x)) :
    (slots.modify i f).map (Slot.beside x) = (slots'.modify i f).map (Slot.beside x) := by
  have hmodify (l : List (Slot ω)) : (l.modify i f).map (Slot.beside x) =
      (l.map (Slot.beside x)).modify i fun e => (e.1, e.2.map f) := by
    apply List.ext_getElem?
    intro j
    simp only [List.getElem?_map, List.getElem?_modify]
    cases l[j]? with
    | none => rfl
    | some s =>
      simp only [Option.map_some]
      split
      · exact congrArg some (Slot.beside_apply x hf s)
      · rfl
  rw [hmodify, hmodify, h]

/-! ### An action of the user -/

variable {now : Moment} {target action data : String}

/-- Only slots of the name are changed. -/
theorem beside_offer_of_isUnder (h : Module.IsUnder x target) (slots : List (Slot ω)) :
    (offer now target action data slots).state.map (Slot.beside x) =
      slots.map (Slot.beside x) := by
  induction slots with
  | nil => rfl
  | cons s rest ih =>
    rw [offer]
    split
    · rw [List.map_cons, List.map_cons, ih]
    · rename_i hname
      have hinput : (s.input now action data).state.beside x = s.beside x :=
        Slot.beside_of_isUnder (s.rawName_input now action data) (not_not.mp hname ▸ h)
      split
      · rename_i s' heq
        rw [heq] at hinput
        rw [List.map_cons, List.map_cons, ih, hinput]
      · rename_i s' r _ heq
        rw [heq] at hinput
        rw [List.map_cons, List.map_cons, hinput]

/-- A slot of another name answers the same. -/
theorem beside_offer (htarget : ¬ Module.IsUnder x target)
    (h : slots.map (Slot.beside x) = slots'.map (Slot.beside x)) :
    (offer now target action data slots).state.map (Slot.beside x) =
      (offer now target action data slots').state.map (Slot.beside x) ∧
    (offer now target action data slots).result = (offer now target action data slots').result := by
  induction slots generalizing slots' with
  | nil =>
    obtain rfl := List.map_eq_nil_iff.mp h.symm
    exact ⟨rfl, rfl⟩
  | cons s rest ih =>
    obtain ⟨s', rest', rfl, hs, hrest⟩ := List.map_eq_cons_iff.mp h.symm
    obtain ⟨hstate, hresult⟩ := ih hrest.symm
    have hname : s'.rawName = s.rawName := congrArg Prod.fst hs
    rw [offer, offer, hname]
    split
    · simp only [List.map_cons, hs, hstate, hresult, and_self]
    · rename_i hsame
      -- a slot of the name is not under `x`, so it is in both bars
      obtain rfl : s = s' :=
        Slot.eq_of_beside hs.symm (by rwa [not_not.mp hsame])
      split
      · simp only [List.map_cons, hstate, hresult, and_self]
      · simp only [List.map_cons, hrest, and_self]

/-! ### All operations -/

theorem slots_redraw (b : Bar ω) : b.redraw.2.slots = b.slots.map Slot.refresh := by
  simp only [redraw]
  split <;> rfl

omit [Widget ω] in
theorem slots_takeSignals (b : Bar ω) :
    b.takeSignals.2.slots = b.slots.map fun s => s.takeSignals.2 := by
  simp [takeSignals]

/-- **Every operation keeps two bars the same from beside** that have been so before. -/
theorem beside_apply {b b' : Bar ω} (h : b.beside x = b'.beside x) (op : Operation) :
    (b.apply op).beside x = (b'.apply op).beside x := by
  cases op with
  | start now => exact beside_map (Slot.rawName_mapLive (Module.rawName_start · now)) h
  | stop now => exact beside_map (Slot.rawName_mapLive (Module.rawName_stop · now)) h
  | pass now i => exact beside_modify (Slot.rawName_mapLive (Module.rawName_pass · now)) i h
  | redraw =>
    simp only [apply, beside, slots_redraw]
    exact beside_map (Slot.rawName_mapLive Module.rawName_refresh) h
  | takeSignals =>
    simp only [apply, beside, slots_takeSignals]
    exact beside_map Slot.rawName_takeSignals h
  | input now target action data =>
    by_cases htarget : Module.IsUnder x target
    · show List.map _ _ = List.map _ _
      simp only [apply, input, beside_offer_of_isUnder htarget]
      exact h
    · exact (beside_offer htarget h).1

theorem beside_after {b b' : Bar ω} (h : b.beside x = b'.beside x) (ops : List Operation) :
    (b.after ops).beside x = (b'.after ops).beside x := by
  induction ops generalizing b b' with
  | nil => exact h
  | cons op ops ih => exact ih (beside_apply h op)

omit [Widget ω] in
/-- **Bars that are built from configurations that agree but for a module look the same from beside
it.** -/
theorem beside_build {catalog : List (String × Construction ω)}
    (hlocal : ∀ e ∈ catalog, e.2.IsLocal) {c c' : Config} (h : c.AgreeBut x c') :
    (build catalog c).1.beside x = (build catalog c').1.beside x ∧
      (build catalog c).1.separator = (build catalog c').1.separator := by
  have hsettings : BarSettings.ofConfig c = BarSettings.ofConfig c' := by
    simp only [BarSettings.ofConfig, h.barConfig]
  have hcreate (settings : BarSettings) (rawName : String) :
      (Slot.create catalog c settings rawName).beside x =
        (Slot.create catalog c' settings rawName).beside x := by
    by_cases hname : Module.IsUnder x rawName
    · have hsame : (Slot.create catalog c' settings rawName).rawName =
          (Slot.create catalog c settings rawName).rawName := by
        rw [Slot.rawName_create, Slot.rawName_create]
      exact (Slot.beside_of_isUnder hsame (by rwa [Slot.rawName_create])).symm
    · rw [Slot.create_eq hlocal (h.agreeAt hname)]
  simp only [build, beside, hsettings, h.barConfig, List.map_map, and_true]
  congr 1
  funext rawName
  exact hcreate _ rawName

end Bar

/-- **What stands in the section of one module is nothing to the others.** Whatever is done to both
bars, a slot beside the section is one and the same in them, with what it shows, its signals and
its threads, and an action for it is answered alike. -/
theorem section_leaves_siblings_alone {x : String} {c c' : Config} (h : c.AgreeBut x c') :
    let b := (Bar.build Builtin.catalog c).1
    let b' := (Bar.build Builtin.catalog c').1
    b.separator = b'.separator ∧ ∀ ops, (b.after ops).beside x = (b'.after ops).beside x ∧
      ∀ now target action data, ¬ Module.IsUnder x target →
        ((b.after ops).input now target action data).result =
          ((b'.after ops).input now target action data).result := by
  intro b b'
  obtain ⟨hslots, hseparator⟩ :=
    Bar.beside_build (fun _ => Builtin.isLocal_of_mem_catalog) h
  refine ⟨hseparator, fun ops => ?_⟩
  have hafter := Bar.beside_after hslots ops
  refine ⟨hafter, fun now target action data htarget => ?_⟩
  exact (Bar.beside_offer htarget hafter).2

/-- The section of a clock is in order in one of them and no table in the other. -/
theorem section_leaves_siblings_alone_text :
    let text : Toml.Value := .table [("label", .string "on"), ("type", .string "custom/text")]
    let clock : Toml.Value := .table [("type", .string "internal/date")]
    let config (x : Toml.Value) : Config :=
      { root := [("module", .table [("a", text), ("x", x)]),
          ("modules", .array [.string "x", .string "a"])] }
    let shown (c : Config) : Bar Builtin :=
      (Bar.build Builtin.catalog c).1.after [.start default, .pass default 0, .redraw]
    (config clock).AgreeBut "x" (config (.integer 3)) ∧
      (shown (config clock)).beside "x" = (shown (config (.integer 3))).beside "x" ∧
      (shown (config clock)).slots.map Slot.cached = ["1970-01-01 00:00:00", "on"] ∧
      (shown (config (.integer 3))).slots.map Slot.cached = ["", "on"] := by
  intro text clock config shown
  have h : (config clock).AgreeBut "x" (config (.integer 3)) := by
    refine .of_table (fun key hkey => ?_) rfl rfl fun key hkey => ?_
    · simp [config, Toml.Table.get?, Ne.symm hkey]
    · have hx : ("x" == key) = false := by simpa using Ne.symm hkey
      simp only [Toml.Table.get?, List.find?, hx]
  exact ⟨h, ((section_leaves_siblings_alone h).2 _).1, by decide +kernel, by decide +kernel⟩

end StatusBar
