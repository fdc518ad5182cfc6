import StatusBar.Module.Slot
import StatusBar.Proofs.Results
import StatusBar.Proofs.Workers

/-!
# Operations on a module

What is done to a module, one thing after the other: `Operation` names it, and `apply` is the
module after it. A sequence of operations is a list of them, and begins with a module that has just
been built (`eq_of_new`).
-/

namespace StatusBar

open Clock (Moment)

/-- An operation on a module, to be taken while no other is under way. -/
inductive Operation (ω : Type) where
  | start (now : Moment)
  /-- A turn of the main thread. -/
  | pass (now : Moment)
  | wakeup (now : Moment)
  | stop (now : Moment)
  /-- A halt by the host. -/
  | halt (now : Moment) (reason : String)
  | broadcast
  | input (now : Moment) (action data : String)
  /-- A change of the widget that nobody is told of. -/
  | change (widget : ω)
  /-- A failure outside of the widget's own operations, or a halt by a thread. -/
  | fail (error : ModuleError)
  | spawn (name : String) (script : List (Action ω))
  /-- A step of the worker with a number, if it can go on. -/
  | work (now : Moment) (i : Nat)
  | content

theorem Config.find?_empty (path key : String) : Config.find? {} path key = none := by
  unfold Config.find? Config.table?
  cases Text.split '/' path <;> rfl

variable {ω : Type} [Widget ω]

namespace Operation

def apply (m : Module ω) : Operation ω → Module ω
  | start now => m.start now
  | pass now => m.pass now
  | wakeup now => m.wakeup now
  | stop now => m.stop now
  | halt now reason => m.halt now reason
  | broadcast => m.broadcast
  | input now action data => (m.input now action data).state
  | change widget => { m with widget }
  | fail e => m.fail e
  | spawn name script => m.spawn name script
  | work now i => (m.workerStep? now i).getD m
  | content => m.content.2

end Operation

namespace Module

def after (m : Module ω) (ops : List (Operation ω)) : Module ω := ops.foldl Operation.apply m

/-- An input lets the threads go on as they are. -/
theorem go_input (m : Module ω) (now : Moment) (action data : String) :
    Go m (m.input now action data).state := by
  unfold input
  split
  · exact .refl
  · split
    · exact (go_work m _).trans (go_broadcast _)
    · exact go_work m _

omit [Widget ω] in
/-- What a module is like that has just been built. -/
theorem eq_of_new {construct : Construction ω} {c : Config} {settings : BarSettings}
    {rawName : String} {m : Module ω} (h : Module.new construct c settings rawName = .ok m) :
    ∃ handlesEvents formats widget,
      m = { rawName, handlesEvents, formats, widget, markup := .forBar settings } := by
  obtain ⟨handlesEvents, -, h⟩ := bind_eq_ok_iff.mp h
  obtain ⟨⟨widget, formats⟩, -, h⟩ := bind_eq_ok_iff.mp h
  cases h
  exact ⟨handlesEvents, formats, widget, rfl⟩

omit [Widget ω] in
/-- Without a configuration a module can be built around every widget. -/
theorem new_empty (widget : ω) (formats : Formats) (settings : BarSettings) (rawName : String) :
    Module.new (fun _ _ => .ok (widget, formats)) {} settings rawName =
      .ok { rawName, formats, widget, markup := .forBar settings } := by
  have hevents : Config.getOr {} .boolean (fullName rawName) "handle-events" true = .ok true := by
    rw [Config.getOr, Config.find?_empty]
  rw [Module.new, hevents]
  rfl

end Module

omit [Widget ω] in
/-- A slot that could be built holds a module that was made by one of the constructions. -/
theorem Slot.exists_new_of_build {catalog : List (String × Construction ω)} {c : Config}
    {settings : BarSettings} {rawName kind : String} {m : Module ω}
    (h : build catalog c settings rawName kind = .ok m) :
    ∃ construct, Module.new construct c settings rawName = .ok m := by
  simp only [build] at h
  split at h
  · cases h
  · split at h
    · exact ⟨_, h⟩
    · cases h

end StatusBar
