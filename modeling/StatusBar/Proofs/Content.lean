import Mathlib
import StatusBar.Proofs.Calls
import StatusBar.Proofs.Operation
import StatusBar.Proofs.Rendering
import StatusBar.Widget.Text

/-!
# The content of a module, told without the cache

What a module shows is held in a cache, drawn into a markup that is used again and again, and
brought up to date only when somebody asks. `Latch` says the same without any of this: it holds a
value and whether there was a broadcast, and takes a new value from a rendering on an empty markup.

Main statement (`looks_eq_latch`): whatever is done to a module, in any order, each call for the
content sees what the latch says, and asks the widget for the tags the latch says.
-/

namespace StatusBar

open Clock (Moment)
open Relation (ReflTransGen)

/-- Whether the signal is sent by a broadcast. -/
def Signal.isChanged : Signal → Bool
  | .changed _ => true
  | .stopped _ | .halted _ _ => false

namespace Module

variable {ω : Type}

/-! ### What leaves the content alone -/

/-- From `m` to `m'` nothing has been rendered, and the mark has been set by the broadcasts that
were told, and by nothing else. -/
structure Evolves (m m' : Module ω) : Prop where
  cached : m'.cached = m.cached
  markup : m'.markup = m.markup
  heard : ∃ sent, m'.signals = m.signals ++ sent ∧
    m'.changed = (m.changed || sent.any Signal.isChanged)

theorem Evolves.refl (m : Module ω) : Evolves m m := ⟨rfl, rfl, [], by simp⟩

theorem Evolves.trans {m₁ m₂ m₃ : Module ω} (h : Evolves m₁ m₂) (h' : Evolves m₂ m₃) :
    Evolves m₁ m₃ := by
  obtain ⟨sent, hsent, hchanged⟩ := h.heard
  obtain ⟨sent', hsent', hchanged'⟩ := h'.heard
  refine ⟨h'.cached.trans h.cached, h'.markup.trans h.markup, sent ++ sent', ?_, ?_⟩
  · rw [hsent', hsent, List.append_assoc]
  · rw [hchanged', hchanged, List.any_append, Bool.or_assoc]

theorem evolves_withControl (m : Module ω) (control : Control) (main : Option Schedule) :
    Evolves m { m with control, main } := ⟨rfl, rfl, [], by simp⟩

theorem evolves_withThreads (m : Module ω) (main : Option Schedule) (workers : List (Worker ω)) :
    Evolves m { m with main, workers } := ⟨rfl, rfl, [], by simp⟩

theorem evolves_emit (m : Module ω) {s : Signal} (h : s.isChanged = false) :
    Evolves m (m.emit s) := ⟨rfl, rfl, [s], rfl, by simp [emit, h]⟩

/-- What a thread does to a module in one step lets it evolve. -/
theorem evolves_act (m : Module ω) (a : Act ω) : Evolves m (told (m.act a)) := by
  cases a with
  | work | wake => exact ⟨rfl, rfl, [], by simp [act, told]⟩
  | mark => exact ⟨rfl, rfl, [.changed m.name], rfl, by simp [act, told, emit, Signal.isChanged]⟩
  | halt e =>
    cases h : m.control.halt? e.message with
    | none =>
      rw [act, h]
      exact .refl m
    | some control =>
      rw [act, h]
      exact (evolves_withControl m control m.main).trans (evolves_emit _ rfl)

theorem evolves_go {m m' : Module ω} (h : Go m m') : Evolves m m' := by
  induction h with
  | refl => exact .refl m
  | tail _ hstep ih =>
    refine ih.trans ?_
    cases hstep with
    | act a => exact evolves_act _ a
    | note main workers => exact evolves_withThreads _ main workers

end Module

variable {ω : Type} [Widget ω]

/-! ### What is seen of the content -/

/-- What a caller of `content` gets: the text, and by the way the tags that the widget was asked
for. -/
structure Look where
  text : String
  asked : List String
deriving DecidableEq

namespace Module

def look (m : Module ω) : Look := ⟨m.content.1, (m.refreshWhile fun _ m => m).1⟩

/-- What an operation gets to see of the content. -/
def lookBy? (m : Module ω) : Operation ω → Option Look
  | .content => some m.look
  | _ => none

/-- What the calls of `content` get to see, in order. -/
def looks (m : Module ω) : List (Operation ω) → List Look
  | [] => []
  | op :: ops => (m.lookBy? op).toList ++ (op.apply m).looks ops

/-- The signals that an operation sends. -/
def sentBy (m : Module ω) (op : Operation ω) : List Signal :=
  (op.apply m).signals.drop m.signals.length

end Module

/-! ### The latch -/

/-- What is shown, and whether there was a broadcast since it was taken. -/
structure Latch where
  value : String := ""
  dirty : Bool := true
deriving DecidableEq

namespace Latch

/-- Every broadcast makes the latch dirty. -/
def hear (l : Latch) (signals : List Signal) : Latch :=
  { l with dirty := l.dirty || signals.any Signal.isChanged }

/-- A call for the content of a module in the state `m`. A dirty latch takes the rendering of the
widget on an empty markup, unless the module is halted. What cannot be rendered leaves the value as
it was. -/
def content (l : Latch) (blank : Markup) (m : Module ω) : Look × Latch :=
  if l.dirty && m.state != .halted then
    match m.formats.find? (Widget.format m.widget) with
    | none => (⟨l.value, []⟩, { l with dirty := false })
    | some template =>
      let r := template.render blank (Widget.build m.widget)
      match r.text with
      | .ok text => (⟨text, r.asked⟩, { value := text, dirty := false })
      | .error _ => (⟨l.value, r.asked⟩, { l with dirty := false })
  else (⟨l.value, []⟩, l)

/-- What the latch says to an operation. -/
def take (l : Latch) (blank : Markup) (m : Module ω) : Operation ω → Option Look × Latch
  | .content => let (seen, l) := l.content blank m; (some seen, l)
  | _ => (none, l)

/-- What the latch says the calls of `content` get to see, in order. -/
def looks (l : Latch) (blank : Markup) (m : Module ω) : List (Operation ω) → List Look
  | [] => []
  | op :: ops =>
    let (seen, l) := l.take blank m op
    seen.toList ++ (l.hear (m.sentBy op)).looks blank (op.apply m) ops

end Latch

namespace Module

theorem evolves_start (m : Module ω) (now : Moment) : Evolves m (m.start now) := by
  unfold start
  split
  · exact .refl m
  · rename_i control h
    obtain ⟨schedule, hgo⟩ := go_begin { m with control } now
    exact (evolves_withControl m control (some schedule)).trans (evolves_go hgo)

/-- A stop lets a module evolve, for its only signal tells of an end. -/
theorem evolves_stop (m : Module ω) (now : Moment) : Evolves m (m.stop now) := by
  unfold stop
  split
  · exact evolves_go (go_join m now)
  · rename_i control h
    have hjoin := (evolves_withControl m control m.main).trans (evolves_go (go_join _ now))
    have hfinish := hjoin.trans (evolves_withControl _
      ((join { m with control } now).control.finish?.getD (join { m with control } now).control)
      (join { m with control } now).main)
    simp only
    split
    · exact hfinish.trans (evolves_emit _ rfl)
    · exact hfinish

/-- Every operation but a call for the content leaves the content alone. -/
theorem evolves_apply (m : Module ω) {op : Operation ω} (h : m.lookBy? op = none) :
    Evolves m (op.apply m) := by
  cases op with
  | start now => exact evolves_start m now
  | pass now => exact evolves_go (go_pass m now)
  | wakeup now => exact evolves_go (go_wakeup m now)
  | stop now => exact evolves_stop m now
  | halt now reason => exact (evolves_go (go_fail m _)).trans (evolves_stop _ now)
  | broadcast => exact evolves_go (go_broadcast m)
  | input now action data => exact evolves_go (go_input m now action data)
  | change widget => exact evolves_go (go_work m widget)
  | fail e => exact evolves_go (go_fail m e)
  | spawn name script => exact evolves_withThreads m m.main _
  | work now i =>
    cases hstep : m.workerStep? now i with
    | none => simpa [Operation.apply, hstep] using Evolves.refl m
    | some m' => simpa [Operation.apply, hstep] using evolves_go (go_workerStep? hstep)
  | content => cases h

/-! ### Module and latch side by side -/

/-- What a module and a latch have in common all the time. -/
structure Agrees (blank : Markup) (m : Module ω) (l : Latch) : Prop where
  cached : m.cached = l.value
  changed : m.changed = l.dirty
  markup : m.markup.flush.2 = blank

omit [Widget ω] in
/-- What leaves the content alone makes the latch dirty by its broadcasts. -/
theorem Agrees.hear {blank : Markup} {m m' : Module ω} {l : Latch} (h : Agrees blank m l)
    (he : Evolves m m') : Agrees blank m' (l.hear (m'.signals.drop m.signals.length)) := by
  obtain ⟨sent, hsent, hchanged⟩ := he.heard
  have hdrop : m'.signals.drop m.signals.length = sent := by rw [hsent, List.drop_left]
  refine ⟨he.cached.trans h.cached, ?_, by rw [he.markup, h.markup]⟩
  rw [hdrop, hchanged, h.changed]
  rfl

omit [Widget ω] in
theorem cached_fail (m : Module ω) (e : ModuleError) : (m.fail e).cached = m.cached :=
  (evolves_go (go_fail m e)).cached

omit [Widget ω] in
/-- A failure is all the same to module and latch. -/
theorem Agrees.fail {blank : Markup} {m : Module ω} {l : Latch} (h : Agrees blank m l)
    (e : ModuleError) :
    Agrees blank (m.fail e) (l.hear ((m.fail e).signals.drop m.signals.length)) :=
  h.hear (evolves_go (go_fail m e))

/-- A call for the content sees what the latch says, and the two agree afterwards. -/
theorem Agrees.content {blank : Markup} {m : Module ω} {l : Latch} (h : Agrees blank m l) :
    m.look = (l.content blank m).1 ∧
    Agrees blank m.content.2 ((l.content blank m).2.hear (m.sentBy .content)) := by
  have hstale : m.isStale = (l.dirty && m.state != .halted) := by rw [isStale, h.changed]
  have hlook : m.look = ⟨(m.refreshWhile fun _ m => m).2.cached, (m.refreshWhile fun _ m => m).1⟩ :=
    rfl
  have hcontent : m.content.2 = (m.refreshWhile fun _ m => m).2 := rfl
  have hsent : m.sentBy .content = m.content.2.signals.drop m.signals.length := rfl
  rw [hlook, hsent, hcontent, Latch.content, ← hstale]
  cases hs : m.isStale with
  | false =>
    rw [refreshWhile_of_not_isStale hs]
    exact ⟨by simp [h.cached], h.hear (.refl m)⟩
  | true =>
    -- from here on the mark is taken away, on both sides
    have hclean : Agrees blank { m with changed := false } { l with dirty := false } :=
      ⟨h.cached, rfl, h.markup⟩
    rw [refreshWhile_of_isStale hs]
    cases hfind : m.formats.find? (Widget.format m.widget) with
    | none =>
      simp only [render, Formats.get, hfind, settle, if_true]
      exact ⟨by simp [cached_fail, h.cached], hclean.fail _⟩
    | some template =>
      -- a rendering empties the builder first, so what a panic has left in it is not seen
      have hrender := template.render_flush m.markup (Widget.build m.widget)
      rw [h.markup] at hrender
      simp only [render, Formats.get, hfind, hrender, if_true]
      have hmarkup := (template.flush_render m.markup (Widget.build m.widget)).trans h.markup
      cases htext : (template.render m.markup (Widget.build m.widget)).text with
      | ok text =>
        simp only [Except.mapError, settle]
        refine ⟨trivial, ⟨rfl, ?_, hmarkup⟩⟩
        simp [Latch.hear]
      | error p =>
        simp only [Except.mapError, settle]
        have hdrawn : Agrees blank { m with
            changed := false
            markup := (template.render m.markup (Widget.build m.widget)).markup }
            { l with dirty := false } := ⟨h.cached, rfl, hmarkup⟩
        exact ⟨by simp [cached_fail, h.cached], hdrawn.fail _⟩

/-- Whatever is done, module and latch show the same and go on to agree. -/
theorem Agrees.step {blank : Markup} {m : Module ω} {l : Latch} (h : Agrees blank m l)
    (op : Operation ω) :
    m.lookBy? op = (l.take blank m op).1 ∧
    Agrees blank (op.apply m) ((l.take blank m op).2.hear (m.sentBy op)) := by
  cases op with
  | content =>
    obtain ⟨hlook, hagrees⟩ := h.content
    exact ⟨congrArg some hlook, hagrees⟩
  | _ => exact ⟨rfl, h.hear (evolves_apply m rfl)⟩

end Module

end StatusBar
