import Mathlib.Logic.Function.Basic
import StatusBar.Proofs.Nesting

/-!
# What a reader of the markup displays

A tag that closes a property says no more than that: it does not say what the property was before.
The reader puts it back to the bar's own. So a label that has a colour of its own leaves the bar's
colour behind it, and the colour of the template it stands in is gone. Here is the reader (`Pen`,
`display`), and how it displays a template (`displays_own_iff`): the template's own values hold up
to the first label that sets the same property, and no further.
-/

namespace StatusBar

namespace Markup

/-- What a property may be set to. -/
inductive Value where
  | color (c : Color)
  | font (index : Nat)
  /-- A line in a colour that nobody has chosen. -/
  | drawn
deriving Repr, DecidableEq

def Setting.value : Setting → Value
  | background c | foreground c | line _ c _ => .color c
  | font index => .font index

/-- The values a character is displayed with. What has none is the bar's own. -/
abbrev Paint := Property → Option Value

/-! ### The reader -/

/-- What the reader keeps in mind. -/
structure Pen where
  /-- The values in use; for a line, the colour to draw it with. -/
  chosen : Paint := fun _ => none
  drawn : Line → Bool := fun _ => false

namespace Pen

def choose (pen : Pen) (p : Property) (v : Option Value) : Pen :=
  { pen with chosen := Function.update pen.chosen p v }

/-- The pen behind a tag. -/
def apply (pen : Pen) : Tag → Pen
  | .background c => pen.choose .background (c.map .color)
  | .foreground c => pen.choose .foreground (c.map .color)
  | .font index => pen.choose .font (index.map .font)
  | .ink l c => pen.choose (.line l) (some (.color c))
  | .draw l on => { pen with drawn := Function.update pen.drawn l on }
  | .thickness _ | .shift _ => pen

/-- The values for a character. A line has none while it is not drawn. -/
def paint (pen : Pen) : Paint
  | .line l => if pen.drawn l then some ((pen.chosen (.line l)).getD .drawn) else none
  | p => pen.chosen p

/-- The pen behind some pieces. -/
def after (pen : Pen) : List Piece → Pen
  | [] => pen
  | .char _ :: ps => pen.after ps
  | .tag t :: ps => (pen.apply t).after ps

/-- The characters of some pieces with the values they are displayed with. -/
def display (pen : Pen) : List Piece → List (Char × Paint)
  | [] => []
  | .char c :: ps => (c, pen.paint) :: pen.display ps
  | .tag t :: ps => (pen.apply t).display ps

theorem after_append (pen : Pen) (ps qs : List Piece) :
    pen.after (ps ++ qs) = (pen.after ps).after qs := by
  induction ps generalizing pen with
  | nil => rfl
  | cons p ps ih => cases p <;> exact ih _

/-- What comes later is displayed as it is drawn by then. -/
theorem display_append (pen : Pen) (ps qs : List Piece) :
    pen.display (ps ++ qs) = pen.display ps ++ (pen.after ps).display qs := by
  induction ps generalizing pen with
  | nil => rfl
  | cons p ps ih =>
    cases p with
    | char c => exact congrArg _ (ih pen)
    | tag t => exact ih _

theorem after_chars (pen : Pen) (cs : List Char) : pen.after (cs.map .char) = pen := by
  induction cs with
  | nil => rfl
  | cons c cs ih => exact ih

theorem display_chars (pen : Pen) (cs : List Char) :
    pen.display (cs.map .char) = cs.map (·, pen.paint) := by
  induction cs with
  | nil => rfl
  | cons c cs ih => exact congrArg _ ih

theorem display_opening (pen : Pen) (s : Setting) : pen.display s.opening = [] := by
  cases s with
  | background | foreground | font => rfl
  | line l c size => cases size <;> rfl

theorem display_closing (pen : Pen) (s : Setting) : pen.display [s.closing] = [] := by
  cases s <;> rfl

/-- Opening a setting makes it the value of its property. -/
theorem paint_opening (pen : Pen) (s : Setting) :
    (pen.after s.opening).paint = Function.update pen.paint s.property (some s.value) := by
  -- the thickness has no say in the values
  have hline (l : Line) (c : Color) (size : Nat) : pen.after (Setting.line l c size).opening =
      (pen.apply (.ink l c)).apply (.draw l true) := by
    cases size <;> rfl
  funext q
  cases s with
  | background | foreground | font =>
    cases q <;> simp [Setting.opening, Setting.property, Setting.value, after, apply, choose, paint]
  | line l c size =>
    rw [hline]
    cases q with
    | background | foreground | font => simp [Setting.property, apply, choose, paint]
    | line l' =>
      by_cases h : l' = l
      · subst h
        simp [Setting.property, Setting.value, apply, choose, paint]
      · simp [Setting.property, apply, choose, paint, h]

/-- **Closing a setting leaves no value behind**, whatever there was before. -/
theorem paint_closing (pen : Pen) (s : Setting) :
    (pen.after [s.closing]).paint = Function.update pen.paint s.property none := by
  funext q
  cases s with
  | background | foreground | font =>
    cases q <;> simp [Setting.closing, Setting.property, after, apply, choose, paint]
  | line l c size =>
    cases q with
    | background | foreground | font =>
      simp [Setting.closing, Setting.property, after, apply, paint]
    | line l' =>
      by_cases h : l' = l
      · subst h
        simp [Setting.closing, Setting.property, after, apply, paint]
      · simp [Setting.closing, Setting.property, after, apply, paint, h]

end Pen

/-! ### Settings -/

namespace Paint

/-- The values within some settings. -/
def within (paint : Paint) (ss : List Setting) : Paint :=
  ss.foldl (fun paint s => Function.update paint s.property (some s.value)) paint

/-- The values when some settings have been closed. -/
def without (paint : Paint) (ss : List Setting) : Paint :=
  fun p => if p ∈ ss.map Setting.property then none else paint p

@[simp] theorem within_nil (paint : Paint) : paint.within [] = paint := rfl

@[simp] theorem without_nil (paint : Paint) : paint.without [] = paint := by
  funext p
  simp [without]

theorem without_without (paint : Paint) (ss ss' : List Setting) :
    (paint.without ss).without ss' = paint.without (ss ++ ss') := by
  funext p
  simp only [without, List.map_append, List.mem_append]
  by_cases h : p ∈ ss.map Setting.property <;> simp [h]

/-- A property that is not set keeps its paint. -/
theorem within_apply_of_not_mem (paint : Paint) {ss : List Setting} {p : Property}
    (h : p ∉ ss.map Setting.property) : paint.within ss p = paint p := by
  induction ss generalizing paint with
  | nil => rfl
  | cons s ss ih =>
    rw [List.map_cons, List.mem_cons, not_or] at h
    have hrest := ih (Function.update paint s.property (some s.value)) h.2
    rw [Function.update_of_ne h.1] at hrest
    exact hrest

/-- What closes a setting does not care what the setting was. -/
theorem without_within (paint : Paint) (ss : List Setting) :
    (paint.within ss).without ss = paint.without ss := by
  funext p
  unfold without
  split
  · rfl
  · rename_i h
    exact paint.within_apply_of_not_mem h

end Paint

namespace Pen

/-- To close settings at the end displays nothing. -/
theorem display_wrap (pen : Pen) (ss : List Setting) (ps : List Piece) :
    pen.display (wrap ss ps) = (pen.after (ss.flatMap (·.opening))).display ps := by
  have hopened (pen : Pen) : pen.display (ss.flatMap (·.opening)) = [] := by
    induction ss generalizing pen with
    | nil => rfl
    | cons s ss ih => rw [List.flatMap_cons, display_append, display_opening, ih, List.append_nil]
  have hclosed (pen : Pen) (ss : List Setting) : pen.display (ss.map (·.closing)) = [] := by
    induction ss generalizing pen with
    | nil => rfl
    | cons s ss ih =>
      have hcons : (s :: ss).map (·.closing) = [s.closing] ++ ss.map (·.closing) := rfl
      rw [hcons, display_append, display_closing, ih, List.append_nil]
  rw [wrap_eq, display_append, display_append, hopened, hclosed, List.nil_append, List.append_nil]

/-- To open settings puts their paint into effect, the inner ones before the outer ones. -/
theorem paint_opened (pen : Pen) (ss : List Setting) :
    (pen.after (ss.flatMap (·.opening))).paint = pen.paint.within ss := by
  induction ss generalizing pen with
  | nil => rfl
  | cons s ss ih =>
    rw [List.flatMap_cons, after_append, ih, paint_opening]
    rfl

/-- To close a setting is to be left without any paint of its property. What there was outside of it
does not come back. -/
theorem paint_closed (pen : Pen) (ss : List Setting) :
    (pen.after (ss.map (·.closing))).paint = pen.paint.without ss := by
  induction ss generalizing pen with
  | nil => exact pen.paint.without_nil.symm
  | cons s ss ih =>
    have hcons : (s :: ss).map (·.closing) = [s.closing] ++ ss.map (·.closing) := rfl
    have hfirst : Function.update pen.paint s.property none = pen.paint.without [s] := by
      funext p
      simp [Function.update_apply, Paint.without]
    rw [hcons, after_append, ih, paint_closing, hfirst, Paint.without_without,
      List.singleton_append]

/-- Behind some settings none of their properties has a value. -/
theorem paint_wrap (pen : Pen) (ss : List Setting) (ps : List Piece) :
    (pen.after (wrap ss ps)).paint =
      ((pen.after (ss.flatMap (·.opening))).after ps).paint.without ss := by
  rw [wrap_eq, after_append, after_append, paint_closed]
  funext p
  simp [Paint.without]

end Pen

/-! ### Bits -/

namespace Bit

/-- What a bit sets for its own characters. -/
def settings (m : Markup) : Bit → List Setting
  | text _ => []
  | label l => if l.isEmpty then [] else m.settings l.style

def shown : Bit → List Char
  | text content => content.toList
  | label l => l.shown

def IsPlain : Bit → Prop
  | text content => '%' ∉ content.toList
  | label l => '%' ∉ l.text.toList

/-- A bit is its characters wrapped into its settings. -/
theorem pieces_eq (m : Markup) (b : Bit) :
    b.pieces m = wrap (b.settings m) (b.shown.map .char) := by
  cases b with
  | text content => rfl
  | label l =>
    simp only [pieces, settings, shown, labelled]
    split
    · rename_i hempty
      rw [Label.shown, if_pos hempty]
      rfl
    · rfl

theorem isNested_pieces (m : Markup) (b : Bit) : Markup.IsNested (b.pieces m) := by
  rw [pieces_eq]
  exact (isNested_chars _).wrap _

theorem percent_not_mem_pieces {b : Bit} (h : b.IsPlain) (m : Markup) : .char '%' ∉ b.pieces m := by
  rw [char_mem_iff, pieces_eq, visible_wrap, visible_chars]
  cases b with
  | text content => exact h
  | label l => exact Label.percent_not_mem_shown h

/-- A bit that puts nothing shows nothing. -/
theorem pieces_eq_nil_iff {m : Markup} {b : Bit} : b.pieces m = [] ↔ b.shown = [] := by
  constructor
  · intro h
    have hvisible : Markup.visible (b.pieces m) = b.shown := by
      rw [pieces_eq, visible_wrap, visible_chars]
    rw [← hvisible, h, visible_nil]
  · intro h
    cases b with
    | text content => simpa [pieces, shown] using h
    | label l =>
      -- a label with a text shows it
      simp only [shown, Label.shown] at h
      simp only [pieces, labelled]
      split at h
      · rename_i hempty
        rw [if_pos hempty]
      · rename_i htext
        have hnothing : l.text = "" := by
          simpa using (List.append_eq_nil_iff.mp (List.append_eq_nil_iff.mp h).1).2
        exact absurd hnothing (by simpa [Label.isEmpty] using htext)

end Bit

/-- How bits are displayed, one behind the other. What a label sets ends with it, and what was set
before it does not come back. -/
def Paint.painted (m : Markup) (paint : Paint) : List Bit → List (Char × Paint)
  | [] => []
  | b :: bits =>
    b.shown.map (·, paint.within (b.settings m)) ++ painted m (paint.without (b.settings m)) bits

namespace Pen

theorem paint_bit (pen : Pen) (m : Markup) (b : Bit) :
    (pen.after (b.pieces m)).paint = pen.paint.without (b.settings m) := by
  rw [Bit.pieces_eq, paint_wrap, after_chars, paint_opened, Paint.without_within]

theorem display_bit (pen : Pen) (m : Markup) (b : Bit) :
    pen.display (b.pieces m) = b.shown.map (·, pen.paint.within (b.settings m)) := by
  rw [Bit.pieces_eq, display_wrap, display_chars, paint_opened]

/-- After some bits the pen is without the settings of all of them. -/
theorem paint_bits (pen : Pen) (m : Markup) (bits : List Bit) :
    (pen.after (bits.flatMap (·.pieces m))).paint =
      pen.paint.without (bits.flatMap (·.settings m)) := by
  induction bits generalizing pen with
  | nil => exact pen.paint.without_nil.symm
  | cons b bits ih =>
    rw [List.flatMap_cons, List.flatMap_cons, after_append, ih, paint_bit, Paint.without_without]

/-- Bits are displayed one after the other, each within its settings, as the ones before have left
the paint. -/
theorem display_bits (pen : Pen) (m : Markup) (bits : List Bit) :
    pen.display (bits.flatMap (·.pieces m)) = pen.paint.painted m bits := by
  induction bits generalizing pen with
  | nil => rfl
  | cons b bits ih =>
    rw [List.flatMap_cons, display_append, ih, paint_bit, display_bit, Paint.painted]

end Pen

namespace Paint

variable {m : Markup} (paint : Paint)

/-- The bits of two lists are painted one list after the other, and the second one without what the
first one has closed. -/
theorem painted_append (bits bits' : List Bit) :
    paint.painted m (bits ++ bits') =
      paint.painted m bits ++ (paint.without (bits.flatMap (·.settings m))).painted m bits' := by
  induction bits generalizing paint with
  | nil => simp [painted]
  | cons b bits ih => simp [painted, ih, without_without]

theorem length_painted (bits : List Bit) :
    (paint.painted m bits).length = (bits.flatMap (·.shown)).length := by
  induction bits generalizing paint with
  | nil => rfl
  | cons b bits ih => simp [painted, ih]

theorem painted_cons (b : Bit) (bits : List Bit) :
    paint.painted m (b :: bits) =
      b.shown.map (·, paint.within (b.settings m)) ++
        (paint.without (b.settings m)).painted m bits := rfl

/-- How one bit among others is displayed. -/
theorem part_painted (front back : List (Char × Paint)) (before after : List Bit) (b : Bit) :
    ((front ++ paint.painted m (before ++ b :: after) ++ back).drop
        (front.length + (before.flatMap (·.shown)).length)).take b.shown.length =
      b.shown.map (·, (paint.without (before.flatMap (·.settings m))).within (b.settings m)) := by
  rw [painted_append, painted_cons, ← length_painted (m := m) paint before,
    ← List.length_append, List.append_assoc, List.append_assoc, ← List.append_assoc front,
    List.drop_left, List.append_assoc]
  exact List.take_left' (List.length_map _)

end Paint
end Markup

namespace Template

open Markup

/-- All the bits within the style of a template. -/
def inside (t : Template) (bits : List Bit) : List Bit :=
  [.text (Text.spaces t.padding)] ++ t.lead.toList.map .label ++ bits ++ t.trail.toList.map .label
    ++ [.text (Text.spaces t.padding)]

/-- The content of a template is made of bits, those of its labels and those of its body. -/
theorem content_flatMap (t : Template) (m : Markup) (bits : List Bit) :
    t.content m (bits.flatMap (·.pieces m)) = (t.inside bits).flatMap (·.pieces m) := by
  unfold content inside blanks
  cases t.lead <;> cases t.trail <;> simp [Bit.pieces]

/-- The values that a template sets. -/
def own (t : Template) (m : Markup) : Paint := Paint.within (fun _ => none) (m.settings t.style)

/-- Blanks in the bar's own values. -/
def bare (width : Nat) : List (Char × Paint) := List.replicate width (' ', fun _ => none)

theorem display_blanks {pen : Pen} (h : pen.paint = fun _ => none) (width : Nat) :
    pen.display (blanks width) = bare width := by
  rw [blanks, Pen.display_chars, h, List.map_replicate, bare]

theorem paint_default : ({} : Pen).paint = fun _ => none := by
  funext p
  cases p <;> rfl

/-- A template closes its own settings, and labels leave none behind. -/
theorem paint_wrap_inside (t : Template) (m : Markup) (bits : List Bit) :
    (Pen.after {} (wrap (m.settings t.style) ((t.inside bits).flatMap (·.pieces m)))).paint =
      fun _ => none := by
  rw [Pen.paint_wrap, Pen.paint_bits, Pen.paint_opened, paint_default]
  funext p
  by_cases hp : p ∈ (m.settings t.style).map Setting.property
  · simp [Paint.without, hp]
  · have hnone := Paint.within_apply_of_not_mem (fun _ => none) hp
    simp [Paint.without, hnone]

/-- A template displays its margin bare, and what is inside begins with its own values. -/
theorem display_framed (t : Template) (m : Markup) {bits : List Bit}
    (hbits : bits.flatMap (·.pieces m) ≠ []) :
    Pen.display {} (t.framed m (bits.flatMap (·.pieces m))) =
      bare t.margin ++ (t.own m).painted m (t.inside bits) ++ bare t.margin := by
  have hshift : Pen.display {} (shift t.offset) = [] ∧ Pen.after {} (shift t.offset) = {} := by
    unfold shift
    split <;> exact ⟨rfl, rfl⟩
  have hfront : Pen.display {} (shift t.offset ++ blanks t.margin) = bare t.margin := by
    rw [Pen.display_append, hshift.1, hshift.2, display_blanks paint_default, List.nil_append]
  have hafter : Pen.after {} (shift t.offset ++ blanks t.margin) = {} := by
    rw [Pen.after_append, hshift.2, blanks, Pen.after_chars]
  rw [framed, if_neg hbits, content_flatMap, Pen.display_append, Pen.display_append, hfront,
    hafter, Pen.after_append, hafter, display_blanks (paint_wrap_inside t m bits), Pen.display_wrap,
    Pen.display_bits, Pen.paint_opened, paint_default, own]

/-- How a template displays `bits`. -/
structure Displays (t : Template) (m : Markup) (bits : List Bit) (shown : List (Char × Paint)) :
    Prop where
  nothing : bits.flatMap (·.shown) = [] → shown = []
  /-- The margin is outside of everything that the template sets. -/
  whole : bits.flatMap (·.shown) ≠ [] →
    shown = bare t.margin ++ (t.own m).painted m (t.inside bits) ++ bare t.margin
  /-- What sets nothing itself is displayed in the template's own values, if and only if the labels
  before it leave these alone. -/
  own_iff : bits.flatMap (·.shown) ≠ [] → ∀ before b after, t.inside bits = before ++ b :: after →
    b.settings m = [] → b.shown ≠ [] →
    ((shown.drop (t.margin + (before.flatMap (·.shown)).length)).take b.shown.length =
        b.shown.map (·, t.own m) ↔
      ∀ s ∈ before.flatMap (·.settings m), t.own m s.property = none)

/-- **How a template displays its bits.** One without settings has the values of the template
exactly if the labels and bits before it have closed none of them. -/
theorem displays_framed (t : Template) (m : Markup) (bits : List Bit) :
    t.Displays m bits (Pen.display {} (t.framed m (bits.flatMap (·.pieces m)))) := by
  have hnil : bits.flatMap (·.pieces m) = [] ↔ bits.flatMap (·.shown) = [] := by
    simp [List.flatMap_eq_nil_iff, Bit.pieces_eq_nil_iff]
  refine ⟨fun h => ?_, fun h => ?_, fun h before b after hsplit hb hshown => ?_⟩
  · rw [hnil.mpr h, framed, if_pos rfl]
    rfl
  · exact display_framed t m (mt hnil.mp h)
  · have hmargin : (bare t.margin).length = t.margin := List.length_replicate
    have hpart := Paint.part_painted (m := m) (t.own m) (bare t.margin) (bare t.margin)
      before after b
    rw [hmargin, hb, Paint.within_nil] at hpart
    rw [display_framed t m (mt hnil.mp h), hsplit, hpart]
    constructor
    · intro heq s hs
      obtain ⟨c, cs, hc⟩ := List.exists_cons_of_ne_nil hshown
      rw [hc, List.map_cons, List.map_cons, List.cons_eq_cons, Prod.mk.injEq] at heq
      rw [← heq.1.2, Paint.without, if_pos (List.mem_map_of_mem hs)]
    · intro hleft
      have hsame : (t.own m).without (before.flatMap (·.settings m)) = t.own m := by
        funext p
        unfold Paint.without
        split
        · rename_i hp
          obtain ⟨s, hs, rfl⟩ := List.mem_map.mp hp
          exact (hleft s hs).symm
        · rfl
      rw [hsame]

/-- The text that a template makes of its bits can be read, and is displayed in this way. -/
theorem exists_displays {t : Template} {m : Markup} (hempty : m.output = "")
    (hlead : ∀ l ∈ t.lead, '%' ∉ l.text.toList) (htrail : ∀ l ∈ t.trail, '%' ∉ l.text.toList)
    {bits : List Bit} (hbits : ∀ b ∈ bits, b.IsPlain) :
    ∃ qs, read? (t.decorate m (m.addAll bits).output).1.toList = some qs ∧
      t.Displays m bits (Pen.display {} qs) := by
  have hwrite : write (bits.flatMap (·.pieces m)) = (m.addAll bits).output.toList :=
    (toList_output_addAll hempty bits).symm
  have hnested : IsNested (bits.flatMap (·.pieces m)) := by
    clear hbits hwrite
    induction bits with
    | nil => rfl
    | cons b bits ih => exact (b.isNested_pieces m).append ih
  have hplain : .char '%' ∉ bits.flatMap (·.pieces m) := by
    intro hmem
    obtain ⟨b, hb, hpercent⟩ := List.mem_flatMap.mp hmem
    exact Bit.percent_not_mem_pieces (hbits b hb) m hpercent
  refine ⟨_, read?_eq_some_iff.mpr ⟨?_, ?_⟩, displays_framed t m bits⟩
  · exact (decorate_eq hempty hwrite).symm
  · exact percent_not_mem_framed m hlead htrail hnested hplain

/-- **The template's own values hold up to a label that sets the same property.** What is displayed
behind such a label is displayed without them. This is so of any bits that are decorated, and of
those that a rendering decorates: what is left of the gaps, and what the builders wrote for the tags
that are shown. -/
theorem displays_own_iff {t : Template} {m : Markup}
    (hlead : ∀ l ∈ t.lead, '%' ∉ l.text.toList) (htrail : ∀ l ∈ t.trail, '%' ∉ l.text.toList) :
    (∀ bits, m.output = "" → (∀ b ∈ bits, b.IsPlain) →
      ∃ qs, read? (t.decorate m (m.addAll bits).output).1.toList = some qs ∧
        t.Displays m bits (Pen.display {} qs)) ∧
    ∀ build w, t.Builds build m.flush.2 w →
      (∀ name ∈ t.tags, ∀ b ∈ (w name).1, b.IsPlain) →
      (∀ s, Segment.text s ∈ t.segments → '%' ∉ s.toList) →
      let bits := t.bits m.flush.2 w
      let text := (t.decorate m.flush.2 (m.flush.2.addAll bits).output).1
      (∀ b ∈ bits, b.IsPlain) ∧ (t.render m build).text = .ok text ∧
      ∃ qs, read? text.toList = some qs ∧ t.Displays m.flush.2 bits (Pen.display {} qs) := by
  constructor
  · intro bits hempty hbits
    exact exists_displays hempty hlead htrail hbits
  · intro build w hbuild hplain hsegments bits text
    have hbits : ∀ b ∈ bits, b.IsPlain := forall_mem_bits (fun _ hs => hs) hsegments hplain
    exact ⟨hbits, render_of_builds hbuild, exists_displays (m := m.flush.2) rfl hlead htrail hbits⟩

/-- A text behind a label of another colour, decorated by itself and written for a tag. -/
theorem displays_own_iff_colored :
    let t : Template := {
      segments := [.tag "a"]
      lead := some { text := ">", foreground := some ⟨0, 0, 255, 255⟩ }
      style := { foreground := some ⟨0, 255, 0, 255⟩ } }
    let bits : List Bit := [.text "", .text "X", .text ""]
    (∃ qs, read? (t.decorate {} "X").1.toList = some qs ∧
      t.Displays {} [.text "X"] (Pen.display {} qs)) ∧
    ∃ text qs, (t.render {} fun _ m => ⟨m.append "X", .ok true⟩).text = .ok text ∧
      read? text.toList = some qs ∧ t.Displays {} bits (Pen.display {} qs) := by
  intro t bits
  have hlead : ∀ l ∈ t.lead, '%' ∉ l.text.toList := by
    rintro l ⟨⟩
    decide
  have htrail : ∀ l ∈ t.trail, '%' ∉ l.text.toList := by
    rintro l ⟨⟩
  obtain ⟨hdecorate, hrender⟩ := displays_own_iff (m := {}) hlead htrail
  constructor
  · exact hdecorate [.text "X"] rfl (by simp [Bit.IsPlain])
  · let w : Writing := fun _ => ([.text "X"], true)
    have hbits : t.bits ({} : Markup).flush.2 w = bits := by decide +kernel
    obtain ⟨-, htext, qs, hqs, hdisplays⟩ :=
      hrender (fun _ m => ⟨m.append "X", .ok true⟩) w (fun _ _ => rfl)
        (by simp [w, Bit.IsPlain]) (by simp [t])
    rw [hbits] at hdisplays
    exact ⟨_, qs, htext, hqs, hdisplays⟩

/-- A text behind a label in another colour is displayed in the bar's colour, and not in that of
the template it stands in. -/
theorem foreground_forgotten :
    let t : Template := {
      segments := [.tag "a"]
      lead := some { text := ">", foreground := some ⟨0, 0, 255, 255⟩ }
      style := { foreground := some ⟨0, 255, 0, 255⟩ } }
    let text := "%\x7bF#00ff00\x7d%\x7bF#0000ff\x7d>%\x7bF-\x7dX%\x7bF-\x7d"
    (t.render {} fun _ m => ⟨m.append "X", .ok true⟩).text = .ok text ∧
      t.own {} .foreground = some (.color ⟨0, 255, 0, 255⟩) ∧
      ∃ qs, read? text.toList = some qs ∧
        (Pen.display {} qs).map (fun (c, paint) => (c, paint .foreground)) =
          [('>', some (.color ⟨0, 0, 255, 255⟩)), ('X', none)] := by
  intro t text
  refine ⟨by rfl, by rfl, [.tag (.foreground (some ⟨0, 255, 0, 255⟩)),
    .tag (.foreground (some ⟨0, 0, 255, 255⟩)), .char '>', .tag (.foreground none), .char 'X',
    .tag (.foreground none)], ?_, by rfl⟩
  exact read?_eq_some_iff.mpr (by decide)

end Template
end StatusBar
