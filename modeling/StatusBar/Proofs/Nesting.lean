import StatusBar.Proofs.Decorations

/-!
# Nesting

Every setting is opened by a tag and closed by another, except that a line takes up to three tags
to open: its colour, its thickness, and the one that begins to draw it. Who reads the pieces one
after the other knows at each of them which properties are open, the innermost first (`Nesting`).
Pieces are well nested when every closing closes the innermost property and nothing stays open.

Only three things have to be shown: a setting around well nested pieces makes well nested pieces,
so do well nested pieces one behind the other, and reading takes no notice of what is open further
out. `well_nested` is about whole templates and renderings.
-/

namespace StatusBar

/-- What is shown of a label has no percent sign if its text has none. -/
theorem Label.percent_not_mem_shown {l : Label} (h : '%' ∉ l.text.toList) :
    '%' ∉ l.shown := by
  unfold Label.shown
  split
  · exact List.not_mem_nil
  · simp [h, List.mem_replicate]

namespace Markup

/-- What a setting is about. -/
inductive Property where
  | background
  | foreground
  | line (l : Line)
  | font
deriving Repr, DecidableEq

def Setting.property : Setting → Property
  | background _ => .background
  | foreground _ => .foreground
  | line l _ _ => .line l
  | font _ => .font

/-! ### What is left without the tags -/

/-- The characters outside of the tags. -/
def visible (ps : List Piece) : List Char :=
  ps.filterMap fun | .char c => some c | .tag _ => none

@[simp] theorem visible_nil : visible [] = [] := rfl

@[simp] theorem visible_append (ps qs : List Piece) :
    visible (ps ++ qs) = visible ps ++ visible qs :=
  List.filterMap_append

@[simp] theorem visible_chars (cs : List Char) : visible (cs.map .char) = cs := by
  induction cs with
  | nil => rfl
  | cons c cs ih =>
    show c :: visible (cs.map .char) = c :: cs
    rw [ih]

@[simp] theorem visible_blanks (width : Nat) :
    visible (blanks width) = List.replicate width ' ' := visible_chars _

@[simp] theorem visible_shift (pixels : Int) : visible (shift pixels) = [] := by
  unfold shift
  split <;> rfl

@[simp] theorem visible_wrap (ss : List Setting) (ps : List Piece) :
    visible (wrap ss ps) = visible ps := by
  have hopening (s : Setting) : visible s.opening = [] := by
    cases s with
    | background | foreground | font => rfl
    | line l color size => cases size <;> rfl
  have hclosing (s : Setting) : visible [s.closing] = [] := by
    cases s <;> rfl
  induction ss with
  | nil => rfl
  | cons s ss ih => simp [wrap, hopening, hclosing, ih]

@[simp] theorem visible_labelled (m : Markup) (l : Label) : visible (m.labelled l) = l.shown := by
  unfold labelled
  split
  · rename_i hempty
    rw [Label.shown, if_pos hempty]
    rfl
  · rw [visible_wrap, visible_chars]

/-! ### Fonts -/

/-- The fonts that are opened, in order. -/
def fonts (ps : List Piece) : List Nat :=
  ps.filterMap fun | .tag (.font index) => index | _ => none

/-- How often a font is closed. -/
def fontsClosed (ps : List Piece) : Nat := ps.count (.tag (.font none))

@[simp] theorem fonts_append (ps qs : List Piece) : fonts (ps ++ qs) = fonts ps ++ fonts qs :=
  List.filterMap_append

@[simp] theorem fonts_chars (cs : List Char) : fonts (cs.map .char) = [] := by
  simp [fonts]

@[simp] theorem fonts_blanks (width : Nat) : fonts (blanks width) = [] := fonts_chars _

@[simp] theorem fonts_shift (pixels : Int) : fonts (shift pixels) = [] := by
  unfold shift
  split <;> rfl

/-- The font of a style, if the bar has it. -/
def availableFont (m : Markup) (s : Style) : List Nat := if m.hasFont s.font then [s.font] else []

/-- The font of a label that is shown, if the bar has it. -/
def labelFont (m : Markup) (l : Label) : List Nat :=
  if l.isEmpty then [] else m.availableFont l.style

/-- The font of a setting that is about one. -/
def Setting.fonts : Setting → List Nat
  | font index => [index]
  | _ => []

/-- The wrapping opens the fonts of its settings and no others. -/
theorem fonts_wrap (ss : List Setting) (ps : List Piece) :
    fonts (wrap ss ps) = ss.flatMap Setting.fonts ++ fonts ps := by
  have hopening (s : Setting) : fonts s.opening = s.fonts := by
    cases s with
    | background | foreground | font => rfl
    | line l color size => cases size <;> rfl
  have hclosing (s : Setting) : fonts [s.closing] = [] := by
    cases s <;> rfl
  induction ss with
  | nil => rfl
  | cons s ss ih => simp [wrap, hopening, hclosing, ih]

@[simp] theorem fonts_settings (m : Markup) (s : Style) :
    (m.settings s).flatMap Setting.fonts = m.availableFont s := by
  have hcolors : (m.colors s).flatMap Setting.fonts = [] := by
    simp [colors, Setting.fonts]
  rw [settings, List.flatMap_append, hcolors, availableFont]
  split <;> rfl

@[simp] theorem fonts_labelled (m : Markup) (l : Label) : fonts (m.labelled l) = m.labelFont l := by
  unfold labelled labelFont
  split
  · rfl
  · rw [fonts_wrap, fonts_settings, fonts_chars, List.append_nil]

/-! ### Reading one piece after the other -/

/-- What is open while pieces are read. -/
structure Nesting where
  /-- The open properties, the innermost first. -/
  opened : List Property := []
  /-- A line of which the colour has been read, and whether the thickness has been, too. -/
  begun : Option (Line × Bool) := none
deriving Repr, DecidableEq

namespace Nesting

/-- Closes the innermost property, which has to be `p`. -/
def close? (p : Property) : List Property → Option Nesting
  | [] => none
  | q :: opened => if q = p then some { opened } else none

/-- A tag while no line is begun. -/
def tag? (opened : List Property) : Tag → Option Nesting
  | .background (some _) => some { opened := .background :: opened }
  | .foreground (some _) => some { opened := .foreground :: opened }
  | .font (some _) => some { opened := .font :: opened }
  | .ink l _ => some { opened, begun := some (l, false) }
  | .background none => close? .background opened
  | .foreground none => close? .foreground opened
  | .font none => close? .font opened
  | .draw l false => close? (.line l) opened
  | .shift _ => some { opened }
  | .thickness _ | .draw _ true => none

/-- A tag while the line `l` is begun. -/
def begunTag? (opened : List Property) (l : Line) (sized : Bool) : Tag → Option Nesting
  | .thickness _ => if sized then none else some { opened, begun := some (l, true) }
  | .draw l' true => if l' = l then some { opened := .line l :: opened } else none
  | _ => none

/-- Reads a piece, unless it does not fit. -/
def step? (n : Nesting) : Piece → Option Nesting
  | .char _ => if n.begun.isNone then some n else none
  | .tag t =>
    match n.begun with
    | none => tag? n.opened t
    | some (l, sized) => begunTag? n.opened l sized t

/-- Reads one piece after the other. -/
def run? (n : Nesting) (ps : List Piece) : Option Nesting := ps.foldlM step? n

@[simp] theorem run?_nil (n : Nesting) : n.run? [] = some n := rfl

@[simp] theorem run?_cons (n : Nesting) (p : Piece) (ps : List Piece) :
    n.run? (p :: ps) = (n.step? p).bind (·.run? ps) := rfl

@[simp] theorem run?_append (n : Nesting) (ps qs : List Piece) :
    n.run? (ps ++ qs) = (n.run? ps).bind (·.run? qs) := List.foldlM_append

/-- What is open further out. -/
def within (n : Nesting) (outer : List Property) : Nesting := { n with opened := n.opened ++ outer }

/-- A step closes some properties and opens others. It takes no notice of what is further out. -/
theorem step?_local {n n' : Nesting} {p : Piece} (h : n.step? p = some n') :
    ∃ popped pushed rest, n.opened = popped ++ rest ∧ n'.opened = pushed ++ rest ∧
      (∀ rest, step? ⟨popped ++ rest, n.begun⟩ p = some ⟨pushed ++ rest, n'.begun⟩) ∧
      popped.count .font = fontsClosed [p] ∧ pushed.count .font = (fonts [p]).length := by
  obtain ⟨opened, begun⟩ := n
  have hclose {q : Property} (h : close? q opened = some n') :
      opened = q :: n'.opened ∧ n'.begun = none := by
    cases opened with
    | nil => cases h
    | cons q' opened =>
      simp only [close?] at h
      split at h <;> cases h
      simp_all
  -- a closing takes the innermost property away, an opening puts one on top of the others, and
  -- all else leaves them alone
  cases p with
  | char c =>
    simp only [step?] at h
    split at h <;> cases h
    refine ⟨[], [], opened, rfl, rfl, fun rest => ?_, rfl, rfl⟩
    simp_all [step?]
  | tag t =>
    cases begun with
    | none =>
      cases t with
      | background color | foreground color | font color =>
        cases color with
        | none =>
          obtain ⟨hopened, hbegun⟩ := hclose h
          refine ⟨[_], [], n'.opened, hopened, rfl, fun rest => ?_, rfl, rfl⟩
          simp [step?, tag?, close?, hbegun]
        | some color =>
          cases h
          exact ⟨[], [_], opened, rfl, rfl, fun rest => rfl, rfl, rfl⟩
      | ink l color | shift pixels =>
        cases h
        exact ⟨[], [], opened, rfl, rfl, fun rest => rfl, rfl, rfl⟩
      | thickness size => cases h
      | draw l on =>
        cases on with
        | false =>
          obtain ⟨hopened, hbegun⟩ := hclose h
          refine ⟨[_], [], n'.opened, hopened, rfl, fun rest => ?_, by simp [fontsClosed], rfl⟩
          simp [step?, tag?, close?, hbegun]
        | true => cases h
    | some begun =>
      obtain ⟨l, sized⟩ := begun
      cases t with
      | thickness size =>
        cases sized <;> cases h
        exact ⟨[], [], opened, rfl, rfl, fun rest => rfl, rfl, rfl⟩
      | draw l' on =>
        cases on with
        | false => cases h
        | true =>
          simp only [step?, begunTag?] at h
          split at h <;> cases h
          refine ⟨[], [.line l], opened, rfl, rfl, fun rest => ?_, rfl, by simp [fonts]⟩
          simp_all [step?, begunTag?]
      | background | foreground | font | ink | shift => cases h

/-- What is open further out makes no difference to a step that can be taken without it. -/
theorem step?_within {n n' : Nesting} {p : Piece} (h : n.step? p = some n')
    (outer : List Property) : (n.within outer).step? p = some (n'.within outer) := by
  obtain ⟨popped, pushed, rest, hpopped, hpushed, hstep, -, -⟩ := step?_local h
  have := hstep (rest ++ outer)
  rw [← List.append_assoc, ← List.append_assoc, ← hpopped, ← hpushed] at this
  exact this

/-- The fonts that are open are those that were opened and not closed. -/
theorem count_font_step? {n n' : Nesting} {p : Piece} (h : n.step? p = some n') :
    (fonts [p]).length + n.opened.count .font = fontsClosed [p] + n'.opened.count .font := by
  obtain ⟨popped, pushed, rest, hpopped, hpushed, -, hclosed, hfonts⟩ := step?_local h
  rw [hpopped, hpushed, List.count_append, List.count_append]
  omega

/-- Nor does it to any number of steps. -/
theorem run?_within {n n' : Nesting} {ps : List Piece} (h : n.run? ps = some n')
    (outer : List Property) : (n.within outer).run? ps = some (n'.within outer) := by
  induction ps generalizing n with
  | nil =>
    cases h
    rfl
  | cons p ps ih =>
    rw [run?_cons, Option.bind_eq_some_iff] at h
    obtain ⟨n₁, hstep, hrun⟩ := h
    rw [run?_cons, step?_within hstep outer]
    exact ih hrun

/-- A font that has been opened is closed, or still open. -/
theorem count_font_run? {n n' : Nesting} {ps : List Piece} (h : n.run? ps = some n') :
    (fonts ps).length + n.opened.count .font = fontsClosed ps + n'.opened.count .font := by
  induction ps generalizing n with
  | nil =>
    cases h
    rfl
  | cons p ps ih =>
    rw [run?_cons, Option.bind_eq_some_iff] at h
    obtain ⟨n₁, hstep, hrun⟩ := h
    have hfirst := count_font_step? hstep
    have hrest := ih hrun
    have hfonts : fonts (p :: ps) = fonts [p] ++ fonts ps := fonts_append [p] ps
    have hclosed : fontsClosed ([p] ++ ps) = fontsClosed [p] + fontsClosed ps := List.count_append
    rw [List.singleton_append] at hclosed
    rw [hfonts, hclosed, List.length_append]
    omega

end Nesting

/-! ### Well nested pieces -/

/-- Every closing closes the innermost property, and nothing stays open. -/
def IsNested (ps : List Piece) : Prop := Nesting.run? {} ps = some {}

instance (ps : List Piece) : Decidable (IsNested ps) := inferInstanceAs (Decidable (_ = _))

/-- Whatever is open stays open. -/
theorem IsNested.run? {ps : List Piece} (h : IsNested ps) (opened : List Property) :
    Nesting.run? { opened } ps = some { opened } := Nesting.run?_within h opened

theorem IsNested.append {ps qs : List Piece} (h : IsNested ps) (h' : IsNested qs) :
    IsNested (ps ++ qs) := by
  rw [IsNested, Nesting.run?_append, h]
  exact h'

theorem isNested_chars (cs : List Char) : IsNested (cs.map .char) := by
  induction cs with
  | nil => rfl
  | cons c cs ih => exact ih

theorem isNested_shift (pixels : Int) : IsNested (shift pixels) := by
  unfold shift
  split <;> rfl

/-- A setting is opened once, by however many tags. -/
theorem run?_opening (s : Setting) (opened : List Property) :
    Nesting.run? { opened } s.opening = some { opened := s.property :: opened } := by
  cases s with
  | background | foreground | font => rfl
  | line l color size =>
    simp only [Setting.opening, Setting.property]
    split <;> simp [Nesting.step?, Nesting.tag?, Nesting.begunTag?]

theorem step?_closing (s : Setting) (opened : List Property) :
    Nesting.step? { opened := s.property :: opened } s.closing = some { opened } := by
  cases s <;> simp [Nesting.step?, Nesting.tag?, Nesting.close?, Setting.closing, Setting.property]

/-- **A setting around well nested pieces makes well nested pieces.** -/
theorem IsNested.wrap {ps : List Piece} (h : IsNested ps) (ss : List Setting) :
    IsNested (wrap ss ps) := by
  induction ss with
  | nil => exact h
  | cons s ss ih =>
    have hinner := ih.run? [s.property]
    simp only [Markup.wrap, IsNested, Nesting.run?_append, run?_opening, Option.bind_some, hinner,
      Nesting.run?_cons, step?_closing, Nesting.run?_nil]

theorem isNested_labelled (m : Markup) (l : Label) : IsNested (m.labelled l) := by
  unfold labelled
  split
  · rfl
  · exact (isNested_chars _).wrap _

/-- Of well nested pieces as many fonts are closed as are opened. -/
theorem IsNested.fontsClosed_eq {ps : List Piece} (h : IsNested ps) :
    fontsClosed ps = (fonts ps).length := by
  have := Nesting.count_font_run? h
  simpa using this.symm

/-! ### Plain characters -/

theorem char_mem_iff {c : Char} {ps : List Piece} : .char c ∈ ps ↔ c ∈ visible ps := by
  rw [visible, List.mem_filterMap]
  constructor
  · intro h
    exact ⟨.char c, h, rfl⟩
  · rintro ⟨p, hp, heq⟩
    cases p <;> cases heq
    exact hp

/-- A bit that adds well nested pieces. -/
def Bit.IsNested : Bit → Prop
  | .text content => ∃ ps, read? content.toList = some ps ∧ Markup.IsNested ps
  | .label l => '%' ∉ l.text.toList

/-- What a bit adds to the text without its tags. -/
def Bit.visible : Bit → List Char
  | .text content => (read? content.toList).elim [] Markup.visible
  | .label l => l.shown

/-- A text without percent signs has no tags. -/
theorem read?_of_plain {content : String} (h : '%' ∉ content.toList) :
    read? content.toList = some (content.toList.map .char) :=
  read?_eq_some_iff.mpr ⟨write_chars _, by simpa using h⟩

theorem Bit.visible_of_plain {content : String} (h : '%' ∉ content.toList) :
    (Bit.text content).visible = content.toList := by
  rw [visible, read?_of_plain h]
  exact visible_chars _

/-- Well nested bits one behind the other are read as well nested pieces, and nothing is seen of
them but what is seen of each. -/
theorem exists_read_addAll {m : Markup} (hempty : m.output = "") {bits : List Bit}
    (h : ∀ b ∈ bits, b.IsNested) :
    ∃ ps, read? (m.addAll bits).output.toList = some ps ∧ IsNested ps ∧
      visible ps = bits.flatMap (·.visible) := by
  suffices hpieces : ∃ ps, write ps = write (bits.flatMap (·.pieces m)) ∧ .char '%' ∉ ps ∧
      IsNested ps ∧ visible ps = bits.flatMap (·.visible) by
    obtain ⟨ps, hwrite, hplain, hnested, hvisible⟩ := hpieces
    refine ⟨ps, read?_eq_some_iff.mpr ⟨?_, hplain⟩, hnested, hvisible⟩
    rw [hwrite, toList_output_addAll hempty]
  induction bits with
  | nil => exact ⟨[], rfl, List.not_mem_nil, rfl, rfl⟩
  | cons b bits ih =>
    have hfirst : ∃ ps, write ps = write (b.pieces m) ∧ .char '%' ∉ ps ∧ IsNested ps ∧
        visible ps = b.visible := by
      have hb := h b List.mem_cons_self
      cases b with
      | text content =>
        obtain ⟨ps, hread, hnested⟩ := hb
        obtain ⟨hwrite, hplain⟩ := read?_eq_some_iff.mp hread
        refine ⟨ps, ?_, hplain, hnested, ?_⟩
        · rw [hwrite, Bit.pieces, write_chars]
        · rw [Bit.visible, hread]
          rfl
      | label l =>
        refine ⟨m.labelled l, rfl, ?_, isNested_labelled m l, visible_labelled m l⟩
        rw [char_mem_iff, visible_labelled]
        exact Label.percent_not_mem_shown hb
    obtain ⟨ps, hwrite, hplain, hnested, hvisible⟩ := hfirst
    obtain ⟨qs, hwrite', hplain', hnested', hvisible'⟩ :=
      ih fun b hb => h b (List.mem_cons_of_mem _ hb)
    refine ⟨ps ++ qs, ?_, ?_, hnested.append hnested', ?_⟩
    · rw [List.flatMap_cons, write_append, write_append, hwrite, hwrite']
    · rw [List.mem_append, not_or]
      exact ⟨hplain, hplain'⟩
    · rw [List.flatMap_cons, visible_append, hvisible, hvisible']

end Markup

/-! ### Templates -/

namespace Template

open Markup

/-- What is around the pieces `ps` in the pieces `qs`. -/
structure Surrounds (t : Template) (m : Markup) (ps qs : List Piece) : Prop where
  nested : IsNested qs
  /-- Nothing at all is not decorated. -/
  nothing : ps = [] → qs = []
  visible : ps ≠ [] → visible qs =
    List.replicate t.margin ' ' ++ List.replicate t.padding ' ' ++ t.lead.elim [] Label.shown
      ++ visible ps
      ++ t.trail.elim [] Label.shown ++ List.replicate t.padding ' ' ++ List.replicate t.margin ' '
  fonts : ps ≠ [] → fonts qs =
    m.availableFont t.style ++ t.lead.elim [] m.labelFont ++ fonts ps ++ t.trail.elim [] m.labelFont
  fontsClosed : fontsClosed qs = (Markup.fonts qs).length

/-- **A template keeps well nested what is well nested.** -/
theorem isNested_framed (t : Template) (m : Markup) {ps : List Piece} (h : IsNested ps) :
    IsNested (t.framed m ps) := by
  have hlabel (l : Option Label) : IsNested (l.elim [] m.labelled) := by
    cases l with
    | none => rfl
    | some l => exact isNested_labelled m l
  have hcontent : IsNested (t.content m ps) :=
    ((((isNested_chars _).append (hlabel _)).append h).append (hlabel _)).append (isNested_chars _)
  unfold framed
  split
  · rfl
  · exact (((isNested_shift _).append (isNested_chars _)).append (hcontent.wrap _)).append
      (isNested_chars _)

/-- What a template writes surrounds the body with its margin, its padding and its labels, and with
nothing else. -/
theorem surrounds_framed (t : Template) (m : Markup) {ps : List Piece} (h : IsNested ps) :
    t.Surrounds m ps (t.framed m ps) where
  nested := isNested_framed t m h
  nothing := by
    intro hps
    rw [framed, if_pos hps]
  visible := by
    intro hps
    rw [framed, if_neg hps, content]
    cases t.lead <;> cases t.trail <;>
      simp only [Option.elim_none, Option.elim_some, visible_append, visible_shift, visible_blanks,
        visible_wrap, visible_labelled, List.nil_append, List.append_assoc]
  fonts := by
    intro hps
    rw [framed, if_neg hps, content]
    cases t.lead <;> cases t.trail <;> simp [fonts_wrap]
  fontsClosed := (isNested_framed t m h).fontsClosed_eq

/-- Labels without percent signs bring none in. -/
theorem percent_not_mem_framed {t : Template} (m : Markup)
    (hlead : ∀ l ∈ t.lead, '%' ∉ l.text.toList) (htrail : ∀ l ∈ t.trail, '%' ∉ l.text.toList)
    {ps : List Piece} (h : IsNested ps) (hplain : .char '%' ∉ ps) : .char '%' ∉ t.framed m ps := by
  by_cases hps : ps = []
  · rw [(surrounds_framed t m h).nothing hps]
    exact List.not_mem_nil
  · rw [char_mem_iff] at hplain ⊢
    rw [(surrounds_framed t m h).visible hps]
    have hlabel (l : Option Label) (hl : ∀ l' ∈ l, '%' ∉ l'.text.toList) :
        '%' ∉ l.elim [] Label.shown := by
      cases l with
      | none => exact List.not_mem_nil
      | some l => exact Label.percent_not_mem_shown (hl l rfl)
    simp [hplain, hlabel _ hlead, hlabel _ htrail, List.mem_replicate]

/-- The text that a template makes of a body can be read, and what is read surrounds the body. -/
theorem exists_surrounds {t : Template} {m : Markup} (hempty : m.output = "")
    (hlead : ∀ l ∈ t.lead, '%' ∉ l.text.toList) (htrail : ∀ l ∈ t.trail, '%' ∉ l.text.toList)
    {body : String} {ps : List Piece} (hbody : read? body.toList = some ps) (h : IsNested ps) :
    ∃ qs, read? (t.decorate m body).1.toList = some qs ∧ t.Surrounds m ps qs := by
  obtain ⟨hwrite, hplain⟩ := read?_eq_some_iff.mp hbody
  refine ⟨t.framed m ps, read?_eq_some_iff.mpr ⟨?_, ?_⟩, surrounds_framed t m h⟩
  · exact (decorate_eq hempty hwrite).symm
  · exact percent_not_mem_framed m hlead htrail h hplain

/-- **Markup is well nested.** Decorating keeps it so, and adds to the visible text nothing but
blanks and labels. So does rendering, when the builders write labels and well nested texts: the
body is then what is left of the gaps and what was written for the tags that are shown
(`Layout.bits`), and nothing is seen of it but what is seen of these. -/
theorem well_nested {t : Template} {m : Markup}
    (hlead : ∀ l ∈ t.lead, '%' ∉ l.text.toList) (htrail : ∀ l ∈ t.trail, '%' ∉ l.text.toList) :
    (∀ body ps, m.output = "" → read? body.toList = some ps → IsNested ps →
      ∃ qs, read? (t.decorate m body).1.toList = some qs ∧ t.Surrounds m ps qs) ∧
    ∀ build w, t.Builds build m.flush.2 w →
      (∀ name ∈ t.tags, ∀ b ∈ (w name).1, b.IsNested) →
      (∀ s, Segment.text s ∈ t.segments → '%' ∉ s.toList) →
      let body := (m.flush.2.addAll (t.bits m.flush.2 w)).output
      let text := (t.decorate m.flush.2 body).1
      (t.render m build).text = .ok text ∧
      (t.segments = Segment.parse t.value →
        (t.laidOut m.flush.2 w).IsOf (part? (written w) m.flush.2) t.segments) ∧
      ∃ ps qs, read? body.toList = some ps ∧ IsNested ps ∧
        visible ps = (t.bits m.flush.2 w).flatMap (·.visible) ∧
        read? text.toList = some qs ∧ t.Surrounds m.flush.2 ps qs := by
  constructor
  · intro body ps hempty hbody h
    exact exists_surrounds hempty hlead htrail hbody h
  · intro build w hbuild hnested hsegments body text
    have htext (s : String) (hs : '%' ∉ s.toList) : Bit.IsNested (.text s) :=
      ⟨_, read?_of_plain hs, isNested_chars _⟩
    have hbits : ∀ b ∈ t.bits m.flush.2 w, b.IsNested := forall_mem_bits htext hsegments hnested
    refine ⟨render_of_builds hbuild, fun hparsed => ?_, ?_⟩
    · apply Layout.isOf_layout
      rw [hparsed]
      exact Segment.isCanonical_parse t.value
    · obtain ⟨ps, hread, hps, hvisible⟩ := exists_read_addAll (m := m.flush.2) rfl hbits
      obtain ⟨qs, hqs, hsurrounds⟩ := exists_surrounds (m := m.flush.2) rfl hlead htrail hread hps
      exact ⟨ps, qs, hread, hps, hvisible, hqs, hsurrounds⟩

/-- A label in front of a body, which is decorated by itself or comes of a label and a text. -/
theorem well_nested_bracket :
    let t : Template := {
      segments := [.tag "a", .text "!"], lead := some { text := "(" } }
    (∃ qs, read? (t.decorate {} "X").1.toList = some qs ∧ t.Surrounds {} [.char 'X'] qs) ∧
      ∃ text qs, (t.render {} fun _ m => ⟨m.node { text := "X", font := 1 }, .ok true⟩).text =
          .ok text ∧
        read? text.toList = some qs ∧ IsNested qs ∧ visible qs = "(X!".toList := by
  intro t
  have hlead : ∀ l ∈ t.lead, '%' ∉ l.text.toList := by
    rintro l ⟨⟩
    decide
  have htrail : ∀ l ∈ t.trail, '%' ∉ l.text.toList := by
    rintro l ⟨⟩
  obtain ⟨hdecorate, hrender⟩ := well_nested (m := {}) hlead htrail
  constructor
  · exact hdecorate "X" [.char 'X'] rfl (read?_eq_some_iff.mpr (by decide)) rfl
  · let w : Writing := fun _ => ([.label { text := "X", font := 1 }], true)
    obtain ⟨htext, -, ps, qs, -, -, hvisible, hqs, hsurrounds⟩ :=
      hrender (fun _ m => ⟨m.node { text := "X", font := 1 }, .ok true⟩) w (fun _ _ => rfl)
        (by simp [w, Bit.IsNested]) (by simp [t])
    have hbits : t.bits ({} : Markup).flush.2 w =
        [.text "", .label { text := "X", font := 1 }, .text "!"] := by decide +kernel
    have hbody : visible ps = "X!".toList := by
      rw [hvisible, hbits, List.flatMap_cons, List.flatMap_cons, List.flatMap_cons,
        Bit.visible_of_plain (by decide), Bit.visible_of_plain (by decide)]
      rfl
    have hps : ps ≠ [] := by
      rintro rfl
      cases hbody
    refine ⟨_, qs, htext, hqs, hsurrounds.nested, ?_⟩
    rw [hsurrounds.visible hps, hbody]
    rfl

end Template

end StatusBar
