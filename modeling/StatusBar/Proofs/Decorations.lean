import StatusBar.Proofs.Gaps
import StatusBar.Proofs.Tags

/-!
# Decorations in pieces

Whatever is done to a markup adds pieces to it (`put`). A style comes to a list of settings: what
each of them opens stands before the content, and what it closes behind, in the reverse order
(`wrap`). So there is one thing to be said about a setting, and the rest is induction.

A body that is made of texts and labels alone is a list of `Bit`s. The last part is about
rendering: when all builders write bits, then what is decorated in the end is written by bits, too,
and by which ones the layout of the template says (`render_of_builds`).
-/

namespace StatusBar

namespace Markup

/-- A property of the text with the value it takes. -/
inductive Setting where
  | background (color : Color)
  | foreground (color : Color)
  /-- A line of some thickness, where 0 says nothing of it. -/
  | line (line : Line) (color : Color) (size : Nat)
  | font (index : Nat)
deriving Repr, DecidableEq

namespace Setting

def opening : Setting → List Piece
  | background c => [.tag (.background (some c))]
  | foreground c => [.tag (.foreground (some c))]
  | line l c size =>
    .tag (.ink l c) :: (if size = 0 then [] else [.tag (.thickness size)]) ++ [.tag (.draw l true)]
  | font index => [.tag (.font (some index))]

def closing : Setting → Piece
  | background _ => .tag (.background none)
  | foreground _ => .tag (.foreground none)
  | line l _ _ => .tag (.draw l false)
  | font _ => .tag (.font none)

end Setting

/-- The colours and lines of a style, the outermost first. -/
def colors (m : Markup) (s : Style) : List Setting :=
  s.background.toList.map .background ++ s.foreground.toList.map .foreground
    ++ s.underline.toList.map (.line .below · (m.effectiveSize s.underlineSize))
    ++ s.overline.toList.map (.line .above · (m.effectiveSize s.overlineSize))

/-- The settings of a style, the outermost first. -/
def settings (m : Markup) (s : Style) : List Setting :=
  m.colors s ++ if m.hasFont s.font then [.font s.font] else []

/-- Pieces between what some settings open and close. -/
def wrap : List Setting → List Piece → List Piece
  | [], ps => ps
  | s :: rest, ps => s.opening ++ wrap rest ps ++ [s.closing]

/-- The wrapping opens its settings in order, and closes them in the opposite one. -/
theorem wrap_eq (ss : List Setting) (ps : List Piece) :
    wrap ss ps = ss.flatMap (·.opening) ++ ps ++ ss.reverse.map (·.closing) := by
  induction ss with
  | nil => simp [wrap]
  | cons s ss ih => simp [wrap, ih]

/-! ### Adding pieces -/

def put (m : Markup) (ps : List Piece) : Markup := m.append (String.ofList (write ps))

@[simp] theorem put_nil (m : Markup) : m.put [] = m := by
  simp [put, append]

@[simp] theorem put_put (m : Markup) (ps qs : List Piece) :
    (m.put ps).put qs = m.put (ps ++ qs) := by
  simp [put, append, String.append_assoc]

@[simp] theorem effectiveSize_put (m : Markup) (ps : List Piece) (size : Nat) :
    (m.put ps).effectiveSize size = m.effectiveSize size := rfl

@[simp] theorem hasFont_put (m : Markup) (ps : List Piece) (index : Nat) :
    (m.put ps).hasFont index = m.hasFont index := rfl

@[simp] theorem settings_put (m : Markup) (ps : List Piece) (s : Style) :
    (m.put ps).settings s = m.settings s := rfl

@[simp] theorem toList_output_put (m : Markup) (ps : List Piece) :
    (m.put ps).output.toList = m.output.toList ++ write ps := by
  simp [put, append]

/-- Text with the same characters is the same to a markup. -/
theorem append_eq_put {text : String} {ps : List Piece} (h : write ps = text.toList) (m : Markup) :
    m.append text = m.put ps := by
  rw [put, h, String.ofList_toList]

@[simp] theorem write_chars (cs : List Char) : write (cs.map .char) = cs := by
  induction cs with
  | nil => rfl
  | cons c cs ih => rw [List.map_cons, write_cons, ih, Piece.chars, List.singleton_append]

theorem append_tag (m : Markup) {t : Tag} {body : String} (h : t.body = body.toList) :
    m.append (tag body) = m.put [.tag t] := by
  apply append_eq_put
  simp [Markup.tag, Piece.chars, h]

def blanks (width : Nat) : List Piece := (List.replicate width ' ').map .char

@[simp] theorem space_eq_put (m : Markup) (width : Nat) : m.space width = m.put (blanks width) := by
  apply append_eq_put
  rw [blanks, write_chars, Text.toList_spaces]

/-- The pieces of a shift. No shift leaves no trace. -/
def shift (pixels : Int) : List Piece := if pixels = 0 then [] else [.tag (.shift pixels)]

@[simp] theorem offset_eq_put (m : Markup) (pixels : Int) :
    m.offset pixels = m.put (shift pixels) := by
  unfold offset shift
  split
  · rw [put_nil]
  · apply append_tag
    simp [Tag.body, toString]

/-! ### Styles -/

theorem background_eq_put (m : Markup) (c : Color) :
    m.background c = m.put (Setting.background c).opening := by
  apply append_tag
  simp [Tag.body, orReset, toString, Color.text]

theorem foreground_eq_put (m : Markup) (c : Color) :
    m.foreground c = m.put (Setting.foreground c).opening := by
  apply append_tag
  simp [Tag.body, orReset, toString, Color.text]

/-- A line is set by the pieces that give it a colour and turn it on. Its size is the one that is in
effect. -/
theorem line_eq_put (m : Markup) (l : Line) (c : Color) (size : Nat) :
    m.line (String.singleton l.letter) c size =
      m.put (Setting.line l c (m.effectiveSize size)).opening := by
  have hink (m : Markup) : m.append (tag s!"{String.singleton l.letter}{c.text}") =
      m.put [.tag (.ink l c)] := by
    apply append_tag
    cases l <;> simp [Tag.body, toString, Color.text, Line.letter]
  have hthickness (m : Markup) (n : Nat) :
      m.append (tag s!"U{n}") = m.put [.tag (.thickness n)] := by
    apply append_tag
    simp [Tag.body, toString]
  have hdraw (m : Markup) : m.append (tag s!"+{String.singleton l.letter}") =
      m.put [.tag (.draw l true)] := by
    apply append_tag
    cases l <;> simp [Tag.body, toString, Line.letter]
  simp only [line, hink, hthickness, hdraw, Setting.opening, Nat.pos_iff_ne_zero]
  split <;> simp_all

theorem underline_eq_put (m : Markup) (c : Color) (size : Nat) :
    m.underline c size = m.put (Setting.line .below c (m.effectiveSize size)).opening :=
  line_eq_put m .below c size

theorem overline_eq_put (m : Markup) (c : Color) (size : Nat) :
    m.overline c size = m.put (Setting.line .above c (m.effectiveSize size)).opening :=
  line_eq_put m .above c size

theorem openColors_eq_put (m : Markup) (s : Style) :
    m.openColors s = m.put ((m.colors s).flatMap (·.opening)) := by
  obtain ⟨background, foreground, underline, underlineSize, overline, overlineSize, font⟩ := s
  cases background <;> cases foreground <;> cases underline <;> cases overline <;>
    simp [openColors, colors, background_eq_put, foreground_eq_put, underline_eq_put,
      overline_eq_put]

/-- The colours of a style are closed in the opposite order. How they are closed does not depend on
the markup. -/
theorem closeColors_eq_put (m m' : Markup) (s : Style) :
    m.closeColors s = m.put ((m'.colors s).reverse.map (·.closing)) := by
  have hforeground (m : Markup) : m.foregroundClose = m.put [.tag (.foreground none)] :=
    append_tag m rfl
  have hbackground (m : Markup) : m.backgroundClose = m.put [.tag (.background none)] :=
    append_tag m rfl
  have hunderline (m : Markup) : m.underlineClose = m.put [.tag (.draw .below false)] :=
    append_tag m rfl
  have hoverline (m : Markup) : m.overlineClose = m.put [.tag (.draw .above false)] :=
    append_tag m rfl
  obtain ⟨background, foreground, underline, underlineSize, overline, overlineSize, font⟩ := s
  cases background <;> cases foreground <;> cases underline <;> cases overline <;>
    simp [closeColors, colors, hforeground, hbackground, hunderline, hoverline, Setting.closing]

theorem font?_eq_put (m : Markup) (index : Nat) :
    m.font? index =
      if m.hasFont index then some (m.put (Setting.font index).opening) else none := by
  have hopen : m.append (tag s!"T{index}") = m.put (Setting.font index).opening := by
    apply append_tag
    simp [Tag.body, orReset, toString]
  rw [font?, hopen]

/-- The font 0 stands for none, and no bar has it. -/
theorem styleFont?_eq (m : Markup) (s : Style) : m.styleFont? s = m.font? s.font := by
  unfold styleFont? font?
  split
  · rename_i hzero
    simp [hzero, hasFont]
  · rfl

/-- **A style around some content.** -/
theorem within_eq_put {content : Markup → Markup} {ps : List Piece} {m : Markup}
    (h : ∀ qs, content (m.put qs) = (m.put qs).put ps) (s : Style) :
    m.within s content = m.put (wrap (m.settings s) ps) := by
  have hclose (m : Markup) : m.fontClose = m.put [(Setting.font s.font).closing] := append_tag m rfl
  have hfont := font?_eq_put (m.put ((m.colors s).flatMap (·.opening))) s.font
  simp only [within, openColors_eq_put, styleFont?_eq, closeColors_eq_put _ m, hfont, hasFont_put]
  by_cases hknown : m.hasFont s.font <;> simp [hknown, settings, wrap_eq, h, hclose]

end Markup

/-! ### Labels -/

namespace Label

def style (l : Label) : Markup.Style where
  background := l.background
  foreground := l.foreground
  underline := l.underline
  overline := l.overline
  font := l.font

/-- What a label shows. -/
def shown (l : Label) : List Char :=
  if l.isEmpty then []
  else List.replicate l.padding ' ' ++ l.text.toList ++ List.replicate l.padding ' '

end Label

namespace Markup

/-- The pieces of a label. -/
def labelled (m : Markup) (l : Label) : List Piece :=
  if l.isEmpty then [] else wrap (m.settings l.style) (l.shown.map .char)

/-- A label of a template is put as a piece of text within its own style. -/
theorem node_eq_put (m : Markup) (l : Label) : m.node l = m.put (m.labelled l) := by
  unfold node labelled
  split
  · rw [put_nil]
  · rename_i htext
    apply within_eq_put
    intro qs
    have happend (m : Markup) : m.append l.text = m.put (l.text.toList.map .char) :=
      append_eq_put (write_chars _) m
    simp [happend, Label.shown, htext, blanks]

/-! ### Bodies -/

/-- What a builder may add to its markup. -/
inductive Bit where
  | text (content : String)
  | label (l : Label)
deriving Repr, DecidableEq

def Bit.pieces (m : Markup) : Bit → List Piece
  | text content => content.toList.map .char
  | label l => m.labelled l

def add (m : Markup) : Bit → Markup
  | .text content => m.append content
  | .label l => m.node l

def addAll (m : Markup) (bits : List Bit) : Markup := bits.foldl add m

/-- **A builder puts the pieces of its bits**, one after the other. No bit changes what another one
writes. -/
theorem addAll_eq_put (m : Markup) (bits : List Bit) :
    m.addAll bits = m.put (bits.flatMap (·.pieces m)) := by
  have hadd (m : Markup) (b : Bit) : m.add b = m.put (b.pieces m) := by
    cases b with
    | text content => exact append_eq_put (write_chars _) m
    | label l => exact node_eq_put m l
  have hpieces (qs : List Piece) (b : Bit) : b.pieces (m.put qs) = b.pieces m := by
    cases b <;> rfl
  have hrest (qs : List Piece) :
      (m.put qs).addAll bits = m.put (qs ++ bits.flatMap (·.pieces m)) := by
    induction bits generalizing qs with
    | nil => simp [addAll]
    | cons b bits ih =>
      show ((m.put qs).add b).addAll bits = _
      rw [hadd, hpieces, put_put, ih, List.flatMap_cons, List.append_assoc]
  simpa using hrest []

theorem toList_output_addAll {m : Markup} (hempty : m.output = "") (bits : List Bit) :
    (m.addAll bits).output.toList = write (bits.flatMap (·.pieces m)) := by
  rw [addAll_eq_put, toList_output_put, hempty]
  rfl

end Markup

/-! ### Templates -/

namespace Template

open Markup

/-- What stands within the style of a template. -/
def content (t : Template) (m : Markup) (ps : List Piece) : List Piece :=
  blanks t.padding ++ t.lead.elim [] m.labelled ++ ps ++ t.trail.elim [] m.labelled
    ++ blanks t.padding

/-- Adds what stands within the style of a template. -/
def filled (t : Template) (body : String) (m : Markup) : Markup :=
  let m := m.space t.padding
  let m := match t.lead with | some l => m.node l | none => m
  let m := m.append body
  let m := match t.trail with | some l => m.node l | none => m
  m.space t.padding

/-- The decorations around the pieces of a body. -/
def framed (t : Template) (m : Markup) (ps : List Piece) : List Piece :=
  if ps = [] then []
  else
    shift t.offset ++ blanks t.margin ++ wrap (m.settings t.style) (t.content m ps)
      ++ blanks t.margin

/-- A template that is filled with a body puts the pieces of the body between its labels, within its
style. -/
theorem filled_eq_put {t : Template} {body : String} {ps : List Piece}
    (hbody : write ps = body.toList) (m : Markup) : t.filled body m = m.put (t.content m ps) := by
  have happend (m : Markup) : m.append body = m.put ps := append_eq_put hbody m
  have hlabelled (qs : List Piece) (l : Label) : (m.put qs).labelled l = m.labelled l := rfl
  unfold filled content
  cases t.lead <;> cases t.trail <;> simp [happend, node_eq_put, hlabelled]

/-- **A body of pieces is decorated with pieces.** -/
theorem decorate_eq {t : Template} {m : Markup} {body : String} {ps : List Piece}
    (hempty : m.output = "") (hbody : write ps = body.toList) :
    (t.decorate m body).1.toList = write (t.framed m ps) := by
  by_cases hps : ps = []
  · subst hps
    have hnothing : body = "" := String.toList_eq_nil_iff.mp hbody.symm
    simp [decorate, framed, hnothing]
  · have hsomething : ¬ body.isEmpty := by
      rw [String.isEmpty_iff]
      rintro rfl
      exact hps (write_eq_nil_iff.mp hbody)
    have hwithin (m : Markup) :
        m.within t.style (t.filled body) = m.put (wrap (m.settings t.style) (t.content m ps)) := by
      apply within_eq_put
      intro qs
      exact filled_eq_put hbody _
    have hdecorate : (t.decorate m body).1 =
        ((((m.offset t.offset).space t.margin).within t.style (t.filled body)).space
          t.margin).output := by
      rw [decorate, if_neg hsomething]
      rfl
    have hcontent (qs : List Piece) : t.content (m.put qs) ps = t.content m ps := rfl
    rw [hdecorate, hwithin, framed, if_neg hps]
    simp [hempty, hcontent]

/-! ### Rendering -/

/-- For each tag the bits that are written for it, and whether it is to be shown. -/
abbrev Writing := String → List Bit × Bool

def written (w : Writing) (name : String) (m : Markup) : Markup × Bool :=
  (m.addAll (w name).1, (w name).2)

/-- The tags of `t` are built without a panic, and nothing is written into `m` but the bits of
`w`. -/
def Builds (t : Template) (build : String → Markup → Fragment) (m : Markup) (w : Writing) : Prop :=
  ∀ name ∈ t.tags, build name m = building (written w) name m

/-- What a layout shows in bits: what is left of the gaps, and what was written for the tags. -/
def Layout.bits (spacing : Nat) (w : Writing) : Layout → List Bit
  | ⟨[], last⟩ => [.text last.ending]
  | ⟨e :: rest, last⟩ =>
    .text (Text.trimStart e.gap.text) :: (w e.name).1
      ++ rest.flatMap (fun e => .text (e.gap.text ++ Text.spaces spacing) :: (w e.name).1)
      ++ [.text last.ending]

/-- The template laid out, when the bits of `w` are written into `m`. -/
def laidOut (t : Template) (m : Markup) (w : Writing) : Layout :=
  layout (part? (written w) m) t.segments

/-- The body of a rendering in bits. -/
def bits (t : Template) (m : Markup) (w : Writing) : List Bit := (t.laidOut m w).bits t.spacing w

variable {t : Template} {m : Markup} {w : Writing}

/-- The bits of a layout make up its body. -/
theorem Layout.output_addAll_bits (hempty : m.output = "") (spacing : Nat) {l : Layout}
    (h : ∀ e ∈ l.shown, (m.addAll (w e.name).1).output = e.part) :
    (m.addAll (l.bits spacing w)).output = l.body spacing := by
  have htext (s : String) : write (Bit.pieces m (.text s)) = s.toList := write_chars _
  have hpart (e : Shown) (he : e ∈ l.shown) :
      write ((w e.name).1.flatMap (·.pieces m)) = e.part.toList := by
    rw [← toList_output_addAll hempty, h e he]
  apply String.toList_injective
  rw [toList_output_addAll hempty]
  obtain ⟨_ | ⟨e, rest⟩, last⟩ := l
  · simp [bits, body, htext]
  · obtain ⟨hfirst, hrest⟩ := List.forall_mem_cons.mp hpart
    have hlater : write ((rest.flatMap fun e =>
          .text (e.gap.text ++ Text.spaces spacing) :: (w e.name).1).flatMap (·.pieces m)) =
        (String.join (rest.map fun e =>
          e.gap.text ++ Text.spaces spacing ++ e.part)).toList := by
      clear hpart h
      induction rest with
      | nil => rfl
      | cons e rest ih =>
        obtain ⟨hhead, hrest⟩ := List.forall_mem_cons.mp hrest
        simp [write_append, htext, hhead, ih hrest]
    simp [bits, body, continuation, write_append, htext, hfirst, hlater]

/-- What holds of plain texts and of all that is written for the tags, holds of all bits. -/
theorem forall_mem_bits {P : Bit → Prop} (htext : ∀ s, '%' ∉ s.toList → P (.text s))
    (hsegments : ∀ s, Segment.text s ∈ t.segments → '%' ∉ s.toList)
    (hwritten : ∀ name ∈ t.tags, ∀ b ∈ (w name).1, P b) : ∀ b ∈ t.bits m w, P b := by
  have hgaps : ∀ g ∈ (t.laidOut m w).gaps, '%' ∉ g.text.toList :=
    Layout.not_mem_text_layout hsegments
  have hshown : ∀ e ∈ (t.laidOut m w).shown, ∀ b ∈ (w e.name).1, P b := by
    intro e he
    apply hwritten
    rw [tags, List.mem_filterMap]
    exact ⟨_, (Layout.shown_layout t.segments e he).1, rfl⟩
  have hending (g : Gap) (hg : '%' ∉ g.text.toList) : '%' ∉ g.ending.toList := by
    unfold Gap.ending
    split
    · exact List.not_mem_nil
    · exact hg
  unfold bits
  generalize t.laidOut m w = l at hgaps hshown
  obtain ⟨_ | ⟨e, rest⟩, last⟩ := l
  · exact List.forall_mem_singleton.mpr (htext _ (hending _ (hgaps _ (by simp [Layout.gaps]))))
  · simp only [Layout.gaps, List.map_cons, List.cons_append, List.mem_cons, List.mem_append,
      List.mem_map, List.not_mem_nil, or_false] at hgaps
    obtain ⟨hfirst, hrest⟩ := List.forall_mem_cons.mp hshown
    intro b hb
    simp only [Layout.bits, List.cons_append, List.mem_cons, List.mem_append, List.mem_flatMap,
      List.not_mem_nil, or_false] at hb
    rcases hb with rfl | (hb | ⟨e', he', rfl | hb⟩) | rfl
    · apply htext
      intro hmem
      rw [Text.trimStart, String.toList_ofList] at hmem
      exact hgaps _ (.inl rfl) (List.dropWhile_subset _ hmem)
    · exact hfirst b hb
    · have hgap : '%' ∉ e'.gap.text.toList := hgaps _ (.inr (.inl ⟨e', he', rfl⟩))
      apply htext
      simp [hgap, List.mem_replicate]
    · exact hrest e' he' b hb
    · exact htext _ (hending _ (hgaps _ (.inr (.inr rfl))))

/-- All that is seen of the builders is what they do with the empty markup. -/
theorem advance_congr {build build' : String → Markup → Fragment} (spacing : Nat)
    {segments : List Segment} {p : Progress} (hempty : p.markup.output = "")
    (h : ∀ name ∈ tags { segments }, build name p.markup = build' name p.markup) :
    advance spacing build segments p = advance spacing build' segments p := by
  induction segments generalizing p with
  | nil => rfl
  | cons s rest ih =>
    cases s with
    | text content => exact ih hempty h
    | tag name =>
      obtain ⟨hname, hrest⟩ := List.forall_mem_cons.mp h
      have hflush (output : String) :
          ({ p.markup with output } : Markup).flush = (output, p.markup) := by
        rw [flush, ← hempty]
      simp only [advance, hname, hflush]
      split
      · rfl
      · split
        · exact ih hempty hrest
        · have hskip : ({ p with asked := name :: p.asked } : Progress).skip.markup = p.markup := by
            unfold Progress.skip
            split <;> rfl
          exact ih (by rw [hskip]; exact hempty) (by rw [hskip]; exact hrest)

/-- **A rendering decorates bits**: what is left of the gaps, and what its builders write for the
tags that are shown. -/
theorem render_of_builds {build : String → Markup → Fragment} (h : t.Builds build m.flush.2 w) :
    (t.render m build).text =
      .ok (t.decorate m.flush.2 (m.flush.2.addAll (t.bits m.flush.2 w)).output).1 := by
  have hstart : ({ markup := m.flush.2 } : Progress).markup.output = "" := rfl
  have hsame : t.render m build = t.render m (building (written w)) := by
    unfold render
    rw [advance_congr t.spacing hstart h]
  have hbody : (m.flush.2.addAll (t.bits m.flush.2 w)).output =
      (t.laidOut m.flush.2 w).body t.spacing := by
    apply Layout.output_addAll_bits rfl
    intro e he
    exact (part?_eq_some_iff.mp (Layout.shown_layout t.segments e he).2).2.1
  rw [hsame, render_building, hbody]
  rfl

end Template

end StatusBar
