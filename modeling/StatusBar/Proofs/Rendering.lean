import StatusBar.Template.Render

/-!
# Rendering and the markup it is given

A module renders with one and the same markup all its life. Two facts make that harmless. Nothing
that is done to a markup changes the bar it is for, so the emptied markup stays the same
(`flush_decorate`, `flush_render`). And a rendering drops first what the markup held, so it comes
out as if the markup had been empty (`render_flush`).

Whatever the builders do, they are asked for the tags of the template only, in their order
(`asked_render_prefix`).
-/

namespace StatusBar

namespace Markup

/-! ### What the emptied markup is -/

@[simp] theorem flush_append (m : Markup) (text : String) :
    (m.append text).flush.2 = m.flush.2 := rfl

@[simp] theorem flush_space (m : Markup) (width : Nat) : (m.space width).flush.2 = m.flush.2 := rfl

@[simp] theorem flush_offset (m : Markup) (pixels : Int) :
    (m.offset pixels).flush.2 = m.flush.2 := by
  unfold offset
  split <;> rfl

@[simp] theorem flush_line (m : Markup) (kind : String) (c : Color) (size : Nat) :
    (m.line kind c size).flush.2 = m.flush.2 := by
  simp only [line, flush_append]
  split <;> rfl

/-- What one optional property opens, the rest of the opening goes on from. -/
theorem flush_openColors (m : Markup) (s : Style) : (m.openColors s).flush.2 = m.flush.2 := by
  obtain ⟨background, foreground, underline, underlineSize, overline, overlineSize, font⟩ := s
  cases background <;> cases foreground <;> cases underline <;> cases overline <;>
    simp [openColors, Markup.background, Markup.foreground, Markup.underline, Markup.overline]

theorem flush_closeColors (m : Markup) (s : Style) : (m.closeColors s).flush.2 = m.flush.2 := by
  simp only [closeColors]
  split <;> split <;> split <;> split <;> rfl

/-- A font of a style leaves what the markup is set up with. -/
theorem flush_of_font?_eq_some {m m' : Markup} {s : Style} (h : m.styleFont? s = some m') :
    m'.flush.2 = m.flush.2 := by
  unfold styleFont? font? at h
  split at h
  · cases h
  · split at h
    · cases h
      rfl
    · cases h

/-- So does a style around something that does. -/
theorem flush_within {content : Markup → Markup}
    (h : ∀ m, (content m).flush.2 = m.flush.2) (m : Markup) (s : Style) :
    (m.within s content).flush.2 = m.flush.2 := by
  unfold within
  simp only
  rw [flush_closeColors]
  split
  · rename_i m' hm'
    show (content m').flush.2 = m.flush.2
    rw [h, flush_of_font?_eq_some hm', flush_openColors]
  · rw [h, flush_openColors]

@[simp] theorem flush_node (m : Markup) (l : Label) : (m.node l).flush.2 = m.flush.2 := by
  unfold node
  split
  · rfl
  · apply flush_within
    intro m
    rfl

end Markup

namespace Template

open Markup

/-- A template leaves behind an empty markup with the set-up of the one it was given. -/
theorem flush_decorate (t : Template) (m : Markup) (body : String) :
    (t.decorate m body).2 = m.flush.2 := by
  unfold decorate
  split
  · rfl
  · simp only [flush_space]
    rw [flush_within, flush_space, flush_offset]
    intro m
    cases t.lead <;> cases t.trail <;> simp

/-- The markup is the bar's however far a rendering has come. -/
theorem flush_advance (spacing : Nat) (build : String → Markup → Fragment)
    (segments : List Segment) (p : Progress) :
    (advance spacing build segments p).1.markup.flush.2 = p.markup.flush.2 := by
  induction segments generalizing p with
  | nil => rfl
  | cons s rest ih =>
    cases s with
    | text content => exact ih _
    | tag name =>
      simp only [advance]
      split
      · rfl
      · rw [ih]
        -- whether the tag is shown has no say in the markup
        split
        · rfl
        · unfold Progress.skip
          split <;> rfl

/-- So does a rendering, however it ends. -/
theorem flush_render (t : Template) (m : Markup) (build : String → Markup → Fragment) :
    (t.render m build).markup.flush.2 = m.flush.2 := by
  have hkeep := flush_advance t.spacing build t.segments { markup := m.flush.2 }
  unfold render
  split
  · rename_i p panic heq
    rw [heq] at hkeep
    exact hkeep
  · rename_i p heq
    rw [heq] at hkeep
    simp only [flush_decorate]
    exact hkeep

/-- Nothing that the markup held comes out again. -/
theorem render_flush (t : Template) (m : Markup) (build : String → Markup → Fragment) :
    t.render m.flush.2 build = t.render m build := rfl

/-! ### What the builders are asked for -/

/-- A rendering asks for the tags in their order, and gives up early only after a panic. -/
theorem asked_advance (spacing : Nat) (build : String → Markup → Fragment)
    (segments : List Segment) (p : Progress) :
    ∃ asked, asked <+: Template.tags { segments } ∧
      (advance spacing build segments p).1.asked = asked.reverse ++ p.asked := by
  induction segments generalizing p with
  | nil => exact ⟨[], List.nil_prefix, rfl⟩
  | cons s rest ih =>
    cases s with
    | text content =>
      obtain ⟨asked, hasked, heq⟩ := ih { p with pending := p.pending ++ content }
      exact ⟨asked, hasked, heq⟩
    | tag name =>
      have htags : Template.tags { segments := .tag name :: rest } =
          name :: Template.tags { segments := rest } := rfl
      rw [htags]
      simp only [advance]
      split
      · exact ⟨[name], by simp, rfl⟩
      · obtain ⟨asked, hasked, heq⟩ := ih _
        refine ⟨name :: asked, (List.prefix_cons_inj name).mpr hasked, ?_⟩
        rw [heq]
        split
        · simp [Progress.add]
        · unfold Progress.skip
          split <;> simp

/-- The tags that a rendering asks for are the first tags of its template. -/
theorem asked_render_prefix (t : Template) (m : Markup) (build : String → Markup → Fragment) :
    (t.render m build).asked <+: t.tags := by
  have hrender : (t.render m build).asked =
      (advance t.spacing build t.segments { markup := m.flush.2 }).1.asked.reverse := by
    unfold render
    split <;> rename_i h <;> rw [h]
  obtain ⟨asked, hasked, heq⟩ :=
    asked_advance t.spacing build t.segments { markup := m.flush.2 }
  rw [hrender, heq, List.append_nil, List.reverse_reverse]
  exact hasked

end Template

end StatusBar
