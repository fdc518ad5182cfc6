import StatusBar.Proofs.Rendering
import StatusBar.Proofs.Segments

/-!
# Rendering by gaps

`render` goes over the segments once and keeps text back until a tag has something to show. The
same can be said without any order of events. A template is laid out in gaps, which are the
stretches before, between and behind the tags that are shown. What is left of a gap depends on its
own texts alone (`Gap.text`), and the body is made of what is left of the gaps and what the tags
show (`Layout.body`).

The two meet in `finish_advance`. Text that waits is text in front of the rest of the template, so
it goes to the first gap of that rest.
-/

namespace StatusBar.Template

/-! ### Gaps -/

/-- A stretch without a tag that is shown. A text that is missing is empty. -/
structure Gap where
  /-- The text in front of the first tag. -/
  first : String := ""
  /-- The tags, none of which is shown, each with the text behind it. -/
  skipped : List (String × String) := []

namespace Gap

/-- The texts, of which there is one more than there are tags. -/
def texts (g : Gap) : List String := g.first :: g.skipped.map (·.2)

/-- What is left of a gap: its texts from the first one in front of a tag that is not blank. When
there is none, only the last text is left. -/
def text (g : Gap) : String :=
  String.join (g.texts.drop (g.texts.dropLast.findIdx (!Text.allBlank ·)))

/-- What is shown of the gap at the end of a template. It is not shown if it is blank. -/
def ending (g : Gap) : String := if Text.allBlank g.text then "" else g.text

/-- The gap with more text in front. -/
def prepend (s : String) (g : Gap) : Gap := { g with first := s ++ g.first }

/-- The gap with one more tag in front. -/
def skip (name : String) (g : Gap) : Gap := { skipped := (name, g.first) :: g.skipped }

/-- The gap as it stands in the template. -/
def segments (g : Gap) : List Segment :=
  .text g.first :: g.skipped.flatMap fun (name, behind) => [.tag name, .text behind]

theorem allBlank_append (s t : String) :
    Text.allBlank (s ++ t) = (Text.allBlank s && Text.allBlank t) := by
  simp [Text.allBlank]

@[simp] theorem prepend_empty (g : Gap) : g.prepend "" = g := by
  simp [prepend]

@[simp] theorem prepend_prepend (s t : String) (g : Gap) :
    (g.prepend t).prepend s = g.prepend (s ++ t) := by
  simp [prepend, String.append_assoc]

theorem ending_congr {g g' : Gap} (h : g.text = g'.text) : g.ending = g'.ending := by
  rw [ending, ending, h]

/-- A gap without tags is its text. -/
@[simp] theorem text_prepend_nil (s : String) : (prepend s {}).text = s := by
  simp [text, texts, prepend]

/-- A text that is not blank keeps everything behind it. -/
theorem text_of_not_allBlank {g : Gap} (h : Text.allBlank g.first = false) :
    g.text = String.join g.texts := by
  have hfront : g.texts.dropLast.findIdx (!Text.allBlank ·) = 0 := by
    unfold texts
    cases g.skipped with
    | nil => rfl
    | cons e rest => simp [List.findIdx_cons, h]
  rw [text, hfront, List.drop_zero]

/-- The text in front of a skipped tag disappears if it is blank, and else goes to the text behind
the tag. -/
theorem text_prepend_skip (s name : String) (g : Gap) :
    ((g.skip name).prepend s).text = (g.prepend (if Text.allBlank s then "" else s)).text := by
  have htexts : ((g.skip name).prepend s).texts = s :: g.texts := by
    simp [prepend, skip, texts]
  cases hblank : Text.allBlank s with
  | true =>
    have hdrop : (s :: g.texts).dropLast = s :: g.texts.dropLast :=
      List.dropLast_cons_of_ne_nil (List.cons_ne_nil _ _)
    rw [if_pos rfl, prepend_empty, text, htexts, hdrop, List.findIdx_cons, hblank]
    rfl
  | false =>
    have hkept : Text.allBlank (g.prepend s).first = false := by
      rw [prepend, allBlank_append, hblank, Bool.false_and]
    have hfront : Text.allBlank ((g.skip name).prepend s).first = false := by
      rw [prepend, allBlank_append, hblank, Bool.false_and]
    rw [if_neg (by simp), text_of_not_allBlank hfront, text_of_not_allBlank hkept, htexts]
    simp [texts, prepend, String.append_assoc]

end Gap

/-! ### Layouts -/

/-- A tag that is shown. -/
structure Shown where
  /-- The gap in front of it. -/
  gap : Gap := {}
  name : String
  /-- What it shows. -/
  part : String

/-- A template laid out. -/
structure Layout where
  /-- The tags that are shown. -/
  shown : List Shown := []
  /-- The gap behind the last of them. -/
  last : Gap := {}

namespace Layout

/-- The layout with another first gap. -/
def mapFirst (f : Gap → Gap) : Layout → Layout
  | ⟨[], last⟩ => ⟨[], f last⟩
  | ⟨e :: rest, last⟩ => ⟨{ e with gap := f e.gap } :: rest, last⟩

/-- The gaps in their order. -/
def gaps (l : Layout) : List Gap := l.shown.map (·.gap) ++ [l.last]

/-- What is shown behind another tag. -/
def continuation (spacing : Nat) (l : Layout) : String :=
  String.join (l.shown.map fun e => e.gap.text ++ Text.spaces spacing ++ e.part) ++ l.last.ending

/-- What is shown. The gap in front of the first tag loses the blanks at its start. -/
def body (spacing : Nat) : Layout → String
  | ⟨[], last⟩ => last.ending
  | ⟨e :: rest, last⟩ => Text.trimStart e.gap.text ++ e.part ++ continuation spacing ⟨rest, last⟩

/-- The layout as it stands in the template. -/
def segments (l : Layout) : List Segment :=
  l.shown.flatMap (fun e => e.gap.segments ++ [.tag e.name]) ++ l.last.segments

/-- The layout is that of some segments, when `part? name` is what the tag of that name shows. -/
structure IsOf (l : Layout) (part? : String → Option String) (segments : List Segment) :
    Prop where
  segments : l.segments.filter (· ≠ .text "") = segments
  shown : ∀ e ∈ l.shown, part? e.name = some e.part
  skipped : ∀ g ∈ l.gaps, ∀ e ∈ g.skipped, part? e.1 = none

theorem mapFirst_prepend_empty (l : Layout) : l.mapFirst (·.prepend "") = l := by
  obtain ⟨_ | ⟨e, rest⟩, last⟩ := l <;> simp [mapFirst]

@[simp] theorem mapFirst_mapFirst (f f' : Gap → Gap) (l : Layout) :
    (l.mapFirst f).mapFirst f' = l.mapFirst fun g => f' (f g) := by
  obtain ⟨_ | ⟨e, rest⟩, last⟩ := l <;> rfl

/-- Of the first gap only what is left of it counts. -/
theorem body_congr {f f' : Gap → Gap} (h : ∀ g, (f g).text = (f' g).text) (spacing : Nat)
    (l : Layout) : (l.mapFirst f).body spacing = (l.mapFirst f').body spacing := by
  obtain ⟨_ | ⟨e, rest⟩, last⟩ := l
  · exact Gap.ending_congr (h last)
  · simp only [mapFirst, body, h]

/-- How a layout is continued depends on the texts of its gaps only. -/
theorem continuation_congr {f f' : Gap → Gap} (h : ∀ g, (f g).text = (f' g).text) (spacing : Nat)
    (l : Layout) :
    (l.mapFirst f).continuation spacing = (l.mapFirst f').continuation spacing := by
  obtain ⟨_ | ⟨e, rest⟩, last⟩ := l
  · simp only [mapFirst, continuation, Gap.ending_congr (h last)]
  · simp only [mapFirst, continuation, List.map_cons, h]

end Layout

/-- The segments laid out. -/
def layout (part? : String → Option String) : List Segment → Layout
  | [] => {}
  | .text content :: rest => (layout part? rest).mapFirst (·.prepend content)
  | .tag name :: rest =>
    match part? name with
    | some part => { layout part? rest with shown := { name, part } :: (layout part? rest).shown }
    | none => (layout part? rest).mapFirst (·.skip name)

namespace Layout

variable {part? : String → Option String}

theorem segments_mapFirst {f : Gap → Gap} {front : List Segment}
    (h : ∀ g, (f g).segments = front ++ g.segments) (l : Layout) :
    (l.mapFirst f).segments = front ++ l.segments := by
  obtain ⟨_ | ⟨e, rest⟩, last⟩ := l <;> simp [mapFirst, segments, h]

/-- A tag has a text in front of it, if only an empty one. -/
theorem segments_layout_tag (name : String) (rest : List Segment) :
    (layout part? (.tag name :: rest)).segments =
      .text "" :: .tag name :: (layout part? rest).segments := by
  rw [layout]
  split
  · simp [segments, Gap.segments]
  · show _ = [.text "", .tag name] ++ (layout part? rest).segments
    apply segments_mapFirst
    intro g
    simp [Gap.skip, Gap.segments]

/-- In front of a gap without text there is room for a text. -/
theorem segments_mapFirst_prepend {l : Layout} {rest : List Segment}
    (h : l.segments = .text "" :: rest) (content : String) :
    (l.mapFirst (·.prepend content)).segments = .text content :: rest := by
  obtain ⟨_ | ⟨e, later⟩, last⟩ := l
  · simp only [segments, Gap.segments, List.flatMap_nil, List.nil_append, List.cons.injEq,
      Segment.text.injEq] at h
    simp [mapFirst, segments, Gap.segments, Gap.prepend, h]
  · simp only [segments, Gap.segments, List.flatMap_cons, List.cons_append, List.cons.injEq,
      Segment.text.injEq] at h
    simp [mapFirst, segments, Gap.segments, Gap.prepend, ← h.2, h.1]

/-- Nothing of a canonical list of segments is lost, and nothing is added but empty texts. -/
theorem filter_segments_layout {segments : List Segment} (h : Segment.IsCanonical segments) :
    (layout part? segments).segments.filter (· ≠ .text "") = segments := by
  induction h with
  | nil => rfl
  | tag _ _ ih => simpa [segments_layout_tag] using ih
  | lastText hne _ =>
    have hnothing : (layout part? []).segments = [.text ""] := rfl
    rw [layout, segments_mapFirst_prepend hnothing]
    simp [hne]
  | text hne _ _ ih =>
    rw [layout, segments_mapFirst_prepend (segments_layout_tag _ _)]
    rw [segments_layout_tag] at ih
    simpa [hne] using ih

/-- Another first gap does not change what the tags show. -/
theorem shown_mapFirst {Q : String → String → Prop} {f : Gap → Gap} {l : Layout}
    (h : ∀ e ∈ l.shown, Q e.name e.part) : ∀ e ∈ (l.mapFirst f).shown, Q e.name e.part := by
  obtain ⟨_ | ⟨e, rest⟩, last⟩ := l
  · exact h
  · simpa [mapFirst] using h

/-- What holds of all gaps still does with another first gap, when it carries over to that one. -/
theorem gaps_mapFirst {P : Gap → Prop} {f : Gap → Gap} (hf : ∀ g, P g → P (f g)) {l : Layout}
    (h : ∀ g ∈ l.gaps, P g) : ∀ g ∈ (l.mapFirst f).gaps, P g := by
  obtain ⟨_ | ⟨e, rest⟩, last⟩ := l
  · simpa [mapFirst, gaps] using hf _ (h last (by simp [gaps]))
  · simp only [gaps, List.map_cons, List.cons_append, List.mem_cons, forall_eq_or_imp] at h
    simpa [mapFirst, gaps, hf _ h.1] using h.2

/-- The tags that are shown are tags of the segments, and each shows its part. -/
theorem shown_layout (segments : List Segment) : ∀ e ∈ (layout part? segments).shown,
    Segment.tag e.name ∈ segments ∧ part? e.name = some e.part := by
  induction segments with
  | nil => simp [layout]
  | cons s rest ih =>
    let Q (name part : String) : Prop := Segment.tag name ∈ s :: rest ∧ part? name = some part
    have hrest : ∀ e ∈ (layout part? rest).shown, Q e.name e.part := fun e he =>
      ⟨List.mem_cons_of_mem _ (ih e he).1, (ih e he).2⟩
    cases s with
    | text content => exact shown_mapFirst (Q := Q) hrest
    | tag name =>
      rw [layout]
      split
      · rename_i part hpart
        exact List.forall_mem_cons.mpr ⟨⟨List.mem_cons_self, hpart⟩, hrest⟩
      · exact shown_mapFirst (Q := Q) hrest

/-- The tags in the gaps have nothing to show. -/
theorem skipped_layout (segments : List Segment) :
    ∀ g ∈ (layout part? segments).gaps, ∀ e ∈ g.skipped, part? e.1 = none := by
  induction segments with
  | nil => simp [layout, gaps]
  | cons s rest ih =>
    cases s with
    | text content => exact gaps_mapFirst (f := (·.prepend content)) (fun _ h => h) ih
    | tag name =>
      rw [layout]
      split
      · simpa [gaps] using ih
      · rename_i hnone
        apply gaps_mapFirst _ ih
        intro g hg
        simpa [Gap.skip, hnone] using hg

/-- A character that the texts of the segments do not have is in no gap either. -/
theorem not_mem_text_layout {c : Char} {segments : List Segment}
    (h : ∀ s, Segment.text s ∈ segments → c ∉ s.toList) :
    ∀ g ∈ (layout part? segments).gaps, c ∉ g.text.toList := by
  suffices htexts : ∀ g ∈ (layout part? segments).gaps, ∀ s ∈ g.texts, c ∉ s.toList by
    intro g hg hc
    rw [Gap.text, String.toList_join, List.mem_flatMap] at hc
    obtain ⟨s, hs, hmem⟩ := hc
    exact htexts g hg s (List.mem_of_mem_drop hs) hmem
  induction segments with
  | nil => simp [layout, gaps, Gap.texts]
  | cons s rest ih =>
    have hgaps := ih fun s hs => h s (List.mem_cons_of_mem _ hs)
    cases s with
    | text content =>
      apply gaps_mapFirst _ hgaps
      intro g hg
      have hcontent : c ∉ content.toList := h content List.mem_cons_self
      simp only [Gap.texts, List.forall_mem_cons] at hg ⊢
      exact ⟨by simp [Gap.prepend, hcontent, hg.1], hg.2⟩
    | tag name =>
      have hskip (g : Gap) (hg : ∀ s ∈ g.texts, c ∉ s.toList) :
          ∀ s ∈ (g.skip name).texts, c ∉ s.toList :=
        List.forall_mem_cons.mpr ⟨List.not_mem_nil, hg⟩
      rw [layout]
      split
      · exact List.forall_mem_cons.mpr ⟨by simp [Gap.texts], hgaps⟩
      · exact gaps_mapFirst hskip hgaps

theorem isOf_layout {segments : List Segment} (h : Segment.IsCanonical segments) :
    (layout part? segments).IsOf part? segments :=
  ⟨filter_segments_layout h, fun e he => (shown_layout segments e he).2, skipped_layout segments⟩

end Layout

/-! ### Rendering -/

/-- A tag is shown if its builder says so and has written something into the markup, which was
empty before. -/
def part? (content : String → Markup → Markup × Bool) (blank : Markup) (name : String) :
    Option String :=
  let (m, shown) := content name blank
  if shown && !m.output.isEmpty then some m.output else none

/-- Builders that do not panic. -/
def building (content : String → Markup → Markup × Bool) (name : String) (m : Markup) : Fragment :=
  ⟨(content name m).1, .ok (content name m).2⟩

variable {content : String → Markup → Markup × Bool} {spacing : Nat}

/-- A tag is a part of the layout if its fragment is shown and is not empty. -/
theorem part?_eq_some_iff {blank : Markup} {name part : String} :
    part? content blank name = some part ↔
      (content name blank).2 = true ∧ (content name blank).1.output = part ∧ part ≠ "" := by
  simp only [part?, Option.ite_none_right_eq_some, Bool.and_eq_true, Bool.not_eq_true',
    Option.some.injEq]
  constructor
  · rintro ⟨⟨hshown, hpart⟩, rfl⟩
    exact ⟨hshown, rfl, by simpa using hpart⟩
  · rintro ⟨hshown, rfl, hpart⟩
    exact ⟨⟨hshown, by simpa using hpart⟩, rfl⟩

/-- The progress after a tag, of which the markup is empty again. -/
theorem advance_tag {p : Progress} (hblank : p.markup.output = "") (name : String)
    (rest : List Segment) :
    advance spacing (building content) (.tag name :: rest) p =
      advance spacing (building content) rest
        (match part? content p.markup name with
          | some part => { p with asked := name :: p.asked }.add spacing part
          | none => { p with asked := name :: p.asked }.skip) := by
  have hmarkup (output : String) :
      ({ p.markup with output } : Markup).flush = (output, p.markup) := by
    rw [Markup.flush, ← hblank]
  simp only [advance, building, hmarkup, part?]
  split <;> rfl

/-- What is shown of the rest of a template, when `p` has been finished so far. -/
def Progress.remaining (p : Progress) (spacing : Nat) (l : Layout) : String :=
  let l := l.mapFirst (·.prepend p.pending)
  if p.started then l.continuation spacing else l.body spacing

/-- What a tag shows goes to the end of what is finished. -/
theorem Progress.body_add (p : Progress) (l : Layout) (name part : String) :
    (p.add spacing part).body ++ (p.add spacing part).remaining spacing l =
      p.body ++ p.remaining spacing { l with shown := { name, part } :: l.shown } := by
  have hrest : (p.add spacing part).remaining spacing l = l.continuation spacing :=
    congrArg (Layout.continuation spacing) l.mapFirst_prepend_empty
  rw [hrest]
  cases hstarted : p.started <;>
    simp [add, remaining, hstarted, Layout.mapFirst, Layout.body, Layout.continuation,
      String.append_assoc]

/-- A skipped tag goes to the first gap. -/
theorem Progress.body_skip (p : Progress) (l : Layout) (name : String) :
    p.skip.body ++ p.skip.remaining spacing l =
      p.body ++ p.remaining spacing (l.mapFirst (·.skip name)) := by
  have htext (g : Gap) : (g.prepend p.skip.pending).text =
      ((g.skip name).prepend p.pending).text := by
    rw [Gap.text_prepend_skip]
    unfold skip
    split <;> rfl
  have hbody : p.skip.body = p.body := by
    unfold skip
    split <;> rfl
  have hstarted : p.skip.started = p.started := by
    unfold skip
    split <;> rfl
  simp only [remaining, hbody, hstarted, Layout.mapFirst_mapFirst,
    Layout.body_congr htext, Layout.continuation_congr htext]

/-- **A rendering finishes what is left of the gaps and what the tags show**, asks for every tag,
and leaves the markup empty. -/
theorem finish_advance (content : String → Markup → Markup × Bool) (spacing : Nat)
    (segments : List Segment) {p : Progress} (hblank : p.markup.output = "") :
    ∃ p', advance spacing (building content) segments p = (p', none) ∧
      p'.markup = p.markup ∧ p'.asked = (tags { segments }).reverse ++ p.asked ∧
      p'.finish = p.body ++ p.remaining spacing (layout (part? content p.markup) segments) := by
  induction segments generalizing p with
  | nil =>
    refine ⟨p, rfl, rfl, rfl, ?_⟩
    -- the text that waits is all there is left
    have hending : p.remaining spacing {} = Gap.ending (Gap.prepend p.pending {}) := by
      unfold Progress.remaining
      split <;> simp [Layout.mapFirst, Layout.continuation, Layout.body]
    rw [layout, hending, Gap.ending, Gap.text_prepend_nil, Progress.finish]
    split <;> simp
  | cons s rest ih =>
    cases s with
    | text content =>
      obtain ⟨p', hp', hmarkup, hasked, hfinish⟩ :=
        @ih { p with pending := p.pending ++ content } hblank
      refine ⟨p', hp', hmarkup, hasked, ?_⟩
      rw [hfinish, layout]
      simp [Progress.remaining]
    | tag name =>
      rw [advance_tag hblank, layout]
      have htags : tags { segments := .tag name :: rest } = name :: tags { segments := rest } := rfl
      rw [htags, List.reverse_cons, List.append_assoc]
      cases part? content p.markup name with
      | some part =>
        obtain ⟨p', hp', hmarkup, hasked, hfinish⟩ :=
          @ih ({ p with asked := name :: p.asked }.add spacing part) hblank
        refine ⟨p', hp', hmarkup, hasked, ?_⟩
        rw [hfinish]
        exact Progress.body_add { p with asked := name :: p.asked } _ name part
      | none =>
        have hkeep : ({ p with asked := name :: p.asked } : Progress).skip.markup = p.markup ∧
            ({ p with asked := name :: p.asked } : Progress).skip.asked = name :: p.asked := by
          unfold Progress.skip
          split <;> exact ⟨rfl, rfl⟩
        obtain ⟨p', hp', hmarkup, hasked, hfinish⟩ :=
          @ih { p with asked := name :: p.asked }.skip (by rw [hkeep.1]; exact hblank)
        rw [hkeep.1] at hmarkup hfinish
        rw [hkeep.2] at hasked
        refine ⟨p', hp', hmarkup, hasked, ?_⟩
        rw [hfinish]
        exact Progress.body_skip { p with asked := name :: p.asked } _ name

/-- What comes of a rendering when no builder panics. -/
theorem render_building (t : Template) (m : Markup) (content : String → Markup → Markup × Bool) :
    t.render m (building content) = {
      text := .ok
        (t.decorate m.flush.2 ((layout (part? content m.flush.2) t.segments).body t.spacing)).1
      asked := t.tags
      markup := m.flush.2 } := by
  have hstart : ({ markup := m.flush.2 } : Progress).markup.output = "" := rfl
  obtain ⟨p, hp, hmarkup, hasked, hfinish⟩ := finish_advance content t.spacing t.segments hstart
  have hbody : p.finish = (layout (part? content m.flush.2) t.segments).body t.spacing := by
    rw [hfinish, Progress.remaining, Layout.mapFirst_prepend_empty]
    exact String.empty_append
  have htags : p.asked.reverse = t.tags := by
    rw [hasked, List.append_nil, List.reverse_reverse]
    rfl
  have hleft (body : String) : (t.decorate m.flush.2 body).2 = m.flush.2 :=
    flush_decorate t m.flush.2 body
  rw [render, hp]
  simp only [hmarkup, hbody, htags, hleft]

/-- **A rendering decorates what is left of the gaps and what the tags show.** The tags are asked
for in their order, and a tag is shown if its builder says so and has written something. What the
markup held before is dropped, and it is empty afterwards. An empty body stays empty, without
decorations. The layout of a template that was parsed is that of its segments, texts and tags. -/
theorem renders_by_gaps (t : Template) (m : Markup) (content : String → Markup → Markup × Bool) :
    let blank := m.flush.2
    let l := layout (part? content blank) t.segments
    t.render m (building content) =
      { text := .ok (t.decorate blank (l.body t.spacing)).1, asked := t.tags, markup := blank } ∧
    blank.output = "" ∧
    (∀ name part, part? content blank name = some part ↔
      (content name blank).2 = true ∧ (content name blank).1.output = part ∧ part ≠ "") ∧
    (l.body t.spacing = "" → (t.decorate blank (l.body t.spacing)).1 = "") ∧
    (t.segments = Segment.parse t.value → l.IsOf (part? content blank) t.segments) := by
  intro blank l
  refine ⟨render_building t m content, rfl, fun _ _ => part?_eq_some_iff, fun hempty => ?_,
    fun hparsed => ?_⟩
  · rw [hempty]
    rfl
  · apply Layout.isOf_layout
    rw [hparsed]
    exact Segment.isCanonical_parse t.value

/-- The tag in the middle has nothing to show, and the blank in front of it disappears. -/
theorem renders_by_gaps_skipped :
    let t : Template := { parse "<a> <b> <c>" with spacing := 1 }
    let content (name : String) (m : Markup) : Markup × Bool :=
      if name = "b" then (m, false) else (m.append name, true)
    t.segments = Segment.parse t.value ∧
      (layout (part? content {}) t.segments).IsOf (part? content {}) t.segments ∧
      (t.render { output := "old" } (building content)).text = .ok "a  c" := by
  intro t content
  have hsegments : t.segments = [.tag "a", .text " ", .tag "b", .text " ", .tag "c"] := by cbv
  obtain ⟨hrender, -, -, -, hlayout⟩ := renders_by_gaps t { output := "old" } content
  refine ⟨rfl, hlayout rfl, ?_⟩
  rw [hrender, hsegments]
  decide

end StatusBar.Template
