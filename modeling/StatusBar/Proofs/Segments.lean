import Mathlib.Data.List.Chain
import StatusBar.Template.Basic

/-!
# Values and canonical segments

`Segment.parse` takes a value apart and `Segment.write` puts segments together. Between values and
canonical lists of segments the two are inverse to each other:

    segments = parse v ↔ IsCanonical segments ∧ write segments = v

From left to right the scanner is followed along its own recursion. What it has passed over as
literal text is `Barren`: no tag begins in it, whatever follows. From right to left a canonical
list is scanned segment by segment. The text in front of a tag is barren too, because a tag that
began in it would have to run over the bracket that opens the next one.
-/

namespace StatusBar.Segment

/-! ### The tag at the front -/

theorem isTagName_iff {cs : List Char} :
    isTagName cs = true ↔ cs ≠ [] ∧ ∀ c ∈ cs, isTagChar c = true := by
  simp [isTagName]

/-- Neither bracket may stand in the name of a tag. -/
theorem isTagChar_bracket : isTagChar '<' = false ∧ isTagChar '>' = false := by decide

/-- A name of a tag between angle brackets is read as a tag. -/
theorem tag?_of_isTagName {name rest : List Char} (h : isTagName name = true) :
    tag? ('<' :: (name ++ '>' :: rest)) = some (name, rest) := by
  obtain ⟨hne, hall⟩ := isTagName_iff.mp h
  have htake : (name ++ '>' :: rest).takeWhile isTagChar = name := by
    rw [List.takeWhile_append_of_pos hall, List.takeWhile_cons]
    simp [isTagChar_bracket.2]
  have hdrop : (name ++ '>' :: rest).dropWhile isTagChar = '>' :: rest := by
    rw [List.dropWhile_append_of_pos hall, List.dropWhile_cons]
    simp [isTagChar_bracket.2]
  obtain ⟨c, name, rfl⟩ := List.exists_cons_of_ne_nil hne
  simp only [tag?, htake, hdrop]

/-- What is read as a tag was one. -/
theorem eq_of_tag?_eq_some {cs name rest : List Char} (h : tag? cs = some (name, rest)) :
    isTagName name = true ∧ cs = '<' :: (name ++ '>' :: rest) := by
  unfold tag? at h
  split at h
  · rename_i cs
    split at h
    · rename_i c word after htake hdrop
      simp only [Option.some.injEq, Prod.mk.injEq] at h
      obtain ⟨rfl, rfl⟩ := h
      refine ⟨isTagName_iff.mpr ⟨by simp, ?_⟩, ?_⟩
      · rw [← htake]
        exact List.all_eq_true.mp List.all_takeWhile
      · rw [← htake, ← hdrop, List.takeWhile_append_dropWhile]
    · simp at h
  · simp at h

/-- A tag is read exactly where there is one. -/
theorem tag?_eq_some_iff {cs name rest : List Char} :
    tag? cs = some (name, rest) ↔ isTagName name = true ∧ cs = '<' :: (name ++ '>' :: rest) := by
  constructor
  · exact eq_of_tag?_eq_some
  · rintro ⟨hname, rfl⟩
    exact tag?_of_isTagName hname

/-! ### Texts in which no tag begins -/

/-- No tag begins in `t` when `rest` follows. -/
def Barren (t rest : List Char) : Prop :=
  ∀ before after, t = before ++ after → after ≠ [] → tag? (after ++ rest) = none

theorem barren_nil (rest : List Char) : Barren [] rest := by
  intro before after h hne
  exact absurd (List.append_eq_nil_iff.mp h.symm).2 hne

theorem Barren.tail {c : Char} {t rest : List Char} (h : Barren (c :: t) rest) : Barren t rest :=
  fun before after ht => h (c :: before) after (by rw [ht, List.cons_append])

theorem Barren.tag?_eq_none {c : Char} {t rest : List Char} (h : Barren (c :: t) rest) :
    tag? (c :: (t ++ rest)) = none :=
  h [] (c :: t) rfl (by simp)

/-- A character at which no tag begins is added to what the scanner has passed over. -/
theorem Barren.snoc {c : Char} {t rest : List Char} (h : Barren t (c :: rest))
    (hc : tag? (c :: rest) = none) : Barren (t ++ [c]) rest := by
  intro before after ht hne
  obtain ⟨after, d, rfl⟩ := after.eq_nil_or_concat.resolve_left hne
  rw [List.concat_eq_append, ← List.append_assoc] at ht
  obtain ⟨ht, hd⟩ := List.append_inj' ht rfl
  obtain rfl := List.singleton_inj.mp hd
  cases after with
  | nil => simpa using hc
  | cons a after =>
    rw [List.append_cancel_right_eq] at ht
    simpa using h before (a :: after) ht (by simp)

/-- A text in which no tag begins, whatever follows, has none. -/
theorem Barren.not_hasTag {t rest : List Char} (h : Barren t rest) : ¬ HasTag t := by
  rintro ⟨before, name, after, hname, rfl⟩
  have htag := h before ('<' :: name ++ '>' :: after) (by simp) (by simp)
  rw [List.cons_append, List.cons_append, List.append_assoc, List.cons_append,
    tag?_of_isTagName hname] at htag
  cases htag

/-- Text without a tag is barren in front of a bracket that opens, and at the end. A tag that
begins in it would hold that bracket in its name. -/
theorem barren_of_not_hasTag {t rest : List Char} (h : ¬ HasTag t)
    (hrest : rest = [] ∨ ∃ r, rest = '<' :: r) : Barren t rest := by
  intro before after ht hne
  by_contra htag
  obtain ⟨⟨name, last⟩, htag⟩ := Option.ne_none_iff_exists'.mp htag
  obtain ⟨hname, heq⟩ := tag?_eq_some_iff.mp htag
  obtain ⟨a, after, rfl⟩ := List.exists_cons_of_ne_nil hne
  obtain ⟨rfl, hname'⟩ := List.cons.inj heq
  rcases List.append_eq_append_iff.mp hname' with ⟨more, hmore, heq⟩ | ⟨more, hmore, heq⟩
  · -- the text ends within the name, or right behind it
    rcases hrest with rfl | ⟨r, rfl⟩
    · cases more <;> simp at heq
    · cases more with
      | nil => simp at heq
      | cons m more =>
        obtain ⟨rfl, -⟩ := List.cons.inj heq
        have := (isTagName_iff.mp hname).2 '<' (by rw [hmore]; simp)
        rw [isTagChar_bracket.1] at this
        cases this
  · -- the closing bracket belongs to the text
    cases more with
    | nil =>
      rcases hrest with rfl | ⟨r, rfl⟩ <;> simp at heq
    | cons m more =>
      obtain ⟨rfl, -⟩ := List.cons.inj heq
      exact h ⟨before, name, more, hname, by rw [ht, hmore]; simp⟩

/-! ### The scanner -/

/-- At a tag, the text before it is a segment, and the scan goes on behind the tag. -/
theorem scan_of_tag {pending cs name rest : List Char} (h : tag? cs = some (name, rest)) :
    scan pending cs = literal pending ++ .tag (String.ofList name) :: scan [] rest := by
  cases cs with
  | nil => simp [tag?] at h
  | cons c cs =>
    rw [scan]
    split
    · rename_i h'
      rw [h] at h'
      cases h'
      rfl
    · rename_i h'
      rw [h] at h'
      cases h'

theorem scan_of_tag?_eq_none {pending cs : List Char} {c : Char} (h : tag? (c :: cs) = none) :
    scan pending (c :: cs) = scan (c :: pending) cs := by
  rw [scan]
  split
  · rename_i h'
    rw [h] at h'
    cases h'
  · rfl

/-- The scanner passes over barren text. -/
theorem scan_append_of_barren {t rest : List Char} (h : Barren t rest) (pending : List Char) :
    scan pending (t ++ rest) = scan (t.reverse ++ pending) rest := by
  induction t generalizing pending with
  | nil => rfl
  | cons c t ih =>
    rw [List.cons_append, scan_of_tag?_eq_none h.tag?_eq_none, ih h.tail]
    simp

@[simp] theorem flatMap_chars_literal (pending : List Char) :
    (literal pending).flatMap chars = pending.reverse := by
  cases pending <;> simp [literal, chars]

/-- The scanner keeps every character. -/
theorem flatMap_chars_scan (pending cs : List Char) :
    (scan pending cs).flatMap chars = pending.reverse ++ cs := by
  fun_induction scan pending cs with
  | case1 pending => simp
  | case2 pending c cs name rest h ih =>
    rw [(tag?_eq_some_iff.mp h).2]
    simp [chars, ih]
  | case3 pending c cs h ih => simp [ih]

theorem isCanonical_literal {pending : List Char} (h : ¬ HasTag pending.reverse) :
    IsCanonical (literal pending) := by
  cases pending with
  | nil => exact .nil
  | cons c pending => exact .lastText (by simp [← String.toList_inj]) (by simpa using h)

theorem isCanonical_literal_append {pending : List Char} {name : String}
    {segments : List Segment} (h : ¬ HasTag pending.reverse)
    (hs : IsCanonical (.tag name :: segments)) :
    IsCanonical (literal pending ++ .tag name :: segments) := by
  cases pending with
  | nil => exact hs
  | cons c pending => exact .text (by simp [← String.toList_inj]) (by simpa using h) hs

/-- **The scan gives canonical segments**, as long as no tag begins in the text that is pending. -/
theorem isCanonical_scan {pending cs : List Char} (h : Barren pending.reverse cs) :
    IsCanonical (scan pending cs) := by
  fun_induction scan pending cs with
  | case1 pending => exact isCanonical_literal h.not_hasTag
  | case2 pending c cs name rest htag ih =>
    refine isCanonical_literal_append h.not_hasTag (.tag ?_ (ih (barren_nil rest)))
    rw [String.toList_ofList]
    exact (tag?_eq_some_iff.mp htag).1
  | case3 pending c cs htag ih =>
    apply ih
    rw [List.reverse_cons]
    exact h.snoc htag

theorem scan_tag_chars {name : String} (h : isTagName name.toList = true)
    (pending rest : List Char) :
    scan pending (chars (.tag name) ++ rest) =
      literal pending ++ .tag name :: scan [] rest := by
  have htag : tag? (chars (.tag name) ++ rest) = some (name.toList, rest) := by
    rw [chars, List.append_assoc]
    exact tag?_of_isTagName h
  rw [scan_of_tag htag, String.ofList_toList]

theorem literal_reverse_toList {content : String} (h : content ≠ "") :
    literal content.toList.reverse = [.text content] := by
  cases hcs : content.toList.reverse with
  | nil => exact absurd (by simpa using hcs) h
  | cons c cs =>
    show [text (String.ofList (c :: cs).reverse)] = _
    rw [← hcs, List.reverse_reverse, String.ofList_toList]

/-- What a canonical list writes is scanned back to it. -/
theorem scan_flatMap_chars {segments : List Segment} (h : IsCanonical segments) :
    scan [] (segments.flatMap chars) = segments := by
  induction h with
  | nil => rw [List.flatMap_nil, scan, literal]
  | tag hname _ ih =>
    rw [List.flatMap_cons, scan_tag_chars hname, ih]
    rfl
  | @lastText content hne hfree =>
    have hbarren := barren_of_not_hasTag hfree (.inl rfl)
    have hscan := scan_append_of_barren hbarren []
    rw [List.append_nil, List.append_nil, scan, literal_reverse_toList hne] at hscan
    simpa [chars] using hscan
  | @text content name segments hne hfree htail ih =>
    cases htail with
    | tag hname _ =>
      -- the bracket of the tag is written next, and no tag of the text can reach over it
      rw [List.flatMap_cons, scan_tag_chars hname] at ih
      have hbarren : Barren content.toList (chars (.tag name) ++ segments.flatMap chars) :=
        barren_of_not_hasTag hfree (.inr ⟨_, rfl⟩)
      rw [List.flatMap_cons, List.flatMap_cons, chars, scan_append_of_barren hbarren,
        scan_tag_chars hname, List.append_nil, literal_reverse_toList hne]
      exact congrArg (.text content :: ·) ih

/-! ### Parsing and writing -/

theorem write_parse (v : String) : write (parse v) = v := by
  rw [write, parse, flatMap_chars_scan]
  simp

theorem isCanonical_parse (v : String) : IsCanonical (parse v) :=
  isCanonical_scan (barren_nil v.toList)

theorem parse_write {segments : List Segment} (h : IsCanonical segments) :
    parse (write segments) = segments := by
  rw [parse, write, String.toList_ofList, scan_flatMap_chars h]

/-- **The segments of a value are the only canonical ones that write out to it.** -/
theorem eq_parse_iff {segments : List Segment} {v : String} :
    segments = parse v ↔ IsCanonical segments ∧ write segments = v := by
  constructor
  · rintro rfl
    exact ⟨isCanonical_parse v, write_parse v⟩
  · rintro ⟨hs, rfl⟩
    exact (parse_write hs).symm

/-! ### Canonical lists, element by element -/

def isText : Segment → Bool
  | text _ => true
  | tag _ => false

/-- What a segment has to satisfy by itself in a canonical list. -/
def IsProper : Segment → Prop
  | text content => content ≠ "" ∧ ¬ HasTag content.toList
  | tag name => isTagName name.toList = true

/-- Canonical segments are proper, each by itself, and no two of them in a row are texts. -/
theorem isCanonical_iff {segments : List Segment} :
    IsCanonical segments ↔ (∀ s ∈ segments, s.IsProper) ∧
      segments.IsChain fun a b => ¬ (a.isText = true ∧ b.isText = true) := by
  constructor
  · intro h
    induction h with
    | nil => simp
    | tag hname _ ih =>
      refine ⟨List.forall_mem_cons.mpr ⟨hname, ih.1⟩, ?_⟩
      exact List.isChain_cons.mpr ⟨fun s _ => by simp [isText], ih.2⟩
    | lastText hne hfree => simpa [IsProper] using ⟨hne, hfree⟩
    | text hne hfree _ ih =>
      refine ⟨List.forall_mem_cons.mpr ⟨⟨hne, hfree⟩, ih.1⟩, ?_⟩
      exact List.isChain_cons_cons.mpr ⟨by simp [isText], ih.2⟩
  · rintro ⟨hproper, hchain⟩
    induction segments with
    | nil => exact .nil
    | cons s rest ih =>
      obtain ⟨hs, hrest⟩ := List.forall_mem_cons.mp hproper
      have hcanonical := ih hrest hchain.tail
      match s, rest with
      | .tag name, rest => exact .tag hs hcanonical
      | .text content, [] => exact .lastText hs.1 hs.2
      | .text content, .tag name :: rest => exact .text hs.1 hs.2 hcanonical
      | .text content, .text next :: rest =>
        exact absurd (by simp [isText]) (List.isChain_cons_cons.mp hchain).1

def name? : Segment → Option String
  | text _ => none
  | tag name => some name

/-- **Parsing is the inverse of writing.** The segments of a value are canonical and write out to
it, and no other canonical list does. A template keeps the value, and its tags are the names of the
tags among the segments. -/
theorem parse_unique_canonical :
    (∀ v, IsCanonical (parse v) ∧ write (parse v) = v) ∧
    (∀ segments, IsCanonical segments → parse (write segments) = segments) ∧
    (∀ segments v, segments = parse v ↔
      ((∀ s ∈ segments, s.IsProper) ∧
        segments.IsChain fun a b => ¬ (a.isText = true ∧ b.isText = true)) ∧
      write segments = v) ∧
    ∀ v, (Template.parse v).value = v ∧ (Template.parse v).segments = parse v ∧
      (Template.parse v).tags = (parse v).filterMap name? := by
  refine ⟨fun v => ⟨isCanonical_parse v, write_parse v⟩, fun segments => parse_write, ?_, ?_⟩
  · intro segments v
    rw [← isCanonical_iff]
    exact eq_parse_iff
  · intro v
    refine ⟨rfl, rfl, ?_⟩
    unfold Template.tags Template.parse
    congr
    funext s
    cases s <;> rfl

theorem parse_unique_canonical_brackets :
    IsCanonical [.text "<", .tag "a", .text " <B> b>"] ∧
    parse (write [.text "<", .tag "a", .text " <B> b>"]) =
      [.text "<", .tag "a", .text " <B> b>"] := by
  have hparse : parse "<<a> <B> b>" = [.text "<", .tag "a", .text " <B> b>"] := by cbv
  have hcanonical := hparse ▸ isCanonical_parse "<<a> <B> b>"
  exact ⟨hcanonical, parse_unique_canonical.2.1 _ hcanonical⟩

end StatusBar.Segment
