import StatusBar.Proofs.Shadowing

/-!
# The labels of a format

A format has a label in front and one behind. The text of a label stands at a key of the module's
table, and its style at further keys beside it. Among the settings that all formats share nothing is
looked up for a label. There the labels differ from the attributes, which have a shared value where
they have none of their own: see `labels_are_own`, which says when the difference shows.
-/

namespace StatusBar.Formats

/-- Where there is no own value, a shared one decides. -/
theorem Attribute.Resolves.exists_of_shared {c : Config} {path name : String} {a : Attribute}
    {x : a.Stored} (h : a.Resolves c path name x) (hown : c.find? path (a.ownKey name) = none)
    {v : Toml.Value} (hshared : c.find? Config.settingsPath a.sharedKey = some v) :
    ∃ y, a.decoder v = .ok y ∧ x = a.store (some y) := by
  cases h with
  | own hfind _ =>
    rw [hown] at hfind
    cases hfind
  | @shared v' y _ hfind hdecode =>
    rw [hshared] at hfind
    cases hfind
    exact ⟨y, hdecode, rfl⟩
  | absent _ hfind =>
    rw [hshared] at hfind
    cases hfind

/-- A place for a label: in front of what the format shows, or behind it. -/
structure LabelPlace where
  name : String
  get : Template → Option Label

namespace LabelPlace

def lead : LabelPlace := ⟨"prefix", (·.lead)⟩

def trail : LabelPlace := ⟨"suffix", (·.trail)⟩

/-- Both places, in the order in which they are read. -/
def all : List LabelPlace := [lead, trail]

/-- The text of the label, taken for an attribute like the others. -/
def text (p : LabelPlace) : Attribute where
  name := p.name
  decoder := .string
  store := id
  get t := (p.get t).map Label.text

variable {c : Config} {path name : String} {p : LabelPlace} {l : Option Label}

/-- A label is there exactly if its key is in the section. -/
theorem isSome_of_loads (h : Label.Loads c path (p.text.ownKey name) l) :
    l.isSome = c.has path (p.text.ownKey name) := by
  cases h with
  | absent hfind =>
    rw [Config.has, hfind]
    rfl
  | found hfind _ _ =>
    rw [Config.has, hfind]
    rfl

/-- An absent label follows the rule of the attributes only if there is no shared one. -/
theorem resolves_none_iff (h : c.find? path (p.text.ownKey name) = none) :
    p.text.Resolves c path name (none : Option String) ↔
      c.find? Config.settingsPath p.text.sharedKey = none := by
  constructor
  · intro hresolves
    cases hshared : c.find? Config.settingsPath p.text.sharedKey with
    | none => rfl
    | some v =>
      obtain ⟨text, -, hstored⟩ := hresolves.exists_of_shared h hshared
      cases hstored
  · intro hshared
    exact .absent h hshared

/-- A label follows the rule of the attributes unless it would have to be a shared one. -/
theorem resolves_iff_of_loads (h : Label.Loads c path (p.text.ownKey name) l) :
    p.text.Resolves c path name (l.map Label.text) ↔
      c.has path (p.text.ownKey name) = true ∨
        c.has Config.settingsPath p.text.sharedKey = false := by
  cases h with
  | absent hfind =>
    show p.text.Resolves c path name (none : Option String) ↔ _
    rw [resolves_none_iff hfind, Config.has, hfind, Config.has]
    simp
  | @found v text l hfind hdecode hstyled =>
    rw [Config.has, hfind, Option.map_some, hstyled.text_eq]
    simp only [Option.isSome_some, true_or, iff_true]
    exact .own hfind hdecode

end LabelPlace

/-- Each of the two labels of a format that was decorated is loaded from its own key. -/
theorem IsDecorated.loads {c : Config} {path name value : String} {t : Template}
    (h : IsDecorated c path name value t) {p : LabelPlace} (hp : p ∈ LabelPlace.all) :
    Label.Loads c path (p.text.ownKey name) (p.get t) := by
  have hkey (place : String) : s!"{name}-{place}" = name ++ ("-" ++ place) :=
    String.append_assoc
  revert p
  simp only [LabelPlace.all, List.forall_mem_cons]
  refine ⟨?_, ?_, by simp⟩
  · rw [Attribute.ownKey, hkey]
    exact h.lead
  · rw [Attribute.ownKey, hkey]
    exact h.trail

/-- **A label is the format's own, or there is none.** So it is what an attribute would be, the own
one or else the shared one, if and only if it has not to be a shared one. -/
theorem labels_are_own {c : Config} {path : String} {r : Request} {f f' : Formats}
    (h : f.add c path r.name r.fallback r.tags r.allowed = .ok f') :
    ∃ t, f'.get r.name = .ok t ∧ ∀ p ∈ LabelPlace.all,
      Label.Loads c path (p.text.ownKey r.name) (p.get t) ∧
      (p.get t).isSome = c.has path (p.text.ownKey r.name) ∧
      (p.text.Resolves c path r.name (p.text.get t) ↔
        c.has path (p.text.ownKey r.name) = true ∨
          c.has Config.settingsPath p.text.sharedKey = false) := by
  obtain ⟨t, htemplate, hget⟩ := Request.exists_template_of_add c path h
  obtain ⟨-, -, hdecorated⟩ := Request.of_template_eq_ok c path htemplate
  refine ⟨t, hget, fun p hp => ?_⟩
  have hloads := hdecorated.loads hp
  exact ⟨hloads, LabelPlace.isSome_of_loads hloads, LabelPlace.resolves_iff_of_loads hloads⟩

/-- An own label in front, which hides a shared one, and behind a shared one only. -/
theorem labels_are_own_lead :
    let c : Config := ⟨[
      ("module", .table [("test", .table [("format-prefix", .string "[")])]),
      ("settings", .table [("format-prefix", .string "<"), ("format-suffix", .string ">")])]⟩
    ∃ f t, ({} : Formats).add c "module/test" "format" "<label>" ["label"] [] = .ok f ∧
      f.get "format" = .ok t ∧ t.lead.map Label.text = some "[" ∧ t.trail = none := by
  intro c
  obtain ⟨f, hadd⟩ :
      ∃ f, ({} : Formats).add c "module/test" "format" "<label>" ["label"] [] = .ok f := by
    rw [← error?_eq_none_iff]
    decide +kernel
  obtain ⟨t, hget, hlabels⟩ := labels_are_own (r := ⟨"format", "<label>", ["label"], []⟩) hadd
  refine ⟨f, t, hadd, hget, ?_, ?_⟩
  · obtain ⟨-, -, hrule⟩ := hlabels .lead (by simp [LabelPlace.all])
    have hown : LabelPlace.lead.text.Resolves c "module/test" "format" (some "[") :=
      .own (v := .string "[") (by cbv) rfl
    exact (hrule.mpr (.inl (by decide +kernel))).unique hown
  · obtain ⟨-, hsome, -⟩ := hlabels .trail (by simp [LabelPlace.all])
    have hnone : t.trail.isSome = false := hsome.trans (by decide +kernel)
    simpa using hnone

/-- A shared label is not shown. -/
theorem shared_label_ignored :
    let c : Config := ⟨[("module", .table [("test", .table [])]),
      ("settings", .table [("format-prefix", .string ">")])]⟩
    c.has Config.settingsPath "format-prefix" = true ∧
    ∃ f t, ({} : Formats).add c "module/test" "format" "<label>" ["label"] [] = .ok f ∧
      f.get "format" = .ok t ∧ t.lead = none ∧
      ¬ LabelPlace.lead.text.Resolves c "module/test" "format" (LabelPlace.lead.text.get t) := by
  intro c
  obtain ⟨f, hadd⟩ :
      ∃ f, ({} : Formats).add c "module/test" "format" "<label>" ["label"] [] = .ok f := by
    rw [← error?_eq_none_iff]
    decide +kernel
  obtain ⟨t, htemplate, hget⟩ :=
    Request.exists_template_of_add c "module/test" (r := ⟨"format", "<label>", ["label"], []⟩) hadd
  obtain ⟨-, -, hdecorated⟩ := Request.of_template_eq_ok c "module/test" htemplate
  have hloads := hdecorated.loads (p := .lead) (by simp [LabelPlace.all])
  refine ⟨by decide +kernel, f, t, hadd, hget, ?_, ?_⟩
  · have hnone : t.lead.isSome = false :=
      (LabelPlace.isSome_of_loads hloads).trans (by decide +kernel)
    simpa using hnone
  · intro hresolves
    rcases (LabelPlace.resolves_iff_of_loads hloads).mp hresolves with hown | hshared
    · exact absurd hown (by decide +kernel)
    · exact absurd hshared (by decide +kernel)

end StatusBar.Formats
