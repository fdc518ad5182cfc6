import Mathlib.Data.List.Induction
import Mathlib.Data.List.Nodup
import StatusBar.Proofs.Attributes
import StatusBar.Proofs.Rendering
import StatusBar.Proofs.Segments

/-!
# Registering formats

A registry is filled by one request after the other, and some of them fail. What a request puts
under its name does not depend on what is registered already (`add_eq`), so the registry is
determined by the last request for each name that has not failed (`find?_after`).
-/

namespace StatusBar.Formats

structure Request where
  name : String
  fallback : String
  tags : List String
  allowed : List String := []

namespace Request

/-- The tags that may be declared and used. -/
def permitted (r : Request) : List String := if r.allowed.isEmpty then r.tags else r.allowed

/-- Why a value is refused, if it is. -/
def refusal? (r : Request) (value : String) : Option ModuleError :=
  if Text.allBlank value then some (.undefinedFormat r.name)
  else
    ((r.tags ++ (Template.parse value).tags).find? (!r.permitted.contains ·)).map
      (.undefinedFormatTag · r.name)

variable (c : Config) (path : String)

/-- The template to put under the name, whatever is registered already. -/
def template (r : Request) : Except ModuleError Template := do
  let value ← c.getOr .string path r.name r.fallback
  match r.refusal? value with
  | some e => throw e
  | none => decorated c path r.name value

/-- The request carried out on a registry in place. Wherever it ends early, what it has done to the
registry by then stays. -/
def perform (r : Request) : ExceptT ModuleError (StateM Formats) Unit := do
  let value ← c.getOr .string path r.name r.fallback
  if Text.allBlank value then throw (.undefinedFormat r.name)
  match (r.tags ++ (Template.parse value).tags).find? (!r.permitted.contains ·) with
  | some tag => throw (.undefinedFormatTag tag r.name)
  | none =>
    let t ← decorated c path r.name value
    modify fun f => f.insert r.name t

end Request

variable (c : Config) (path : String)

/-! ### One request -/

/-- Once its value is read, a request is refused for this or decorates its template. -/
theorem Request.template_eq {r : Request} {value : String}
    (h : c.getOr .string path r.name r.fallback = .ok value) :
    r.template c path =
      match r.refusal? value with
      | some e => .error e
      | none => liftM (decorated c path r.name value) := by
  rw [template, h]
  rfl

/-- Whatever is made of the two outcomes, the two checks are what `refusal?` says. -/
theorem Request.checks_eq {α : Type} (r : Request) (value : String) (refused : ModuleError → α)
    (accepted : α) :
    (if Text.allBlank value then refused (.undefinedFormat r.name)
      else
        match (r.tags ++ (Template.parse value).tags).find? (!r.permitted.contains ·) with
        | some tag => refused (.undefinedFormatTag tag r.name)
        | none => accepted) =
      match r.refusal? value with
      | some e => refused e
      | none => accepted := by
  unfold refusal?
  by_cases hblank : Text.allBlank value = true
  · rw [if_pos hblank, if_pos hblank]
  · rw [if_neg hblank, if_neg hblank]
    cases (r.tags ++ (Template.parse value).tags).find? (!r.permitted.contains ·) <;> rfl

/-- A registration puts the template of its request under its name, or fails with its error. -/
theorem add_eq (f : Formats) (r : Request) :
    f.add c path r.name r.fallback r.tags r.allowed =
      (r.template c path).map (f.insert r.name) := by
  unfold add
  cases hvalue : c.getOr .string path r.name r.fallback with
  | error e =>
    rw [Request.template, hvalue]
    rfl
  | ok value =>
    rw [Request.template_eq c path hvalue]
    refine (r.checks_eq value Except.error ((liftM (decorated c path r.name value) :
      Except ModuleError Template) >>= fun t => .ok (f.insert r.name t))).trans ?_
    cases r.refusal? value with
    | some e => rfl
    | none => cases decorated c path r.name value <;> rfl

/-- **A request carried out in place leaves the registry alone if it fails**, since its template is
inserted last. -/
theorem perform_eq (f : Formats) (r : Request) :
    (r.perform c path).run.run f =
      ((r.template c path).map fun _ => (),
        ((r.template c path).map (f.insert r.name)).toOption.getD f) := by
  unfold Request.perform
  cases hvalue : c.getOr .string path r.name r.fallback with
  | error e =>
    rw [Request.template, hvalue]
    rfl
  | ok value =>
    rw [Request.template_eq c path hvalue]
    let accept : ExceptT ModuleError (StateM Formats) Unit := do
      let t ← decorated c path r.name value
      modify fun f => f.insert r.name t
    refine (congrFun (r.checks_eq value throw accept) f).trans ?_
    cases r.refusal? value with
    | some e => rfl
    | none =>
      simp only [accept]
      cases decorated c path r.name value <;> rfl

/-! ### A history of requests -/

/-- The registry after some requests, one after the other. -/
def after (rs : List Request) : Formats :=
  rs.foldl (fun f r => ((r.perform c path).run.run f).2) {}

/-- The last request that has put a template under `name`, with the template. -/
def lastAdded (rs : List Request) (name : String) : Option (Request × Template) :=
  rs.reverse.findSome? fun r =>
    if r.name = name then (r.template c path).toOption.map (r, ·) else none

theorem after_concat (rs : List Request) (r : Request) :
    after c path (rs ++ [r]) =
      match r.template c path with
      | .ok t => (after c path rs).insert r.name t
      | .error _ => after c path rs := by
  unfold after
  rw [List.foldl_concat, perform_eq]
  cases r.template c path <;> rfl

/-- The last request that was successful for a name is this one, or the last of those before. -/
theorem lastAdded_concat (rs : List Request) (r : Request) (name : String) :
    lastAdded c path (rs ++ [r]) name =
      ((if r.name = name then (r.template c path).toOption.map (r, ·) else none).or
        (lastAdded c path rs name)) := by
  unfold lastAdded
  rw [List.reverse_concat, List.findSome?_cons]
  split <;> rename_i h <;> rw [h] <;> rfl

/-- What has been inserted is found under its name, and the others as before. -/
theorem find?_insert (f : Formats) (name other : String) (t : Template) :
    (f.insert name t).find? other = if name = other then some t else f.find? other := by
  unfold find? insert
  by_cases h : name = other
  · simp [h]
  · have hkeep : ∀ e : String × Template, e.1 = other → e.1 ≠ name := by
      rintro e rfl heq
      exact h heq.symm
    rw [if_neg h, List.find?_cons_of_neg (by simpa using h), List.find?_filter]
    congr 2
    funext e
    have := hkeep e
    grind

/-- **The registry has under a name what the last successful request has put there.** -/
theorem find?_after (rs : List Request) (name : String) :
    (after c path rs).find? name = (lastAdded c path rs name).map (·.2) := by
  induction rs using List.reverseRecOn with
  | nil => rfl
  | append_singleton rs r ih =>
    rw [after_concat, lastAdded_concat]
    cases r.template c path with
    | error e => simp [ih, Except.toOption]
    | ok t =>
      simp only [find?_insert]
      split
      · rfl
      · simpa using ih

/-- Every name is registered once. -/
theorem nodup_after (rs : List Request) : ((after c path rs).entries.map (·.1)).Nodup := by
  induction rs using List.reverseRecOn with
  | nil => exact List.nodup_nil
  | append_singleton rs r ih =>
    rw [after_concat]
    split
    · rename_i t _
      show ((r.name, t) :: _).map (·.1) |>.Nodup
      rw [List.map_cons, List.nodup_cons]
      refine ⟨by simp, ih.sublist (List.Sublist.map _ List.filter_sublist)⟩
    · exact ih

/-! ### What is found -/

/-- If no name is there twice, every template is found under its name. -/
theorem find?_of_mem {f : Formats} (hnodup : (f.entries.map (·.1)).Nodup)
    {e : String × Template} (he : e ∈ f.entries) : f.find? e.1 = some e.2 := by
  have hfound : f.entries.find? (·.1 == e.1) = some e := by
    cases hfind : f.entries.find? (·.1 == e.1) with
    | none => simpa using List.find?_eq_none.mp hfind e he
    | some e' =>
      have hname : e'.1 = e.1 := by simpa using List.find?_some hfind
      have hmem := List.mem_of_find?_eq_some hfind
      rw [List.inj_on_of_nodup_map hnodup hmem he hname]
  rw [find?, hfound]
  rfl

theorem hasIn_iff {f : Formats} {tag name : String} :
    f.hasIn tag name = true ↔ ∃ t, f.get name = .ok t ∧ tag ∈ t.tags := by
  unfold hasIn get Template.has
  cases f.find? name <;> simp

/-- A tag is in a registry if it is in one of its formats. -/
theorem has_iff {f : Formats} (hnodup : (f.entries.map (·.1)).Nodup) {tag : String} :
    f.has tag = true ↔ ∃ name, f.hasIn tag name = true := by
  constructor
  · intro h
    obtain ⟨e, he, htag⟩ := List.any_eq_true.mp h
    refine ⟨e.1, ?_⟩
    rw [hasIn, find?_of_mem hnodup he]
    exact htag
  · rintro ⟨name, h⟩
    rw [hasIn, Option.any_eq_true] at h
    obtain ⟨t, hfind, htag⟩ := h
    obtain ⟨e, he, rfl⟩ := Option.map_eq_some_iff.mp hfind
    exact List.any_eq_true.mpr ⟨e, List.mem_of_find?_eq_some he, htag⟩

/-! ### What is registered -/

/-- What a registered template is like, by the request that has put it there. -/
structure Request.Registers (r : Request) (t : Template) : Prop where
  value : c.getOr .string path r.name r.fallback = .ok t.value
  notBlank : Text.allBlank t.value = false
  written : Segment.write t.segments = t.value
  permitted : ∀ tag ∈ t.tags, tag ∈ r.permitted
  asked : ∀ m build, ∀ tag ∈ (t.render m build).asked, tag ∈ r.permitted

/-- A value is accepted if it is not blank and all tags, declared or used, are permitted. -/
theorem Request.refusal?_eq_none_iff {r : Request} {value : String} :
    r.refusal? value = none ↔ Text.allBlank value = false ∧
      ∀ tag ∈ r.tags ++ (Template.parse value).tags, tag ∈ r.permitted := by
  unfold refusal?
  cases Text.allBlank value <;> simp [or_imp, forall_and]

/-- A template that is there has the value, which was accepted, and is decorated. -/
theorem Request.of_template_eq_ok {r : Request} {t : Template} (h : r.template c path = .ok t) :
    c.getOr .string path r.name r.fallback = .ok t.value ∧ r.refusal? t.value = none ∧
      IsDecorated c path r.name t.value t := by
  obtain ⟨value, hvalue, -⟩ := bind_eq_ok_iff.mp h
  have hvalue := ok_of_liftM hvalue
  rw [template_eq c path hvalue] at h
  split at h
  · cases h
  · rename_i hrefusal
    have hdecorated := (reads_decorated c path r.name value).result t (ok_of_liftM h)
    obtain rfl := hdecorated.value_eq
    exact ⟨hvalue, hrefusal, hdecorated⟩

/-- **What a registered template is like**: its value is the one asked for, it is not blank, and
only permitted tags are in it. -/
theorem Request.registers {r : Request} {t : Template} (h : r.template c path = .ok t) :
    r.Registers c path t := by
  obtain ⟨hvalue, hrefusal, hdecorated⟩ := of_template_eq_ok c path h
  obtain ⟨hblank, hpermitted⟩ := refusal?_eq_none_iff.mp hrefusal
  have htags : ∀ tag ∈ t.tags, tag ∈ r.permitted := by
    have heq : t.tags = (Template.parse t.value).tags := by
      rw [Template.tags, hdecorated.segments_eq]
      rfl
    intro tag htag
    rw [heq] at htag
    exact hpermitted tag (List.mem_append_right _ htag)
  exact {
    value := hvalue
    notBlank := hblank
    written := by rw [hdecorated.segments_eq, Segment.write_parse]
    permitted := htags
    asked := fun m build tag htag => htags tag ((t.asked_render_prefix m build).subset htag) }

/-- What has been added can be asked for. -/
theorem Request.exists_template_of_add {r : Request} {f f' : Formats}
    (h : f.add c path r.name r.fallback r.tags r.allowed = .ok f') :
    ∃ t, r.template c path = .ok t ∧ f'.get r.name = .ok t := by
  rw [add_eq] at h
  cases htemplate : r.template c path with
  | error e =>
    rw [htemplate] at h
    cases h
  | ok t =>
    rw [htemplate] at h
    cases h
    exact ⟨t, rfl, by rw [get, find?_insert, if_pos rfl]⟩

/-- The last successful request is one of the requests, has the name, and gives the template. -/
theorem template_of_lastAdded {rs : List Request} {name : String} {r : Request} {t : Template}
    (h : lastAdded c path rs name = some (r, t)) :
    r ∈ rs ∧ r.name = name ∧ r.template c path = .ok t := by
  obtain ⟨r', hmem, hr'⟩ := List.exists_of_findSome?_eq_some h
  split at hr'
  · rename_i hname
    obtain ⟨t', ht', heq⟩ := Option.map_eq_some_iff.mp hr'
    cases heq
    refine ⟨List.mem_reverse.mp hmem, hname, ?_⟩
    cases htemplate : r.template c path with
    | error e =>
      rw [htemplate] at ht'
      cases ht'
    | ok t' =>
      rw [htemplate] at ht'
      cases ht'
      rfl
  · cases hr'

/-- Without a configuration a template is its value and no more. -/
theorem decorated_empty (path name value : String) :
    decorated {} path name value = .ok (Template.parse value) := by
  simp only [decorated, decoration, Config.has, Config.getOption, Config.getOr, Config.find?_empty,
    Label.load]
  rfl

/-- Without a configuration a request is about its fallback. -/
theorem Request.template_empty (path : String) (r : Request) :
    r.template {} path =
      match r.refusal? r.fallback with
      | some e => .error e
      | none => .ok (Template.parse r.fallback) := by
  have hvalue : Config.getOr {} .string path r.name r.fallback = .ok r.fallback := by
    rw [Config.getOr, Config.find?_empty]
  rw [template_eq {} path hvalue, decorated_empty]
  rfl

/-- **The registry remembers what was added last.** A request that fails leaves the registry as it
was. What is found under a name is the template of the last request that has not failed; it writes
out to a value that is not blank, and a rendering asks for permitted tags only. -/
theorem remembers_last_added (c : Config) (path : String) (rs : List Request) :
    (∀ (f : Formats) (r : Request), f.add c path r.name r.fallback r.tags r.allowed =
      (r.template c path).map (f.insert r.name)) ∧
    (∀ (f : Formats) (r : Request), (r.perform c path).run.run f =
      match f.add c path r.name r.fallback r.tags r.allowed with
      | .ok f' => (.ok (), f')
      | .error e => (.error e, f)) ∧
    (∀ name, (after c path rs).get name =
      match lastAdded c path rs name with
      | some (_, t) => .ok t
      | none => .error (.undefinedFormat name)) ∧
    (∀ name r t, lastAdded c path rs name = some (r, t) →
      r ∈ rs ∧ r.name = name ∧ r.template c path = .ok t ∧ r.Registers c path t) ∧
    (∀ tag name, (after c path rs).hasIn tag name = true ↔
      ∃ t, (after c path rs).get name = .ok t ∧ tag ∈ t.tags) ∧
    ∀ tag, (after c path rs).has tag = true ↔ ∃ name, (after c path rs).hasIn tag name = true := by
  refine ⟨add_eq c path, ?_, ?_, ?_, fun _ _ => hasIn_iff, fun _ => has_iff (nodup_after c path rs)⟩
  · intro f r
    rw [perform_eq, add_eq]
    cases r.template c path <;> rfl
  · intro name
    rw [get, find?_after]
    cases lastAdded c path rs name <;> rfl
  · intro name r t h
    obtain ⟨hmem, hname, ht⟩ := template_of_lastAdded c path h
    exact ⟨hmem, hname, ht, Request.registers c path ht⟩

theorem remembers_last_added_label :
    let label : Request := ⟨"format", "<label>", ["label"], []⟩
    let bogus : Request := ⟨"format", "<bogus>", ["label"], []⟩
    let f := after {} "module/test" [label, bogus]
    (bogus.perform {} "module/test").run.run f =
      (.error (.undefinedFormatTag "bogus" "format"), f) ∧
    f.get "format" = .ok (Template.parse "<label>") ∧
    label.Registers {} "module/test" (Template.parse "<label>") ∧
    f.hasIn "label" "format" = true := by
  intro label bogus f
  have hparse : Segment.parse "<label>" = [.tag "label"] := by cbv
  have hparse' : Segment.parse "<bogus>" = [.tag "bogus"] := by cbv
  have hlabel : label.template {} "module/test" = .ok (Template.parse "<label>") := by
    have h : label.refusal? "<label>" = none := by
      rw [Request.refusal?, Template.parse, hparse]
      decide
    rw [Request.template_empty]
    show (match label.refusal? "<label>" with | some e => _ | none => _) = _
    rw [h]
  have hbogus : bogus.template {} "module/test" =
      .error (.undefinedFormatTag "bogus" "format") := by
    have h : bogus.refusal? "<bogus>" = some (.undefinedFormatTag "bogus" "format") := by
      rw [Request.refusal?, Template.parse, hparse']
      decide
    rw [Request.template_empty]
    show (match bogus.refusal? "<bogus>" with | some e => _ | none => _) = _
    rw [h]
  have hlast : lastAdded {} "module/test" [label, bogus] "format" =
      some (label, Template.parse "<label>") := by
    show lastAdded {} "module/test" ([] ++ [label] ++ [bogus]) "format" = _
    rw [lastAdded_concat, lastAdded_concat, hlabel, hbogus]
    rfl
  obtain ⟨hadd, hperform, hget, hstored, hhasIn, -⟩ :=
    remembers_last_added {} "module/test" [label, bogus]
  have hformat : f.get "format" = .ok (Template.parse "<label>") := by
    rw [hget, hlast]
  refine ⟨?_, hformat, (hstored _ _ _ hlast).2.2.2, ?_⟩
  · rw [hperform, hadd, hbogus]
    rfl
  · exact (hhasIn _ _).mpr ⟨_, hformat, by rw [Template.tags, Template.parse, hparse]; decide⟩

end StatusBar.Formats
