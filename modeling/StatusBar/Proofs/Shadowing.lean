import StatusBar.Proofs.Validation

/-!
# Attributes of a format and of all formats

An attribute that a format has of its own hides the one that all formats share, even if its value is
ill-typed: then the registration fails with the key of the module, and does not fall back to the
shared value. A shared value is looked at only where nothing hides it. So a registration is
determined by few keys, and `attributes_shadow` says by which.
-/

namespace StatusBar

open Config (Lookup)

namespace Formats

namespace Request

variable {c : Config} {path : String} {r : Request}

/-! ### Who is to blame -/

/-- Nothing is wrong with the value of the format and with its tags. -/
def IsAdmissible (c : Config) (path : String) (r : Request) : Prop :=
  ∃ value, r.HasValue c path value ∧ Text.allBlank value = false ∧
    ∀ tag ∈ r.tags ++ (Template.parse value).tags, tag ∈ r.permitted

/-- The request fails with the error of the attribute, unless something that is looked at earlier is
wrong too; it fails in any case. -/
structure Blames (c : Config) (path : String) (r : Request) (f : Formats) (a : Attribute)
    (e : ConfigError) : Prop where
  fails : ∀ f', f.add c path r.name r.fallback r.tags r.allowed ≠ .ok f'
  reports : r.IsAdmissible c path → (∀ b ∈ a.before, (b.lookup c path r.name).Fits c) →
    f.add c path r.name r.fallback r.tags r.allowed = .error (.config e)

/-- If nothing is wrong with the format itself, then the first attribute that cannot be read is to
blame. -/
theorem head?_violations_of_isAdmissible (h : r.IsAdmissible c path) :
    (r.violations c path).head? =
      ((lookups c path r.name).findSome? (·.fault? c)).map .config := by
  obtain ⟨value, hvalue, hrefusal⟩ := h
  rw [head?_violations, fault?_valueLookup, value?, getOr_eq_ok_iff.mpr hvalue]
  show (r.refusal? value).or _ = _
  rw [refusal?_eq_none_iff.mpr hrefusal, Option.none_or]

/-- **An attribute that cannot be read is blamed** if all that is looked at earlier is right. -/
theorem blames_of_fault? {a : Attribute} (ha : a ∈ Attribute.all) {e : ConfigError}
    (h : (a.lookup c path r.name).fault? c = some e) (f : Formats) : r.Blames c path f a e where
  fails f' hadd := by
    have hvalid : ∃ value, r.IsValid c path value := by
      rw [← violations_eq_nil_iff, ← List.head?_eq_none_iff, ← error?_add f, hadd]
      rfl
    obtain ⟨value, hvalid⟩ := hvalid
    rw [Lookup.fault?_eq_none_iff.mpr (hvalid.attributes a ha)] at h
    cases h
  reports hadmissible hbefore := by
    obtain ⟨after, hall⟩ := Attribute.exists_eq_before_append ha
    have hnone : (a.before.map (·.lookup c path r.name)).findSome? (·.fault? c) = none := by
      rw [List.findSome?_eq_none_iff]
      intro s hs
      obtain ⟨b, hb, rfl⟩ := List.mem_map.mp hs
      exact Lookup.fault?_eq_none_iff.mpr (hbefore b hb)
    rw [← error?_eq_some_iff, error?_add, head?_violations_of_isAdmissible hadmissible, lookups,
      hall, List.map_append, List.append_assoc, List.findSome?_append, hnone, List.map_cons,
      List.cons_append, List.findSome?_cons, h]
    rfl

/-- An error of the configuration names the key whose value does not fit. -/
theorem exists_fault?_of_mem_violations {e : ConfigError} (h : .config e ∈ r.violations c path) :
    ∃ s ∈ r.valueLookup path :: lookups c path r.name, s.fault? c = some e := by
  rw [violations, List.mem_append, List.mem_append] at h
  obtain (hvalue | hrefusal) | hlookups := h
  · refine ⟨_, List.mem_cons_self, ?_⟩
    simpa using hvalue
  · obtain ⟨value, -, hrefusal⟩ := List.mem_flatMap.mp hrefusal
    simp [refusals] at hrefusal
  · obtain ⟨e', he', heq⟩ := List.mem_map.mp hlookups
    cases heq
    obtain ⟨s, hs, hfault⟩ := List.mem_filterMap.mp he'
    exact ⟨s, List.mem_cons_of_mem _ hs, hfault⟩

/-- Only the attributes are read from the shared settings. -/
theorem path_eq_or_of_mem_lookups {s : Lookup} (h : s ∈ lookups c path r.name) :
    s.path = path ∨ ∃ a ∈ Attribute.all, c.find? path (a.ownKey r.name) = none ∧
      s = ⟨Config.settingsPath, a.sharedKey, a.decoder⟩ := by
  have hlabel {key : String} (h : s ∈ Label.lookups c path key) : s.path = path := by
    unfold Label.lookups at h
    split at h <;> simp only [Label.styleLookups, List.mem_cons, List.not_mem_nil] at h <;> grind
  rw [lookups, List.mem_append, List.mem_append] at h
  obtain hattribute | hprefix | hsuffix := h
  · obtain ⟨a, ha, rfl⟩ := List.mem_map.mp hattribute
    cases hfind : c.find? path (a.ownKey r.name) with
    | some v => exact .inl (by rw [Attribute.lookup_of_own hfind])
    | none => exact .inr ⟨a, ha, hfind, Attribute.lookup_of_none hfind⟩
  · exact .inl (hlabel hprefix)
  · exact .inl (hlabel hsuffix)

/-- **An error in the shared settings is that of an attribute** for which the section has no value
of its own. -/
theorem exists_hidden_of_add_eq_error {f : Formats} {key reason : String}
    (hpath : path ≠ Config.settingsPath)
    (h : f.add c path r.name r.fallback r.tags r.allowed =
      .error (.config (.invalidValue Config.settingsPath key reason))) :
    ∃ a ∈ Attribute.all, key = a.sharedKey ∧ c.find? path (a.ownKey r.name) = none ∧
      ∃ v m, c.find? Config.settingsPath key = some v ∧ a.decoder v = .error m ∧
        reason = m.message := by
  rw [← error?_eq_some_iff, error?_add] at h
  obtain ⟨s, hs, hfault⟩ := exists_fault?_of_mem_violations (List.mem_of_head? h)
  obtain ⟨v, m, hfind, hdecode, heq⟩ := Lookup.fault?_eq_some_iff.mp hfault
  obtain ⟨hsettings, rfl, rfl⟩ :
      Config.settingsPath = s.path ∧ key = s.key ∧ reason = m.message := by simpa using heq
  have hmem : s ∈ lookups c path r.name := by
    rcases List.mem_cons.mp hs with rfl | hs
    · exact absurd hsettings.symm hpath
    · exact hs
  obtain hown | ⟨a, ha, hown, rfl⟩ := path_eq_or_of_mem_lookups hmem
  · exact absurd (hown.symm.trans hsettings.symm) hpath
  · exact ⟨a, ha, rfl, hown, v, m, hfind, hdecode, rfl⟩

/-- When a format has been added, all of its attributes are resolved. -/
theorem exists_resolves_of_add {f f' : Formats}
    (h : f.add c path r.name r.fallback r.tags r.allowed = .ok f') :
    ∃ t, f'.get r.name = .ok t ∧
      ∀ a ∈ Attribute.all, a.Resolves c path r.name (a.get t) := by
  obtain ⟨t, htemplate, hget⟩ := exists_template_of_add c path h
  obtain ⟨-, -, hdecorated⟩ := of_template_eq_ok c path htemplate
  exact ⟨t, hget, hdecorated.attributes⟩

end Request

/-- **An attribute has its own value, or else the shared one.** An own value that does not fit is an
error all the same, and a shared one only where there is no own value. Other keys than those of
`AgreeOn` play no part. -/
theorem attributes_shadow (c : Config) (path : String) (r : Request) (f : Formats) :
    (∀ f', f.add c path r.name r.fallback r.tags r.allowed = .ok f' →
      ∃ t, f'.get r.name = .ok t ∧
        ∀ a ∈ Attribute.all, a.Resolves c path r.name (a.get t)) ∧
    (∀ a ∈ Attribute.all, ∀ v m, a.decoder v = .error m →
      (c.find? path (a.ownKey r.name) = some v →
        r.Blames c path f a (.invalidValue path (a.ownKey r.name) m.message)) ∧
      (c.find? path (a.ownKey r.name) = none →
        c.find? Config.settingsPath a.sharedKey = some v →
        r.Blames c path f a (.invalidValue Config.settingsPath a.sharedKey m.message))) ∧
    (path ≠ Config.settingsPath → ∀ key reason,
      f.add c path r.name r.fallback r.tags r.allowed =
        .error (.config (.invalidValue Config.settingsPath key reason)) →
      ∃ a ∈ Attribute.all, key = a.sharedKey ∧ c.find? path (a.ownKey r.name) = none ∧
        ∃ v m, c.find? Config.settingsPath key = some v ∧ a.decoder v = .error m ∧
          reason = m.message) ∧
    ∀ c', AgreeOn path r.name c c' →
      f.add c path r.name r.fallback r.tags r.allowed =
        f.add c' path r.name r.fallback r.tags r.allowed := by
  refine ⟨fun _ => Request.exists_resolves_of_add, fun a ha v m hdecode => ⟨fun hown => ?_,
    fun hown hshared => ?_⟩, fun hpath _ _ => Request.exists_hidden_of_add_eq_error hpath,
    fun c' h => h.add f r.fallback r.tags r.allowed⟩
  · apply Request.blames_of_fault? ha
    rw [Attribute.lookup_of_own hown]
    exact Lookup.fault?_eq_some_iff.mpr ⟨v, m, hown, hdecode, rfl⟩
  · apply Request.blames_of_fault? ha
    rw [Attribute.lookup_of_none hown]
    exact Lookup.fault?_eq_some_iff.mpr ⟨v, m, hshared, hdecode, rfl⟩

/-- An own value, and a shared one that does not fit. -/
theorem attributes_shadow_padding :
    let c (own shared : Toml.Table) : Config :=
      ⟨[("module", .table [("test", .table own)]), ("settings", .table shared)]⟩
    let r : Request := { name := "format", fallback := "<label>", tags := ["label"] }
    let add (c : Config) := ({} : Formats).add c "module/test" r.name r.fallback r.tags r.allowed
    let own : Toml.Table := [("format-padding", .integer 3)]
    let bad : Toml.Table := [("format-padding", .boolean true)]
    let reason := "invalid type: boolean `true`, expected usize\n"
    (∃ f t, add (c own bad) = .ok f ∧ f.get "format" = .ok t ∧ t.padding = 3) ∧
    add (c bad own) = .error (.config (.invalidValue "module/test" "format-padding" reason)) ∧
    add (c [] bad) = .error (.config (.invalidValue "settings" "format-padding" reason)) ∧
    (c [] bad).find? "module/test" "format-padding" = none ∧
    add (c own bad) = add (c own []) := by
  intro c r add own bad reason
  let padding : Attribute := .ofNumber "padding" .usize 0 (·.padding)
  have hpadding : padding ∈ Attribute.all := by simp [Attribute.all, padding]
  have hdecode : padding.decoder (.boolean true) = .error (.wrongType (.boolean true) "usize") :=
    rfl
  have hreason : (Mismatch.wrongType (.boolean true) "usize").message = reason := by decide +kernel
  have hkey : padding.ownKey r.name = "format-padding" := by decide +kernel
  have hsharedKey : padding.sharedKey = "format-padding" := by decide +kernel
  have hadmissible (own shared : Toml.Table)
      (h : (c own shared).find? "module/test" "format" = none) :
      r.IsAdmissible (c own shared) "module/test" :=
    ⟨_, .fallback h, by decide, by decide +kernel⟩
  have hbefore {c : Config}
      (h : ∀ b ∈ padding.before, (b.lookup c "module/test" r.name).fault? c = none) :
      ∀ b ∈ padding.before, (b.lookup c "module/test" r.name).Fits c :=
    fun b hb => Lookup.fault?_eq_none_iff.mp (h b hb)
  obtain ⟨hresolves, -, -, hagree⟩ := attributes_shadow (c own bad) "module/test" r {}
  obtain ⟨-, hown, -, -⟩ := attributes_shadow (c bad own) "module/test" r {}
  obtain ⟨-, hshared, hhidden, -⟩ := attributes_shadow (c [] bad) "module/test" r {}
  have hblamesOwn := (hown padding hpadding _ _ hdecode).1
  have hblamesShared := (hshared padding hpadding _ _ hdecode).2
  rw [hkey, hreason] at hblamesOwn
  rw [hkey, hsharedKey, hreason] at hblamesShared
  have hsettings : add (c [] bad) =
      .error (.config (.invalidValue "settings" "format-padding" reason)) :=
    (hblamesShared (by decide +kernel) (by cbv)).reports (hadmissible _ _ (by decide +kernel))
      (hbefore (by decide +kernel))
  refine ⟨?_, ?_, hsettings, ?_, ?_⟩
  · obtain ⟨f, hadd⟩ : ∃ f, add (c own bad) = .ok f := by
      rw [← error?_eq_none_iff]
      decide +kernel
    obtain ⟨t, hget, ht⟩ := hresolves f hadd
    have hthree : padding.Resolves (c own bad) "module/test" r.name (3 : Nat) := by
      have hfind : (c own bad).find? "module/test" (padding.ownKey r.name) = some (.integer 3) := by
        cbv
      exact .own hfind rfl
    exact ⟨f, t, hadd, hget, (ht padding hpadding).unique hthree⟩
  · exact (hblamesOwn (by cbv)).reports (hadmissible _ _ (by decide +kernel))
      (hbefore (by decide +kernel))
  · obtain ⟨a, -, hname, hnone, -⟩ := hhidden (by decide) _ _ hsettings
    have howns : a.ownKey r.name = a.sharedKey := rfl
    rwa [howns, ← hname] at hnone
  · apply hagree
    have htable : (c own bad).table? "module/test" = (c own []).table? "module/test" := by cbv
    have hfind (key : String) :
        (c own bad).find? "module/test" key = (c own []).find? "module/test" key := by
      rw [Config.find?, htable, Config.find?]
    refine ⟨hfind _, fun a _ => hfind _, ?_, fun key _ => ⟨hfind _, fun s _ => hfind _⟩⟩
    intro a _ hnone
    have hother : a.sharedKey ≠ "format-padding" := by
      intro h
      have hsome : (c own bad).find? "module/test" "format-padding" = some (.integer 3) := by cbv
      rw [show a.ownKey r.name = "format-padding" from h, hsome] at hnone
      cases hnone
    have hbad : (c own bad).table? Config.settingsPath = some bad := by cbv
    have hempty : (c own []).table? Config.settingsPath = some [] := by cbv
    rw [Config.find?, Config.find?, hbad, hempty]
    simp [Toml.Table.get?, bad, hother.symm]

end Formats

end StatusBar
