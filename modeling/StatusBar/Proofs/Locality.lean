import StatusBar.Bar
import StatusBar.Proofs.Attributes
import StatusBar.Widget.Builtin

/-!
# What a module reads of a configuration

A module is built from two tables: its own, and the one with the settings that all formats share.
So two configurations in which these two are the same build the same module (`AgreeAt`). The rest
is about paths: the table of a module is reached over the first part of its name, and so it is the
same in configurations that differ only under another part (`AgreeBut.agreeAt`).
-/

namespace StatusBar

open Toml (Table Value)

namespace Config

/-- The two configurations are the same to a module with its table at `path`. -/
structure AgreeAt (path : String) (c c' : Config) : Prop where
  own : c.table? path = c'.table? path
  shared : c.table? settingsPath = c'.table? settingsPath

namespace AgreeAt

variable {path : String} {c c' : Config}

section Queries

variable (h : AgreeAt path c c') {α : Type} (decoder : Decoder α) (key : String)

include h

theorem hasTable : c.hasTable path = c'.hasTable path := by
  unfold Config.hasTable
  rw [h.own]

theorem find? : c.find? path key = c'.find? path key := by
  unfold Config.find?
  rw [h.own]

theorem find?_settings : c.find? settingsPath key = c'.find? settingsPath key := by
  unfold Config.find?
  rw [h.shared]

theorem get : c.get decoder path key = c'.get decoder path key := by
  unfold Config.get
  rw [h.find?]

theorem getOr (fallback : α) :
    c.getOr decoder path key fallback = c'.getOr decoder path key fallback :=
  getOr_congr decoder (h.find? key) fallback

/-! ### Labels and formats -/

theorem load (default : Option String) :
    Label.load c path key default = Label.load c' path key default :=
  Label.load_congr (h.find? key) (fun s _ => h.find? s.key) default

theorem agreeOn (name : String) : Formats.AgreeOn path name c c' where
  value := h.find? name
  own a _ := h.find? (a.ownKey name)
  shared a _ _ := h.find?_settings a.sharedKey
  labels key _ := ⟨h.find? key, fun s _ => h.find? s.key⟩

theorem add (f : Formats) (name fallback : String) (tags allowed : List String) :
    f.add c path name fallback tags allowed = f.add c' path name fallback tags allowed :=
  (h.agreeOn name).add f fallback tags allowed

end Queries

/-! ### Widgets and modules -/

theorem newClock (h : AgreeAt path c c') : ClockWidget.new c path = ClockWidget.new c' path := by
  have hpattern (key fallback : String) :
      ClockWidget.pattern c path key fallback = ClockWidget.pattern c' path key fallback := by
    simp only [ClockWidget.pattern, h.getOr]
  simp only [ClockWidget.new, h.add, hpattern, h.load, h.getOr]

theorem newText (h : AgreeAt path c c') : TextWidget.new c path = TextWidget.new c' path := by
  simp only [TextWidget.new, h.add, h.load]

end AgreeAt

end Config

/-- Whether a widget is built from the table of its module and the shared settings alone. -/
def Construction.IsLocal {ω : Type} (construct : Construction ω) : Prop :=
  ∀ path c c', Config.AgreeAt path c c' → construct c path = construct c' path

/-- Every built-in widget is built from its own section and the shared settings alone. -/
theorem Builtin.isLocal_of_mem_catalog {kind : String} {construct : Construction Builtin}
    (h : (kind, construct) ∈ catalog) : construct.IsLocal := by
  intro path c c' hagree
  simp only [catalog, List.mem_cons, Prod.mk.injEq, List.not_mem_nil, or_false] at h
  rcases h with ⟨-, rfl⟩ | ⟨-, rfl⟩
  · simp only [hagree.newClock]
  · simp only [hagree.newText]

namespace Slot

variable {ω : Type} {catalog : List (String × Construction ω)} {c c' : Config}
  {settings : BarSettings} {rawName : String}

/-- A slot depends on no section but that of its module, and on the shared settings. -/
theorem create_eq (hlocal : ∀ e ∈ catalog, e.2.IsLocal)
    (h : Config.AgreeAt (Module.fullName rawName) c c') :
    create catalog c settings rawName = create catalog c' settings rawName := by
  have hbuild (kind : String) :
      build catalog c settings rawName kind = build catalog c' settings rawName kind := by
    simp only [build, kindError, h.hasTable, h.get]
    cases hlookup : catalog.lookup kind with
    | none => rfl
    | some construct =>
      obtain ⟨before, after, rfl, -⟩ := List.lookup_eq_some_iff.mp hlookup
      have hconstruct : construct c _ = construct c' _ :=
        hlocal (kind, construct) (by simp) _ _ _ h
      simp only [Module.new, h.getOr, hconstruct]
  simp only [create, h.get, hbuild]

/-- A module that has been built has the name that was asked for. -/
theorem rawName_of_build {kind : String} {m : Module ω}
    (h : build catalog c settings rawName kind = .ok m) : m.rawName = rawName := by
  obtain ⟨construct, hnew⟩ := exists_new_of_build h
  obtain ⟨_, _, _, rfl⟩ := Module.eq_of_new hnew
  rfl

theorem rawName_create : (create catalog c settings rawName).rawName = rawName := by
  simp only [create]
  split
  · rename_i m h
    exact rawName_of_build h
  · rfl

end Slot

/-! ### The way to the table of a module -/

theorem Module.split_fullName (rawName : String) :
    Text.split '/' (fullName rawName) = "module" :: Text.split '/' rawName := by
  have hchars : (fullName rawName).toList = "module".toList ++ '/' :: rawName.toList := by
    simp [fullName, toString]
  rw [Text.split, hchars, Text.splitChars_append (by decide)]
  rfl

/-- Whether the table of a module lies under the key `x` of the table `module`. -/
def Module.IsUnder (x rawName : String) : Prop := (Text.split '/' rawName).head? = some x

instance (x rawName : String) : Decidable (Module.IsUnder x rawName) :=
  inferInstanceAs (Decidable (_ = _))

namespace Config

/-- The two configurations differ at the key `x` of the table `module` only. -/
structure AgreeBut (x : String) (c c' : Config) : Prop where
  root : ∀ key, key ≠ "module" → c.root.get? key = c'.root.get? key
  modules : ∀ key, key ≠ x → c.find? "module" key = c'.find? "module" key

theorem table?_of_not_mem (c : Config) {path : String} (h : '/' ∉ path.toList) :
    c.table? path = (c.root.get? path).bind (·.table?) := by
  rw [table?, Text.split_of_not_mem h]
  simp [follow]

/-- The table of a module is reached over the first part of its name. -/
theorem table?_fullName (c : Config) {rawName part : String} {parts : List String}
    (h : Text.split '/' rawName = part :: parts) :
    c.table? (Module.fullName rawName) =
      (c.find? "module" part).bind fun v => v.table?.bind (follow · parts) := by
  rw [table?, Module.split_fullName, h, find?, table?_of_not_mem c (by decide)]
  simp [follow, Option.bind_assoc]

namespace AgreeBut

variable {x : String} {c c' : Config}

/-- Two configurations differ in one module only if they agree at the root and in the table of the
modules. -/
theorem of_table {t t' : Table} (hroot : ∀ key, key ≠ "module" → c.root.get? key = c'.root.get? key)
    (ht : c.root.get? "module" = some (.table t)) (ht' : c'.root.get? "module" = some (.table t'))
    (h : ∀ key, key ≠ x → t.get? key = t'.get? key) : AgreeBut x c c' where
  root := hroot
  modules key hkey := by
    rw [find?, find?, table?_of_not_mem c (by decide), table?_of_not_mem c' (by decide), ht, ht']
    exact h key hkey

/-- Configurations that differ in one module agree at every other, unless its name goes through the
first one. -/
theorem agreeAt (h : AgreeBut x c c') {rawName : String} (hname : ¬ Module.IsUnder x rawName) :
    AgreeAt (Module.fullName rawName) c c' where
  own := by
    cases hsplit : Text.split '/' rawName with
    | nil => exact absurd (List.map_eq_nil_iff.mp hsplit) (Text.splitChars_ne_nil _ _)
    | cons part parts =>
      have hpart : part ≠ x := by
        rintro rfl
        exact hname (by rw [Module.IsUnder, hsplit]; rfl)
      rw [table?_fullName c hsplit, table?_fullName c' hsplit, h.modules part hpart]
  shared := by
    rw [table?_of_not_mem c (by decide), table?_of_not_mem c' (by decide),
      h.root settingsPath (by decide)]

theorem barConfig (h : AgreeBut x c c') : c.barConfig = c'.barConfig := by
  simp only [Config.barConfig, BarConfig.ofTable, h.root "bar" (by decide),
    h.root "modules" (by decide)]

end AgreeBut

end Config

end StatusBar
