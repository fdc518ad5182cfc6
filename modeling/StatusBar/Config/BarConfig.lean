import StatusBar.Config.Basic

/-!
# The bar-wide part of a configuration

The root of a configuration names the modules in display order, and its table `bar` overlays the
built-in settings field by field: a field that is present has the given value, whatever the other
fields are, and keys that are no fields are ignored. In the place of the table there may be a list,
which gives the first fields in their order.

The first value that does not fit is reported with the path of its key.
-/

namespace StatusBar

open Toml (Table Value)

/-- The settings of the table `bar`, as written. -/
structure BarSection where
  /-- Height of the bar in logical pixels. -/
  height : Nat := 24
  /-- Colour of the text. -/
  foreground : String := "#cdd6f4"
  background : String := "#1e1e2e"
  /-- Colour of lines over and under the text. -/
  lineColor : String := "#cba6f7"
  /-- Thickness of these lines in pixels. -/
  lineSize : Nat := 1
  /-- The fonts; their indices begin at 1. -/
  fonts : List String := ["JetBrains Mono:size=11"]
  /-- The text between the outputs of two modules. -/
  separator : String := " | "
deriving Repr, DecidableEq, Inhabited

/-- The bar-wide part of a configuration. -/
structure BarConfig where
  /-- The names of the modules in display order. -/
  modules : List String := []
  bar : BarSection := {}
deriving Repr, DecidableEq, Inhabited

namespace BarSection

/-- A field of the settings: its key, and how a value is put into it. -/
structure Field where
  key : String
  put : BarSection → Decoder BarSection

def fields : List Field := [
  ⟨"height", fun s v => do return { s with height := ← Decoder.u32 v }⟩,
  ⟨"foreground", fun s v => do return { s with foreground := ← Decoder.string v }⟩,
  ⟨"background", fun s v => do return { s with background := ← Decoder.string v }⟩,
  ⟨"line_color", fun s v => do return { s with lineColor := ← Decoder.string v }⟩,
  ⟨"line_size", fun s v => do return { s with lineSize := ← Decoder.u32 v }⟩,
  ⟨"fonts", fun s v => do return { s with fonts := ← Decoder.strings v }⟩,
  ⟨"separator", fun s v => do return { s with separator := ← Decoder.string v }⟩]

/-- Puts an entry of the table into the field of its key, if there is one. -/
def putEntry (s : BarSection) (entry : String × Value) : Except Mismatch BarSection :=
  match fields.find? (·.key == entry.1) with
  | none => .ok s
  | some field => (field.put s entry.2).mapError (.inside entry.1)

/-- Puts the values of a list into the fields, one after the other. -/
def putAll (s : BarSection) : List Field → List Value → Except Mismatch BarSection
  | field :: fields, v :: vs => do putAll (← field.put s v) fields vs
  | _, _ => .ok s

/-- The settings of a list of values. -/
def ofList (vs : List Value) : Except Mismatch BarSection := do
  let s ← putAll {} fields vs
  if vs.length ≤ fields.length then return s else throw (.tooLong vs.length)

/-- The settings of a value. -/
def ofValue : Decoder BarSection
  | .table entries => entries.foldlM putEntry {}
  | .array vs => ofList vs
  | v => .error (.wrongType v "struct BarSection")

end BarSection

/-- The bar-wide part of a root table. -/
def BarConfig.ofTable (t : Table) : Except Mismatch BarConfig := do
  let bar ← match t.get? "bar" with
    | none => .ok {}
    | some v => (BarSection.ofValue v).mapError (.inside "bar")
  let modules ← match t.get? "modules" with
    | none => .ok []
    | some v => (Decoder.strings v).mapError (.inside "modules")
  return { modules, bar }

def Config.barConfig (c : Config) : Except ConfigError BarConfig :=
  (BarConfig.ofTable c.root).mapError fun m => .malformed m.message

/-! ### Settings -/

/-- The settings every module is given: the colours are read, and a text that is no colour counts
as the default. -/
structure BarSettings where
  height : Nat
  foreground : Color
  background : Color
  lineColor : Color
  lineSize : Nat
  fonts : List String
  separator : String
deriving Repr, DecidableEq

namespace BarSettings

def ofSection (s : BarSection) : BarSettings where
  height := s.height
  foreground := (Color.ofHex? s.foreground).getD .white
  background := (Color.ofHex? s.background).getD .dark
  lineColor := (Color.ofHex? s.lineColor).getD .purple
  lineSize := s.lineSize
  fonts := s.fonts
  separator := s.separator

instance : Inhabited BarSettings := ⟨ofSection {}⟩

def ofConfig (c : Config) : Except ConfigError BarSettings := do
  return ofSection (← c.barConfig).bar

end BarSettings

end StatusBar
