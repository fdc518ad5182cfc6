import StatusBar.Template.Render

/-!
# The formats of a module

A module registers its formats by name. Value and decorations come from the module's table of the
configuration; a decoration that is absent there is taken from the settings all formats share,
where its key is that of the format named `format`. Labels in front and behind are the module's
own.

A format is registered only if its value is not blank and every tag, declared or used, is allowed.
An attempt that fails changes nothing.
-/

namespace StatusBar

/-- The registered formats, each name once. -/
structure Formats where
  entries : List (String × Template) := []
deriving Inhabited

namespace Formats

/-- The format a widget shows unless it says otherwise. -/
def defaultName : String := "format"

/-- The template registered under a name. -/
def find? (f : Formats) (name : String) : Option Template :=
  (f.entries.find? (·.1 == name)).map (·.2)

def get (f : Formats) (name : String) : Except ModuleError Template :=
  match f.find? name with
  | some t => .ok t
  | none => .error (.undefinedFormat name)

/-- Whether the format of this name uses a tag. -/
def hasIn (f : Formats) (tag name : String) : Bool := (f.find? name).any (·.has tag)

/-- Whether some format uses a tag. -/
def has (f : Formats) (tag : String) : Bool := f.entries.any (·.2.has tag)

/-- Puts a template under a name, in the place of one that is there. -/
def insert (f : Formats) (name : String) (t : Template) : Formats :=
  { f with entries := (name, t) :: f.entries.filter (·.1 != name) }

/-! ### Registration -/

/-- A decoration of the format `name` of the table at `path`: the value at its own key, or else at
the shared one. -/
def decoration (c : Config) (path name : String) (decoder : Decoder α) (attr : String) :
    Except ConfigError (Option α) :=
  let key := s!"{name}-{attr}"
  if c.has path key then c.getOption decoder path key
  else c.getOption decoder Config.settingsPath s!"{defaultName}-{attr}"

/-- The template of a value with the decorations of the format `name`. -/
def decorated (c : Config) (path name value : String) : Except ConfigError Template := do
  let foreground ← decoration c path name .color "foreground"
  let background ← decoration c path name .color "background"
  let underline ← decoration c path name .color "underline"
  let overline ← decoration c path name .color "overline"
  let underlineSize := (← decoration c path name .u32 "underline-size").getD 0
  let overlineSize := (← decoration c path name .u32 "overline-size").getD 0
  let spacing := (← decoration c path name .usize "spacing").getD 0
  let padding := (← decoration c path name .usize "padding").getD 0
  let margin := (← decoration c path name .usize "margin").getD 0
  let offset := (← decoration c path name .i32 "offset").getD 0
  let font := (← decoration c path name .usize "font").getD 0
  let lead ← Label.load c path s!"{name}-prefix" none
  let trail ← Label.load c path s!"{name}-suffix" none
  let style := { background, foreground, underline, underlineSize, overline, overlineSize, font }
  return { Template.parse value with lead, trail, style, spacing, padding, margin, offset }

/-- Registers the format `name` of the table at `path`. Its value is `fallback` unless the
configuration has one. The tags in `allowed`, or if this is empty the declared `tags`, are the ones
that may be declared and used. -/
def add (f : Formats) (c : Config) (path name fallback : String) (tags allowed : List String) :
    Except ModuleError Formats := do
  let value ← c.getOr .string path name fallback
  if Text.allBlank value then throw (.undefinedFormat name)
  let allowed := if allowed.isEmpty then tags else allowed
  match (tags ++ (Template.parse value).tags).find? (!allowed.contains ·) with
  | some tag => throw (.undefinedFormatTag tag name)
  | none => return f.insert name (← decorated c path name value)

end Formats

end StatusBar
