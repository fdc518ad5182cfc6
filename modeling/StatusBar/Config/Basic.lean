import StatusBar.Config.Decode
import StatusBar.Error
import StatusBar.Text.Split
import StatusBar.Toml.Text

/-!
# Looking things up in a configuration

A configuration is a table of tables. A path such as `module/clock` leads from the root through
one table after the other; an empty part is a key like any other. Where a part is absent, or is
no table, the path leads nowhere, and everything beyond it is missing, never ill-typed.

`get` decodes the value at a key and reports a missing or an ill-typed one with the path and the
key that were asked for. `getOr` has a fallback for the missing value only.
-/

namespace StatusBar

open Toml (Table Value)

structure Config where
  root : Table := []
deriving Inhabited

namespace Config

/-- The path of the table with the decorations that all formats share. -/
def settingsPath : String := "settings"

/-- The table that the parts of a path lead to. -/
def follow (t : Table) : List String → Option Table
  | [] => some t
  | part :: parts => do follow (← (← t.get? part).table?) parts

/-- The table at a path. -/
def table? (c : Config) (path : String) : Option Table :=
  follow c.root (Text.split '/' path)

/-- The value at a key of the table at a path. -/
def find? (c : Config) (path key : String) : Option Value := do
  (← c.table? path).get? key

def hasTable (c : Config) (path : String) : Bool := (c.table? path).isSome

def has (c : Config) (path key : String) : Bool := (c.find? path key).isSome

/-- Decodes a value found at a key. -/
def decode (decoder : Decoder α) (path key : String) (v : Value) : Except ConfigError α :=
  (decoder v).mapError fun m => .invalidValue path key m.message

/-- The decoded value at a key that has to be there. -/
def get (c : Config) (decoder : Decoder α) (path key : String) : Except ConfigError α :=
  match c.find? path key with
  | none => .error (.missingKey path key)
  | some v => decode decoder path key v

/-- The decoded value at a key, or the fallback if the key is missing. -/
def getOr (c : Config) (decoder : Decoder α) (path key : String) (fallback : α) :
    Except ConfigError α :=
  match c.find? path key with
  | none => .ok fallback
  | some v => decode decoder path key v

/-- The decoded value at a key, or nothing if the key is missing. -/
def getOption (c : Config) (decoder : Decoder α) (path key : String) :
    Except ConfigError (Option α) :=
  c.getOr (.optional decoder) path key none

end Config

end StatusBar
