import StatusBar.Toml.Datetime

/-!
# Configuration values

The values a configuration holds, and tables of them. A table is a list of entries sorted by key,
each key once, so the order of its entries is the order of their keys and of nothing else.
-/

namespace StatusBar.Toml

/-- A configuration value. -/
inductive Value where
  | string (text : String)
  | integer (number : Int)
  /-- A binary64 number, by its bits. -/
  | float (bits : UInt64)
  | boolean (truth : Bool)
  | datetime (moment : Datetime)
  | array (elements : List Value)
  | table (entries : List (String × Value))
deriving Repr, Inhabited

/-- Entries sorted by key. -/
abbrev Table := List (String × Value)

namespace Table

/-- The value at `key`. -/
def get? (t : Table) (key : String) : Option Value :=
  (t.find? (·.1 == key)).map (·.2)

/-- Puts `value` at `key`, in the place of a value that is there. -/
def insert (t : Table) (key : String) (value : Value) : Table :=
  match t with
  | [] => [(key, value)]
  | (k, v) :: rest =>
    if key < k then (key, value) :: (k, v) :: rest
    else if key = k then (key, value) :: rest
    else (k, v) :: insert rest key value

/-- The table with the given entries; of two entries with one key the later counts. -/
def ofList (entries : List (String × Value)) : Table :=
  entries.foldl (fun t e => t.insert e.1 e.2) []

end Table

/-- The entries of a value that is a table. -/
def Value.table? : Value → Option Table
  | table entries => some entries
  | _ => none

end StatusBar.Toml
