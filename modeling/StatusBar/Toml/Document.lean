import StatusBar.Toml.Value

/-!
# From statements to a table

A configuration text is a sequence of statements: headers open a table or add one to an array of
tables, and assignments put a value into the open table. While the statements are carried out the
growing document remembers how each of its tables came about, because that decides what may still
be added to it:

* a value written behind `=` is complete, whatever it is;
* a table that only lies on the way to another header may still get a header of its own, or be
  entered by the dots of a key;
* a table that dots have made or entered takes further dotted keys, and no header of its own.
-/

namespace StatusBar.Toml

/-- A statement of a configuration text. -/
inductive Statement where
  | assign (key : List String) (value : Value)
  | header (path : List String)
  | arrayHeader (path : List String)
deriving Repr, Inhabited

/-- How a table came about. -/
inductive Origin where
  /-- By a header, or as the root. -/
  | explicit
  /-- On the way to the table of a header. -/
  | passed
  /-- By the dots of a key, which also take over a table that was only passed. -/
  | dotted
deriving Repr, DecidableEq

/-- What becomes of a table of a given origin when it is entered on the way of a header (`passed`)
or of dots (`dotted`). Dots do not enter a table that has a header. -/
def Origin.enter? : (way : Origin) → Origin → Option Origin
  | .dotted, .explicit => none
  | .dotted, _ => some .dotted
  | _, origin => some origin

/-- A part of a growing document. -/
inductive Node where
  | value (value : Value)
  | table (origin : Origin) (entries : List (String × Node))
  /-- An array of tables: all but the last, and the entries of the last. -/
  | tables (done : List (List (String × Node))) (last : List (String × Node))
deriving Inhabited

/-- The entries of a growing table, in the order in which they were made. -/
abbrev Entries := List (String × Node)

/-- Changes the entry at `key`, or makes it when there is none. -/
def Entries.alter? (entries : Entries) (key : String) (change : Option Node → Option Node) :
    Option Entries :=
  match entries with
  | [] => do some [(key, ← change none)]
  | (k, node) :: rest =>
    if k = key then do some ((k, ← change (some node)) :: rest)
    else do some ((k, node) :: (← alter? rest key change))

/-- Walks along `path` and applies `act` to the entries it ends at, and to how they came about.
Tables that are not there yet are made, with the origin of the way. -/
def descend? (way : Origin) (act : Origin → Entries → Option Entries) :
    (path : List String) → Origin → Entries → Option Entries
  | [], origin, entries => act origin entries
  | key :: path, _, entries =>
    entries.alter? key fun
      | none => (descend? way act path way []).map (.table way)
      | some (.value _) => none
      | some (.tables done last) => (descend? way act path .explicit last).map (.tables done)
      | some (.table origin sub) => do
        let origin ← way.enter? origin
        some (.table origin (← descend? way act path origin sub))

/-- Puts a value at a key that is not taken. A dotted key must end in a table of dotted keys, and a
plain one must not. -/
def assignAt? (path : List String) (key : String) (value : Value) (origin : Origin)
    (entries : Entries) : Option Entries :=
  if (origin = .dotted) = (path = []) then none
  else entries.alter? key fun
    | none => some (.value value)
    | some _ => none

/-- Assigns to a dotted key below entries that came about by `origin`. -/
def assign? (origin : Origin) (key : List String) (value : Value) (entries : Entries) :
    Option Entries :=
  match key.getLast? with
  | none => none
  | some last => descend? .dotted (assignAt? key.dropLast last value) key.dropLast origin entries

/-- Opens the table at `key`: it is made, or it was passed on the way to another one. -/
def openTable? (key : String) (entries : Entries) : Option Entries :=
  entries.alter? key fun
    | none => some (.table .explicit [])
    | some (.table .passed sub) => some (.table .explicit sub)
    | some _ => none

/-- Adds a table to the array of tables at `key`. -/
def addTable? (key : String) (entries : Entries) : Option Entries :=
  entries.alter? key fun
    | none => some (.tables [] [])
    | some (.tables done last) => some (.tables (done ++ [last]) [])
    | some _ => none

/-- A growing document and the path of its open table. -/
structure Draft where
  root : Entries := []
  current : List String := []
deriving Inhabited

/-- Applies `act` to the table that holds the last key of `path`, and opens that key's table. -/
def Draft.open? (d : Draft) (path : List String) (act : String → Entries → Option Entries) :
    Option Draft :=
  match path.getLast? with
  | none => none
  | some last => do
    let root ← descend? .passed (fun _ => act last) path.dropLast .explicit d.root
    some ⟨root, path⟩

def Draft.step? (d : Draft) : Statement → Option Draft
  | .assign key value => do
    let root ← descend? .passed (assign? · key value) d.current .explicit d.root
    some { d with root }
  | .header path => d.open? path openTable?
  | .arrayHeader path => d.open? path addTable?

mutual

/-- The value a part of a finished document stands for. -/
def Node.toValue : Node → Value
  | .value v => v
  | .table _ entries => .table (Table.ofList (entriesToList entries))
  | .tables done last =>
    .array (tablesToList done ++ [.table (Table.ofList (entriesToList last))])

def entriesToList : List (String × Node) → List (String × Value)
  | [] => []
  | (key, node) :: rest => (key, node.toValue) :: entriesToList rest

def tablesToList : List (List (String × Node)) → List Value
  | [] => []
  | entries :: rest => .table (Table.ofList (entriesToList entries)) :: tablesToList rest

end

/-- The table that the statements make, unless they contradict each other. -/
def Table.ofStatements? (statements : List Statement) : Option Table := do
  let draft ← statements.foldlM Draft.step? {}
  some (Table.ofList (entriesToList draft.root))

/-- The table with the given dotted keys, as written between braces. -/
def Table.ofPairs? (pairs : List (List String × Value)) : Option Table := do
  let entries ← pairs.foldlM (fun entries (key, value) => assign? .explicit key value entries) []
  some (Table.ofList (entriesToList entries))

end StatusBar.Toml
