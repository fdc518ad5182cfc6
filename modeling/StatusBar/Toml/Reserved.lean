import StatusBar.Toml.Value

/-!
# The reserved key

A table whose first key is the reserved one is another spelling of a datetime, whose text stands at
that key. `Value.resolve` finds such tables at every depth and puts datetimes in their place. Which
tables really spell a datetime, and how the others are refused, depends on the reader.
-/

namespace StatusBar.Toml

/-- The key at which a table has the text of a datetime. -/
def reservedKey : String := "$__toml_private_datetime"

/-- The value at the reserved key and the entries behind it, if that key is the first. -/
def Table.reserved? : Table → Option (Value × Table)
  | [] => none
  | (key, value) :: rest => if key = reservedKey then some (value, rest) else none

mutual

/-- The value with datetimes in the place of the tables that spell them. What `datetime` is given is
the value at the reserved key and the entries behind it; an error is told of every key around it. -/
def Value.resolve (datetime : Value → Table → Except ε Datetime) (inside : String → ε → ε) :
    Value → Except ε Value
  | .array elements => .array <$> resolveElements datetime inside elements
  | .table entries =>
    match Table.reserved? entries with
    | some (value, rest) => .datetime <$> datetime value rest
    | none => .table <$> resolveEntries datetime inside entries
  | value => .ok value

/-- Resolves the elements of an array, the first one first. -/
def resolveElements (datetime : Value → Table → Except ε Datetime) (inside : String → ε → ε) :
    List Value → Except ε (List Value)
  | [] => .ok []
  | value :: rest => do
    let value ← value.resolve datetime inside
    let rest ← resolveElements datetime inside rest
    return value :: rest

/-- Resolves the values of a table that spells no datetime itself, the first one first. -/
def resolveEntries (datetime : Value → Table → Except ε Datetime) (inside : String → ε → ε) :
    List (String × Value) → Except ε (List (String × Value))
  | [] => .ok []
  | (key, value) :: rest => do
    let value ← (value.resolve datetime inside).mapError (inside key)
    let rest ← resolveEntries datetime inside rest
    return (key, value) :: rest

end

end StatusBar.Toml
