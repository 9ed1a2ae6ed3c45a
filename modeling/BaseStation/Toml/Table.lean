import BaseStation.Toml.Value

namespace BaseStation.Toml

def put (name : String) (value : Value) : Entries → Entries
  | [] => [(name, value)]
  | entry :: rest => if entry.1 = name then (name, value) :: rest else entry :: put name value rest

def through (made : Definition) (f : Definition → Entries → Option Entries) :
    List String → Definition → Entries → Option Entries
  | [], definition, table => f definition table
  | name :: path, _, table =>
    match table.lookup name with
    | none => do
      return put name (.table made (← through made f path made [])) table
    | some (.table definition inner) =>
      if definition = .inline ∨ (made = .dotted ∧ definition = .header) then none
      else do return put name (.table definition (← through made f path definition inner)) table
    | some (.tables elements) =>
      match elements.getLast? with
      | none => none
      | some inner => do
        let inner ← through made f path .header inner
        return put name (.tables (elements.dropLast ++ [inner])) table
    | some _ => none

/-- Adds an entry. At the end of a dotted path stands a table that dotted keys made. -/
def assign (key : Key) (value : Value) (definition : Definition) (table : Entries) :
    Option Entries :=
  let add (definition : Definition) (table : Entries) : Option Entries :=
    if (definition = .dotted) = (key.path = []) then none
    else if (table.lookup key.name).isSome then none
    else some (table ++ [(key.name, value)])
  through .dotted add key.path definition table

def ofEntries (entries : List (Key × Value)) : Option Entries :=
  entries.foldlM (fun table (key, value) => assign key value .inline table) []

def openTable (name : String) (table : Entries) : Option Entries :=
  match table.lookup name with
  | none => some (put name (.table .header []) table)
  | some (.table .parent inner) => some (put name (.table .header inner) table)
  | some _ => none

def openElement (name : String) (table : Entries) : Option Entries :=
  match table.lookup name with
  | none => some (put name (.tables [[]]) table)
  | some (.tables elements) => some (put name (.tables (elements ++ [[]])) table)
  | some _ => none

end BaseStation.Toml
