namespace BaseStation.Toml

/-- How a table was defined. -/
inductive Definition
  | inline
  | header
  | parent
  | dotted
  deriving DecidableEq, Repr

inductive Value
  | string (text : String)
  | integer (n : Int)
  | float
  | boolean (b : Bool)
  | datetime
  | array (items : List Value)
  | table (definition : Definition) (entries : List (String × Value))
  | tables (elements : List (List (String × Value)))
  deriving Inhabited, Repr

abbrev Entries := List (String × Value)

structure Key where
  path : List String
  name : String
  deriving DecidableEq, Repr

namespace Key

def within (key : Key) (name : String) : Key := ⟨name :: key.path, key.name⟩

def parts (key : Key) : List String := key.path ++ [key.name]

end Key

end BaseStation.Toml
