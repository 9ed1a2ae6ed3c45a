import BaseStation.Toml.Datetime
import BaseStation.Toml.Table

namespace BaseStation.Toml

open Reader

inductive Statement
  | entry (key : Key) (value : Value)
  | table (key : Key)
  | element (key : Key)
  deriving Repr

def maxDepth : Nat := 79

def maxKeyLength : Nat := 79

def isBareChar (c : Char) : Bool :=
  isDigit c || ('a' ≤ c && c ≤ 'z') || ('A' ≤ c && c ≤ 'Z') || c == '-' || c == '_'

def name : Reader String := do
  match ← peek with
  | some '"' => String.ofList <$> basic
  | some '\'' => String.ofList <$> literal
  | _ => String.ofList <$> run1 isBareChar

def keyWithin : Nat → Reader Key
  | 0 => failure
  | length + 1 => do
    blanks
    let first ← name
    blanks
    if ← takes '.' then return (← keyWithin length).within first
    return ⟨[], first⟩

def key : Reader Key := keyWithin maxKeyLength

def entry (value : Reader Value) : Reader (Key × Value) := do
  let key ← key
  char '='
  blanks
  return (key, ← value)

def items (value : Reader Value) : Nat → Reader (List Value)
  | 0 => failure
  | steps + 1 => do
    anyLines
    if ← takes ']' then return []
    let item ← value
    anyLines
    if ← takes ',' then return item :: (← items value steps)
    char ']'
    return [item]

def array (value : Reader Value) : Reader Value := do
  char '['
  return .array (← bounded (items value))

def entries (value : Reader Value) : Nat → Reader (List (Key × Value))
  | 0 => failure
  | steps + 1 => do
    let first ← entry value
    blanks
    if ← takes ',' then return first :: (← entries value steps)
    char '\x7d'
    return [first]

def inlineTable (value : Reader Value) : Reader Value := do
  char '\x7b'
  blanks
  let entries ← if ← takes '\x7d' then pure [] else bounded (entries value)
  match ofEntries entries with
  | some table => return .table .inline table
  | none => failure

def number : Reader Value :=
  (do datetime; return .datetime) <|> (do float; return .float) <|> .integer <$> integer

def scalar : Reader Value := do
  match ← peek with
  | some '"' | some '\'' => .string <$> string
  | some 't' => do word ['t', 'r', 'u', 'e']; return .boolean true
  | some 'f' => do word ['f', 'a', 'l', 's', 'e']; return .boolean false
  | _ => number

def value : Nat → Reader Value
  | 0 => scalar
  | depth + 1 => array (value depth) <|> inlineTable (value depth) <|> scalar

def header : Reader Statement := do
  char '['
  if ← takes '[' then
    let key ← key
    word [']', ']']
    restOfLine
    return .element key
  let key ← key
  char ']'
  restOfLine
  return .table key

def statement : Reader Statement := do
  if (← peek) == some '[' then header
  else
    let (key, value) ← entry (value maxDepth)
    restOfLine
    return .entry key value

def statements : Nat → Reader (List Statement)
  | 0 => failure
  | steps + 1 => do
    blanks
    match ← peek with
    | none => return []
    | some '#' => comment; lineEnd; statements steps
    | some '\n' | some '\r' => newline; statements steps
    | _ => return (← statement) :: (← statements steps)

end BaseStation.Toml
