import BaseStation.Toml.Reader

namespace BaseStation.Toml

open Reader

def isPlain (c : Char) : Bool := isCommentChar c

def isHexDigit (c : Char) : Bool :=
  ('0' ≤ c && c ≤ '9') || ('a' ≤ c && c ≤ 'f') || ('A' ≤ c && c ≤ 'F')

def digitValue (c : Char) : Nat :=
  if c ≤ '9' then c.toNat - '0'.toNat
  else if 'a' ≤ c then c.toNat - 'a'.toNat + 10
  else c.toNat - 'A'.toNat + 10

def valueIn (base : Nat) (digits : List Char) : Nat :=
  digits.foldl (fun n digit => base * n + digitValue digit) 0

def codePoint (width : Nat) : Reader Char := do
  let n := valueIn 16 (← exactly isHexDigit width)
  if n.isValidChar then return Char.ofNat n else failure

def escaped : Reader Char := do
  match ← satisfy fun _ => true with
  | 'b' => return '\x08'
  | 't' => return '\t'
  | 'n' => return '\n'
  | 'f' => return '\x0c'
  | 'r' => return '\r'
  | '"' => return '"'
  | '\\' => return '\\'
  | 'u' => codePoint 4
  | 'U' => codePoint 8
  | _ => failure

def basicTail : Nat → Reader (List Char)
  | 0 => failure
  | steps + 1 => do
    match ← satisfy isPlain with
    | '"' => return []
    | '\\' => return (← escaped) :: (← basicTail steps)
    | c => return c :: (← basicTail steps)

def basic : Reader (List Char) := do
  char '"'
  bounded basicTail

def literal : Reader (List Char) := do
  char '\''
  let text ← run fun c => isPlain c && c != '\''
  char '\''
  return text

def quotes (quote : Char) : Reader (Nat × Bool) := do
  let count := (← run (· == quote)).length
  if count < 3 then return (count, false)
  else if count ≤ 5 then return (count - 3, true)
  else failure

def pairedReturns : List Char → Bool
  | '\r' :: '\n' :: rest => pairedReturns rest
  | '\r' :: _ => false
  | _ :: rest => pairedReturns rest
  | [] => true

/-- What the backslash at the end of a line takes away: the line end and all blanks and line ends up
to the next character. -/
def joinLines : Reader Unit := do
  blanks
  newline
  let skipped ← run fun c => isBlank c || c == '\n' || c == '\r'
  if pairedReturns skipped then return () else failure

def manyLinesTail (quote : Char) (escapes : Bool) : Nat → Reader (List Char)
  | 0 => failure
  | steps + 1 => do
    match ← peek with
    | none => failure
    | some '\n' | some '\r' =>
      newline
      return '\n' :: (← manyLinesTail quote escapes steps)
    | some c =>
      if c = quote then
        let (count, ends) ← quotes quote
        let text := List.replicate count quote
        if ends then return text else return text ++ (← manyLinesTail quote escapes steps)
      else if c = '\\' ∧ escapes then
        char '\\'
        match ← maybe joinLines with
        | some () => manyLinesTail quote escapes steps
        | none => return (← escaped) :: (← manyLinesTail quote escapes steps)
      else
        let c ← satisfy isPlain
        return c :: (← manyLinesTail quote escapes steps)

def manyLines (quote : Char) (escapes : Bool) : Reader (List Char) := do
  word [quote, quote, quote]
  if (← peek) == some '\n' || (← peek) == some '\r' then newline
  bounded (manyLinesTail quote escapes)

def string : Reader String := do
  String.ofList <$> (manyLines '"' true <|> basic <|> manyLines '\'' false <|> literal)

end BaseStation.Toml
