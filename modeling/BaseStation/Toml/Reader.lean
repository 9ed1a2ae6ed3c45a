namespace BaseStation.Toml

abbrev Reader := StateT (List Char) Option

namespace Reader

def peek : Reader (Option Char) := fun cs => some (cs.head?, cs)

def atEnd : Reader Bool := fun cs => some (cs.isEmpty, cs)

def satisfy (p : Char → Bool) : Reader Char := fun cs =>
  match cs with
  | c :: rest => if p c then some (c, rest) else none
  | [] => none

def char (c : Char) : Reader Unit := do let _ ← satisfy (· == c)

def run (p : Char → Bool) : Reader (List Char) := fun cs => some (cs.span p)

def run1 (p : Char → Bool) : Reader (List Char) := do
  return (← satisfy p) :: (← run p)

def exactly (p : Char → Bool) : Nat → Reader (List Char)
  | 0 => return []
  | n + 1 => do return (← satisfy p) :: (← exactly p n)

def word : List Char → Reader Unit
  | [] => return ()
  | c :: rest => do char c; word rest

def takes (c : Char) : Reader Bool := fun cs =>
  match cs with
  | d :: rest => if d = c then some (true, rest) else some (false, cs)
  | [] => some (false, [])

def maybe {α : Type} (reader : Reader α) : Reader (Option α) :=
  (some <$> reader) <|> pure none

/-- A reader that may go as many steps as there are characters left, and one more. -/
def bounded {α : Type} (reader : Nat → Reader α) : Reader α := fun cs => reader (cs.length + 1) cs

end Reader

open Reader

def isBlank (c : Char) : Bool := c == ' ' || c == '\t'

def blanks : Reader Unit := do let _ ← run isBlank

def isBeyondAscii (c : Char) : Bool := 0x80 ≤ c.toNat

def isCommentChar (c : Char) : Bool :=
  c == '\t' || (0x20 ≤ c.toNat && c.toNat ≤ 0x7E) || isBeyondAscii c

def newline : Reader Unit := do
  let _ ← takes '\r'
  char '\n'

def comment : Reader Unit := do
  char '#'
  let _ ← run isCommentChar

def lineEnd : Reader Unit := do
  if ← atEnd then return ()
  newline

def restOfLine : Reader Unit := do
  blanks
  if (← peek) == some '#' then comment
  lineEnd

def skipLines : Nat → Reader Unit
  | 0 => return ()
  | lines + 1 => do
    blanks
    match ← peek with
    | some '#' => comment; newline; skipLines lines
    | some '\n' | some '\r' => newline; skipLines lines
    | _ => return ()

def anyLines : Reader Unit := bounded skipLines

end BaseStation.Toml
