import BaseStation.Log.Filter
import BaseStation.Text.Padding
import BaseStation.Text.Split

namespace BaseStation.Log

inductive Field
  | message (text : String)
  | frame (n : Nat)
  deriving DecidableEq, Repr

structure Event where
  level : Level
  target : String
  file : Option String
  line : Option Nat
  fields : List Field
  deriving DecidableEq, Repr

namespace Field

def text : Field → String
  | message text => text
  | frame n => "ts=" ++ toString n

def frame? : Field → Option Nat
  | message _ => none
  | frame n => some n

end Field

namespace Event

def frame? (event : Event) : Option Nat := event.fields.findSome? Field.frame?

def fieldText (event : Event) : String := " ".intercalate (event.fields.map Field.text)

end Event

/-- The text without what looks like a frame in it: from the first mark up to the next blank. -/
def withoutFrame (text : List Char) : List Char :=
  match Text.splitFirst "ts=".toList text with
  | none => text
  | some (before, after) =>
    match Text.splitFirst [' '] after with
    | some (_, rest) => before ++ rest
    | none => before

def lastComponent (path : List Char) : List Char :=
  match Text.splitLast ['/'] path with
  | some (_, after) => after
  | none => path

def firstComponent (path : List Char) : List Char :=
  match Text.splitFirst ['/'] path with
  | some (before, _) => before
  | none => path

/-- The package a source directory is in, without the common start of package names. -/
def packageName (path : List Char) : List Char :=
  match Text.splitLast "gsm-".toList path with
  | some (_, after) => after
  | none => lastComponent path

/-- A source file as frame, package with module, and name. A file outside of any package is given as
it is, without a frame. -/
def placeOf (frame : String) (file : String) : String :=
  match Text.splitFirst "/src/".toList file.toList with
  | none => file
  | some (before, after) =>
    let start := frame ++ " [" ++ String.ofList (packageName before)
    match Text.splitLast ['/'] after with
    | some (modules, name) =>
      start ++ "/" ++ String.ofList (firstComponent modules) ++ "] " ++ String.ofList name
    | none => start ++ "] " ++ String.ofList after

def frameText (frame : Option Nat) : String :=
  match frame with
  | some n => toString n
  | none => "       "

namespace Event

def message (event : Event) : String :=
  if event.frame?.isSome then String.ofList (withoutFrame event.fieldText.toList)
  else event.fieldText

def location (event : Event) : String :=
  "\x1b[" ++ toString event.level.colour ++ "m" ++ Text.padRight 5 event.level.name ++ "\x1b[0m "
    ++ placeOf (frameText event.frame?) (event.file.getD "unknown") ++ ":"
    ++ toString (event.line.getD 0) ++ ":"

/-- A message that starts with an arrow is set back, so that arrows line up. -/
def column (message : String) : Nat :=
  if ['-', '>'].isPrefixOf message.toList || ['<', '-'].isPrefixOf message.toList then 67 else 70

def text (event : Event) : String :=
  Text.padRight (column event.message) event.location ++ " " ++ event.message ++ "\n"

def printedBy (filter : Level → String → Bool) (event : Event) : String :=
  if filter event.level event.target then event.text else ""

def printed (event : Event) (directives : List Directive) : String := event.printedBy (accepts directives)

end Event

end BaseStation.Log
