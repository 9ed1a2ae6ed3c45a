import BaseStation.Toml.Number

namespace BaseStation.Toml

open Reader

def field (width low high : Nat) : Reader Nat := do
  let n := valueIn 10 (← exactly isDigit width)
  if low ≤ n ∧ n ≤ high then return n else failure

def isLeapYear (year : Nat) : Bool := year % 4 == 0 && (year % 100 != 0 || year % 400 == 0)

def daysIn (year month : Nat) : Nat :=
  if month = 2 then (if isLeapYear year then 29 else 28)
  else if month = 4 ∨ month = 6 ∨ month = 9 ∨ month = 11 then 30
  else 31

def date : Reader Unit := do
  let year ← field 4 0 9999
  char '-'
  let month ← field 2 1 12
  char '-'
  let _ ← field 2 1 (daysIn year month)

def timeOfDay : Reader Unit := do
  let _ ← field 2 0 23
  char ':'
  let _ ← field 2 0 59
  char ':'
  let _ ← field 2 0 60
  if ← takes '.' then
    let _ ← run1 isDigit

def offset : Reader Unit := do
  if ← takes 'Z' then return ()
  if ← takes 'z' then return ()
  let _ ← satisfy fun c => c == '+' || c == '-'
  let _ ← field 2 0 23
  char ':'
  let _ ← field 2 0 59

def timeAfterDate : Reader Unit := do
  let _ ← satisfy fun c => c == 'T' || c == 't' || c == ' '
  timeOfDay
  let _ ← maybe offset

def dateMaybeTime : Reader Unit := do
  date
  let _ ← maybe timeAfterDate

def datetime : Reader Unit := dateMaybeTime <|> timeOfDay

end BaseStation.Toml
