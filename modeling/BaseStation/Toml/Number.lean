import BaseStation.Toml.Value
import BaseStation.Toml.Quoted

namespace BaseStation.Toml

open Reader

def isDigit (c : Char) : Bool := '0' ≤ c && c ≤ '9'

def digitsTail (p : Char → Bool) : List Char → Option (List Char × List Char)
  | '_' :: c :: rest =>
    if p c then (digitsTail p rest).map fun (digits, rest) => (c :: digits, rest) else none
  | ['_'] => none
  | c :: rest =>
    if p c then (digitsTail p rest).map fun (digits, rest) => (c :: digits, rest)
    else some ([], c :: rest)
  | [] => some ([], [])

def digits (p : Char → Bool) : Reader (List Char) := do
  return (← satisfy p) :: (← digitsTail p)

def sign : Reader Bool := do
  if ← takes '-' then return true
  let _ ← takes '+'
  return false

def decimal : Reader (List Char) := do
  if ← takes '0' then return ['0'] else digits isDigit

def maxInteger : Int := Int64.maxValue.toInt

def minInteger : Int := Int64.minValue.toInt

def inRange (n : Int) : Reader Int :=
  if minInteger ≤ n ∧ n ≤ maxInteger then pure n else failure

def based (letter : Char) (base : Nat) (p : Char → Bool) : Reader Int := do
  word ['0', letter]
  inRange (valueIn base (← digits p))

def decimalInteger : Reader Int := do
  let negative ← sign
  let n : Int := valueIn 10 (← decimal)
  inRange (if negative then -n else n)

def integer : Reader Int :=
  based 'x' 16 isHexDigit <|> based 'o' 8 (fun c => '0' ≤ c && c ≤ '7')
    <|> based 'b' 2 (fun c => c == '0' || c == '1') <|> decimalInteger

/-- Twice the least number that rounds past the largest double is `2 ^ 1025 - 2 ^ 970`. -/
def firstOverflow : Nat := 1 <<< 1024 - 1 <<< 970

def overflows (digits : List Char) (exponent : Int) : Bool :=
  let significant := digits.dropWhile (· == '0')
  if significant = [] then false
  else
    let magnitude := significant.length + exponent
    if 310 < magnitude then true
    else if magnitude < 308 then false
    else
      let n := valueIn 10 significant
      if 0 ≤ exponent then firstOverflow ≤ n * Nat.pow 10 exponent.toNat
      else firstOverflow * Nat.pow 10 (-exponent).toNat ≤ n

def fraction : Reader (List Char) := do
  char '.'
  digits isDigit

def exponent : Reader Int := do
  let _ ← satisfy fun c => c == 'e' || c == 'E'
  let negative ← sign
  let n : Int := valueIn 10 (← digits isDigit)
  return if negative then -n else n

def fractionAndExponent : Reader (List Char × Int) := do
  match ← peek with
  | some '.' =>
    let after ← fraction
    match ← peek with
    | some 'e' | some 'E' => return (after, ← exponent)
    | _ => return (after, 0)
  | _ => return ([], ← exponent)

def finiteFloat : Reader Unit := do
  let negative ← sign
  let before ← decimal
  let (after, exponent) ← fractionAndExponent
  if !negative && overflows (before ++ after) (exponent - after.length) then failure

def specialFloat : Reader Unit := do
  let _ ← sign
  word ['i', 'n', 'f'] <|> word ['n', 'a', 'n']

def float : Reader Unit := finiteFloat <|> specialFloat

end BaseStation.Toml
