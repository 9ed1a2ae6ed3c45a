import BaseStation.Text.Named

namespace BaseStation

inductive Band
  | gsm850
  | gsm900
  | dcs1800
  | pcs1900
  deriving DecidableEq, Repr

namespace Band

def all : List Band := [gsm850, gsm900, dcs1800, pcs1900]

def name : Band → String
  | gsm850 => "Gsm850"
  | gsm900 => "Gsm900"
  | dcs1800 => "Dcs1800"
  | pcs1900 => "Pcs1900"

/-- Output power in dBm at a power control level; reserved levels stand for the lowest power. -/
def power (band : Band) (level : Nat) : Int :=
  match band with
  | gsm850 | gsm900 =>
    if level ≤ 2 then 39 else if level ≤ 19 then 43 - 2 * level else 5
  | dcs1800 =>
    if level ≤ 15 then 30 - 2 * level
    else if level = 29 then 36
    else if level = 30 then 34
    else if level = 31 then 32
    else 0
  | pcs1900 =>
    if level ≤ 15 then 30 - 2 * level
    else if level = 30 then 33
    else if level = 31 then 32
    else 0

/-- The level whose power comes closest to `dbm` from below. -/
def level (band : Band) (dbm : Int) : Nat :=
  match band with
  | gsm850 | gsm900 =>
    if dbm ≥ 39 then 2 else if dbm < 5 then 19 else (2 + (39 - dbm + 1) / 2).toNat
  | dcs1800 =>
    if dbm ≥ 36 then 29
    else if dbm ≥ 34 then 30
    else if dbm ≥ 32 then 31
    else if dbm < 0 then 15
    else ((30 - dbm + 1) / 2).toNat
  | pcs1900 =>
    if dbm ≥ 33 then 30
    else if dbm ≥ 32 then 31
    else if dbm < 0 then 15
    else ((30 - dbm + 1) / 2).toNat

instance : Named Band := ⟨all, name⟩

end Band

end BaseStation
