namespace BaseStation.Radio

def dbmOfLevel (rxlev : Nat) : Int := min rxlev 63 - 110

def levelOfDbm (dbm : Int) : Nat := (max 0 (min (dbm + 110) 63)).toNat

/-- The quality class of a bit error rate in steps of 0.01%: each class but the first two covers
twice the rates of the one before it. -/
def qualityClass (errorRate : Nat) : Nat :=
  if errorRate < 20 then 0
  else if errorRate < 40 then 1
  else if errorRate < 80 then 2
  else if errorRate < 160 then 3
  else if errorRate < 320 then 4
  else if errorRate < 640 then 5
  else if errorRate < 1280 then 6
  else 7

end BaseStation.Radio
