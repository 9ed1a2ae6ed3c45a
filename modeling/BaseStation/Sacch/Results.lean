import BaseStation.Sacch.Header

namespace BaseStation.Sacch

structure Results where
  neighbourList : Bool
  dtxUsed : Bool
  levelFull : UInt8
  /-- Inverted on the air. -/
  valid : Bool
  levelSub : UInt8
  qualityFull : UInt8
  qualitySub : UInt8
  deriving DecidableEq, Repr

namespace Results

open Header (bit)

def ofOctets (first second third : UInt8) : Results where
  neighbourList := first.toNat / 128 % 2 = 1
  dtxUsed := first.toNat / 64 % 2 = 1
  levelFull := UInt8.ofNat (first.toNat % 64)
  valid := second.toNat / 64 % 2 = 0
  levelSub := UInt8.ofNat (second.toNat % 64)
  qualityFull := UInt8.ofNat (third.toNat / 16 % 8)
  qualitySub := UInt8.ofNat (third.toNat / 2 % 8)

def decode : List UInt8 → Except DecodeError Results
  | [] => .error (.ended (some "b0"))
  | [_] => .error (.ended (some "b1"))
  | [_, _] => .error (.ended (some "b2"))
  | first :: second :: third :: _ => .ok (ofOctets first second third)

def encode (results : Results) : List UInt8 :=
  [UInt8.ofNat (results.levelFull.toNat % 64 + bit 64 results.dtxUsed
      + bit 128 results.neighbourList),
    UInt8.ofNat (results.levelSub.toNat % 64 + bit 64 (!results.valid)),
    UInt8.ofNat (results.qualityFull.toNat % 8 * 16 + results.qualitySub.toNat % 8 * 2)]

def summary (results : Results) : String :=
  "MeasResults \x7b valid: " ++ Text.ofBool results.valid
    ++ " dtx: " ++ Text.ofBool results.dtxUsed
    ++ " full: " ++ toString results.levelFull.toNat ++ "/" ++ toString results.qualityFull.toNat
    ++ " sub: " ++ toString results.levelSub.toNat ++ "/" ++ toString results.qualitySub.toNat
    ++ " \x7d"

def text (results : Results) : String :=
  "MeasResults \x7b ba_used: " ++ Text.ofBool results.neighbourList
    ++ ", dtx_used: " ++ Text.ofBool results.dtxUsed
    ++ ", rxlev_full: " ++ toString results.levelFull.toNat
    ++ ", meas_valid: " ++ Text.ofBool results.valid
    ++ ", rxlev_sub: " ++ toString results.levelSub.toNat
    ++ ", rxqual_full: " ++ toString results.qualityFull.toNat
    ++ ", rxqual_sub: " ++ toString results.qualitySub.toNat ++ " \x7d"

end Results

end BaseStation.Sacch
