import BaseStation.Text.Named

namespace BaseStation

inductive Pchan
  | none
  | ccch
  | ccchSdcch4
  | ccchSdcch4Cbch
  | sdcch8
  | sdcch8Cbch
  | tchF
  | tchH
  | pdch
  deriving DecidableEq, Repr

namespace Pchan

def all : List Pchan :=
  [none, ccch, ccchSdcch4, ccchSdcch4Cbch, sdcch8, sdcch8Cbch, tchF, tchH, pdch]

def name : Pchan → String
  | none => "None"
  | ccch => "Ccch"
  | ccchSdcch4 => "CcchSdcch4"
  | ccchSdcch4Cbch => "CcchSdcch4Cbch"
  | sdcch8 => "Sdcch8"
  | sdcch8Cbch => "Sdcch8Cbch"
  | tchF => "TchF"
  | tchH => "TchH"
  | pdch => "Pdch"

def period? : Pchan → Option Nat
  | tchF | tchH => some 104
  | sdcch8 | sdcch8Cbch | ccchSdcch4 | ccchSdcch4Cbch => some 102
  | none | ccch | pdch => Option.none

def subslots : Pchan → Nat
  | tchF => 1
  | tchH => 2
  | ccchSdcch4 | ccchSdcch4Cbch => 4
  | sdcch8 | sdcch8Cbch => 8
  | none | ccch | pdch => 0

instance : Named Pchan := ⟨all, name⟩

end Pchan

inductive LchanType
  | sdcch
  | tchF
  | tchH
  deriving DecidableEq, Repr

namespace LchanType

def all : List LchanType := [sdcch, tchF, tchH]

def name : LchanType → String
  | sdcch => "Sdcch"
  | tchF => "TchF"
  | tchH => "TchH"

def isTraffic : LchanType → Bool
  | sdcch => false
  | tchF | tchH => true

instance : Named LchanType := ⟨all, name⟩

end LchanType

inductive TrafficMode
  | signalling
  | speechV1
  | speechEfr
  | speechAmr
  | data
  deriving DecidableEq, Repr

namespace TrafficMode

def all : List TrafficMode := [signalling, speechV1, speechEfr, speechAmr, data]

def name : TrafficMode → String
  | signalling => "Signalling"
  | speechV1 => "SpeechV1"
  | speechEfr => "SpeechEfr"
  | speechAmr => "SpeechAmr"
  | data => "Data"

instance : Named TrafficMode := ⟨all, name⟩

end TrafficMode

structure ChannelAddress where
  trx : Nat
  ts : Nat
  ss : Nat
  deriving DecidableEq, Repr

def ChannelAddress.text (chan : ChannelAddress) : String :=
  "trx=" ++ toString chan.trx ++ " ts=" ++ toString chan.ts ++ " ss=" ++ toString chan.ss

end BaseStation
