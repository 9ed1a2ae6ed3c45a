import BaseStation.Lchan.Sample

namespace BaseStation

namespace Lchan

/-- Power control in one direction. For the mobile station `current` and `max` are power control
levels, for the base station they are reductions in dB. -/
structure PowerControl where
  current : Nat
  max : Nat
  fixed : Bool
  average : Option Int
  deriving DecidableEq, Repr

namespace PowerControl

def granted (current max : Nat) : PowerControl := ⟨current, max, false, none⟩

def constant (current : Nat) : PowerControl := ⟨current, current, true, none⟩

def ofGrant (current : UInt8) (max : Option UInt8) : PowerControl :=
  match max with
  | some max => granted current.toNat max.toNat
  | none => constant current.toNat

end PowerControl

structure AdvanceControl where
  current : Nat
  skip : Nat
  deriving DecidableEq, Repr

def maxAdvance : Nat := 63

structure Measurement where
  samples : List Sample
  lastFrame : Option Nat
  uplink : UplinkResult
  resultValid : Bool
  /-- The statistics are of a period since the last SACCH block. -/
  statisticsValid : Bool
  /-- The header is of the last SACCH block. -/
  headerValid : Bool
  /-- Mean timing offset in 1/256 bit. -/
  timingOffset : Int
  interferenceFull : Int
  interferenceSub : Int
  statistics : OffsetStatistics
  header : Sacch.Header
  number : Nat
  computedFrame : Option Nat
  deriving DecidableEq, Repr

def Measurement.fresh : Measurement where
  samples := []
  lastFrame := none
  uplink := .zero
  resultValid := false
  statisticsValid := false
  headerValid := false
  timingOffset := 0
  interferenceFull := 0
  interferenceSub := 0
  statistics := .zero
  header := .zero
  number := 0
  computedFrame := none

end Lchan

open Lchan

structure LogicalChannel where
  chan : ChannelAddress
  pchan : Pchan
  type : LchanType
  mode : TrafficMode
  measurement : Measurement
  msPower : PowerControl
  bsPower : PowerControl
  advance : AdvanceControl
  repeats : RepeatGrant
  repeatFacch : Bool
  overpower : OverpowerGrant
  overpowerActive : Bool
  downlinkDtx : Bool
  /-- Offset of the mobile station, if an access burst told it. -/
  msOffset : Option Int
  propagationOffset : Option Int
  deriving DecidableEq, Repr

namespace LogicalChannel

def fresh (chan : ChannelAddress) (pchan : Pchan) (type : LchanType) (mode : TrafficMode) :
    LogicalChannel where
  chan := chan
  pchan := pchan
  type := type
  mode := mode
  measurement := .fresh
  msPower := .constant 0
  bsPower := .constant 0
  advance := ⟨0, 0⟩
  repeats := .none
  repeatFacch := false
  overpower := .none
  overpowerActive := false
  downlinkDtx := false
  msOffset := none
  propagationOffset := none

/-- The channel the BSC asked for. Overpower granted without a threshold is always on. -/
def ofActivation (activation : Activation) : LogicalChannel :=
  { fresh activation.chan activation.pchan activation.type activation.mode with
    msPower := .ofGrant activation.msLevel activation.msMax
    bsPower := .ofGrant activation.bsReduction activation.bsMax
    advance := ⟨min activation.timingAdvance.toNat maxAdvance, 0⟩
    repeats := activation.repeats
    overpower := activation.overpower
    overpowerActive := 0 < activation.overpower.decibel && activation.overpower.threshold = 0 }

def isAmr (lchan : LogicalChannel) : Bool := lchan.mode == .speechAmr

def setOffsets (lchan : LogicalChannel) (ms propagation : Option Int) : LogicalChannel :=
  { lchan with msOffset := ms, propagationOffset := propagation }

/-- The timing offset to report: that of the mobile station, else that of propagation less the timing
advance in use. A negative offset is none. -/
def timingOffset? (lchan : LogicalChannel) (advance : Nat) : Option Int :=
  match lchan.msOffset.filter (0 ≤ ·), lchan.propagationOffset.filter (0 ≤ ·) with
  | some offset, _ => some offset
  | none, some offset => some (offset - advance)
  | none, none => none

def transmitParams (lchan : LogicalChannel) : TransmitParams where
  bsReduction := lchan.bsPower.current
  msLevel := lchan.msPower.current
  timingAdvance := lchan.advance.current
  repeatFacch := lchan.repeatFacch
  overpower := lchan.overpowerActive

def resetMeasurement (lchan : LogicalChannel) : LogicalChannel :=
  { lchan with measurement := .fresh }

end LogicalChannel

end BaseStation
