import BaseStation.Radio.Channel
import BaseStation.Sacch.Block

namespace BaseStation.Lchan

structure Sample where
  /-- Bit error rate in steps of 0.01%. -/
  errorRate : UInt16
  /-- Received level in -dBm. -/
  attenuation : UInt8
  /-- Carrier to interference ratio in centibel. -/
  interference : Int16
  /-- In 1/256 bit. -/
  timingOffset : Int16
  /-- One of the blocks that are sent even under discontinuous transmission. -/
  isSub : Bool
  deriving DecidableEq, Repr

/-- Stands for a lost block: all bits wrong, at the noise floor. -/
def Sample.lost : Sample := ⟨10000, 109, 0, 0, false⟩

structure Reception where
  level : Nat
  quality : Nat
  deriving DecidableEq, Repr

structure UplinkResult where
  full : Reception
  sub : Reception
  deriving DecidableEq, Repr

def UplinkResult.zero : UplinkResult := ⟨⟨0, 0⟩, ⟨0, 0⟩⟩

structure OffsetStatistics where
  min : Int
  max : Int
  mean : Int
  deviation : Nat
  deriving DecidableEq, Repr

def OffsetStatistics.zero : OffsetStatistics := ⟨0, 0, 0, 0⟩

inductive MeasurementError
  | bufferFull
  | notActive
  deriving DecidableEq, Repr

namespace MeasurementError

def name : MeasurementError → String
  | bufferFull => "BufferFull"
  | notActive => "ChannelNotActive"

def message : MeasurementError → String
  | bufferFull => "no space for uplink measurement"
  | notActive => "logical channel not active"

end MeasurementError

structure RepeatGrant where
  commands : Bool
  allFrames : Bool
  /-- Quality class from which blocks are repeated; 0 repeats always. -/
  threshold : UInt8
  deriving DecidableEq, Repr

def RepeatGrant.none : RepeatGrant := ⟨false, false, 0⟩

structure OverpowerGrant where
  decibel : UInt8
  threshold : UInt8
  deriving DecidableEq, Repr

def OverpowerGrant.none : OverpowerGrant := ⟨0, 0⟩

structure Activation where
  chan : ChannelAddress
  pchan : Pchan
  type : LchanType
  mode : TrafficMode
  msLevel : UInt8
  /-- The level of highest power allowed; the level is fixed if absent. -/
  msMax : Option UInt8
  /-- Power reduction of the base station in dB. -/
  bsReduction : UInt8
  bsMax : Option UInt8
  timingAdvance : UInt8
  repeats : RepeatGrant
  overpower : OverpowerGrant
  deriving DecidableEq, Repr

structure TransmitParams where
  bsReduction : Nat
  msLevel : Nat
  timingAdvance : Nat
  repeatFacch : Bool
  overpower : Bool
  deriving DecidableEq, Repr

structure MeasurementResult where
  chan : ChannelAddress
  number : Nat
  uplink : UplinkResult
  bsReduction : Nat
  header : Option Sacch.Header
  layer3 : Option (List UInt8)
  timingOffset : Option Int
  statistics : Option OffsetStatistics
  deriving DecidableEq, Repr

end BaseStation.Lchan
