import BaseStation.Frame.Time
import BaseStation.Lchan.Sample
import BaseStation.Object.Report

namespace BaseStation

inductive LinkControl
  | phyLinkUp (trx : Nat)
  | phyLinkDown (trx : Nat)
  | omlLinkUp
  | rslLinkUp (trx : Nat)
  | abisLinkFailed
  deriving DecidableEq, Repr

namespace LinkControl

def name : LinkControl → String
  | phyLinkUp _ => "PhyLinkUp"
  | phyLinkDown _ => "PhyLinkDown"
  | omlLinkUp => "OmlLinkUp"
  | rslLinkUp _ => "RslLinkUp"
  | abisLinkFailed => "AbisLinkFailed"

def trx? : LinkControl → Option Nat
  | phyLinkUp trx | phyLinkDown trx | rslLinkUp trx => some trx
  | omlLinkUp | abisLinkFailed => none

def text (control : LinkControl) : String :=
  match control.trx? with
  | some trx => control.name ++ " \x7b trx: " ++ toString trx ++ " \x7d"
  | none => control.name

def all (trx : Nat) : List LinkControl :=
  [phyLinkUp trx, phyLinkDown trx, omlLinkUp, rslLinkUp trx, abisLinkFailed]

def ofName? (name : String) (trx : Nat) : Option LinkControl :=
  (all trx).find? (·.name == name)

theorem ofName?_name (control : LinkControl) :
    ofName? control.name (control.trx?.getD 0) = some control := by
  cases control <;> simp [ofName?, all, name, trx?]

end LinkControl

inductive Primitive
  | measurement (chan : ChannelAddress) (frame : Nat) (sample : Lchan.Sample)
  | sacchBlock (chan : ChannelAddress) (frame : Nat) (block : Option (List UInt8))
  | downlinkDtx (chan : ChannelAddress)
  | setParams (chan : ChannelAddress) (params : Lchan.TransmitParams)
  | deactivate (chan : ChannelAddress)
  | activate (activation : Lchan.Activation)
  | release (chan : ChannelAddress)
  | measurementResult (result : Lchan.MeasurementResult)
  | report (report : Report)
  | request (request : Request)
  | link (control : LinkControl)
  | releaseTimeslot (trx ts : Nat)
  deriving DecidableEq, Repr

def Primitive.name : Primitive → String
  | measurement _ _ _ => "PhMeasInd"
  | sacchBlock _ _ _ => "PhSacchInd"
  | downlinkDtx _ => "PhDtxDlInd"
  | setParams _ _ => "MphParamChangeReq"
  | deactivate _ => "MphDeactivateReq"
  | activate _ => "RslChanActiv"
  | release _ => "RslRfChanRel"
  | measurementResult _ => "RslMeasRes"
  | report (.stateChanged _ _) => "OmlStateChgEvRep"
  | report (.softwareActivated _) => "OmlSwActivatedRep"
  | report (.ack _ _) => "OmlAck"
  | report (.nack _ _ _) => "OmlNack"
  | request (.setAttributes _ _) => "OmlSetAttrReq"
  | request (.start _) => "OmlOpstartReq"
  | request (.changeAdmin _ _) => "OmlChgAdmStateReq"
  | link control => "LinkControl(" ++ control.text ++ ")"
  | releaseTimeslot _ _ => "TsReleaseReq"

inductive Sap
  | ph
  | mph
  | rsl
  | oml
  | control
  deriving DecidableEq, Repr

namespace Sap

def all : List Sap := [ph, mph, rsl, oml, control]

def name : Sap → String
  | ph => "PhSap"
  | mph => "MphSap"
  | rsl => "RslSap"
  | oml => "OmlSap"
  | control => "Control"

instance : Named Sap := ⟨all, name⟩

end Sap

inductive Entity
  | phy
  | layer1
  | oml
  | abis
  deriving DecidableEq, Repr

namespace Entity

def all : List Entity := [phy, layer1, oml, abis]

def name : Entity → String
  | phy => "Phy"
  | layer1 => "L1sap"
  | oml => "Oml"
  | abis => "Abis"

instance : Named Entity := ⟨all, name⟩

end Entity

/-- The way a primitive takes: service access point, sender and receiver. -/
def Primitive.route : Primitive → Sap × Entity × Entity
  | measurement _ _ _ | sacchBlock _ _ _ | downlinkDtx _ => (.ph, .phy, .layer1)
  | setParams _ _ | deactivate _ => (.mph, .layer1, .phy)
  | activate _ | release _ => (.rsl, .abis, .layer1)
  | measurementResult _ => (.rsl, .layer1, .abis)
  | report _ => (.oml, .oml, .abis)
  | request _ => (.oml, .abis, .oml)
  | link (.phyLinkUp _) | link (.phyLinkDown _) => (.control, .phy, .oml)
  | link _ => (.control, .abis, .oml)
  | releaseTimeslot _ _ => (.control, .oml, .layer1)

structure Message where
  sap : Sap
  source : Entity
  dest : Entity
  created : FrameTime
  primitive : Primitive
  deriving DecidableEq, Repr

def Message.ofPrimitive (time : FrameTime) (primitive : Primitive) : Message :=
  let (sap, source, dest) := primitive.route
  ⟨sap, source, dest, time, primitive⟩

end BaseStation
