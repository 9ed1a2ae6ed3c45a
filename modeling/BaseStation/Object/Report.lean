import BaseStation.Object.Id
import BaseStation.Object.State
import BaseStation.Object.Attributes

namespace BaseStation

inductive Procedure
  | setAttr
  | opstart
  | chgAdmState
  deriving DecidableEq, Repr

namespace Procedure

def all : List Procedure := [setAttr, opstart, chgAdmState]

def name : Procedure → String
  | setAttr => "SetAttr"
  | opstart => "Opstart"
  | chgAdmState => "ChgAdmState"

instance : Named Procedure := ⟨all, name⟩

end Procedure

inductive Report
  | stateChanged (id : ObjectId) (state : ObjectState)
  | softwareActivated (id : ObjectId)
  | ack (id : ObjectId) (procedure : Procedure)
  | nack (id : ObjectId) (procedure : Procedure) (cause : NackCause)
  deriving DecidableEq, Repr

def Report.id : Report → ObjectId
  | stateChanged id _ | softwareActivated id | ack id _ | nack id _ _ => id

inductive Request
  | setAttributes (id : ObjectId) (attributes : Attributes)
  | start (id : ObjectId)
  | changeAdmin (id : ObjectId) (admin : AdminState)
  deriving DecidableEq, Repr

namespace Request

def id : Request → ObjectId
  | setAttributes id _ | start id | changeAdmin id _ => id

def procedure : Request → Procedure
  | setAttributes _ _ => .setAttr
  | start _ => .opstart
  | changeAdmin _ _ => .chgAdmState

end Request

end BaseStation
