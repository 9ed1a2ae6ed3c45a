import BaseStation.Fault

namespace BaseStation.Machine

def requireRow (cls : ObjectClass) (phase : Phase) : Except Fault Row :=
  match row? cls phase with
  | some row => .ok row
  | none => .error (.noSuchPhase cls phase)

def requireEvent (cls : ObjectClass) (id : ObjectId) (phase : Phase) (kind : EventKind) :
    Except Fault Unit :=
  if accepts cls phase kind then .ok () else .error (.eventRefused cls id kind phase)

def requireMove (cls : ObjectClass) (id : ObjectId) (source target : Phase) : Except Fault Unit :=
  if mayMove cls source target then .ok () else .error (.moveRefused cls id source target)

def acceptedKinds (row : Row) : List EventKind :=
  EventKind.all.filter fun kind => always.contains kind || row.events.contains kind

def nextPhases (row : Row) : List Phase := Phase.all.filter row.next.contains

end BaseStation.Machine
