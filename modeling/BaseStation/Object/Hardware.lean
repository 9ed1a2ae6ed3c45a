import BaseStation.Object.Id
import BaseStation.Object.Event
import BaseStation.Object.State

namespace BaseStation

structure PendingEvent where
  id : ObjectId
  event : Event
  /-- Skip the event if the object does not accept it then. -/
  ifAccepted : Bool
  deriving DecidableEq, Repr

/-- Equipment accepts everything but what its tables of refusals name, and attributes that no
equipment could apply. -/
structure Hardware where
  numTrx : Nat
  refusedAttributes : List (ObjectId × NackCause)
  refusedStart : List (ObjectId × NackCause)
  refusedAdmin : List (ObjectId × NackCause)
  pchans : List (ObjectId × Pchan)
  released : Nat
  closed : Bool
  deriving DecidableEq, Repr

namespace Hardware

def fresh (numTrx : Nat) : Hardware := ⟨numTrx, [], [], [], [], 0, false⟩

def refuseAttributes (hardware : Hardware) (id : ObjectId) (cause : NackCause) : Hardware :=
  { hardware with refusedAttributes := (id, cause) :: hardware.refusedAttributes }

def refuseStart (hardware : Hardware) (id : ObjectId) (cause : NackCause) : Hardware :=
  { hardware with refusedStart := (id, cause) :: hardware.refusedStart }

def refuseAdmin (hardware : Hardware) (id : ObjectId) (cause : NackCause) : Hardware :=
  { hardware with refusedAdmin := (id, cause) :: hardware.refusedAdmin }

def pchan? (hardware : Hardware) (id : ObjectId) : Option Pchan := hardware.pchans.lookup id

def erasePchan (hardware : Hardware) (id : ObjectId) : Hardware :=
  { hardware with pchans := hardware.pchans.filter fun entry => entry.1 ≠ id }

def setPchan (hardware : Hardware) (id : ObjectId) (pchan : Pchan) : Hardware :=
  { hardware with pchans := (id, pchan) :: (hardware.erasePchan id).pchans }

/-- Software of every transceiver of a BTS reports active once the BTS has its attributes. -/
def activations (hardware : Hardware) (bts : Nat) : List PendingEvent :=
  (List.range hardware.numTrx).flatMap fun trx =>
    [⟨.radioCarrier bts trx, .swAct, true⟩, ⟨.basebandTransceiver bts trx, .swAct, true⟩]

/-- Applies attributes: the equipment afterwards and the events it raised, or the cause of a refusal,
which leaves the equipment as it was. -/
def applyAttributes (hardware : Hardware) (id : ObjectId) (attributes : Attributes) :
    Except NackCause (Hardware × List PendingEvent) :=
  match hardware.refusedAttributes.lookup id with
  | some cause => .error cause
  | none =>
    match id with
    | .bts bts => .ok (hardware, hardware.activations bts)
    | .channel _ _ _ =>
      if attributes.tsc.any (7 < ·) then .error .paramRange
      else match attributes.pchan with
        | none => .ok (hardware, [])
        | some .none => .error .resNotAvailable
        | some pchan => .ok (hardware.setPchan id pchan, [])
    | .radioCarrier _ _ =>
      if attributes.arfcn.any (1023 < ·) then .error .freqNotAvailable else .ok (hardware, [])
    | .siteManager | .gprsNse | .basebandTransceiver _ _ => .ok (hardware, [])

def start (hardware : Hardware) (id : ObjectId) : PendingEvent :=
  match hardware.refusedStart.lookup id with
  | some cause => ⟨id, .opstartNack cause, false⟩
  | none => ⟨id, .opstartAck, false⟩

def changeAdmin (hardware : Hardware) (id : ObjectId) (_ : AdminState) : Except NackCause Unit :=
  match hardware.refusedAdmin.lookup id with
  | some cause => .error cause
  | none => .ok ()

def releaseTimeslot (hardware : Hardware) (id : ObjectId) : Hardware :=
  { hardware.erasePchan id with released := hardware.released + 1 }

def close (hardware : Hardware) : Hardware := { hardware with closed := true }

theorem pchan?_erasePchan_self (hardware : Hardware) (id : ObjectId) :
    (hardware.erasePchan id).pchan? id = none := by
  simp only [pchan?, erasePchan, List.lookup_eq_none_iff, List.mem_filter]
  rintro entry ⟨_, away⟩
  have away : entry.1 ≠ id := by simpa using away
  simpa using away.symm

theorem pchan?_erasePchan_of_ne (hardware : Hardware) {id other : ObjectId} (ne : id ≠ other) :
    (hardware.erasePchan id).pchan? other = hardware.pchan? other := by
  show (hardware.pchans.filter _).lookup other = hardware.pchans.lookup other
  induction hardware.pchans with
  | nil => rfl
  | cons entry rest ih =>
    obtain ⟨key, pchan⟩ := entry
    by_cases same : key = id
    · have away : (other == key) = false := by simpa [same] using Ne.symm ne
      rw [List.filter_cons_of_neg (by simp [same]), ih, List.lookup_cons, away]
    · rw [List.filter_cons_of_pos (by simp [same]), List.lookup_cons, List.lookup_cons, ih]

theorem pchan?_setPchan_self (hardware : Hardware) (id : ObjectId) (pchan : Pchan) :
    (hardware.setPchan id pchan).pchan? id = some pchan := by
  simp [pchan?, setPchan]

theorem pchan?_setPchan_of_ne (hardware : Hardware) {id other : ObjectId} (pchan : Pchan)
    (ne : id ≠ other) : (hardware.setPchan id pchan).pchan? other = hardware.pchan? other := by
  have away : (other == id) = false := by simpa using Ne.symm ne
  have := pchan?_erasePchan_of_ne hardware ne
  simpa [pchan?, setPchan, List.lookup_cons, away] using this

end Hardware

end BaseStation
