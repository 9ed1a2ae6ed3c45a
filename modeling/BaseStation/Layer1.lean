import BaseStation.Primitive
import BaseStation.Lchan.Averaging
import BaseStation.Lchan.SacchPeriod

namespace BaseStation

structure Layer1 where
  channels : List LogicalChannel
  deriving DecidableEq, Repr

namespace Layer1

def empty : Layer1 := ⟨[]⟩

def get? (layer1 : Layer1) (chan : ChannelAddress) : Option LogicalChannel :=
  layer1.channels.find? (·.chan == chan)

def isActive (layer1 : Layer1) (chan : ChannelAddress) : Bool := (layer1.get? chan).isSome

def erase (layer1 : Layer1) (chan : ChannelAddress) : Layer1 :=
  ⟨layer1.channels.filter (·.chan != chan)⟩

def insert (layer1 : Layer1) (lchan : LogicalChannel) : Layer1 :=
  ⟨lchan :: (layer1.erase lchan.chan).channels⟩

def modify (layer1 : Layer1) (chan : ChannelAddress) (f : LogicalChannel → LogicalChannel) : Layer1 :=
  ⟨layer1.channels.map fun lchan => if lchan.chan = chan then f lchan else lchan⟩

def activate (layer1 : Layer1) (activation : Lchan.Activation) : Layer1 :=
  layer1.insert (.ofActivation activation)

def release (layer1 : Layer1) (time : FrameTime) (chan : ChannelAddress) : Layer1 × List Message :=
  if layer1.isActive chan then (layer1.erase chan, [.ofPrimitive time (.deactivate chan)]) else (layer1, [])

/-- The active channels on a timeslot, by sub-slot. -/
def onTimeslot (layer1 : Layer1) (trx ts : Nat) : List ChannelAddress :=
  ((layer1.channels.map (·.chan)).filter fun chan => chan.trx == trx && chan.ts == ts).mergeSort
    fun a b => a.ss ≤ b.ss

def releaseTimeslot (layer1 : Layer1) (time : FrameTime) (trx ts : Nat) : Layer1 × List Message :=
  let chans := layer1.onTimeslot trx ts
  (chans.foldl erase layer1, chans.map fun chan => .ofPrimitive time (.deactivate chan))

def measure (layer1 : Layer1) (chan : ChannelAddress) (frame : Nat) (sample : Lchan.Sample) :
    Except Lchan.MeasurementError (Bool × Layer1) :=
  match layer1.get? chan with
  | none => .error .notActive
  | some lchan =>
    let (completed, lchan) := lchan.process sample frame
    .ok (completed, layer1.modify chan fun _ => lchan)

/-- Takes a SACCH block. The report goes to the BSC, changed parameters go to the PHY. -/
def sacchBlock (layer1 : Layer1) (config : SiteConfig) (time : FrameTime) (chan : ChannelAddress)
    (block : Option (List UInt8)) : Layer1 × List Message :=
  match layer1.get? chan with
  | none => (layer1, [])
  | some lchan =>
    let (result, change, lchan) := lchan.handleSacch config block
    (layer1.modify chan fun _ => lchan,
      .ofPrimitive time (.measurementResult result) ::
        change.toList.map fun params => .ofPrimitive time (.setParams chan params))

def receive (layer1 : Layer1) (config : SiteConfig) (message : Message) : Layer1 × List Message :=
  match message.primitive with
  | .measurement chan frame sample =>
    match layer1.measure chan frame sample with
    | .ok (_, layer1) => (layer1, [])
    | .error _ => (layer1, [])
  | .sacchBlock chan _ block => layer1.sacchBlock config message.created chan block
  | .downlinkDtx chan => (layer1.modify chan fun lchan => { lchan with downlinkDtx := true }, [])
  | .activate activation => (layer1.activate activation, [])
  | .release chan => layer1.release message.created chan
  | .releaseTimeslot trx ts => layer1.releaseTimeslot message.created trx ts
  | _ => (layer1, [])

end Layer1

end BaseStation
