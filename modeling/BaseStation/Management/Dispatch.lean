import BaseStation.Management.SiteManager
import BaseStation.Management.GprsNse
import BaseStation.Management.Bts
import BaseStation.Management.TransceiverObject
import BaseStation.Management.Channel

namespace BaseStation.Management

def handle (dispatch : Dispatcher) (id : ObjectId) (phase : Phase) (event : Event) : Step :=
  match id with
  | .siteManager => SiteManager.handle dispatch phase event
  | .gprsNse => GprsNse.handle dispatch phase event
  | .bts bts => Bts.handle dispatch bts phase event
  | .radioCarrier bts trx => RadioCarrier.handle dispatch bts trx phase event
  | .basebandTransceiver bts trx => BasebandTransceiver.handle dispatch bts trx phase event
  | .channel bts trx ts => Channel.handle dispatch bts trx ts phase event

def changePhaseWith (dispatch : Dispatcher) (id : ObjectId) (target : Phase) : Step :=
  match id with
  | .siteManager => SiteManager.changePhase target
  | .gprsNse => GprsNse.changePhase target
  | .bts bts => Bts.changePhase dispatch bts target
  | .radioCarrier bts trx => RadioCarrier.changePhase dispatch bts trx target
  | .basebandTransceiver bts trx => BasebandTransceiver.changePhase dispatch bts trx target
  | .channel bts trx ts => Channel.changePhase bts trx ts target

/-- Dispatch with at most `depth` events under way at a time. -/
def dispatchWithin : Nat → Dispatcher
  | 0, id, _, _ => .error (.nestingExceeded id)
  | depth + 1, id, event, site => do
    let object ← site.object id
    Machine.requireEvent id.objectClass id object.phase event.kind
    handle (dispatchWithin depth) id object.phase event (site.record (.dispatched id event.kind))

/-- Site manager, BTS, baseband transceiver, channel. -/
def nesting : Nat := 4

def dispatch : Dispatcher := dispatchWithin nesting

def changePhase : ObjectId → Phase → Step := changePhaseWith dispatch

/-- How many events may become of one that waits: a start is answered by one more, and the attributes
of a BTS wake its transceivers. -/
def pendingCost (numTrx : Nat) (event : Event) : Nat :=
  match event with
  | .rxOpstart => 2
  | .rxSetAttr _ => 1 + 2 * numTrx
  | _ => 1

section waiting

variable (dispatch : Dispatcher)

/-- Dispatches the event that waits longest; one for an object not in the tree is dropped. -/
def runNextWith (waiting : PendingEvent) : Step := fun site =>
  if !site.tree.contains waiting.id then .ok site
  else if waiting.ifAccepted then dispatchIfAccepted dispatch waiting.id waiting.event site
  else dispatch waiting.id waiting.event site

def runAtMostWith : Nat → Step
  | 0, site => .ok site
  | count + 1, site =>
    match site.pending with
    | [] => .ok site
    | waiting :: rest => do runAtMostWith count (← runNextWith dispatch waiting { site with pending := rest })

def runPendingWith : Step := fun site =>
  runAtMostWith dispatch (site.pending.foldl (fun count waiting =>
    count + pendingCost site.hardware.numTrx waiting.event) 0) site

end waiting

def runNext : PendingEvent → Step := runNextWith dispatch

def runAtMost : Nat → Step := runAtMostWith dispatch

def runPending : Step := runPendingWith dispatch

theorem runNext_eq (waiting : PendingEvent) (site : Site) : runNext waiting site =
    if !site.tree.contains waiting.id then .ok site
    else if waiting.ifAccepted then dispatchIfAccepted dispatch waiting.id waiting.event site
    else dispatch waiting.id waiting.event site := rfl

theorem runAtMost_succ (count : Nat) (site : Site) : runAtMost (count + 1) site =
    match site.pending with
    | [] => .ok site
    | waiting :: rest => (do runAtMost count (← runNext waiting { site with pending := rest })) := rfl

theorem runPending_eq_runAtMost (site : Site) : runPending site = runAtMost (site.pending.foldl (fun count waiting =>
    count + pendingCost site.hardware.numTrx waiting.event) 0) site := rfl

end BaseStation.Management
