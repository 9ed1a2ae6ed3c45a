import BaseStation.Object.Attributes

namespace BaseStation

inductive EventKind
  | swAct
  | omlUp
  | rxSetAttr
  | rxOpstart
  | opstartAck
  | opstartNack
  | shutdownStart
  | shutdownFinish
  | rslUp
  | rslDown
  | phyLinkUp
  | phyLinkDown
  | disable
  | bbTranscEnabled
  | bbTranscDisabled
  | rcarrierEnabled
  | rcarrierDisabled
  | btsEnabled
  | btsDisabled
  deriving DecidableEq, Repr

namespace EventKind

def all : List EventKind :=
  [swAct, omlUp, rxSetAttr, rxOpstart, opstartAck, opstartNack, shutdownStart, shutdownFinish, rslUp,
    rslDown, phyLinkUp, phyLinkDown, disable, bbTranscEnabled, bbTranscDisabled, rcarrierEnabled,
    rcarrierDisabled, btsEnabled, btsDisabled]

def name : EventKind → String
  | swAct => "SwAct"
  | omlUp => "OmlUp"
  | rxSetAttr => "RxSetAttr"
  | rxOpstart => "RxOpstart"
  | opstartAck => "OpstartAck"
  | opstartNack => "OpstartNack"
  | shutdownStart => "ShutdownStart"
  | shutdownFinish => "ShutdownFinish"
  | rslUp => "RslUp"
  | rslDown => "RslDown"
  | phyLinkUp => "PhyLinkUp"
  | phyLinkDown => "PhyLinkDown"
  | disable => "Disable"
  | bbTranscEnabled => "BbTranscEnabled"
  | bbTranscDisabled => "BbTranscDisabled"
  | rcarrierEnabled => "RcarrierEnabled"
  | rcarrierDisabled => "RcarrierDisabled"
  | btsEnabled => "BtsEnabled"
  | btsDisabled => "BtsDisabled"

/-- The kind's bit in an event mask. -/
def bit (kind : EventKind) : Nat := 1 <<< all.idxOf kind

instance : Named EventKind := ⟨all, name⟩

end EventKind

inductive Event
  | swAct
  | omlUp
  | rxSetAttr (attributes : Attributes)
  | rxOpstart
  | opstartAck
  | opstartNack (cause : NackCause)
  | shutdownStart
  | shutdownFinish
  | rslUp
  | rslDown
  | phyLinkUp
  | phyLinkDown
  | disable
  | bbTranscEnabled
  | bbTranscDisabled
  | rcarrierEnabled
  | rcarrierDisabled
  | btsEnabled
  | btsDisabled
  deriving DecidableEq, Repr

namespace Event

def kind : Event → EventKind
  | swAct => .swAct
  | omlUp => .omlUp
  | rxSetAttr _ => .rxSetAttr
  | rxOpstart => .rxOpstart
  | opstartAck => .opstartAck
  | opstartNack _ => .opstartNack
  | shutdownStart => .shutdownStart
  | shutdownFinish => .shutdownFinish
  | rslUp => .rslUp
  | rslDown => .rslDown
  | phyLinkUp => .phyLinkUp
  | phyLinkDown => .phyLinkDown
  | disable => .disable
  | bbTranscEnabled => .bbTranscEnabled
  | bbTranscDisabled => .bbTranscDisabled
  | rcarrierEnabled => .rcarrierEnabled
  | rcarrierDisabled => .rcarrierDisabled
  | btsEnabled => .btsEnabled
  | btsDisabled => .btsDisabled

def ofKind? : EventKind → Option Event
  | .swAct => some swAct
  | .omlUp => some omlUp
  | .rxSetAttr => none
  | .rxOpstart => some rxOpstart
  | .opstartAck => some opstartAck
  | .opstartNack => none
  | .shutdownStart => some shutdownStart
  | .shutdownFinish => some shutdownFinish
  | .rslUp => some rslUp
  | .rslDown => some rslDown
  | .phyLinkUp => some phyLinkUp
  | .phyLinkDown => some phyLinkDown
  | .disable => some disable
  | .bbTranscEnabled => some bbTranscEnabled
  | .bbTranscDisabled => some bbTranscDisabled
  | .rcarrierEnabled => some rcarrierEnabled
  | .rcarrierDisabled => some rcarrierDisabled
  | .btsEnabled => some btsEnabled
  | .btsDisabled => some btsDisabled

theorem kind_of_ofKind? {kind : EventKind} {event : Event} (h : ofKind? kind = some event) :
    event.kind = kind := by
  cases kind <;> simp_all [ofKind?] <;> subst h <;> rfl

end Event

end BaseStation
