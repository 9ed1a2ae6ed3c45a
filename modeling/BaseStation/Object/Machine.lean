import BaseStation.Object.Id
import BaseStation.Object.Event

namespace BaseStation

inductive Phase
  | notInstalled
  | dependency
  | offline
  | enabled
  deriving DecidableEq, Repr

namespace Phase

def all : List Phase := [notInstalled, dependency, offline, enabled]

def label : Phase → String
  | notInstalled => "NotInstalled"
  | dependency => "Dependency"
  | offline => "Offline"
  | enabled => "Enabled"

def name : Phase → String
  | notInstalled => "DISABLED_NOTINSTALLED"
  | dependency => "DISABLED_DEPENDENCY"
  | offline => "DISABLED_OFFLINE"
  | enabled => "ENABLED"

def bit (phase : Phase) : Nat := 1 <<< all.idxOf phase

instance : Named Phase := ⟨all, label⟩

end Phase

/-- What a class accepts in one phase, and where it may go from there. -/
structure Row where
  events : List EventKind
  next : List Phase
  deriving DecidableEq, Repr

namespace Machine

/-- Accepted by every class in every phase. -/
def always : List EventKind := [.shutdownStart, .shutdownFinish]

def transceiverRow? : Phase → Option Row
  | .notInstalled =>
    some ⟨[.swAct, .omlUp, .rslUp, .rslDown, .phyLinkUp, .phyLinkDown, .disable],
      [.notInstalled, .offline]⟩
  | .dependency => none
  | .offline =>
    some ⟨[.omlUp, .rxSetAttr, .rxOpstart, .opstartAck, .opstartNack, .rslUp, .rslDown, .phyLinkUp,
      .phyLinkDown, .disable], [.notInstalled, .enabled]⟩
  | .enabled => some ⟨[.rslDown, .phyLinkDown, .disable], [.notInstalled, .offline]⟩

def row? : ObjectClass → Phase → Option Row
  | .siteManager, .notInstalled => some ⟨[.omlUp], [.notInstalled, .offline]⟩
  | .siteManager, .dependency => none
  | .siteManager, .offline =>
    some ⟨[.rxSetAttr, .rxOpstart, .opstartAck, .opstartNack], [.notInstalled, .enabled]⟩
  | .siteManager, .enabled => some ⟨[], [.notInstalled]⟩
  | .gprsNse, .notInstalled =>
    some ⟨[.omlUp, .btsEnabled, .btsDisabled], [.notInstalled, .dependency, .offline]⟩
  | .gprsNse, .dependency =>
    some ⟨[.omlUp, .rxSetAttr, .btsEnabled, .btsDisabled], [.notInstalled, .offline]⟩
  | .gprsNse, .offline =>
    some ⟨[.omlUp, .rxSetAttr, .rxOpstart, .opstartAck, .opstartNack, .btsEnabled, .btsDisabled],
      [.notInstalled, .enabled, .dependency]⟩
  | .gprsNse, .enabled => some ⟨[.btsEnabled, .btsDisabled], [.notInstalled, .dependency]⟩
  | .bts, .notInstalled => some ⟨[.omlUp], [.notInstalled, .offline]⟩
  | .bts, .dependency => none
  | .bts, .offline =>
    some ⟨[.omlUp, .rxSetAttr, .rxOpstart, .opstartAck, .opstartNack], [.notInstalled, .enabled]⟩
  | .bts, .enabled => some ⟨[], [.notInstalled]⟩
  | .radioCarrier, phase => transceiverRow? phase
  | .basebandTransceiver, phase => transceiverRow? phase
  | .channel, .notInstalled => some ⟨[.swAct, .omlUp], [.notInstalled, .offline, .dependency]⟩
  | .channel, .dependency =>
    -- a start is taken here from a BSC that does not wait for the channel to go offline
    some ⟨[.omlUp, .rxSetAttr, .rxOpstart, .opstartAck, .opstartNack, .bbTranscEnabled,
      .rcarrierEnabled, .bbTranscDisabled, .rcarrierDisabled], [.notInstalled, .offline, .enabled]⟩
  | .channel, .offline =>
    some ⟨[.omlUp, .rxSetAttr, .rxOpstart, .opstartAck, .opstartNack, .bbTranscDisabled,
      .rcarrierDisabled], [.notInstalled, .enabled, .dependency]⟩
  | .channel, .enabled =>
    some ⟨[.bbTranscDisabled, .rcarrierDisabled, .disable], [.notInstalled, .offline, .dependency]⟩

def accepts (cls : ObjectClass) (phase : Phase) (kind : EventKind) : Bool :=
  always.contains kind || ((row? cls phase).any fun row => row.events.contains kind)

def mayMove (cls : ObjectClass) (source target : Phase) : Bool :=
  (row? cls target).isSome && ((row? cls source).any fun row => row.next.contains target)

end Machine

end BaseStation
