import BaseStation.Config.Basic
import BaseStation.Primitive

namespace BaseStation

structure Phy where
  linksReported : Bool
  /-- Parameters last told, for each channel not deactivated since. -/
  params : List (ChannelAddress × Lchan.TransmitParams)
  deactivated : Nat
  deriving DecidableEq, Repr

namespace Phy

def fresh : Phy := ⟨false, [], 0⟩

def params? (phy : Phy) (chan : ChannelAddress) : Option Lchan.TransmitParams :=
  phy.params.lookup chan

def eraseParams (phy : Phy) (chan : ChannelAddress) : Phy :=
  { phy with params := phy.params.filter fun entry => entry.1 ≠ chan }

def setParams (phy : Phy) (chan : ChannelAddress) (params : Lchan.TransmitParams) : Phy :=
  { phy with params := (chan, params) :: (phy.eraseParams chan).params }

def deactivate (phy : Phy) (chan : ChannelAddress) : Phy :=
  { phy.eraseParams chan with deactivated := phy.deactivated + 1 }

def receive (phy : Phy) (message : Message) : Phy :=
  match message.primitive with
  | .setParams chan params => phy.setParams chan params
  | .deactivate chan => phy.deactivate chan
  | _ => phy

/-- On the first frame, reports every transceiver of the site. -/
def startFrame (phy : Phy) (config : SiteConfig) (time : FrameTime) : Phy × List Message :=
  if phy.linksReported then (phy, [])
  else ({ phy with linksReported := true },
    (List.range config.bts.numTrx.toNat).map fun trx =>
      .ofPrimitive time (.link (.phyLinkUp trx)))

theorem params?_eraseParams_self (phy : Phy) (chan : ChannelAddress) :
    (phy.eraseParams chan).params? chan = none := by
  simp only [params?, eraseParams, List.lookup_eq_none_iff, List.mem_filter]
  rintro entry ⟨_, away⟩
  have away : entry.1 ≠ chan := by simpa using away
  simpa using away.symm

theorem params?_eraseParams_of_ne (phy : Phy) {chan other : ChannelAddress} (ne : chan ≠ other) :
    (phy.eraseParams chan).params? other = phy.params? other := by
  show (phy.params.filter _).lookup other = phy.params.lookup other
  induction phy.params with
  | nil => rfl
  | cons entry rest ih =>
    obtain ⟨key, params⟩ := entry
    by_cases same : key = chan
    · have away : (other == key) = false := by simpa [same] using Ne.symm ne
      rw [List.filter_cons_of_neg (by simp [same]), ih, List.lookup_cons, away]
    · rw [List.filter_cons_of_pos (by simp [same]), List.lookup_cons, List.lookup_cons, ih]

theorem params?_setParams_self (phy : Phy) (chan : ChannelAddress) (params : Lchan.TransmitParams) :
    (phy.setParams chan params).params? chan = some params := by
  simp [params?, setParams]

theorem params?_setParams_of_ne (phy : Phy) {chan other : ChannelAddress}
    (params : Lchan.TransmitParams) (ne : chan ≠ other) :
    (phy.setParams chan params).params? other = phy.params? other := by
  have away : (other == chan) = false := by simpa using Ne.symm ne
  have := params?_eraseParams_of_ne phy ne
  simpa [params?, setParams, List.lookup_cons, away] using this

end Phy

end BaseStation
