import BaseStation.Lchan.Control

namespace BaseStation.LogicalChannel

open Lchan

/-- A block of the wrong length counts as lost. -/
def received (data : Option (List UInt8)) : Option Sacch.Block :=
  data.bind fun octets => (Sacch.Block.decode octets).toOption

def withHeader (lchan : LogicalChannel) (block : Option Sacch.Block) : LogicalChannel :=
  match block with
  | some block => { lchan with
      measurement := { lchan.measurement with header := block.header, headerValid := true } }
  | none => { lchan with measurement := { lchan.measurement with headerValid := false } }

/-- Power level and timing advance that the mobile station used: as it says, else as it was told. -/
def inUse (lchan : LogicalChannel) (block : Option Sacch.Block) : Nat × Nat :=
  match block with
  | some block => (block.header.msPower.toNat, block.header.timingAdvance.toNat)
  | none => (lchan.msPower.current, lchan.advance.current)

def result (lchan : LogicalChannel) (block : Option Sacch.Block) : MeasurementResult :=
  let measurement := lchan.measurement
  { chan := lchan.chan
    number := measurement.number
    uplink := measurement.uplink
    bsReduction := lchan.bsPower.current
    header := if measurement.headerValid then some measurement.header else none
    layer3 := block.bind (·.layer3?)
    timingOffset := lchan.timingOffset? (lchan.inUse block).2
    statistics := if measurement.statisticsValid then some measurement.statistics else none }

/-- Runs the control loops. Without a valid report the mobile station is taken to have used
discontinuous transmission. -/
def runLoops (lchan : LogicalChannel) (config : SiteConfig) (block : Option Sacch.Block) :
    LogicalChannel :=
  let (level, _) := lchan.inUse block
  let results := block.bind (·.results?)
  let valid := results.filter (·.valid)
  let uplink := lchan.measurement.uplink
  let reception :=
    if (valid.map (·.dtxUsed)).getD true then uplink.sub else uplink.full
  let lchan := (lchan.controlAdvance config.advanceInterval.toNat lchan.measurement.timingOffset).2
  let lchan :=
    (lchan.controlMsPower config.uplink config.bts.band level (Radio.dbmOfLevel reception.level)).2
  let lchan := match valid with
    | some results => (lchan.controlBsPower config.downlink (some results)).2.decideOverpower results
    | none => lchan
  lchan.decideRepeat results

/-- The next period starts without what was known of this one. -/
def startPeriod (lchan : LogicalChannel) : LogicalChannel :=
  { lchan with
    downlinkDtx := false
    msOffset := none
    propagationOffset := none
    measurement := { lchan.measurement with statisticsValid := false } }

def countResult (lchan : LogicalChannel) : LogicalChannel :=
  { lchan with measurement :=
    { lchan.measurement with number := (lchan.measurement.number + 1) % 256 } }

/-- Handles a SACCH block, absent if it was lost: the report for the BSC, new transmit parameters if
they changed, and the channel afterwards. -/
def handleSacch (lchan : LogicalChannel) (config : SiteConfig) (data : Option (List UInt8)) :
    MeasurementResult × Option TransmitParams × LogicalChannel :=
  let block := received data
  let before := lchan.transmitParams
  let seen := lchan.withHeader block
  let after := (seen.countResult.runLoops config block).startPeriod
  (seen.result block,
    if after.transmitParams = before then none else some after.transmitParams, after)

end BaseStation.LogicalChannel
