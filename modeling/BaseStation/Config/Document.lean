import BaseStation.Config.Basic
import BaseStation.Text.Quoted

namespace BaseStation

namespace Document

structure PhySection where
  backend : Backend
  unknown : List String
  deriving Repr

structure BtsSection where
  band : Option Band
  numTrx : Option UInt8
  channelsNeedCarrier : Option Bool
  dummyLinks : Option Bool
  unknown : List String
  deriving Repr

structure AbisSection where
  hosts : List String
  tcpPort : Option UInt16
  reconnectDelay : Option UInt64
  connectTimeout : Option UInt64
  unknown : List String
  deriving Repr

structure PowerSection where
  target : Option Int32
  hysteresis : Option UInt8
  raiseStep : Option UInt8
  lowerStep : Option UInt8
  filter : Option UInt8
  unknown : List String
  deriving Repr

structure ControlSection where
  downlink : Option PowerSection
  uplink : Option PowerSection
  unknown : List String
  deriving Repr

structure AdvanceSection where
  interval : Option UInt8
  unknown : List String
  deriving Repr

end Document

open Document

structure Document where
  version : String
  debugLog : Option String
  phy : Option PhySection
  bts : Option BtsSection
  abis : AbisSection
  control : Option ControlSection
  advance : Option AdvanceSection
  unknown : List String
  deriving Repr

namespace Document

def expectedVersion : String := "0.1"

inductive Refusal
  | version (found : String)
  | unknownFields (place : String) (names : List String)
  | invalid (reason : SiteConfig.Invalid)
  deriving Repr

/-- Names are listed in the order of their code points, which is that of their bytes. -/
def Refusal.message : Refusal → String
  | version found => "Unrecognized config_version: " ++ found ++ ", expect " ++ expectedVersion
  | unknownFields place names =>
    "Unrecognized " ++ place ++ Text.quoteList (names.mergeSort fun a b => !decide (b < a))
  | invalid reason => "Invalid configuration: " ++ reason.message

def unknownFields (document : Document) : List (String × List String) :=
  let power (control : ControlSection) : List (String × List String) :=
    [("fields in power_ctrl: ", control.unknown)]
      ++ control.downlink.toList.map (fun power => ("fields in power_ctrl.dl: ", power.unknown))
      ++ control.uplink.toList.map (fun power => ("fields in power_ctrl.ul: ", power.unknown))
  [("top-level fields: ", document.unknown)]
    ++ document.phy.toList.map (fun phy => ("fields: phy_io::", phy.unknown))
    ++ document.bts.toList.map (fun bts => ("fields in bts: ", bts.unknown))
    ++ [("fields in abis: ", document.abis.unknown)]
    ++ document.control.toList.flatMap power
    ++ document.advance.toList.map (fun advance => ("fields in ta_ctrl: ", advance.unknown))

end Document

def PowerParams.patch (params : PowerParams) (power : PowerSection) : PowerParams where
  target := power.target.getD params.target
  hysteresis := power.hysteresis.getD params.hysteresis
  raiseStep := power.raiseStep.getD params.raiseStep
  lowerStep := power.lowerStep.getD params.lowerStep
  filter := power.filter <|> params.filter

def BtsConfig.patch (config : BtsConfig) (bts : BtsSection) : BtsConfig where
  band := bts.band.getD config.band
  numTrx := bts.numTrx.getD config.numTrx
  channelsNeedCarrier := bts.channelsNeedCarrier.getD config.channelsNeedCarrier
  dummyLinks := bts.dummyLinks.getD config.dummyLinks

/-- Hosts are taken without the white space around them. -/
def AbisConfig.ofSection (abis : AbisSection) : AbisConfig :=
  let config := AbisConfig.ofHosts (abis.hosts.map Text.trim)
  { config with
    tcpPort := abis.tcpPort.getD config.tcpPort
    reconnectDelay := abis.reconnectDelay.getD config.reconnectDelay
    connectTimeout := abis.connectTimeout.getD config.connectTimeout }

namespace Document

/-- The configuration a document stands for, with defaults for what it leaves open. -/
def config (document : Document) : SiteConfig where
  debugLog := document.debugLog
  backend := (document.phy.map (·.backend)).getD .undefined
  bts := (document.bts.map BtsConfig.default.patch).getD .default
  abis := .ofSection document.abis
  downlink := ((document.control.bind (·.downlink)).map PowerParams.default.patch).getD .default
  uplink := ((document.control.bind (·.uplink)).map PowerParams.default.patch).getD .default
  advanceInterval := (document.advance.bind (·.interval)).getD 0

def toConfig (document : Document) : Except Refusal SiteConfig := do
  if document.version ≠ expectedVersion then
    throw (.version document.version)
  match document.unknownFields.find? (·.2 ≠ []) with
  | some (place, names) => throw (.unknownFields place names)
  | none => pure ()
  match document.config.validate with
  | .ok () => return document.config
  | .error reason => throw (.invalid reason)

end Document

end BaseStation
