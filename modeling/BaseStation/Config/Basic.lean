import BaseStation.Radio.Band
import BaseStation.Text.Blank

namespace BaseStation

inductive Backend
  | undefined
  | none
  | virtual
  deriving DecidableEq, Repr

namespace Backend

def all : List Backend := [undefined, none, virtual]

def name : Backend → String
  | undefined => "Undefined"
  | none => "None"
  | virtual => "Virtual"

instance : Named Backend := ⟨all, name⟩

end Backend

structure PowerParams where
  target : Int32
  hysteresis : UInt8
  raiseStep : UInt8
  lowerStep : UInt8
  /-- Weight in percent of a new value in a moving average; levels are taken as they are if absent. -/
  filter : Option UInt8
  deriving DecidableEq, Repr

def PowerParams.default : PowerParams := ⟨-75, 3, 4, 8, none⟩

structure BtsConfig where
  band : Band
  numTrx : UInt8
  channelsNeedCarrier : Bool
  /-- Take the signalling and transceiver links as always up. -/
  dummyLinks : Bool
  deriving DecidableEq, Repr

def BtsConfig.default : BtsConfig := ⟨.gsm900, 1, true, false⟩

structure AbisConfig where
  hosts : List String
  tcpPort : UInt16
  /-- Seconds before another host is tried. -/
  reconnectDelay : UInt64
  connectTimeout : UInt64
  deriving DecidableEq, Repr

def AbisConfig.ofHosts (hosts : List String) : AbisConfig := ⟨hosts, 3002, 1, 10⟩

structure SiteConfig where
  debugLog : Option String
  backend : Backend
  bts : BtsConfig
  abis : AbisConfig
  downlink : PowerParams
  uplink : PowerParams
  advanceInterval : UInt8
  deriving DecidableEq, Repr

namespace SiteConfig

def ofHosts (hosts : List String) : SiteConfig :=
  ⟨none, .undefined, .default, .ofHosts hosts, .default, .default, 0⟩

inductive Invalid
  | backendUndefined
  | noTransceiver
  | noHost
  | blankHost
  | filterRange
  | targetRange
  deriving DecidableEq, Repr

def Invalid.message : Invalid → String
  | backendUndefined => "phy_io backend must be defined"
  | noTransceiver => "bts num_trx must be at least 1"
  | noHost => "abis oml_hosts must contain at least one host"
  | blankHost => "abis oml_hosts contains an empty host"
  | filterRange => "power_ctrl ewma_alpha must be in 1..=99"
  | targetRange => "power_ctrl target_dbm out of range"

end SiteConfig

namespace PowerParams

def filterInRange (params : PowerParams) : Bool :=
  params.filter.all fun weight => 0 < weight && weight ≤ 99

def targetInRange (params : PowerParams) : Bool := params.target ≤ -10

end PowerParams

namespace SiteConfig

def validate (config : SiteConfig) : Except Invalid Unit := do
  if config.backend = .undefined then
    throw .backendUndefined
  if config.bts.numTrx = 0 then
    throw .noTransceiver
  if config.abis.hosts = [] then
    throw .noHost
  if config.abis.hosts.any fun host => Text.trimChars host.toList = [] then
    throw .blankHost
  if !(config.downlink.filterInRange && config.uplink.filterInRange) then
    throw .filterRange
  if !(config.downlink.targetInRange && config.uplink.targetInRange) then
    throw .targetRange

end SiteConfig

structure LinkFlags where
  omlLinkUp : Bool
  phyLinkUp : Bool
  linkFailed : Bool
  deriving DecidableEq, Repr

def LinkFlags.initial : LinkFlags := ⟨false, false, false⟩

end BaseStation
