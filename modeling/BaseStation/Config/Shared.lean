import BaseStation.Config.Load
import BaseStation.Fault

namespace BaseStation

def SiteConfig.require (config : SiteConfig) : Except Fault SiteConfig :=
  match config.validate with
  | .ok () => .ok config
  | .error reason => .error (.invalidConfig reason)

structure SharedConfig where
  config : SiteConfig
  flags : LinkFlags
  deriving DecidableEq, Repr

namespace SharedConfig

def ofParts (config : SiteConfig) (flags : LinkFlags) : Except Fault SharedConfig := do
  return ⟨← config.require, flags⟩

def ofConfig (config : SiteConfig) : Except Fault SharedConfig := ofParts config .initial

def ofDocument (document : Document) : Except Fault (Except Document.Refusal SharedConfig) :=
  match document.toConfig with
  | .error refusal => .ok (.error refusal)
  | .ok config => do return .ok (← ofConfig config)

def ofText (text : String) : Except Fault (Except LoadError SharedConfig) :=
  match (Toml.parse? text).bind Document.ofEntries? with
  | none => .ok (.error .malformed)
  | some document => do return (← ofDocument document).mapError .refused

def ofOctets (octets : List UInt8) : Except Fault (Except LoadError SharedConfig) :=
  match String.fromUTF8? ⟨octets.toArray⟩ with
  | none => .ok (.error .notText)
  | some text => ofText text

end SharedConfig

end BaseStation
