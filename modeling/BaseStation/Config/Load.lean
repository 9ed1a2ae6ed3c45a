import BaseStation.Config.Document
import BaseStation.Toml.Document

namespace BaseStation

open Toml (Value Entries)

namespace Document

def datetimeField : String := "$__toml_private_datetime"

def section? : Value → Option Entries
  | .table _ entries => some entries
  | .datetime => some [(datetimeField, .datetime)]
  | _ => none

def text? : Value → Option String
  | .string text => some text
  | _ => none

def flag? : Value → Option Bool
  | .boolean b => some b
  | _ => none

def within? (low high : Int) : Value → Option Int
  | .integer n => if low ≤ n ∧ n ≤ high then some n else none
  | _ => none

def octet? (value : Value) : Option UInt8 :=
  (within? 0 (UInt8.size - 1) value).map fun n => UInt8.ofNat n.toNat

def word16? (value : Value) : Option UInt16 :=
  (within? 0 (UInt16.size - 1) value).map fun n => UInt16.ofNat n.toNat

def word64? (value : Value) : Option UInt64 :=
  (within? 0 (UInt64.size - 1) value).map fun n => UInt64.ofNat n.toNat

def signed32? (value : Value) : Option Int32 :=
  (within? Int32.minValue.toInt Int32.maxValue.toInt value).map Int32.ofInt

def texts? : Value → Option (List String)
  | .array items => items.mapM text?
  | _ => none

def choice? : Value → Option String
  | .string name => some name
  | .table _ [(name, .table _ [])] => some name
  | .table _ [(name, .array [])] => some name
  | _ => none

def oneOf? {α : Type} [Named α] (value : Value) : Option α := (choice? value).bind Named.ofName?

def field? {α : Type} (entries : Entries) (name : String) (read : Value → Option α) :
    Option (Option α) :=
  match entries.lookup name with
  | none => some none
  | some value => (read value).map some

def required? {α : Type} (entries : Entries) (name : String) (read : Value → Option α) : Option α :=
  (entries.lookup name).bind read

def others (entries : Entries) (known : List String) : List String :=
  (entries.map (·.1)).filter (!known.contains ·)

def phy? (value : Value) : Option PhySection := do
  let entries ← section? value
  return { backend := ← required? entries "backend" oneOf?
           unknown := others entries ["backend"] }

def bts? (value : Value) : Option BtsSection := do
  let entries ← section? value
  return { band := ← field? entries "band" oneOf?
           numTrx := ← field? entries "num_trx" octet?
           channelsNeedCarrier := ← field? entries "nm_rchannel_depends_rcarrier" flag?
           dummyLinks := ← field? entries "oml_dummy_links" flag?
           unknown := others entries
             ["band", "num_trx", "nm_rchannel_depends_rcarrier", "oml_dummy_links"] }

def abis? (value : Value) : Option AbisSection := do
  let entries ← section? value
  return { hosts := ← required? entries "oml_hosts" texts?
           tcpPort := ← field? entries "port" word16?
           reconnectDelay := ← field? entries "reconnect_delay_secs" word64?
           connectTimeout := ← field? entries "connect_timeout_secs" word64?
           unknown := others entries
             ["oml_hosts", "port", "reconnect_delay_secs", "connect_timeout_secs"] }

def power? (value : Value) : Option PowerSection := do
  let entries ← section? value
  return { target := ← field? entries "target_dbm" signed32?
           hysteresis := ← field? entries "hysteresis_db" octet?
           raiseStep := ← field? entries "raise_step_max_db" octet?
           lowerStep := ← field? entries "lower_step_max_db" octet?
           filter := ← field? entries "ewma_alpha" octet?
           unknown := others entries
             ["target_dbm", "hysteresis_db", "raise_step_max_db", "lower_step_max_db",
               "ewma_alpha"] }

def control? (value : Value) : Option ControlSection := do
  let entries ← section? value
  return { downlink := ← field? entries "dl" power?
           uplink := ← field? entries "ul" power?
           unknown := others entries ["dl", "ul"] }

def advance? (value : Value) : Option AdvanceSection := do
  let entries ← section? value
  return { interval := ← field? entries "interval" octet?
           unknown := others entries ["interval"] }

def ofEntries? (entries : Entries) : Option Document := do
  return { version := ← required? entries "config_version" text?
           debugLog := ← field? entries "debug_log" text?
           phy := ← field? entries "phy_io" phy?
           bts := ← field? entries "bts" bts?
           abis := ← required? entries "abis" abis?
           control := ← field? entries "power_ctrl" control?
           advance := ← field? entries "ta_ctrl" advance?
           unknown := others entries
             ["config_version", "debug_log", "phy_io", "bts", "abis", "power_ctrl", "ta_ctrl"] }

end Document

inductive LoadError
  | noFile
  | notText
  | malformed
  | refused (refusal : Document.Refusal)
  deriving Repr

def LoadError.message : LoadError → String
  | noFile => "No such file or directory (os error 2)"
  | notText => "stream did not contain valid UTF-8"
  | malformed => "malformed TOML document"
  | refused refusal => refusal.message

end BaseStation
