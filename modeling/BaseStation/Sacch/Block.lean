import BaseStation.Sacch.Results
import BaseStation.Text.Named

namespace BaseStation.Sacch

inductive ReportType
  | measurement
  | extended
  deriving DecidableEq, Repr

namespace ReportType

def all : List ReportType := [measurement, extended]

def name : ReportType → String
  | measurement => "MeasurementReport"
  | extended => "ExtMeasurementReport"

def code : ReportType → UInt8
  | measurement => 0x15
  | extended => 0x36

def ofCode? (code : UInt8) : Option ReportType :=
  if code = 0x15 then some measurement else if code = 0x36 then some extended else none

instance : Named ReportType := ⟨all, name⟩

end ReportType

structure Report where
  type : ReportType
  results : Option Results
  deriving DecidableEq, Repr

structure Block where
  header : Header
  report : Option Report
  octets : List UInt8
  deriving DecidableEq, Repr

namespace Block

def length : Nat := 23

def layer3Offset : Nat := 5

def lapdmAddress : UInt8 := 0x01

def lapdmControl : UInt8 := 0x03

def radioResource : Nat := 6

/-- What the octets after the header report. -/
def reportOf : List UInt8 → Option Report
  | address :: control :: _ :: discriminator :: code :: first :: second :: third :: _ =>
    if address = lapdmAddress ∧ control = lapdmControl
        ∧ discriminator.toNat % 16 = radioResource then
      match ReportType.ofCode? code with
      | some .measurement => some ⟨.measurement, some (Results.ofOctets first second third)⟩
      | some .extended => some ⟨.extended, none⟩
      | none => none
    else none
  | _ => none

def decode (octets : List UInt8) : Except DecodeError Block := do
  if octets.length ≠ length then
    throw (.length length octets.length)
  let header ← Header.decode octets
  return ⟨header, reportOf (octets.drop 2), octets⟩

/-- The layer 3 part, forwarded as received; present only with a report. -/
def layer3? (block : Block) : Option (List UInt8) :=
  block.report.map fun _ => block.octets.drop layer3Offset

def results? (block : Block) : Option Results :=
  block.report.bind (·.results)

def encodeReport (header : Header) (results : Results) : List UInt8 :=
  header.encode ++ [lapdmAddress, lapdmControl, UInt8.ofNat (18 * 4 + 1), UInt8.ofNat radioResource,
    ReportType.measurement.code] ++ results.encode ++ List.replicate 13 0

def text (block : Block) : String :=
  "SacchBlock \x7b l1: " ++ block.header.text ++ " meas_rep: "
    ++ (match block.report with
      | none => "None"
      | some report =>
        "Some(RrMeasReport \x7b msg_type: " ++ report.type.name ++ ", meas_res: "
          ++ (match report.results with
            | none => "None"
            | some results => "Some(" ++ results.text ++ ")")
          ++ " \x7d)")
    ++ " \x7d"

end Block

end BaseStation.Sacch
