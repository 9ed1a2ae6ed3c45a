import BaseStation.Text.Named

namespace BaseStation

inductive ObjectClass
  | siteManager
  | gprsNse
  | bts
  | radioCarrier
  | basebandTransceiver
  | channel
  deriving DecidableEq, Repr

inductive ObjectId
  | siteManager
  | gprsNse
  | bts (bts : Nat)
  | radioCarrier (bts trx : Nat)
  | basebandTransceiver (bts trx : Nat)
  | channel (bts trx ts : Nat)
  deriving DecidableEq, Repr

namespace ObjectClass

def all : List ObjectClass :=
  [siteManager, gprsNse, bts, radioCarrier, basebandTransceiver, channel]

def label : ObjectClass → String
  | siteManager => "SiteManager"
  | gprsNse => "GprsNse"
  | bts => "Bts"
  | radioCarrier => "RadioCarrier"
  | basebandTransceiver => "BasebandTransceiver"
  | channel => "Channel"

def name : ObjectClass → String
  | siteManager => "SITE-MGR"
  | gprsNse => "GPRS-NSE"
  | bts => "BTS"
  | radioCarrier => "RADIO-CARRIER"
  | basebandTransceiver => "BB-TRANSC"
  | channel => "CHANNEL"

def machineName : ObjectClass → String
  | siteManager => "NM_BTS_SM_OP"
  | gprsNse => "NM_GPRS_NSE_OP"
  | bts => "NM_BTS_OP"
  | radioCarrier => "NM_RCARRIER_OP"
  | basebandTransceiver => "NM_BBTRANSC_OP"
  | channel => "NM_CHAN_OP"

instance : Named ObjectClass := ⟨all, label⟩

end ObjectClass

namespace ObjectId

def objectClass : ObjectId → ObjectClass
  | siteManager => .siteManager
  | gprsNse => .gprsNse
  | bts _ => .bts
  | radioCarrier _ _ => .radioCarrier
  | basebandTransceiver _ _ => .basebandTransceiver
  | channel _ _ _ => .channel

def slots : Nat := 8

def channels (bts numTrx : Nat) : List ObjectId :=
  (List.range numTrx).flatMap fun trx => (List.range slots).map (channel bts trx)

def numbers : ObjectId → List Nat
  | siteManager | gprsNse => []
  | bts b => [b]
  | radioCarrier b trx | basebandTransceiver b trx => [b, trx]
  | channel b trx ts => [b, trx, ts]

def ofNumbers? : ObjectClass → List Nat → Option ObjectId
  | .siteManager, [] => some siteManager
  | .gprsNse, [] => some gprsNse
  | .bts, [b] => some (bts b)
  | .radioCarrier, [b, trx] => some (radioCarrier b trx)
  | .basebandTransceiver, [b, trx] => some (basebandTransceiver b trx)
  | .channel, [b, trx, ts] => some (channel b trx ts)
  | _, _ => none

theorem ofNumbers?_numbers (id : ObjectId) : ofNumbers? id.objectClass id.numbers = some id := by
  cases id <;> rfl

def text (id : ObjectId) : String :=
  match id.numbers with
  | [] => id.objectClass.name
  | numbers => id.objectClass.name ++ "(" ++ ",".intercalate (numbers.map toString) ++ ")"

end ObjectId

end BaseStation
