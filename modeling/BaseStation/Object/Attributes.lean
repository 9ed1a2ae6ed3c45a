import BaseStation.Radio.Channel

namespace BaseStation

inductive NackCause
  | incorrectMsgStructure
  | invalidMsgType
  | invalidObjectClass
  | objClassNotSupported
  | btsNrUnknown
  | trxNrUnknown
  | objInstanceUnknown
  | invalidAttrId
  | attrIdNotSupported
  | paramRange
  | attrListInconsistent
  | specImplNotSupported
  | cantPerform
  | resNotImplemented
  | resNotAvailable
  | freqNotAvailable
  deriving DecidableEq, Repr

namespace NackCause

def all : List NackCause :=
  [incorrectMsgStructure, invalidMsgType, invalidObjectClass, objClassNotSupported, btsNrUnknown,
    trxNrUnknown, objInstanceUnknown, invalidAttrId, attrIdNotSupported, paramRange,
    attrListInconsistent, specImplNotSupported, cantPerform, resNotImplemented, resNotAvailable,
    freqNotAvailable]

def name : NackCause → String
  | incorrectMsgStructure => "IncorrectMsgStructure"
  | invalidMsgType => "InvalidMsgType"
  | invalidObjectClass => "InvalidObjectClass"
  | objClassNotSupported => "ObjClassNotSupported"
  | btsNrUnknown => "BtsNrUnknown"
  | trxNrUnknown => "TrxNrUnknown"
  | objInstanceUnknown => "ObjInstanceUnknown"
  | invalidAttrId => "InvalidAttrId"
  | attrIdNotSupported => "AttrIdNotSupported"
  | paramRange => "ParamRange"
  | attrListInconsistent => "AttrListInconsistent"
  | specImplNotSupported => "SpecImplNotSupported"
  | cantPerform => "CantPerform"
  | resNotImplemented => "ResNotImplemented"
  | resNotAvailable => "ResNotAvailable"
  | freqNotAvailable => "FreqNotAvailable"

def code : NackCause → Nat
  | incorrectMsgStructure => 0x01
  | invalidMsgType => 0x02
  | invalidObjectClass => 0x05
  | objClassNotSupported => 0x06
  | btsNrUnknown => 0x07
  | trxNrUnknown => 0x08
  | objInstanceUnknown => 0x09
  | invalidAttrId => 0x0c
  | attrIdNotSupported => 0x0d
  | paramRange => 0x0e
  | attrListInconsistent => 0x0f
  | specImplNotSupported => 0x10
  | cantPerform => 0x11
  | resNotImplemented => 0x19
  | resNotAvailable => 0x1a
  | freqNotAvailable => 0x1b

instance : Named NackCause := ⟨all, name⟩

end NackCause

structure Attributes where
  arfcn : Option Nat
  /-- In steps of 2 dB. -/
  maxPowerReduction : Option Nat
  pchan : Option Pchan
  tsc : Option Nat
  bsic : Option Nat
  deriving DecidableEq, Repr

namespace Attributes

def empty : Attributes := ⟨none, none, none, none, none⟩

instance : Inhabited Attributes := ⟨empty⟩

/-- The attributes after `new` ones were applied: a new value wins, field by field. -/
def merge (old new : Attributes) : Attributes where
  arfcn := new.arfcn <|> old.arfcn
  maxPowerReduction := new.maxPowerReduction <|> old.maxPowerReduction
  pchan := new.pchan <|> old.pchan
  tsc := new.tsc <|> old.tsc
  bsic := new.bsic <|> old.bsic

end Attributes

end BaseStation
