namespace BaseStation.Sacch

inductive DecodeError
  | ended (field : Option String)
  | length (expected found : Nat)
  deriving DecidableEq, Repr

namespace DecodeError

def name : DecodeError → String
  | ended _ => "BufferEnded"
  | length _ _ => "InconsistentLength"

def message : DecodeError → String
  | ended field => "buffer ended reading " ++ field.getD "?"
  | length expected found =>
    "inconsistent length: expected " ++ toString expected ++ ", found " ++ toString found

end DecodeError

end BaseStation.Sacch
