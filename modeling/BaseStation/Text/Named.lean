namespace BaseStation

class Named (α : Type) where
  all : List α
  name : α → String

namespace Named

def ofName? {α : Type} [Named α] (text : String) : Option α :=
  (all : List α).find? (name · == text)

end Named

end BaseStation
