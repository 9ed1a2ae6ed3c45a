import BaseStation.Log.Level

namespace BaseStation.Log

structure Directive where
  target : String
  level : Level
  deriving DecidableEq, Repr

namespace Directive

def applies (directive : Directive) (target : String) : Bool :=
  directive.target.toList.isPrefixOf target.toList

def longer (a b : Directive) : Directive :=
  if a.target.length < b.target.length then b else a

end Directive

/-- Of the directives that apply, the one with the longest target decides. -/
def decisive? (directives : List Directive) (target : String) : Option Directive :=
  match directives.filter (·.applies target) with
  | [] => none
  | first :: others => some (others.foldl Directive.longer first)

def accepts (directives : List Directive) (level : Level) (target : String) : Bool :=
  (decisive? directives target).any fun directive => level.verbosity ≤ directive.level.verbosity

/-- What is printed unless more is asked for: object management and the link to the BSC in detail,
what happens on every frame only if it is a warning. -/
def standard : List Directive :=
  [⟨"", .info⟩,
    ⟨"gsm_entities::messagerouter", .warn⟩,
    ⟨"gsm_entities::phy", .info⟩,
    ⟨"gsm_entities::l1sap::measurement", .info⟩,
    ⟨"gsm_entities::l1sap", .info⟩,
    ⟨"gsm_entities::nm", .debug⟩,
    ⟨"gsm_entities::abis", .debug⟩]

end BaseStation.Log
