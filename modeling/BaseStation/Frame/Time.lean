import BaseStation.Text.Padding

namespace BaseStation

def hyperframe : Nat := 26 * 51 * 2048

/-- A 32-bit word read as a two's complement number. -/
def signedWord (word : Nat) : Int := Int.bmod word UInt32.size

def halfHyperframe : Int := hyperframe / 2

/-- Adds hyperframes until a difference is no further back than half of one. -/
def raised (difference : Int) : Int :=
  if difference < -halfHyperframe then raised (difference + hyperframe) else difference
termination_by (-halfHyperframe - difference).toNat
decreasing_by
  simp only [halfHyperframe, hyperframe] at *
  omega

def lowered (difference : Int) : Int :=
  if halfHyperframe ≤ difference then lowered (difference - hyperframe) else difference
termination_by (difference - halfHyperframe + 1).toNat
decreasing_by
  simp only [halfHyperframe, hyperframe] at *
  omega

/-- The representative of `a - b` in the half-open interval from minus half a hyperframe to half a
hyperframe. Frame numbers are read as signed words. -/
def frameDifference (a b : Nat) : Int := lowered (raised (signedWord a - signedWord b))

structure FrameTime where
  frame : Nat
  deriving DecidableEq, Repr, Inhabited

namespace FrameTime

def ofFrame (frame : Nat) : FrameTime := ⟨frame % hyperframe⟩

def IsValid (time : FrameTime) : Prop := time.frame < hyperframe

instance (time : FrameTime) : Decidable time.IsValid :=
  inferInstanceAs (Decidable (time.frame < hyperframe))

def superframe (time : FrameTime) : Nat := time.frame / (26 * 51) % UInt16.size

def trafficPosition (time : FrameTime) : Nat := time.frame % 26

def controlPosition (time : FrameTime) : Nat := time.frame % 51

/-- Position within a period; a period of no frames has no positions. -/
def position? (time : FrameTime) (period : Nat) : Option Nat :=
  if period = 0 then none else some (time.frame % period)

def advance (time : FrameTime) (frames : Int) : FrameTime :=
  ⟨((time.frame + frames) % hyperframe).toNat⟩

def diff (time since : FrameTime) : Int := frameDifference time.frame since.frame

def age (time now : FrameTime) : Int := now.diff time

def walk : List Int → FrameTime → List FrameTime
  | [], _ => []
  | frames :: rest, time => time.advance frames :: walk rest (time.advance frames)

def text (time : FrameTime) : String := Text.padLeft 7 (toString time.frame)

def detail (time : FrameTime) : String :=
  time.text ++ "(" ++ toString time.superframe ++ "/" ++ Text.twoDigits time.trafficPosition ++ "/"
    ++ Text.twoDigits time.controlPosition ++ ")"

end FrameTime

end BaseStation
