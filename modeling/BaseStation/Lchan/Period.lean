import BaseStation.Lchan.State

namespace BaseStation

namespace Lchan

/-- Blocks of half rate speech that carry the sub set, within 104 frames. -/
def halfRateSub : List Nat := [0, 52, 14, 66]

/-- Last SACCH block of a period, by timeslot. -/
def fullRateEnds : List Nat := [90, 103, 12, 25, 38, 51, 64, 77]

def halfRateEnds (ss : Nat) : List Nat :=
  if ss = 0 then [90, 90, 12, 12, 38, 38, 64, 64] else [103, 103, 25, 25, 51, 51, 77, 77]

/-- First burst of the block that ends a period, by sub-slot. -/
def sdcch8Ends : List Nat := [66, 70, 74, 78, 98, 0, 4, 8]

def sdcch4Ends : List Nat := [88, 92, 6, 10]

/-- The block that reports a traffic channel's period comes one block after the period. Maps the frame
on which the report is seen to the frame listed for the period. -/
def reportedEnd (frame : Nat) : Nat :=
  match frame with
  | 25 => 103
  | 38 => 12
  | 51 => 25
  | 64 => 38
  | 77 => 51
  | 90 => 64
  | 103 => 77
  | 12 => 90
  | _ => 0

end Lchan

namespace LogicalChannel

open Lchan

def period (lchan : LogicalChannel) : Nat := lchan.pchan.period?.getD 1

/-- A sample on the frame belongs to the sub set. Under AMR the PHY marks these itself. -/
def isSub (lchan : LogicalChannel) (frame : Nat) : Bool :=
  match lchan.mode, lchan.type with
  | .speechAmr, _ => false
  | _, .sdcch => true
  | .signalling, _ => true
  | .speechV1, .tchF | .speechEfr, .tchF => frame % 104 == 52
  | .speechV1, .tchH => halfRateSub.contains (frame % 104)
  | _, _ => false

def isPeriodEnd (lchan : LogicalChannel) (frame : Nat) : Bool :=
  match lchan.pchan with
  | .tchF => fullRateEnds[lchan.chan.ts]? == some (reportedEnd (frame % 104))
  | .tchH => (halfRateEnds lchan.chan.ss)[lchan.chan.ts]? == some (reportedEnd (frame % 104))
  | .sdcch8 | .sdcch8Cbch => sdcch8Ends[lchan.chan.ss]? == some (frame % 102)
  | .ccchSdcch4 | .ccchSdcch4Cbch => sdcch4Ends[lchan.chan.ss]? == some (frame % 102)
  | .none | .ccch | .pdch => false

/-- Blocks in a period: those with traffic and one of the SACCH. -/
def expected (lchan : LogicalChannel) : Nat :=
  match lchan.pchan with
  | .tchF => 25
  | .tchH => if lchan.mode = .signalling then 13 else 25
  | .sdcch8 | .sdcch8Cbch | .ccchSdcch4 | .ccchSdcch4Cbch => 3
  | .none | .ccch | .pdch => lchan.measurement.samples.length

/-- Blocks of the sub set in a period. Under AMR only the SACCH block is sure to be one. -/
def expectedSub (lchan : LogicalChannel) : Nat :=
  if lchan.isAmr then 1
  else match lchan.pchan with
    | .tchF => if lchan.mode = .signalling then 25 else 2
    | .tchH => if lchan.mode = .signalling then 13 else 3
    | .sdcch8 | .sdcch8Cbch | .ccchSdcch4 | .ccchSdcch4Cbch => 3
    | .none | .ccch | .pdch => 0

end LogicalChannel

end BaseStation
