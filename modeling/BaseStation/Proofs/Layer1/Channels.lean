import BaseStation.Layer1

namespace BaseStation.Layer1

variable {layer1 : Layer1} {chan other : ChannelAddress} {lchan : LogicalChannel}

theorem chan_of_get? (found : layer1.get? chan = some lchan) : lchan.chan = chan := by
  have matching := List.find?_some found
  simpa using matching

theorem isActive_iff : layer1.isActive chan = true ↔ ∃ lchan, layer1.get? chan = some lchan := by
  rw [isActive, Option.isSome_iff_exists]

theorem get?_erase_self (layer1 : Layer1) (chan : ChannelAddress) :
    (layer1.erase chan).get? chan = none := by
  simp [erase, get?]

theorem get?_erase_of_ne (layer1 : Layer1) (ne : other ≠ chan) :
    (layer1.erase chan).get? other = layer1.get? other := by
  show (layer1.channels.filter _).find? _ = layer1.channels.find? _
  rw [List.find?_filter]
  congr 1
  funext lchan
  by_cases same : lchan.chan = other
  · simp [same, ne]
  · simp [same]

theorem get?_insert_self (layer1 : Layer1) (lchan : LogicalChannel) :
    (layer1.insert lchan).get? lchan.chan = some lchan := by
  simp [insert, get?]

theorem get?_insert_of_ne (layer1 : Layer1) (ne : other ≠ lchan.chan) :
    (layer1.insert lchan).get? other = layer1.get? other := by
  have away : (lchan.chan == other) = false := by simpa using ne.symm
  have rest := get?_erase_of_ne layer1 ne
  simpa [insert, get?, List.find?_cons, away] using rest

theorem get?_modify_self {f : LogicalChannel → LogicalChannel}
    (keeps : ∀ lchan, lchan.chan = chan → (f lchan).chan = chan) :
    (layer1.modify chan f).get? chan = (layer1.get? chan).map f := by
  show (layer1.channels.map _).find? _ = (layer1.channels.find? _).map f
  induction layer1.channels with
  | nil => rfl
  | cons lchan rest ih =>
    rw [List.map_cons, List.find?_cons, List.find?_cons]
    by_cases same : lchan.chan = chan
    · simp [same, keeps lchan same]
    · have away : (lchan.chan == chan) = false := by simpa using same
      rw [if_neg same, away]
      exact ih

theorem get?_modify_of_ne {f : LogicalChannel → LogicalChannel} (ne : other ≠ chan)
    (keeps : ∀ lchan, lchan.chan = chan → (f lchan).chan = chan) :
    (layer1.modify chan f).get? other = layer1.get? other := by
  show (layer1.channels.map _).find? _ = layer1.channels.find? _
  induction layer1.channels with
  | nil => rfl
  | cons lchan rest ih =>
    rw [List.map_cons, List.find?_cons, List.find?_cons, ih]
    by_cases same : lchan.chan = chan
    · have away : ((f lchan).chan == other) = false := by simpa [keeps lchan same] using ne.symm
      have away' : (lchan.chan == other) = false := by simpa [same] using ne.symm
      rw [if_pos same, away, away']
    · rw [if_neg same]

theorem get?_foldl_erase (chans : List ChannelAddress) (layer1 : Layer1) :
    (chans.foldl erase layer1).get? other = if other ∈ chans then none else layer1.get? other := by
  induction chans generalizing layer1 with
  | nil => rfl
  | cons chan rest ih =>
    rw [List.foldl_cons, ih]
    by_cases later : other ∈ rest
    · rw [if_pos later, if_pos (List.mem_cons_of_mem _ later)]
    · rw [if_neg later]
      by_cases same : other = chan
      · rw [if_pos (by simp [same]), same, get?_erase_self]
      · rw [if_neg (by simp [same, later]), get?_erase_of_ne _ same]

theorem mem_onTimeslot {trx ts : Nat} :
    chan ∈ layer1.onTimeslot trx ts ↔ layer1.isActive chan = true ∧ chan.trx = trx ∧ chan.ts = ts := by
  have active : (∃ lchan ∈ layer1.channels, lchan.chan = chan) ↔ layer1.isActive chan = true := by
    simp [isActive, get?]
  simp [onTimeslot, List.mem_mergeSort, List.mem_filter, active]

theorem isActive_releaseTimeslot {time : FrameTime} {trx ts : Nat} :
    (layer1.releaseTimeslot time trx ts).1.isActive chan =
      if chan.trx = trx ∧ chan.ts = ts then false else layer1.isActive chan := by
  show (((layer1.onTimeslot trx ts).foldl erase layer1).get? chan).isSome = _
  rw [get?_foldl_erase]
  by_cases place : chan.trx = trx ∧ chan.ts = ts
  · rw [if_pos place]
    by_cases active : layer1.isActive chan = true
    · rw [if_pos (mem_onTimeslot.mpr ⟨active, place⟩)]
      rfl
    · rw [if_neg fun mem => active (mem_onTimeslot.mp mem).1]
      simpa [isActive] using active
  · rw [if_neg place, if_neg fun mem => place (mem_onTimeslot.mp mem).2]
    rfl

theorem measure_eq_ok {frame : Nat} {sample : Lchan.Sample} {completed : Bool} {layer1' : Layer1}
    (measured : layer1.measure chan frame sample = .ok (completed, layer1')) :
    ∃ lchan, layer1.get? chan = some lchan ∧
      layer1' = layer1.modify chan fun _ => (lchan.process sample frame).2 := by
  unfold measure at measured
  split at measured
  · cases measured
  · rename_i lchan found
    cases measured
    exact ⟨lchan, found, rfl⟩

theorem sacchBlock_of_found {config : SiteConfig} {time : FrameTime} {block : Option (List UInt8)}
    (found : layer1.get? chan = some lchan) :
    layer1.sacchBlock config time chan block =
      (layer1.modify chan fun _ => (lchan.handleSacch config block).2.2,
        .ofPrimitive time (.measurementResult (lchan.handleSacch config block).1) ::
          (lchan.handleSacch config block).2.1.toList.map fun params =>
            .ofPrimitive time (.setParams chan params)) := by
  simp only [sacchBlock, found]

end BaseStation.Layer1
