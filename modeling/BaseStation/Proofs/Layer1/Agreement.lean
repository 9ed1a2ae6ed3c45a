import BaseStation.Phy
import BaseStation.Proofs.Layer1.Channels
import BaseStation.Proofs.Lchan.Loops

namespace BaseStation

def Primitive.tells? : Primitive → Option ChannelAddress
  | .setParams chan _ | .deactivate chan => some chan
  | _ => none

namespace Phy

def afterAll (phy : Phy) (messages : List Message) : Phy :=
  (messages.filter (·.dest == .phy)).foldl receive phy

/-- The PHY holds parameters of active channels only, and those in use except for the channels
`overlooked`. -/
def Follows (phy : Phy) (layer1 : Layer1) (overlooked : List ChannelAddress) : Prop :=
  ∀ chan params, phy.params? chan = some params →
    ∃ lchan, layer1.get? chan = some lchan ∧ (chan ∉ overlooked → params = lchan.transmitParams)

variable {phy : Phy} {layer1 : Layer1} {overlooked : List ChannelAddress} {chan : ChannelAddress}
  {time : FrameTime}

theorem afterAll_append (phy : Phy) (first second : List Message) :
    phy.afterAll (first ++ second) = (phy.afterAll first).afterAll second := by
  rw [afterAll, List.filter_append, List.foldl_append]
  rfl

theorem afterAll_cons_self {message : Message} (own : message.dest = .phy) (rest : List Message) :
    phy.afterAll (message :: rest) = (phy.receive message).afterAll rest := by
  rw [afterAll, List.filter_cons_of_pos (by simp [own])]
  rfl

theorem afterAll_cons_of_ne {message : Message} (away : message.dest ≠ .phy) (rest : List Message) :
    phy.afterAll (message :: rest) = phy.afterAll rest := by
  rw [afterAll, List.filter_cons_of_neg (by simpa using away)]
  rfl

theorem params?_deactivate_self (phy : Phy) (chan : ChannelAddress) :
    (phy.deactivate chan).params? chan = none := phy.params?_eraseParams_self chan

theorem params?_deactivate_of_ne (phy : Phy) {chan other : ChannelAddress} (ne : chan ≠ other) :
    (phy.deactivate chan).params? other = phy.params? other := phy.params?_eraseParams_of_ne ne

theorem Follows.mono (follows : phy.Follows layer1 overlooked) {more : List ChannelAddress}
    (subset : ∀ chan ∈ overlooked, chan ∈ more) : phy.Follows layer1 more := by
  intro chan params held
  obtain ⟨lchan, found, agrees⟩ := follows chan params held
  exact ⟨lchan, found, fun known => agrees fun old => known (subset chan old)⟩

/-- A channel that changes without a change of its parameters, or none of which anything is held. -/
theorem Follows.of_lookup (follows : phy.Follows layer1 overlooked) {layer1' : Layer1}
    (same : ∀ chan lchan, layer1.get? chan = some lchan → phy.params? chan ≠ none →
      ∃ lchan', layer1'.get? chan = some lchan' ∧ lchan'.transmitParams = lchan.transmitParams) :
    phy.Follows layer1' overlooked := by
  intro chan params held
  obtain ⟨lchan, found, agrees⟩ := follows chan params held
  obtain ⟨lchan', found', equal⟩ := same chan lchan found (by simp [held])
  refine ⟨lchan', found', fun known => ?_⟩
  rw [equal]
  exact agrees known

theorem Follows.modify (follows : phy.Follows layer1 overlooked) {f : LogicalChannel → LogicalChannel}
    (keeps : ∀ lchan, lchan.chan = chan → (f lchan).chan = chan)
    (same : ∀ lchan, layer1.get? chan = some lchan → (f lchan).transmitParams = lchan.transmitParams) :
    phy.Follows (layer1.modify chan f) overlooked := by
  refine follows.of_lookup fun other lchan found _ => ?_
  by_cases own : other = chan
  · subst own
    exact ⟨f lchan, by rw [Layer1.get?_modify_self keeps, found]; rfl, same lchan found⟩
  · exact ⟨lchan, by rw [Layer1.get?_modify_of_ne own keeps, found], rfl⟩

theorem Follows.setParams (follows : phy.Follows layer1 overlooked)
    {f : LogicalChannel → LogicalChannel} {lchan : LogicalChannel}
    (found : layer1.get? chan = some lchan)
    (keeps : ∀ lchan, lchan.chan = chan → (f lchan).chan = chan) :
    (phy.setParams chan (f lchan).transmitParams).Follows (layer1.modify chan f)
      (overlooked.filter (· ≠ chan)) := by
  intro other params held
  by_cases own : other = chan
  · subst own
    rw [params?_setParams_self] at held
    cases held
    exact ⟨f lchan, by rw [Layer1.get?_modify_self keeps, found]; rfl, fun _ => rfl⟩
  · rw [params?_setParams_of_ne _ _ (Ne.symm own)] at held
    obtain ⟨lchan', found', agrees⟩ := follows other params held
    refine ⟨lchan', by rw [Layer1.get?_modify_of_ne own keeps, found'], fun known => agrees fun old => ?_⟩
    exact known (List.mem_filter.mpr ⟨old, by simpa using own⟩)

theorem Follows.deactivate (follows : phy.Follows layer1 overlooked) (chan : ChannelAddress) :
    (phy.deactivate chan).Follows (layer1.erase chan) (overlooked.filter (· ≠ chan)) := by
  intro other params held
  by_cases own : other = chan
  · subst own
    rw [params?_deactivate_self] at held
    cases held
  · rw [params?_deactivate_of_ne _ (Ne.symm own)] at held
    obtain ⟨lchan, found, agrees⟩ := follows other params held
    refine ⟨lchan, by rw [Layer1.get?_erase_of_ne _ own, found], fun known => agrees fun old => ?_⟩
    exact known (List.mem_filter.mpr ⟨old, by simpa using own⟩)

theorem Follows.deactivateAll (follows : phy.Follows layer1 overlooked) (chans : List ChannelAddress) :
    (chans.foldl Phy.deactivate phy).Follows (chans.foldl Layer1.erase layer1)
      (overlooked.filter (· ∉ chans)) := by
  induction chans generalizing phy layer1 overlooked with
  | nil => exact follows.mono (by simp)
  | cons chan rest ih =>
    refine (ih (follows.deactivate chan)).mono ?_
    simp only [List.mem_filter, decide_eq_true_eq, List.mem_cons, not_or, and_imp]
    exact fun other old away later => ⟨old, away, later⟩

theorem Follows.activate (follows : phy.Follows layer1 overlooked) (lchan : LogicalChannel) :
    phy.Follows (layer1.insert lchan)
      (if layer1.isActive lchan.chan then lchan.chan :: overlooked else overlooked) := by
  intro chan params held
  obtain ⟨old, found, agrees⟩ := follows chan params held
  by_cases own : chan = lchan.chan
  · subst own
    rw [if_pos (Layer1.isActive_iff.mpr ⟨old, found⟩)]
    exact ⟨lchan, layer1.get?_insert_self lchan, fun known => absurd List.mem_cons_self known⟩
  · refine ⟨old, by rw [Layer1.get?_insert_of_ne _ own, found], fun known => agrees fun before => ?_⟩
    split at known
    · exact known (List.mem_cons_of_mem _ before)
    · exact known before

end Phy

namespace Layer1

/-- The channels that a message has layer 1 activate while they are active. -/
def restarted (layer1 : Layer1) (message : Message) : List ChannelAddress :=
  match message.primitive with
  | .activate activation => if layer1.isActive activation.chan then [activation.chan] else []
  | _ => []

/-- The channels activated while active of which the PHY was not told since, after a message. -/
def overlooked (layer1 : Layer1) (config : SiteConfig) (message : Message)
    (before : List ChannelAddress) : List ChannelAddress :=
  let told := (layer1.receive config message).2.filterMap (·.primitive.tells?)
  layer1.restarted message ++ before.filter (· ∉ told)

end Layer1

namespace Phy

variable {phy : Phy} {layer1 : Layer1} {overlooked : List ChannelAddress} {time : FrameTime}

theorem afterAll_deactivate (phy : Phy) (chans : List ChannelAddress) :
    phy.afterAll (chans.map fun chan => .ofPrimitive time (.deactivate chan)) =
      chans.foldl Phy.deactivate phy := by
  induction chans generalizing phy with
  | nil => rfl
  | cons chan rest ih =>
    rw [List.map_cons, afterAll_cons_self rfl]
    exact ih _

theorem Follows.measure (follows : phy.Follows layer1 overlooked) {chan : ChannelAddress} {frame : Nat}
    {sample : Lchan.Sample} {completed : Bool} {layer1' : Layer1}
    (measured : layer1.measure chan frame sample = .ok (completed, layer1')) :
    phy.Follows layer1' overlooked := by
  obtain ⟨lchan, found, rfl⟩ := Layer1.measure_eq_ok measured
  obtain ⟨measurement, writes⟩ := lchan.process_writes sample frame
  have address : lchan.chan = chan := Layer1.chan_of_get? found
  rw [writes]
  refine follows.modify (fun _ _ => address) fun lchan' found' => ?_
  rw [found] at found'
  cases found'
  rfl

theorem Follows.sacchBlock (follows : phy.Follows layer1 overlooked) (config : SiteConfig)
    (chan : ChannelAddress) (block : Option (List UInt8)) :
    (phy.afterAll (layer1.sacchBlock config time chan block).2).Follows
      (layer1.sacchBlock config time chan block).1
      (overlooked.filter
        (· ∉ (layer1.sacchBlock config time chan block).2.filterMap (·.primitive.tells?))) := by
  cases found : layer1.get? chan with
  | none =>
    simp only [Layer1.sacchBlock, found]
    exact follows.mono (by simp)
  | some lchan =>
    let after := (lchan.handleSacch config block).2.2
    have keeps : ∀ lchan : LogicalChannel, lchan.chan = chan → after.chan = chan :=
      fun _ _ => (lchan.handleSacch_chan config block).trans (Layer1.chan_of_get? found)
    rw [Layer1.sacchBlock_of_found found, afterAll_cons_of_ne (show Entity.abis ≠ .phy by decide),
      lchan.handleSacch_change config block]
    by_cases equal : after.transmitParams = lchan.transmitParams
    · rw [if_pos equal]
      have silent : phy.Follows (layer1.modify chan fun _ => after) overlooked := by
        refine follows.modify keeps fun lchan' found' => ?_
        rw [found] at found'
        cases found'
        exact equal
      exact silent.mono (by simp [Primitive.tells?, Message.ofPrimitive])
    · rw [if_neg equal]
      refine (follows.setParams found keeps).mono ?_
      simp [Primitive.tells?, Message.ofPrimitive]

theorem Follows.release (follows : phy.Follows layer1 overlooked) (chan : ChannelAddress) :
    (phy.afterAll (layer1.release time chan).2).Follows (layer1.release time chan).1
      (overlooked.filter (· ∉ (layer1.release time chan).2.filterMap (·.primitive.tells?))) := by
  unfold Layer1.release
  split
  · refine (follows.deactivate chan).mono ?_
    simp [Primitive.tells?, Message.ofPrimitive]
  · exact follows.mono (by simp)

theorem Follows.releaseTimeslot (follows : phy.Follows layer1 overlooked) (trx ts : Nat) :
    (phy.afterAll (layer1.releaseTimeslot time trx ts).2).Follows
      (layer1.releaseTimeslot time trx ts).1
      (overlooked.filter
        (· ∉ (layer1.releaseTimeslot time trx ts).2.filterMap (·.primitive.tells?))) := by
  simp only [Layer1.releaseTimeslot]
  rw [afterAll_deactivate]
  refine (follows.deactivateAll _).mono ?_
  simp [List.filterMap_map, Primitive.tells?, Message.ofPrimitive]

/-- Whatever layer 1 receives, what it sends of it keeps the PHY up with it. -/
theorem Follows.receive (follows : phy.Follows layer1 overlooked) (config : SiteConfig)
    (message : Message) :
    (phy.afterAll (layer1.receive config message).2).Follows (layer1.receive config message).1
      (layer1.overlooked config message overlooked) := by
  obtain ⟨sap, source, dest, created, primitive⟩ := message
  cases primitive with
  | measurement chan frame sample =>
    cases measured : layer1.measure chan frame sample with
    | error _ =>
      simp only [Layer1.overlooked, Layer1.receive, Layer1.restarted, measured]
      exact follows.mono (by simp)
    | ok result =>
      simp only [Layer1.overlooked, Layer1.receive, Layer1.restarted, measured]
      exact (follows.measure measured).mono (by simp)
  | sacchBlock chan frame block => exact follows.sacchBlock config chan block
  | downlinkDtx chan =>
    have keeps : phy.Follows (layer1.modify chan fun lchan => { lchan with downlinkDtx := true })
        overlooked := follows.modify (fun _ own => own) fun _ _ => rfl
    exact keeps.mono (by simp [Layer1.overlooked, Layer1.receive, Layer1.restarted])
  | activate activation =>
    refine (follows.activate (.ofActivation activation)).mono fun chan => ?_
    have address : (LogicalChannel.ofActivation activation).chan = activation.chan := rfl
    rw [address]
    simp only [Layer1.overlooked, Layer1.receive, Layer1.restarted]
    split <;> simp
  | release chan => exact follows.release chan
  | releaseTimeslot trx ts => exact follows.releaseTimeslot trx ts
  | setParams chan params | deactivate chan | measurementResult result | report report
  | request request | link control =>
    exact follows.mono (by simp [Layer1.overlooked, Layer1.receive, Layer1.restarted])

end Phy

end BaseStation
