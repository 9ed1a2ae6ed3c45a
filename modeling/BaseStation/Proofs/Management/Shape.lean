import Mathlib.Data.List.Nodup
import Mathlib.Data.List.Perm.Basic
import BaseStation.Proofs.Management.BscView
import BaseStation.Proofs.Management.Evolution

namespace BaseStation

open Management

def siteIds (numTrx : Nat) : List ObjectId :=
  [.siteManager, .gprsNse, .bts 0] ++ (List.range numTrx).flatMap fun trx =>
    [.radioCarrier 0 trx, .basebandTransceiver 0 trx] ++
      (List.range ObjectId.slots).map (.channel 0 trx)

theorem nodup_siteIds (numTrx : Nat) : (siteIds numTrx).Nodup := by
  have one (trx : Nat) : ([ObjectId.radioCarrier 0 trx, .basebandTransceiver 0 trx] ++
      (List.range ObjectId.slots).map (ObjectId.channel 0 trx)).Nodup := by
    have slots : ((List.range ObjectId.slots).map (ObjectId.channel 0 trx)).Nodup :=
      List.nodup_range.map fun _ _ same => by injection same
    simpa [List.nodup_cons] using slots
  have transceivers : ((List.range numTrx).flatMap fun trx =>
      [ObjectId.radioCarrier 0 trx, .basebandTransceiver 0 trx] ++
        (List.range ObjectId.slots).map (ObjectId.channel 0 trx)).Nodup := by
    refine List.nodup_flatMap.mpr ⟨fun trx _ => one trx, ?_⟩
    refine List.nodup_range.imp fun {trx trx'} ne => ?_
    simp only [Function.onFun, List.disjoint_left]
    intro id first second
    simp at first second
    rcases first with rfl | rfl | ⟨ts, _, rfl⟩ <;> simp_all
  simp only [siteIds, List.cons_append, List.nil_append, List.nodup_cons]
  simpa using transceivers

namespace Tree

def Shaped (numTrx : Nat) (tree : Tree) : Prop := ∀ id, tree.contains id = true ↔ id ∈ siteIds numTrx

variable {numTrx : Nat} {tree tree' : Tree}

theorem Shaped.congr (shaped : tree.Shaped numTrx) (same : ∀ id, tree'.contains id = tree.contains id) :
    tree'.Shaped numTrx := by
  intro id
  rw [same]
  exact shaped id

theorem contains_radioCarrier (tree : Tree) (trx : Nat) :
    tree.contains (.radioCarrier 0 trx) = true ↔ trx < tree.transceivers.length := by
  simp [contains, get?, transceiver?]

theorem Shaped.length_transceivers (shaped : tree.Shaped numTrx) : tree.transceivers.length = numTrx := by
  have same (trx : Nat) : trx < tree.transceivers.length ↔ trx < numTrx := by
    rw [← contains_radioCarrier, shaped]
    simp [siteIds]
  have low := same tree.transceivers.length
  have high := same numTrx
  omega

theorem Shaped.length_channels (shaped : tree.Shaped numTrx) {trx : Nat} {t : Transceiver}
    (found : tree.transceiver? 0 trx = some t) : t.channels.length = ObjectId.slots := by
  have place : trx < numTrx := by
    rw [← shaped.length_transceivers]
    exact (List.getElem?_eq_some_iff.mp (transceiver?_some found).2).1
  have same (ts : Nat) : ts < t.channels.length ↔ ts < ObjectId.slots := by
    have here : tree.contains (.channel 0 trx ts) = true ↔ ts < t.channels.length := by
      simp [contains, get?, found]
    rw [← here, shaped]
    simp [siteIds, place]
  have low := same t.channels.length
  have high := same ObjectId.slots
  omega

theorem Shaped.channelIds (shaped : tree.Shaped numTrx) {trx : Nat} (place : trx < numTrx) :
    tree.channelIds 0 trx = (List.range ObjectId.slots).map (.channel 0 trx) := by
  rw [← shaped.length_transceivers] at place
  have found : tree.transceiver? 0 trx = some tree.transceivers[trx] := by
    simp [transceiver?, place]
  rw [Tree.channelIds, found, ← shaped.length_channels found]

theorem Shaped.transceiverIds (shaped : tree.Shaped numTrx) :
    tree.transceiverIds 0 = (List.range numTrx).flatMap fun trx =>
      [.radioCarrier 0 trx, .basebandTransceiver 0 trx] := by
  rw [Tree.transceiverIds, Tree.numTrx, if_pos rfl, shaped.length_transceivers]

theorem Shaped.fresh (numTrx : Nat) (need dummy : Bool) : (Tree.fresh numTrx need dummy).Shaped numTrx := by
  intro id
  cases id with
  | siteManager | gprsNse => simp [contains, get?, siteIds]
  | bts b => by_cases first : b = 0 <;> simp [contains, get?, siteIds, first]
  | radioCarrier b trx | basebandTransceiver b trx =>
    by_cases first : b = 0 <;>
      simp [contains, get?, transceiver?, siteIds, Tree.fresh, first, List.getElem?_replicate]
  | channel b trx ts =>
    by_cases first : b = 0
    · by_cases place : trx < numTrx <;>
        simp [contains, get?, transceiver?, siteIds, Tree.fresh, Transceiver.fresh, first, place,
          List.getElem?_replicate]
    · have away : ¬ 0 = b := Ne.symm first
      simp [contains, get?, transceiver?, siteIds, first, away]

end Tree

namespace Manager

variable {manager : Manager} {flags : LinkFlags} {effect : Effect Manager}

/-- No object comes or goes, whatever a manager receives. -/
theorem receive_contains {message : Message} (received : manager.receive flags message = .ok effect)
    (id : ObjectId) : effect.state.tree.contains id = manager.tree.contains id := by
  cases receive_leads received with
  | evolves after => exact after.contains id
  | relinks relinks told after =>
    rw [after.contains, (tellTransceiver_evolves told).contains]
    exact congrArg Option.isSome (Tree.get?_modifyTransceiver_links relinks.keep id)
  | tearsDown torn after =>
    rw [after.contains, (tearDown_evolves torn).contains]
    exact congrArg Option.isSome (Tree.get?_dropRsl manager.tree id)

theorem Run.contains {start : Manager} {sent : List Primitive} (run : Run start sent manager)
    (id : ObjectId) : manager.tree.contains id = start.tree.contains id := by
  induction run with
  | start => rfl
  | receive flags message _ received ih => exact (receive_contains received id).trans ih

theorem Fresh.shaped (fresh : Fresh manager) : ∃ numTrx, manager.tree.Shaped numTrx := by
  obtain ⟨config, hardware, tracing, rfl⟩ := fresh
  exact ⟨_, .fresh config.bts.numTrx.toNat _ _⟩

theorem Reachable.shaped (reachable : Reachable manager) :
    manager.tree.Shaped manager.tree.transceivers.length := by
  obtain ⟨start, sent, fresh, run⟩ := reachable
  obtain ⟨numTrx, begins⟩ := fresh.shaped
  have shaped : manager.tree.Shaped numTrx := begins.congr run.contains
  rw [shaped.length_transceivers]
  exact shaped

end Manager

end BaseStation
