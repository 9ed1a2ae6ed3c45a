import BaseStation.Proofs.Management.Dealings

namespace BaseStation

open Management

def ObjectId.transceiver? : ObjectId → Option (Nat × Nat)
  | .siteManager | .gprsNse | .bts _ => none
  | .radioCarrier b trx | .basebandTransceiver b trx | .channel b trx _ => some (b, trx)

/-- The transceiver that a primitive of object management concerns, if it concerns one alone. -/
def Primitive.transceiver? : Primitive → Option (Nat × Nat)
  | .request asked => asked.id.transceiver?
  | .link control => control.trx?.map fun trx => (0, trx)
  | .report told => told.id.transceiver?
  | .releaseTimeslot trx _ => some (0, trx)
  | _ => none

namespace Tree

variable {tree : Tree} {bts trx : Nat}

theorem transceiver?_put_of_ne {id : ObjectId} (object : ManagedObject)
    (apart : id.transceiver? ≠ some (bts, trx)) :
    (tree.put id object).transceiver? bts trx = tree.transceiver? bts trx := by
  have inner {b t : Nat} (f : Transceiver → Transceiver) (ne : some (b, t) ≠ some (bts, trx)) :
      (tree.modifyTransceiver b t f).transceiver? bts trx = tree.transceiver? bts trx := by
    refine transceiver?_modifyTransceiver_of_ne tree f (Decidable.not_and_iff_not_or_not.mp fun same => ne ?_)
    rw [same.1, same.2]
  cases id with
  | siteManager | gprsNse => rfl
  | bts b => by_cases first : b = 0 <;> simp [put, modify, transceiver?, first]
  | radioCarrier b t | basebandTransceiver b t | channel b t ts => exact inner _ apart

theorem transceiver?_relinked_of_ne {primitive : Primitive} {place : Nat × Nat}
    (concerns : primitive.transceiver? = some place) (ne : (bts, trx) ≠ place) :
    (tree.relinked primitive).transceiver? bts trx = tree.transceiver? bts trx := by
  have inner {t : Nat} (f : Transceiver → Transceiver) (same : some (0, t) = some place) :
      (tree.modifyTransceiver 0 t f).transceiver? bts trx = tree.transceiver? bts trx := by
    cases same
    refine transceiver?_modifyTransceiver_of_ne tree f (Decidable.not_and_iff_not_or_not.mp fun same => ne ?_)
    rw [same.1, same.2]
  unfold relinked
  split
  · exact inner _ concerns
  · exact inner _ concerns
  · exact inner _ concerns
  · cases concerns
  · rfl

end Tree

namespace Management

/-- Nothing but one transceiver has changed, and what was said meanwhile concerns it. -/
structure Confined (place : Nat × Nat) (site site' : Site) : Prop where
  objects : ∀ id, id.transceiver? ≠ some place → site'.tree.get? id = site.tree.get? id
  transceivers : ∀ bts trx, (bts, trx) ≠ place →
    site'.tree.transceiver? bts trx = site.tree.transceiver? bts trx
  said : ∃ said, site'.outputs = site.outputs ++ said ∧
    ∀ primitive ∈ said, primitive.transceiver? = some place

variable {place : Nat × Nat} {may : ObjectId → ManagedObject → Prop} {site site' : Site}

theorem confined_chains (place : Nat × Nat) : Chains (Confined place) where
  refl site := ⟨fun _ _ => rfl, fun _ _ _ => rfl, [], (List.append_nil _).symm,
    fun _ mem => absurd mem List.not_mem_nil⟩
  trans := by
    intro site middle site' first last
    obtain ⟨said, before, own⟩ := first.said
    obtain ⟨said', after, own'⟩ := last.said
    refine ⟨?_, ?_, said ++ said', ?_, List.forall_mem_append.mpr ⟨own, own'⟩⟩
    · exact fun id apart => (last.objects id apart).trans (first.objects id apart)
    · exact fun bts trx ne => (last.transceivers bts trx ne).trans (first.transceivers bts trx ne)
    · rw [after, before, List.append_assoc]

theorem closed_transceiver (place : Nat × Nat) : Closed fun id => id.transceiver? = some place := by
  intro id other own informs
  cases informs with
  | siteNse | siteBts | nse _ | carrier _ _ | baseband _ _ => cases own
  | carrierChannel _ _ _ | basebandChannel _ _ _ => exact own

theorem transceiver?_of_tellsOf {id : ObjectId} {object : ManagedObject} {primitive : Primitive}
    (found : site.tree.get? id = some object) (own : id.transceiver? = some place)
    (tells : primitive.TellsOf id) : primitive.transceiver? = some place := by
  cases primitive with
  | report told =>
    have same : told.id = id := tells
    rw [← own, ← same]
    rfl
  | releaseTimeslot trx ts =>
    obtain ⟨bts, rfl⟩ := tells
    simp only [Tree.get?, Option.bind_eq_some_iff] at found
    obtain ⟨t, found, _⟩ := found
    rw [← own, (Tree.transceiver?_some found).1]
    rfl
  | _ => cases tells

theorem Act.confined (act : Act (fun id => id.transceiver? = some place) may site site') :
    Confined place site site' := by
  cases act with
  | beside tree outputs _ _ =>
    refine ⟨fun _ _ => by rw [tree], fun _ _ _ => by rw [tree], [], ?_, fun _ mem => absurd mem List.not_mem_nil⟩
    rw [outputs, List.append_nil]
  | @deed id object object' log raised own found deed tree outputs _ _ =>
    refine ⟨fun other apart => ?_, fun bts trx ne => ?_, primitives log, outputs, fun primitive mem => ?_⟩
    · have ne : id ≠ other := fun same => apart (same ▸ own)
      rw [tree, Tree.get?_put_of_ne _ _ ne]
    · rw [tree]
      refine Tree.transceiver?_put_of_ne _ fun same => ne ?_
      exact Option.some.inj (same.symm.trans own)
    · exact transceiver?_of_tellsOf found own (deed.isOf _ (said_of_mem_primitives mem))

end Management

namespace Manager

variable {manager : Manager} {flags : LinkFlags} {effect : Effect Manager} {place : Nat × Nat}

theorem transceiver?_of_mem_addressees {primitive : Primitive} (concerns : primitive.transceiver? = some place) :
    ∀ id ∈ primitive.addressees, id.transceiver? = some place := by
  intro id mem
  cases primitive with
  | request asked =>
    rw [List.mem_singleton.mp mem]
    exact concerns
  | link control =>
    cases control with
    | omlLinkUp | abisLinkFailed => cases concerns
    | phyLinkUp trx | phyLinkDown trx | rslLinkUp trx =>
      simp only [Primitive.addressees, List.mem_cons, List.not_mem_nil, or_false] at mem
      rcases mem with rfl | rfl <;> exact concerns
  | _ => exact absurd mem List.not_mem_nil

/-- A message that concerns one transceiver leaves all objects outside of it as they are, and every other
transceiver with its links. Whatever is sent on account of it concerns the same transceiver. -/
theorem receive_confined {message : Message} (concerns : message.primitive.transceiver? = some place)
    (received : manager.receive flags message = .ok effect) :
    (∀ id, id.transceiver? ≠ some place → effect.state.tree.get? id = manager.tree.get? id) ∧
      (∀ bts trx, (bts, trx) ≠ place →
        effect.state.tree.transceiver? bts trx = manager.tree.transceiver? bts trx) ∧
      ∀ sent ∈ effect.sent, sent.primitive.transceiver? = some place := by
  have own := transceiver?_of_mem_addressees concerns
  have sent (all : ∀ primitive ∈ effect.sent.map (·.primitive), primitive.transceiver? = some place) :
      ∀ sent ∈ effect.sent, sent.primitive.transceiver? = some place :=
    fun sent mem => all _ (List.mem_map_of_mem mem)
  cases receive_deals (closed_transceiver place) own received with
  | ignores same silent =>
    rw [same, silent]
    exact ⟨fun _ _ => rfl, fun _ _ _ => rfl, fun _ mem => absurd mem List.not_mem_nil⟩
  | refuses concerned _ same refused =>
    rw [same]
    refine ⟨fun _ _ => rfl, fun _ _ _ => rfl, sent ?_⟩
    rw [refused]
    exact List.forall_mem_singleton.mpr concerned
  | acts deeds leaves =>
    have confined := deeds.brings (confined_chains place) fun _ _ act => act.confined
    obtain ⟨said, outputs, about⟩ := confined.said
    refine ⟨fun id apart => ?_, fun bts trx ne => ?_, sent ?_⟩
    · rw [leaves.tree, confined.objects id apart]
      exact Tree.get?_relinked _ _ id
    · rw [leaves.tree, confined.transceivers bts trx ne]
      exact Tree.transceiver?_relinked_of_ne concerns ne
    · rw [leaves.sent, outputs]
      exact about

theorem receive_confined_second : ∃ effect object,
    (ofConfig { SiteConfig.ofHosts ["bsc"] with bts := { BtsConfig.default with numTrx := 2 } }
      (.fresh 2)).receive .initial (.ofPrimitive ⟨0⟩ (.link (.phyLinkUp 1))) = .ok effect ∧
      effect.state.tree.get? (.channel 0 1 3) = some object ∧ object.phase = .dependency ∧
      effect.state.tree.get? (.channel 0 0 3) = some .fresh := by
  have received : ∃ effect object,
      (ofConfig { SiteConfig.ofHosts ["bsc"] with bts := { BtsConfig.default with numTrx := 2 } }
        (.fresh 2)).receive .initial (.ofPrimitive ⟨0⟩ (.link (.phyLinkUp 1))) = .ok effect ∧
        effect.state.tree.get? (.channel 0 1 3) = some object ∧ object.phase = .dependency :=
    ⟨_, _, rfl, rfl, rfl⟩
  obtain ⟨effect, object, received, found, waits⟩ := received
  have concerns : (Primitive.link (.phyLinkUp 1)).transceiver? = some (0, 1) := rfl
  obtain ⟨objects, _, _⟩ := receive_confined concerns received
  exact ⟨effect, object, received, found, waits, objects (.channel 0 0 3) (by decide)⟩

end Manager

end BaseStation
