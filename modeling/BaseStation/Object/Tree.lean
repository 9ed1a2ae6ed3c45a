import BaseStation.Object.Machine
import BaseStation.Object.State

namespace BaseStation

structure ManagedObject where
  phase : Phase
  published : ObjectState
  attributesSet : Bool
  started : Bool
  /-- What was applied since the object was installed. -/
  attributes : Option Attributes
  deriving DecidableEq, Repr

namespace ManagedObject

def fresh : ManagedObject := ⟨.notInstalled, .initial, false, false, none⟩

instance : Inhabited ManagedObject := ⟨fresh⟩

def isEnabled (object : ManagedObject) : Bool := object.published.operational == .enabled

def withAttributes (object : ManagedObject) (new : Attributes) : ManagedObject :=
  { object with attributes := some ((object.attributes.getD .empty).merge new) }

end ManagedObject

structure Transceiver where
  carrier : ManagedObject
  baseband : ManagedObject
  channels : List ManagedObject
  rslUp : Bool
  phyUp : Bool
  deriving DecidableEq, Repr

def Transceiver.fresh : Transceiver :=
  ⟨.fresh, .fresh, List.replicate ObjectId.slots .fresh, false, false⟩

structure Tree where
  siteManager : ManagedObject
  gprsNse : ManagedObject
  bts : ManagedObject
  transceivers : List Transceiver
  channelsNeedCarrier : Bool
  dummyLinks : Bool
  deriving DecidableEq, Repr

namespace Tree

def fresh (numTrx : Nat) (channelsNeedCarrier dummyLinks : Bool) : Tree where
  siteManager := .fresh
  gprsNse := .fresh
  bts := .fresh
  transceivers := List.replicate numTrx .fresh
  channelsNeedCarrier := channelsNeedCarrier
  dummyLinks := dummyLinks

def transceiver? (tree : Tree) (bts trx : Nat) : Option Transceiver :=
  if bts = 0 then tree.transceivers[trx]? else none

def get? (tree : Tree) : ObjectId → Option ManagedObject
  | .siteManager => some tree.siteManager
  | .gprsNse => some tree.gprsNse
  | .bts b => if b = 0 then some tree.bts else none
  | .radioCarrier b trx => (tree.transceiver? b trx).map (·.carrier)
  | .basebandTransceiver b trx => (tree.transceiver? b trx).map (·.baseband)
  | .channel b trx ts => (tree.transceiver? b trx).bind (·.channels[ts]?)

def contains (tree : Tree) (id : ObjectId) : Bool := (tree.get? id).isSome

def modifyTransceiver (tree : Tree) (bts trx : Nat) (f : Transceiver → Transceiver) : Tree :=
  if bts = 0 then { tree with transceivers := tree.transceivers.modify trx f } else tree

/-- Changes an object; a tree without it stays as it is. -/
def modify (tree : Tree) (id : ObjectId) (f : ManagedObject → ManagedObject) : Tree :=
  match id with
  | .siteManager => { tree with siteManager := f tree.siteManager }
  | .gprsNse => { tree with gprsNse := f tree.gprsNse }
  | .bts b => if b = 0 then { tree with bts := f tree.bts } else tree
  | .radioCarrier b trx =>
    tree.modifyTransceiver b trx fun t => { t with carrier := f t.carrier }
  | .basebandTransceiver b trx =>
    tree.modifyTransceiver b trx fun t => { t with baseband := f t.baseband }
  | .channel b trx ts =>
    tree.modifyTransceiver b trx fun t => { t with channels := t.channels.modify ts f }

def numTrx (tree : Tree) (bts : Nat) : Nat := if bts = 0 then tree.transceivers.length else 0

def channelIds (tree : Tree) (bts trx : Nat) : List ObjectId :=
  match tree.transceiver? bts trx with
  | none => []
  | some t => (List.range t.channels.length).map fun ts => .channel bts trx ts

def transceiverIds (tree : Tree) (bts : Nat) : List ObjectId :=
  (List.range (tree.numTrx bts)).flatMap fun trx =>
    [.radioCarrier bts trx, .basebandTransceiver bts trx]

def siteChildren (_ : Tree) : List ObjectId := [.gprsNse, .bts 0]

/-- A channel may start once its transceiver can carry traffic. -/
def channelsCanStart (tree : Tree) (bts trx : Nat) : Bool :=
  match tree.transceiver? bts trx with
  | none => false
  | some t => t.baseband.isEnabled && (!tree.channelsNeedCarrier || t.carrier.isEnabled)

def links (tree : Tree) (bts trx : Nat) : Bool × Bool :=
  match tree.transceiver? bts trx with
  | none => (false, false)
  | some t => (t.rslUp || tree.dummyLinks, t.phyUp || tree.dummyLinks)

def setRsl (tree : Tree) (bts trx : Nat) (up : Bool) : Tree :=
  tree.modifyTransceiver bts trx fun t => { t with rslUp := up }

def setPhy (tree : Tree) (bts trx : Nat) (up : Bool) : Tree :=
  tree.modifyTransceiver bts trx fun t => { t with phyUp := up }

def dropRsl (tree : Tree) : Tree :=
  { tree with transceivers := tree.transceivers.map fun t => { t with rslUp := false } }

def ids (tree : Tree) : List ObjectId :=
  [.siteManager, .gprsNse, .bts 0] ++ (List.range (tree.numTrx 0)).flatMap fun trx =>
    [.radioCarrier 0 trx, .basebandTransceiver 0 trx] ++ tree.channelIds 0 trx

theorem transceiver?_modifyTransceiver_self (tree : Tree) (bts trx : Nat)
    (f : Transceiver → Transceiver) :
    (tree.modifyTransceiver bts trx f).transceiver? bts trx = (tree.transceiver? bts trx).map f := by
  by_cases h : bts = 0 <;> simp [modifyTransceiver, transceiver?, h]

theorem transceiver?_modifyTransceiver_of_ne (tree : Tree) {b trx b' trx' : Nat}
    (f : Transceiver → Transceiver) (ne : b ≠ b' ∨ trx ≠ trx') :
    (tree.modifyTransceiver b trx f).transceiver? b' trx' = tree.transceiver? b' trx' := by
  by_cases h : b = 0 <;> by_cases h' : b' = 0 <;> simp [modifyTransceiver, transceiver?, h, h']
  have : trx ≠ trx' := by
    rcases ne with ne | ne
    · exact absurd (h.trans h'.symm) ne
    · exact ne
  simp [this]

theorem get?_modify_self (tree : Tree) (id : ObjectId) (f : ManagedObject → ManagedObject) :
    (tree.modify id f).get? id = (tree.get? id).map f := by
  cases id with
  | siteManager | gprsNse => rfl
  | bts b => by_cases h : b = 0 <;> simp [modify, get?, h]
  | radioCarrier b trx | basebandTransceiver b trx =>
    simp only [modify, get?, transceiver?_modifyTransceiver_self]
    cases tree.transceiver? b trx <;> rfl
  | channel b trx ts =>
    simp only [modify, get?, transceiver?_modifyTransceiver_self]
    cases tree.transceiver? b trx <;> simp

theorem get?_modifyTransceiver_outer (tree : Tree) (b trx : Nat) (f : Transceiver → Transceiver) :
    (tree.modifyTransceiver b trx f).get? .siteManager = tree.get? .siteManager ∧
      (tree.modifyTransceiver b trx f).get? .gprsNse = tree.get? .gprsNse ∧
      ∀ b', (tree.modifyTransceiver b trx f).get? (.bts b') = tree.get? (.bts b') := by
  by_cases h : b = 0 <;> simp [modifyTransceiver, get?, h]

theorem get?_modify_of_ne (tree : Tree) {id other : ObjectId} (f : ManagedObject → ManagedObject)
    (ne : id ≠ other) : (tree.modify id f).get? other = tree.get? other := by
  have trxCase : ∀ (b trx b' trx' : Nat) (g : Transceiver → Transceiver) {α : Type}
      (view : Option Transceiver → α),
      ((b = b' ∧ trx = trx') → ∀ t, view (some (g t)) = view (some t)) →
      view ((tree.modifyTransceiver b trx g).transceiver? b' trx') =
        view (tree.transceiver? b' trx') := by
    intro b trx b' trx' g α view same
    by_cases eq : b = b' ∧ trx = trx'
    · obtain ⟨rfl, rfl⟩ := eq
      rw [transceiver?_modifyTransceiver_self]
      cases tree.transceiver? b trx with
      | none => rfl
      | some t => exact same ⟨rfl, rfl⟩ t
    · rw [transceiver?_modifyTransceiver_of_ne]
      by_cases hb : b = b'
      · exact .inr fun ht => eq ⟨hb, ht⟩
      · exact .inl hb
  cases id with
  | siteManager => cases other <;> first | exact absurd rfl ne | rfl
  | gprsNse => cases other <;> first | exact absurd rfl ne | rfl
  | bts b =>
    by_cases h : b = 0
    · cases other with
      | bts b' =>
        have : b' ≠ 0 := fun h' => ne (by rw [h, h'])
        simp [get?, this]
      | _ => simp [modify, get?, h, transceiver?]
    · simp [modify, h]
  | radioCarrier b trx =>
    cases other with
    | siteManager => exact (get?_modifyTransceiver_outer tree b trx _).1
    | gprsNse => exact (get?_modifyTransceiver_outer tree b trx _).2.1
    | bts b' => exact (get?_modifyTransceiver_outer tree b trx _).2.2 b'
    | radioCarrier b' trx' =>
      exact trxCase b trx b' trx' _ (Option.map (·.carrier)) fun eq => absurd (by rw [eq.1, eq.2]) ne
    | basebandTransceiver b' trx' =>
      exact trxCase b trx b' trx' _ (Option.map (·.baseband)) fun _ _ => rfl
    | channel b' trx' ts' =>
      exact trxCase b trx b' trx' _ (Option.bind · (·.channels[ts']?)) fun _ _ => rfl
  | basebandTransceiver b trx =>
    cases other with
    | siteManager => exact (get?_modifyTransceiver_outer tree b trx _).1
    | gprsNse => exact (get?_modifyTransceiver_outer tree b trx _).2.1
    | bts b' => exact (get?_modifyTransceiver_outer tree b trx _).2.2 b'
    | radioCarrier b' trx' =>
      exact trxCase b trx b' trx' _ (Option.map (·.carrier)) fun _ _ => rfl
    | basebandTransceiver b' trx' =>
      exact trxCase b trx b' trx' _ (Option.map (·.baseband)) fun eq => absurd (by rw [eq.1, eq.2]) ne
    | channel b' trx' ts' =>
      exact trxCase b trx b' trx' _ (Option.bind · (·.channels[ts']?)) fun _ _ => rfl
  | channel b trx ts =>
    cases other with
    | siteManager => exact (get?_modifyTransceiver_outer tree b trx _).1
    | gprsNse => exact (get?_modifyTransceiver_outer tree b trx _).2.1
    | bts b' => exact (get?_modifyTransceiver_outer tree b trx _).2.2 b'
    | radioCarrier b' trx' =>
      exact trxCase b trx b' trx' _ (Option.map (·.carrier)) fun _ _ => rfl
    | basebandTransceiver b' trx' =>
      exact trxCase b trx b' trx' _ (Option.map (·.baseband)) fun _ _ => rfl
    | channel b' trx' ts' =>
      refine trxCase b trx b' trx' _ (Option.bind · (·.channels[ts']?)) fun eq t => ?_
      have : ts ≠ ts' := fun h => ne (by rw [eq.1, eq.2, h])
      simp [this]

theorem contains_modify (tree : Tree) (id other : ObjectId) (f : ManagedObject → ManagedObject) :
    (tree.modify id f).contains other = tree.contains other := by
  unfold contains
  by_cases eq : id = other
  · subst eq; rw [get?_modify_self]; cases tree.get? id <;> rfl
  · rw [get?_modify_of_ne tree f eq]

end Tree

end BaseStation
