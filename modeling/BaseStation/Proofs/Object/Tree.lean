import BaseStation.Object.Tree

namespace BaseStation

theorem modify_congr_at {α : Type} {l : List α} {i : Nat} {a : α} {f g : α → α}
    (found : l[i]? = some a) (same : f a = g a) : l.modify i f = l.modify i g := by
  apply List.ext_getElem?
  intro j
  by_cases eq : i = j
  · subst eq
    simp [found, same]
  · simp [eq]

namespace Tree

theorem transceiver?_some {tree : Tree} {bts trx : Nat} {t : Transceiver}
    (found : tree.transceiver? bts trx = some t) : bts = 0 ∧ tree.transceivers[trx]? = some t := by
  unfold transceiver? at found
  split at found
  · exact ⟨by assumption, found⟩
  · cases found

theorem modifyTransceiver_congr {tree : Tree} {bts trx : Nat} {t : Transceiver}
    {f g : Transceiver → Transceiver} (found : tree.transceiver? bts trx = some t) (same : f t = g t) :
    tree.modifyTransceiver bts trx f = tree.modifyTransceiver bts trx g := by
  obtain ⟨first, found⟩ := transceiver?_some found
  simp [modifyTransceiver, first, modify_congr_at found same]

theorem modifyTransceiver_of_none {tree : Tree} {bts trx : Nat} {f : Transceiver → Transceiver}
    (absent : tree.transceiver? bts trx = none) : tree.modifyTransceiver bts trx f = tree := by
  by_cases first : bts = 0
  · subst first
    have beyond : tree.transceivers.length ≤ trx := List.getElem?_eq_none_iff.mp absent
    simp [modifyTransceiver, List.modify_eq_self beyond]
  · simp [modifyTransceiver, first]

theorem modifyTransceiver_modifyTransceiver (tree : Tree) (bts trx : Nat)
    (f g : Transceiver → Transceiver) :
    (tree.modifyTransceiver bts trx f).modifyTransceiver bts trx g =
      tree.modifyTransceiver bts trx (g ∘ f) := by
  by_cases first : bts = 0 <;> simp [modifyTransceiver, first, List.modify_modify_eq]

def putTransceiver (tree : Tree) (bts trx : Nat) (t : Transceiver) : Tree :=
  tree.modifyTransceiver bts trx fun _ => t

def put (tree : Tree) (id : ObjectId) (object : ManagedObject) : Tree := tree.modify id fun _ => object

@[simp] theorem putTransceiver_putTransceiver (tree : Tree) (bts trx : Nat) (t t' : Transceiver) :
    (tree.putTransceiver bts trx t).putTransceiver bts trx t' = tree.putTransceiver bts trx t' :=
  modifyTransceiver_modifyTransceiver ..

theorem transceiver?_putTransceiver_self {tree : Tree} {bts trx : Nat} {t : Transceiver}
    (t' : Transceiver) (found : tree.transceiver? bts trx = some t) :
    (tree.putTransceiver bts trx t').transceiver? bts trx = some t' := by
  rw [putTransceiver, transceiver?_modifyTransceiver_self, found]
  rfl

theorem putTransceiver_self {tree : Tree} {bts trx : Nat} {t : Transceiver}
    (found : tree.transceiver? bts trx = some t) : tree.putTransceiver bts trx t = tree := by
  have same : tree.putTransceiver bts trx t = tree.modifyTransceiver bts trx id :=
    modifyTransceiver_congr found rfl
  rw [same]
  by_cases first : bts = 0 <;> simp [modifyTransceiver, first]

theorem modify_eq_put {tree : Tree} {id : ObjectId} {object : ManagedObject}
    (f : ManagedObject → ManagedObject) (found : tree.get? id = some object) :
    tree.modify id f = tree.put id (f object) := by
  cases id with
  | siteManager | gprsNse => cases found; rfl
  | bts b =>
    by_cases first : b = 0
    · simp [get?, first] at found
      simp [put, modify, first, found]
    · simp [get?, first] at found
  | radioCarrier b trx | basebandTransceiver b trx =>
    simp only [get?, Option.map_eq_some_iff] at found
    obtain ⟨t, found, rfl⟩ := found
    exact modifyTransceiver_congr found rfl
  | channel b trx ts =>
    simp only [get?, Option.bind_eq_some_iff] at found
    obtain ⟨t, found, slot⟩ := found
    refine modifyTransceiver_congr found ?_
    simp only [modify_congr_at slot (f := f) (g := fun _ => f object) rfl]

theorem put_self {tree : Tree} {id : ObjectId} {object : ManagedObject}
    (found : tree.get? id = some object) : tree.put id object = tree := by
  cases id with
  | siteManager | gprsNse => cases found; rfl
  | bts b =>
    by_cases first : b = 0
    · simp [get?, first] at found
      simp [put, modify, first, ← found]
    · simp [put, modify, first]
  | radioCarrier b trx | basebandTransceiver b trx =>
    simp only [get?, Option.map_eq_some_iff] at found
    obtain ⟨t, found, rfl⟩ := found
    exact (modifyTransceiver_congr (g := fun _ => t) found rfl).trans (putTransceiver_self found)
  | channel b trx ts =>
    simp only [get?, Option.bind_eq_some_iff] at found
    obtain ⟨t, found, slot⟩ := found
    refine (modifyTransceiver_congr (g := fun _ => t) found ?_).trans (putTransceiver_self found)
    simp only [modify_congr_at slot (f := fun _ => object) (g := id) rfl, List.modify_id]

theorem modify_of_absent {tree : Tree} {id : ObjectId} (f : ManagedObject → ManagedObject)
    (absent : tree.get? id = none) : tree.modify id f = tree := by
  cases id with
  | siteManager | gprsNse => cases absent
  | bts b =>
    by_cases first : b = 0
    · simp [get?, first] at absent
    · simp [modify, first]
  | radioCarrier b trx | basebandTransceiver b trx =>
    exact modifyTransceiver_of_none (Option.map_eq_none_iff.mp absent)
  | channel b trx ts =>
    cases found : tree.transceiver? b trx with
    | none => exact modifyTransceiver_of_none found
    | some t =>
      have beyond : t.channels[ts]? = none := by simpa [get?, found] using absent
      refine (modifyTransceiver_congr (g := fun _ => t) found ?_).trans (putTransceiver_self found)
      simp only [List.modify_eq_self (List.getElem?_eq_none_iff.mp beyond)]

@[simp] theorem put_put (tree : Tree) (id : ObjectId) (object object' : ManagedObject) :
    (tree.put id object).put id object' = tree.put id object' := by
  cases id with
  | siteManager | gprsNse => rfl
  | bts b => by_cases first : b = 0 <;> simp [put, modify, first]
  | radioCarrier b trx | basebandTransceiver b trx =>
    exact modifyTransceiver_modifyTransceiver ..
  | channel b trx ts =>
    refine (modifyTransceiver_modifyTransceiver ..).trans ?_
    simp [put, modify, Function.comp_def, List.modify_modify_eq]

theorem get?_put_self {tree : Tree} {id : ObjectId} {object : ManagedObject} (object' : ManagedObject)
    (found : tree.get? id = some object) : (tree.put id object').get? id = some object' := by
  rw [put, get?_modify_self, found]
  rfl

theorem get?_put_of_ne (tree : Tree) {id other : ObjectId} (object : ManagedObject)
    (ne : id ≠ other) : (tree.put id object).get? other = tree.get? other :=
  get?_modify_of_ne tree _ ne

theorem put_radioCarrier {tree : Tree} {bts trx : Nat} {t : Transceiver}
    (found : tree.transceiver? bts trx = some t) (object : ManagedObject) :
    tree.put (.radioCarrier bts trx) object =
      tree.putTransceiver bts trx { t with carrier := object } :=
  modifyTransceiver_congr found rfl

theorem put_basebandTransceiver {tree : Tree} {bts trx : Nat} {t : Transceiver}
    (found : tree.transceiver? bts trx = some t) (object : ManagedObject) :
    tree.put (.basebandTransceiver bts trx) object =
      tree.putTransceiver bts trx { t with baseband := object } :=
  modifyTransceiver_congr found rfl

theorem put_channel {tree : Tree} {bts trx : Nat} {t : Transceiver}
    (found : tree.transceiver? bts trx = some t) (ts : Nat) (object : ManagedObject) :
    tree.put (.channel bts trx ts) object =
      tree.putTransceiver bts trx { t with channels := t.channels.modify ts fun _ => object } :=
  modifyTransceiver_congr found rfl

section links

variable {tree : Tree} {bts trx : Nat} {t : Transceiver}

@[simp] theorem dummyLinks_modifyTransceiver (tree : Tree) (bts trx : Nat) (f : Transceiver → Transceiver) :
    (tree.modifyTransceiver bts trx f).dummyLinks = tree.dummyLinks := by
  by_cases first : bts = 0 <;> simp [modifyTransceiver, first]

theorem links_of_found (found : tree.transceiver? bts trx = some t) :
    tree.links bts trx = (t.rslUp || tree.dummyLinks, t.phyUp || tree.dummyLinks) := by
  rw [links, found]

theorem links_modifyTransceiver_self (f : Transceiver → Transceiver)
    (found : tree.transceiver? bts trx = some t) :
    (tree.modifyTransceiver bts trx f).links bts trx =
      ((f t).rslUp || tree.dummyLinks, (f t).phyUp || tree.dummyLinks) := by
  rw [links, dummyLinks_modifyTransceiver, transceiver?_modifyTransceiver_self, found]
  rfl

theorem links_modifyTransceiver_of_ne (tree : Tree) {b trx b' trx' : Nat} (f : Transceiver → Transceiver)
    (ne : b ≠ b' ∨ trx ≠ trx') :
    (tree.modifyTransceiver b trx f).links b' trx' = tree.links b' trx' := by
  rw [links, links, dummyLinks_modifyTransceiver, transceiver?_modifyTransceiver_of_ne tree f ne]

end links

theorem links_modifyTransceiver (tree : Tree) (b trx b' trx' : Nat) {f : Transceiver → Transceiver}
    (keep : ∀ t, (f t).rslUp = t.rslUp ∧ (f t).phyUp = t.phyUp) :
    (tree.modifyTransceiver b trx f).links b' trx' = tree.links b' trx' := by
  by_cases same : b = b' ∧ trx = trx'
  · obtain ⟨rfl, rfl⟩ := same
    cases found : tree.transceiver? b trx with
    | none => simp [links, transceiver?_modifyTransceiver_self, found]
    | some t => rw [links_modifyTransceiver_self f found, links_of_found found, (keep t).1, (keep t).2]
  · exact links_modifyTransceiver_of_ne tree f (Decidable.not_and_iff_not_or_not.mp same)

theorem links_modify (tree : Tree) (id : ObjectId) (f : ManagedObject → ManagedObject) (b trx : Nat) :
    (tree.modify id f).links b trx = tree.links b trx := by
  cases id with
  | siteManager | gprsNse => rfl
  | bts b' => by_cases first : b' = 0 <;> simp [modify, first, links, transceiver?]
  | radioCarrier b' trx' | basebandTransceiver b' trx' | channel b' trx' ts' =>
    exact links_modifyTransceiver tree _ _ _ _ fun _ => ⟨rfl, rfl⟩

end Tree

end BaseStation
