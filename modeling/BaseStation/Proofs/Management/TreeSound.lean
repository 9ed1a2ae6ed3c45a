import BaseStation.Proofs.Management.TransceiverEvents

namespace BaseStation

open Management

namespace Tree

structure Sound (tree : Tree) : Prop where
  siteManager : tree.siteManager.Sound .siteManager
  gprsNse : tree.gprsNse.Sound .gprsNse
  bts : tree.bts.Sound .bts
  uninstalled : tree.siteManager.phase = .notInstalled →
    tree.gprsNse.phase = .notInstalled ∧ tree.bts.phase = .notInstalled
  waiting : tree.gprsNse.phase = .dependency → tree.bts.phase ≠ .enabled
  serving : tree.gprsNse.phase = .offline ∨ tree.gprsNse.phase = .enabled → tree.bts.phase = .enabled
  transceivers : ∀ t ∈ tree.transceivers, t.Sound tree.channelsNeedCarrier

variable {tree tree' : Tree} {bts trx : Nat} {t t' : Transceiver} {p : Half} {event : Event}

def Within (tree tree' : Tree) : Prop :=
  ∃ ts : List Transceiver, tree' = { tree with transceivers := ts } ∧
    ts.length = tree.transceivers.length

theorem Within.refl (tree : Tree) : Within tree tree := ⟨tree.transceivers, rfl, rfl⟩

theorem Within.trans {a b c : Tree} (first : Within a b) (last : Within b c) : Within a c := by
  obtain ⟨ts, rfl, length⟩ := first
  obtain ⟨us, rfl, length'⟩ := last
  exact ⟨us, rfl, length'.trans length⟩

theorem within_modifyTransceiver (tree : Tree) (bts trx : Nat) (f : Transceiver → Transceiver) :
    Within tree (tree.modifyTransceiver bts trx f) := by
  unfold modifyTransceiver
  split
  · exact ⟨_, rfl, List.length_modify ..⟩
  · exact Within.refl tree

theorem Sound.within (sound : tree.Sound) (within : Within tree tree')
    (transceivers : ∀ t ∈ tree'.transceivers, t.Sound tree.channelsNeedCarrier) : tree'.Sound := by
  obtain ⟨ts, rfl, _⟩ := within
  exact ⟨sound.siteManager, sound.gprsNse, sound.bts, sound.uninstalled, sound.waiting, sound.serving,
    transceivers⟩

theorem Sound.transceiver (sound : tree.Sound) (found : tree.transceiver? bts trx = some t) :
    t.Sound tree.channelsNeedCarrier :=
  sound.transceivers t (List.mem_of_getElem? (transceiver?_some found).2)

theorem Sound.modifyTransceiver {f : Transceiver → Transceiver} (sound : tree.Sound)
    (keeps : ∀ t, t.Sound tree.channelsNeedCarrier → (f t).Sound tree.channelsNeedCarrier) :
    (tree.modifyTransceiver bts trx f).Sound := by
  refine sound.within (within_modifyTransceiver ..) ?_
  unfold Tree.modifyTransceiver
  split
  · intro u mem
    rcases List.mem_iff_getElem?.mp mem with ⟨i, slot⟩
    rw [List.getElem?_modify, Option.map_eq_map, Option.map_eq_some_iff] at slot
    obtain ⟨before, was, rfl⟩ := slot
    have sound_before := sound.transceivers before (List.mem_of_getElem? was)
    split
    · exact keeps before sound_before
    · exact sound_before
  · exact sound.transceivers

theorem Sound.putTransceiver (sound : tree.Sound) (sound' : t'.Sound tree.channelsNeedCarrier) :
    (tree.putTransceiver bts trx t').Sound :=
  sound.modifyTransceiver fun _ _ => sound'

theorem Sound.put {object object' : ManagedObject} (sound : tree.Sound) (id : ObjectId)
    (found : tree.get? id = some object) (alike : object.Alike object') :
    (tree.put id object').Sound := by
  cases id with
  | siteManager =>
    cases found
    refine ⟨sound.siteManager.alike alike, sound.gprsNse, sound.bts, ?_, sound.waiting, sound.serving,
      sound.transceivers⟩
    exact fun root => sound.uninstalled (alike.phase.symm.trans root)
  | gprsNse =>
    cases found
    refine ⟨sound.siteManager, sound.gprsNse.alike alike, sound.bts, ?_, ?_, ?_, sound.transceivers⟩
    · exact fun root => ⟨alike.phase.trans (sound.uninstalled root).1, (sound.uninstalled root).2⟩
    · exact fun waits => sound.waiting (alike.phase.symm.trans waits)
    · exact fun serves => sound.serving (alike.phase ▸ serves)
  | bts b =>
    by_cases first : b = 0
    · subst first
      cases found
      refine ⟨sound.siteManager, sound.gprsNse, sound.bts.alike alike, ?_, ?_, ?_, sound.transceivers⟩
      · exact fun root => ⟨(sound.uninstalled root).1, alike.phase.trans (sound.uninstalled root).2⟩
      · exact fun waits => alike.phase ▸ sound.waiting waits
      · exact fun serves => alike.phase ▸ sound.serving serves
    · simp only [get?, first, if_false] at found
      cases found
  | radioCarrier b trx =>
    simp only [get?, Option.map_eq_some_iff] at found
    obtain ⟨t, found, rfl⟩ := found
    rw [put_radioCarrier found]
    exact sound.putTransceiver ((sound.transceiver found).setPart (p := .carrier) alike)
  | basebandTransceiver b trx =>
    simp only [get?, Option.map_eq_some_iff] at found
    obtain ⟨t, found, rfl⟩ := found
    rw [put_basebandTransceiver found]
    exact sound.putTransceiver ((sound.transceiver found).setPart (p := .baseband) alike)
  | channel b trx ts =>
    simp only [get?, Option.bind_eq_some_iff] at found
    obtain ⟨t, found, slot⟩ := found
    have channelSound := (sound.transceiver found).channels object (List.mem_of_getElem? slot)
    rw [put_channel found]
    refine sound.putTransceiver
      ((sound.transceiver found).setChannel slot (channelSound.alike alike) ?_ ?_)
    · exact fun uninstalled => alike.phase.trans uninstalled
    · exact fun _ ready => alike.phase ▸ ready

section transceivers

def ReachesParts (hear : Hearer) (depth : Nat) (event : Event) : Prop :=
  hear = offer? (hear? (depth + 2)) ∨
    hear = hear? (depth + 2) ∧ Machine.always.contains event.kind = true

variable {hear : Hearer} {depth : Nat}

theorem ReachesParts.one (reaches : ReachesParts hear depth event) (quiet : event.isRequest = false)
    (sound : tree.Sound) (found : tree.transceiver? bts trx = some t) (p : Half) :
    ∃ t', hear (p.id bts trx) event tree = some (tree.putTransceiver bts trx t') ∧
      t'.Sound tree.channelsNeedCarrier := by
  have sound_t := sound.transceiver found
  cases accepted : Machine.accepts p.cls (t.part p).phase event.kind with
  | true =>
    obtain ⟨t', heard, sound'⟩ := hear?_part depth found sound_t quiet accepted
    refine ⟨t', ?_, sound'⟩
    rcases reaches with rfl | ⟨rfl, _⟩
    · simp only [offer?, get?_part found p, p.objectClass_id, accepted, Option.bind_eq_bind,
        Option.bind_some, if_true]
      exact heard
    · exact heard
  | false =>
    rcases reaches with rfl | ⟨rfl, always⟩
    · refine ⟨t, ?_, sound_t⟩
      rw [putTransceiver_self found]
      simp only [offer?, get?_part found p, p.objectClass_id, accepted, Option.bind_eq_bind,
        Option.bind_some]
      rfl
    · rw [Machine.accepts, always, Bool.true_or] at accepted
      cases accepted

theorem mem_transceiverIds {id : ObjectId} (mem : id ∈ tree.transceiverIds 0) :
    ∃ p : Half, ∃ trx, id = p.id 0 trx ∧ trx < tree.transceivers.length := by
  simp only [transceiverIds, numTrx, if_true, List.mem_flatMap, List.mem_range, List.mem_cons,
    List.not_mem_nil, or_false] at mem
  obtain ⟨trx, bound, rfl | rfl⟩ := mem
  · exact ⟨.carrier, trx, rfl, bound⟩
  · exact ⟨.baseband, trx, rfl, bound⟩

theorem hearEach?_parts (reaches : ReachesParts hear depth event) (quiet : event.isRequest = false)
    (ids : List ObjectId) (sound : tree.Sound)
    (present : ∀ id ∈ ids, ∃ p : Half, ∃ trx, id = p.id 0 trx ∧ trx < tree.transceivers.length) :
    ∃ tree', hearEach? hear ids event tree = some tree' ∧ tree'.Sound ∧ Within tree tree' := by
  induction ids generalizing tree with
  | nil => exact ⟨tree, rfl, sound, Within.refl tree⟩
  | cons id rest ih =>
    obtain ⟨p, trx, rfl, bound⟩ := present id List.mem_cons_self
    have found : tree.transceiver? 0 trx = some tree.transceivers[trx] :=
      List.getElem?_eq_getElem bound
    obtain ⟨t', heard, sound'⟩ := reaches.one quiet sound found p
    have within : Within tree (tree.putTransceiver 0 trx t') := within_modifyTransceiver ..
    have present' : ∀ id ∈ rest, ∃ p : Half, ∃ trx', id = p.id 0 trx' ∧
        trx' < (tree.putTransceiver 0 trx t').transceivers.length := by
      intro id mem
      obtain ⟨ts, same, length⟩ := within
      rw [same, length]
      exact present id (List.mem_cons_of_mem _ mem)
    obtain ⟨tree'', heards, sound'', within'⟩ := ih (sound.putTransceiver sound') present'
    refine ⟨tree'', ?_, sound'', within.trans within'⟩
    rw [hearEach?, List.foldlM_cons, heard]
    exact heards

end transceivers

section gprsNse

theorem Sound.setGprsNse {object : ManagedObject} (sound : tree.Sound) (objectSound : object.Sound .gprsNse)
    (uninstalled : tree.siteManager.phase = .notInstalled → object.phase = .notInstalled)
    (waiting : object.phase = .dependency → tree.bts.phase ≠ .enabled)
    (serving : object.phase = .offline ∨ object.phase = .enabled → tree.bts.phase = .enabled) :
    ({ tree with gprsNse := object } : Tree).Sound :=
  ⟨sound.siteManager, objectSound, sound.bts,
    fun root => ⟨uninstalled root, (sound.uninstalled root).2⟩, waiting, serving, sound.transceivers⟩

theorem hear?_gprsNse (depth : Nat) (quiet : event.isRequest = false)
    (accepted : Machine.accepts .gprsNse tree.gprsNse.phase event.kind = true) :
    hear? (depth + 1) .gprsNse event tree =
      some { tree with gprsNse := tree.gprsNse.offered .gprsNse tree.bts.isEnabled event } :=
  hear?_alone depth (show ObjectId.gprsNse.objectClass.keepsOutcome = true from rfl) quiet rfl accepted

theorem offered_btsEnabled (supported : Bool) (object : ManagedObject) :
    (object.offered .gprsNse supported .btsEnabled).phase =
      if object.phase = .dependency then .offline else object.phase := by
  obtain ⟨phase, published, attributesSet, started, attributes⟩ := object
  cases phase <;> rfl

theorem offered_btsDisabled (supported : Bool) (object : ManagedObject) :
    (object.offered .gprsNse supported .btsDisabled).phase =
      if object.phase = .notInstalled then .notInstalled else .dependency := by
  obtain ⟨phase, published, attributesSet, started, attributes⟩ := object
  cases phase <;> rfl

theorem offered_omlUp {object : ManagedObject} (uninstalled : object.phase = .notInstalled) :
    (object.offered .gprsNse false .omlUp).phase = .dependency := by
  obtain ⟨phase, published, attributesSet, started, attributes⟩ := object
  cases uninstalled
  rfl

theorem offered_shutdownStart (cls : ObjectClass) (supported : Bool) (object : ManagedObject) :
    (object.offered cls supported .shutdownStart).phase = object.phase := by
  unfold ManagedObject.offered
  split <;> rfl

end gprsNse

section bts

theorem act?_bts (hear : Hearer) (tree : Tree) {action : Action} {object : ManagedObject}
    (alone : action.alone? .bts tree.bts = some object) :
    act? hear (.bts 0) tree action =
      heed? hear (.bts 0) (action.notice? .bts tree.bts.phase) { tree with bts := object } :=
  act?_of_alone hear (show tree.get? (.bts 0) = some tree.bts from rfl) alone

theorem Sound.btsQuiet {action : Action} (hear : Hearer) (sound : tree.Sound) (quiet : action.IsQuiet) :
    ∃ object, act? hear (.bts 0) tree action = some { tree with bts := object } ∧
      ({ tree with bts := object } : Tree).Sound ∧ object.phase = tree.bts.phase := by
  obtain ⟨object, alone, alike⟩ := quiet.alone? .bts tree.bts
  refine ⟨object, ?_, sound.put (.bts 0) rfl alike, alike.phase⟩
  rw [act?_bts hear tree alone, quiet.notice?_eq_none, heed?_none]

theorem Sound.btsInstall (hear : Hearer) (sound : tree.Sound)
    (root : tree.siteManager.phase ≠ .notInstalled) (uninstalled : tree.bts.phase = .notInstalled) :
    ∃ object, act? hear (.bts 0) tree (.become .offline) = some { tree with bts := object } ∧
      ({ tree with bts := object } : Tree).Sound := by
  have alone : (Action.become .offline).alone? .bts tree.bts = some (tree.bts.entered .bts .offline) :=
    if_pos (by rw [uninstalled]; rfl)
  refine ⟨tree.bts.entered .bts .offline, ?_, ⟨sound.siteManager, sound.gprsNse,
    sound.bts.alone alone, fun h => absurd h root, fun _ => by rintro ⟨⟩, ?_, sound.transceivers⟩⟩
  · rw [act?_bts hear tree alone, uninstalled]
    exact heed?_none ..
  · intro serves
    have enabled := sound.serving serves
    rw [uninstalled] at enabled
    cases enabled

theorem Sound.btsEnable (depth : Nat) (sound : tree.Sound) (ready : tree.bts.phase = .offline) :
    ∃ tree', act? (hear? (depth + 1)) (.bts 0) tree (.become .enabled) = some tree' ∧ tree'.Sound ∧
      tree'.siteManager = tree.siteManager := by
  have alone : (Action.become .enabled).alone? .bts tree.bts = some (tree.bts.entered .bts .enabled) :=
    if_pos (by rw [ready]; rfl)
  let up : Tree := { tree with bts := tree.bts.entered .bts .enabled }
  have root : tree.siteManager.phase ≠ .notInstalled := by
    intro root
    have := (sound.uninstalled root).2
    rw [ready] at this
    cases this
  have accepted : Machine.accepts .gprsNse up.gprsNse.phase Event.btsEnabled.kind = true := by
    cases up.gprsNse.phase <;> rfl
  refine ⟨{ up with gprsNse := tree.gprsNse.offered .gprsNse up.bts.isEnabled .btsEnabled }, ?_,
    ⟨sound.siteManager, sound.gprsNse.offered _ _, sound.bts.alone alone, fun h => absurd h root, ?_,
      fun _ => rfl, sound.transceivers⟩, rfl⟩
  · rw [act?_bts _ tree alone, ready]
    exact hear?_gprsNse depth rfl accepted
  · intro waits
    rw [offered_btsEnabled] at waits
    split at waits
    · cases waits
    · contradiction

theorem Sound.btsUninstall (depth : Nat) (sound : tree.Sound) :
    ∃ tree', act? (hear? (depth + 1)) (.bts 0) tree (.become .notInstalled) = some tree' ∧
      tree'.Sound ∧ tree'.siteManager = tree.siteManager ∧ tree'.bts.phase = .notInstalled ∧
      (tree.gprsNse.phase = .notInstalled → tree'.gprsNse.phase = .notInstalled) := by
  have alone : (Action.become .notInstalled).alone? .bts tree.bts =
      some (tree.bts.entered .bts .notInstalled) := if_pos (Machine.mayMove_notInstalled sound.bts.inUse)
  let down : Tree := { tree with bts := tree.bts.entered .bts .notInstalled }
  rw [act?_bts _ tree alone]
  cases phase : tree.bts.phase with
  | enabled =>
    have accepted : Machine.accepts .gprsNse down.gprsNse.phase Event.btsDisabled.kind = true := by
      cases down.gprsNse.phase <;> rfl
    have root : tree.siteManager.phase ≠ .notInstalled := by
      intro root
      have := (sound.uninstalled root).2
      rw [phase] at this
      cases this
    refine ⟨{ down with gprsNse := tree.gprsNse.offered .gprsNse down.bts.isEnabled .btsDisabled },
      hear?_gprsNse depth rfl accepted,
      ⟨sound.siteManager, sound.gprsNse.offered _ _, sound.bts.alone alone, fun h => absurd h root,
        (by rintro _ ⟨⟩), ?_, sound.transceivers⟩, rfl, rfl, ?_⟩
    · intro serves
      rw [offered_btsDisabled] at serves
      split at serves <;> rcases serves with h | h <;> cases h
    · intro uninstalled
      exact (offered_btsDisabled _ _).trans (if_pos uninstalled)
  | notInstalled | offline | dependency =>
    refine ⟨down, rfl, ⟨sound.siteManager, sound.gprsNse, sound.bts.alone alone,
      fun root => ⟨(sound.uninstalled root).1, rfl⟩, (by rintro _ ⟨⟩), ?_, sound.transceivers⟩, rfl, rfl, id⟩
    intro serves
    have := sound.serving serves
    rw [phase] at this
    cases this

end bts

end Tree

end BaseStation
