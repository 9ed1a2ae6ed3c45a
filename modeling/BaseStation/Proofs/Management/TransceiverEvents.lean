import BaseStation.Proofs.Management.TransceiverSound

namespace BaseStation

open Management

theorem notice?_isRequest {cls : ObjectClass} {previous target : Phase} {event : Event}
    (h : notice? cls previous target = some event) : event.isRequest = false := by
  cases cls <;> cases previous <;> cases target <;> cases h <;> rfl

namespace Transceiver

def passDown (need : Bool) (event : Event) (t : Transceiver) : Half → Transceiver
  | .carrier => t
  | .baseband => t.channelsHear need event

def wards (bts trx : Nat) (t : Transceiver) : Half → List ObjectId
  | .carrier => []
  | .baseband => t.channelIds bts trx

end Transceiver

theorem Transceiver.wards_congr {t t' : Transceiver} {bts trx : Nat} (p : Half)
    (same : t'.channels = t.channels) : t.wards bts trx p = t'.wards bts trx p := by
  cases p <;> simp only [wards, channelIds, same]

namespace Tree

variable {tree : Tree} {bts trx depth : Nat} {t t' t'' : Transceiver} {p : Half} {event : Event}

theorem get?_part (found : tree.transceiver? bts trx = some t) (p : Half) :
    tree.get? (p.id bts trx) = some (t.part p) := by
  cases p <;> simp only [Half.id, get?, found, Option.map_some, Transceiver.part]

theorem put_part (found : tree.transceiver? bts trx = some t) (p : Half) (object : ManagedObject) :
    tree.put (p.id bts trx) object = tree.putTransceiver bts trx (t.setPart object p) := by
  cases p with
  | carrier => exact put_radioCarrier found object
  | baseband => exact put_basebandTransceiver found object

theorem children_part (found : tree.transceiver? bts trx = some t) (p : Half) :
    children tree (p.id bts trx) = t.wards bts trx p := by
  cases p with
  | carrier => rfl
  | baseband => exact channelIds_of_found found

def Turns (depth bts trx : Nat) (p : Half) (need : Bool) (t : Transceiver) (actions : List Action)
    (t' : Transceiver) : Prop :=
  ∀ tree : Tree, tree.transceiver? bts trx = some t → tree.channelsNeedCarrier = need →
    actions.foldlM (act? (hear? (depth + 1)) (p.id bts trx)) tree =
      some (tree.putTransceiver bts trx t')

variable {need : Bool} {actions rest : List Action} {action : Action}

theorem Turns.nil : Turns depth bts trx p need t [] t := by
  intro tree found _
  rw [putTransceiver_self found]
  rfl

theorem Turns.append (first : Turns depth bts trx p need t actions t')
    (last : Turns depth bts trx p need t' rest t'') :
    Turns depth bts trx p need t (actions ++ rest) t'' := by
  intro tree found flag
  rw [List.foldlM_append, first tree found flag, Option.bind_eq_bind, Option.bind_some,
    last _ (transceiver?_putTransceiver_self t' found) ((channelsNeedCarrier_putTransceiver ..).trans flag),
    putTransceiver_putTransceiver]

theorem Turns.act (h : t.act? need p action = some t') :
    Turns depth bts trx p need t [action] t' := by
  intro tree found flag
  subst flag
  simp only [Transceiver.act?, Option.bind_eq_bind, Option.bind_eq_some_iff] at h
  obtain ⟨object, alone, h⟩ := h
  have place := get?_part found p
  have taken : act? (hear? (depth + 1)) (p.id bts trx) tree action =
      heed? (hear? (depth + 1)) (p.id bts trx) (action.notice? p.cls (t.part p).phase)
        (tree.putTransceiver bts trx (t.setPart object p)) := by
    rw [← put_part found, ← p.objectClass_id bts trx]
    rw [← p.objectClass_id bts trx] at alone
    exact act?_of_alone _ place alone
  have put := transceiver?_putTransceiver_self (t.setPart object p) found
  rw [List.foldlM_cons, taken]
  cases notice : action.notice? p.cls (t.part p).phase with
  | none =>
    rw [notice] at h
    cases h
    rw [heed?_none]
    rfl
  | some event =>
    rw [notice] at h
    cases h
    have quiet : event.isRequest = false := by
      cases action <;> first | cases notice | exact notice?_isRequest notice
    have told : hearEach? (offer? (hear? (depth + 1))) _ event _ = some _ :=
      hearEach?_channels (.inl rfl) quiet put
    rw [putTransceiver_putTransceiver, channelsNeedCarrier_putTransceiver] at told
    cases p <;> simp only [heed?, Half.id, channelIds_of_found put, told] <;> rfl

theorem foldlM_tell (hear : Hearer) (id : ObjectId) (ids : List ObjectId) (event : Event) (tree : Tree) :
    (ids.map (.tell · event)).foldlM (act? hear id) tree = hearEach? hear ids event tree :=
  List.foldlM_map ..

theorem foldlM_offer (hear : Hearer) (id : ObjectId) (ids : List ObjectId) (event : Event)
    (tree : Tree) :
    (ids.map (.offer · event)).foldlM (act? hear id) tree = hearEach? (offer? hear) ids event tree :=
  List.foldlM_map ..

theorem Turns.tell (quiet : event.isRequest = false)
    (accepted : p = .baseband →
      ∀ channel ∈ t.channels, Machine.accepts .channel channel.phase event.kind = true) :
    Turns depth bts trx p need t ((t.wards bts trx p).map (.tell · event)) (t.passDown need event p) := by
  intro tree found flag
  subst flag
  cases p with
  | carrier => exact Turns.nil tree found rfl
  | baseband =>
    rw [foldlM_tell]
    exact hearEach?_channels (.inr ⟨rfl, accepted rfl⟩) quiet found

theorem Turns.offer (quiet : event.isRequest = false) :
    Turns depth bts trx p need t ((t.wards bts trx p).map (.offer · event))
      (t.passDown need event p) := by
  intro tree found flag
  subst flag
  cases p with
  | carrier => exact Turns.nil tree found rfl
  | baseband =>
    rw [foldlM_offer]
    exact hearEach?_channels (.inl rfl) quiet found

end Tree

namespace Transceiver

variable {need : Bool} {p : Half} {t : Transceiver} {event : Event}

theorem Sound.passDown (sound : t.Sound need) (event : Event) (p : Half)
    (installs : p = .baseband → event = .swAct → t.baseband.phase ≠ .notInstalled) :
    (t.passDown need event p).Sound need := by
  cases p with
  | carrier => exact sound
  | baseband => exact sound.channelsHear (installs rfl) fun ready => .inr (.inr (sound.woken ready))

end Transceiver

namespace Tree

variable {tree : Tree} {bts trx : Nat} {t : Transceiver} {p : Half} {event : Event}

theorem turns_shutdownStart (sound : t.Sound need) :
    ∃ t', Turns depth bts trx p need t
      (.announceShutdown :: (t.wards bts trx p).map (.tell · .shutdownStart)) t' ∧ t'.Sound need := by
  obtain ⟨t₁, announce, sound₁, _, same⟩ := sound.quiet p .announceShutdown
  have tell : Turns depth bts trx p need t₁ ((t.wards bts trx p).map (.tell · .shutdownStart))
      (t₁.passDown need .shutdownStart p) := by
    rw [Transceiver.wards_congr p same]
    exact Turns.tell rfl fun _ _ _ => rfl
  exact ⟨_, (Turns.act announce).append tell, sound₁.passDown _ p (by rintro _ ⟨⟩)⟩

theorem turns_shutdownFinish (sound : t.Sound need) :
    ∃ t', Turns depth bts trx p need t
      ((t.wards bts trx p).map (.tell · .shutdownFinish) ++ [.become .notInstalled]) t' ∧
      t'.Sound need := by
  have tell : Turns depth bts trx p need t ((t.wards bts trx p).map (.tell · .shutdownFinish))
      (t.passDown need .shutdownFinish p) := Turns.tell rfl fun _ _ _ => rfl
  have down := sound.passDown .shutdownFinish p (by rintro _ ⟨⟩)
  obtain ⟨t₂, leave, sound₂, _⟩ := down.leave p .notInstalled (.inl rfl) (by
    rintro rfl _ channel mem
    obtain ⟨before, _, rfl⟩ := List.mem_map.mp mem
    exact ManagedObject.offered_shutdownFinish _ _ _ rfl)
  exact ⟨t₂, tell.append (Turns.act leave), sound₂⟩

theorem turns_opstartAck (sound : t.Sound need) (ready : (t.part p).phase = .offline) (linked : Bool) :
    ∃ t', Turns depth bts trx p need t (.acknowledge :: if linked then [.become .enabled] else []) t' ∧
      t'.Sound need := by
  obtain ⟨t₁, acknowledge, sound₁, phase, _⟩ := sound.quiet p .acknowledge
  obtain ⟨t₂, enable, sound₂⟩ := sound₁.enable (phase.trans ready)
  cases linked with
  | false => exact ⟨t₁, Turns.act acknowledge, sound₁⟩
  | true => exact ⟨t₂, (Turns.act acknowledge).append (Turns.act enable), sound₂⟩

theorem turns_swAct (sound : t.Sound need) (uninstalled : (t.part p).phase = .notInstalled) :
    ∃ t', Turns depth bts trx p need t
      (.reportSoftware :: .become .offline :: (t.wards bts trx p).map (.tell · .swAct)) t' ∧
      t'.Sound need := by
  obtain ⟨t₁, report, sound₁, phase₁, same₁⟩ := sound.quiet p .reportSoftware
  rw [uninstalled] at phase₁
  obtain ⟨t₂, leave, sound₂, phase₂, same₂⟩ :=
    sound₁.leave p .offline (.inr ⟨rfl, by rw [phase₁]; decide⟩) (by rintro _ ⟨⟩)
  -- no channel is installed before the baseband transceiver, so each accepts the event it is told of
  have same := (same₂ phase₁).trans same₁
  have tell : Turns depth bts trx p need t₂ ((t.wards bts trx p).map (.tell · .swAct))
      (t₂.passDown need .swAct p) := by
    rw [Transceiver.wards_congr p same]
    refine Turns.tell rfl ?_
    rintro rfl channel mem
    rw [sound.uninstalled uninstalled channel (same ▸ mem)]
    rfl
  have moved : p = .baseband → t₂.baseband.phase ≠ .notInstalled := by
    rintro rfl
    rw [show t₂.baseband.phase = .offline from phase₂]
    decide
  refine ⟨_, ?_, sound₂.passDown .swAct p fun baseband _ => moved baseband⟩
  exact ((Turns.act report).append (Turns.act leave)).append tell

theorem turns_omlUp (sound : t.Sound need) :
    ∃ t', Turns depth bts trx p need t
      (.repeatState :: (t.wards bts trx p).map (.offer · .omlUp)) t' ∧ t'.Sound need := by
  obtain ⟨t₁, again, sound₁, _, same⟩ := sound.quiet p .repeatState
  have offer : Turns depth bts trx p need t₁ ((t.wards bts trx p).map (.offer · .omlUp))
      (t₁.passDown need .omlUp p) := by
    rw [Transceiver.wards_congr p same]
    exact Turns.offer rfl
  exact ⟨_, (Turns.act again).append offer, sound₁.passDown .omlUp p (by rintro _ ⟨⟩)⟩

theorem turns_enable (sound : t.Sound need) (linked : Bool) :
    ∃ t', Turns depth bts trx p need t
      (if (t.part p).phase = .offline ∧ linked ∧ (t.part p).started then [.become .enabled] else []) t' ∧
      t'.Sound need := by
  split
  · rename_i ready
    obtain ⟨t₁, enable, sound₁⟩ := sound.enable ready.1
    exact ⟨t₁, Turns.act enable, sound₁⟩
  · exact ⟨t, Turns.nil, sound⟩

theorem turns_disable (sound : t.Sound need) :
    ∃ t', Turns depth bts trx p need t (if (t.part p).phase = .enabled then [.become .offline] else []) t' ∧
      t'.Sound need := by
  split
  · rename_i running
    obtain ⟨t₁, leave, sound₁, _⟩ :=
      sound.leave p .offline (.inr ⟨rfl, by rw [running]; decide⟩) (by rintro _ ⟨⟩)
    exact ⟨t₁, Turns.act leave, sound₁⟩
  · exact ⟨t, Turns.nil, sound⟩

theorem hear?_part (depth : Nat) (found : tree.transceiver? bts trx = some t)
    (sound : t.Sound tree.channelsNeedCarrier) (quiet : event.isRequest = false)
    (accepted : Machine.accepts p.cls (t.part p).phase event.kind = true) :
    ∃ t', hear? (depth + 2) (p.id bts trx) event tree = some (tree.putTransceiver bts trx t') ∧
      t'.Sound tree.channelsNeedCarrier := by
  suffices h : ∃ t', Turns depth bts trx p tree.channelsNeedCarrier t
      (reactionIn tree (p.id bts trx) (t.part p) event) t' ∧ t'.Sound tree.channelsNeedCarrier by
    obtain ⟨t', turns, sound'⟩ := h
    rw [← p.objectClass_id bts trx] at accepted
    exact ⟨t', hear?_of_reacts (get?_part found p) (turns tree found rfl) accepted, sound'⟩
  have apart : p.cls ≠ .channel := by cases p <;> decide
  rw [reactionIn, children_part found p]
  cases event with
  | rxSetAttr _ | rxOpstart => cases quiet
  | bbTranscEnabled | bbTranscDisabled | rcarrierEnabled | rcarrierDisabled | btsEnabled | btsDisabled =>
    cases p <;> cases phase : (t.part _).phase <;> rw [phase] at accepted <;> cases accepted
  | shutdownStart => exact turns_shutdownStart sound
  | shutdownFinish => exact turns_shutdownFinish sound
  | opstartAck =>
    exact turns_opstartAck sound (Machine.offline_of_answer apart (.inl rfl) accepted) _
  | opstartNack cause =>
    obtain ⟨t₁, refuse, sound₁, _⟩ := sound.quiet p (.refuse cause)
    exact ⟨t₁, Turns.act refuse, sound₁⟩
  | swAct =>
    have uninstalled := Machine.notInstalled_of_swAct accepted
    cases p <;> exact turns_swAct sound uninstalled
  | omlUp => cases p <;> exact turns_omlUp sound
  | rslUp | phyLinkUp => exact turns_enable sound _
  | rslDown | phyLinkDown | disable => exact turns_disable sound

end Tree

end BaseStation
