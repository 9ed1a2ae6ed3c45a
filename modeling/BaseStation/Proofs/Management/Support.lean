import BaseStation.Proofs.Management.TransceiverLinks

namespace BaseStation

open Management

def ObjectId.IsHalf (id : ObjectId) : Prop := ∃ (p : Half) (bts trx : Nat), id = p.id bts trx

theorem ObjectId.IsHalf.apart {id : ObjectId} (half : id.IsHalf) : id.objectClass ≠ .channel := by
  obtain ⟨p, bts, trx, rfl⟩ := half
  rw [p.objectClass_id]
  exact p.cls_ne_channel

theorem Management.Action.Makes.sound {cls : ObjectClass} {action : Action} {object object' : ManagedObject}
    (makes : action.Makes cls object object') (sound : object.Sound cls) : object'.Sound cls := by
  cases action with
  | apply attributes => rcases makes with rfl | rfl <;> exact sound.alike ⟨rfl, rfl⟩
  | keep attributes =>
    cases makes
    exact sound.alike ⟨rfl, rfl⟩
  | start | startConfigured =>
    cases makes
    exact sound
  | tell _ _ | offer _ _ => cases makes
  | announceShutdown | repeatState | reportSoftware | become _ | acknowledge | refuse _ =>
    exact sound.alone makes

theorem Management.Becomes.sound {cls : ObjectClass} {actions : List Action} {object object' : ManagedObject}
    (becomes : Becomes cls actions object object') (sound : object.Sound cls) : object'.Sound cls := by
  induction actions generalizing object with
  | nil =>
    cases becomes
    exact sound
  | cons action rest ih =>
    obtain ⟨middle, makes, becomes⟩ := becomes
    exact ih becomes (makes.sound sound)

namespace ManagedObject

variable {cls : ObjectClass} {linked : Bool} {object object' : ManagedObject} {event : Event}

theorem Step.sound (step : Step cls linked object object') (sound : object.Sound cls) :
    object'.Sound cls := by
  cases step with
  | hears supported event accepted becomes => exact becomes.sound sound
  | administered admin => exact sound.alike ⟨rfl, rfl⟩

theorem offered_channel_offline (unlocked : event ≠ .disable) (supported : Bool)
    (ready : (object.offered .channel supported event).phase = .offline) :
    object.phase = .offline ∨ supported = true := by
  obtain ⟨phase, published, attributesSet, started, attributes⟩ := object
  cases supported with
  | true => exact .inr rfl
  | false =>
    left
    cases phase <;> cases event <;> first | rfl | exact absurd rfl unlocked | cases ready

theorem offered_channel_disable (supported : Bool) :
    (object.offered .channel supported .disable).phase =
      if object.phase = .enabled then .offline else object.phase := by
  obtain ⟨phase, published, attributesSet, started, attributes⟩ := object
  cases phase <;> rfl

/-- By these two events a channel learns that its transceiver may have failed. -/
def IsLoss (event : Event) : Prop := event = .bbTranscDisabled ∨ event = .rcarrierDisabled

theorem offered_channel_loss (loss : IsLoss event) (supported : Bool)
    (ready : (object.offered .channel supported event).phase = .offline) : supported = true := by
  obtain ⟨phase, published, attributesSet, started, attributes⟩ := object
  rcases loss with rfl | rfl <;> cases supported <;> cases phase <;> first | rfl | cases ready

end ManagedObject

namespace Tree

variable {tree tree' : Tree} {id other : ObjectId} {object object' : ManagedObject} {bts trx ts : Nat}

def Coherent (tree : Tree) : Prop := ∀ id, tree.Has id (ManagedObject.Sound id.objectClass)

theorem Sound.coherent (sound : tree.Sound) : tree.Coherent := by
  intro id object found
  cases id with
  | siteManager =>
    cases found
    exact sound.siteManager
  | gprsNse =>
    cases found
    exact sound.gprsNse
  | bts b =>
    by_cases first : b = 0
    · simp only [get?, first, if_true, Option.some.injEq] at found
      cases found
      exact sound.bts
    · simp only [get?, first, if_false] at found
      cases found
  | radioCarrier b trx =>
    simp only [get?, Option.map_eq_some_iff] at found
    obtain ⟨t, found, rfl⟩ := found
    exact (sound.transceiver found).parts .carrier
  | basebandTransceiver b trx =>
    simp only [get?, Option.map_eq_some_iff] at found
    obtain ⟨t, found, rfl⟩ := found
    exact (sound.transceiver found).parts .baseband
  | channel b trx ts =>
    simp only [get?, Option.bind_eq_some_iff] at found
    obtain ⟨t, found, slot⟩ := found
    exact (sound.transceiver found).channels object (List.mem_of_getElem? slot)

/-- The channel is ready to be started although its transceiver cannot carry traffic. -/
def Stranded (tree : Tree) (id : ObjectId) : Prop :=
  ∃ channel, id.objectClass = .channel ∧ tree.get? id = some channel ∧ channel.phase = .offline ∧
    supported tree id = false

theorem channelsCanStart_eq (tree : Tree) (bts trx : Nat) :
    tree.channelsCanStart bts trx =
      ((tree.get? (.basebandTransceiver bts trx)).any (·.isEnabled) &&
        (!tree.channelsNeedCarrier || (tree.get? (.radioCarrier bts trx)).any (·.isEnabled))) := by
  simp only [channelsCanStart, get?]
  cases tree.transceiver? bts trx <;> rfl

@[simp] theorem channelsNeedCarrier_put (tree : Tree) (id : ObjectId) (object : ManagedObject) :
    (tree.put id object).channelsNeedCarrier = tree.channelsNeedCarrier := by
  have transceiver (bts trx : Nat) (f : Transceiver → Transceiver) :
      (tree.modifyTransceiver bts trx f).channelsNeedCarrier = tree.channelsNeedCarrier := by
    unfold modifyTransceiver
    split <;> rfl
  cases id with
  | siteManager | gprsNse => rfl
  | bts b => by_cases first : b = 0 <;> simp [put, modify, first]
  | radioCarrier b trx | basebandTransceiver b trx | channel b trx ts => exact transceiver _ _ _

theorem canStart_put (found : tree.get? id = some object)
    (keeps : id.IsHalf → object.isEnabled = true → object'.isEnabled = true)
    (ready : tree.channelsCanStart bts trx = true) :
    (tree.put id object').channelsCanStart bts trx = true := by
  have part (p : Half) (enabled : (tree.get? (p.id bts trx)).any (·.isEnabled) = true) :
      ((tree.put id object').get? (p.id bts trx)).any (·.isEnabled) = true := by
    by_cases same : id = p.id bts trx
    · subst same
      rw [get?_put_self object' found]
      rw [found] at enabled
      exact keeps ⟨p, bts, trx, rfl⟩ enabled
    · rw [get?_put_of_ne tree object' same]
      exact enabled
  rw [channelsCanStart_eq, Bool.and_eq_true, Bool.or_eq_true] at ready
  rw [channelsCanStart_eq, Bool.and_eq_true, Bool.or_eq_true, channelsNeedCarrier_put]
  exact ⟨part .baseband ready.1, ready.2.imp_right (part .carrier)⟩

theorem canStart_put_of_apart (object' : ManagedObject) (apart : ∀ p : Half, id ≠ p.id bts trx) :
    (tree.put id object').channelsCanStart bts trx = tree.channelsCanStart bts trx := by
  have baseband : id ≠ .basebandTransceiver bts trx := apart .baseband
  have carrier : id ≠ .radioCarrier bts trx := apart .carrier
  rw [channelsCanStart_eq, channelsCanStart_eq, channelsNeedCarrier_put,
    get?_put_of_ne tree object' baseband, get?_put_of_ne tree object' carrier]

theorem supported_put (found : tree.get? id = some object)
    (keeps : id.IsHalf → object.isEnabled = true → object'.isEnabled = true)
    (channel : other.objectClass = .channel)
    (stuck : supported (tree.put id object') other = false) : supported tree other = false := by
  cases other with
  | channel bts trx ts =>
    rw [← Bool.not_eq_true] at stuck ⊢
    exact fun ready => stuck (canStart_put found keeps ready)
  | _ => cases channel

/-- An object put in place of another that supports what the other did can strand only itself. -/
theorem Stranded.of_put_cases (found : tree.get? id = some object)
    (keeps : id.IsHalf → object.isEnabled = true → object'.isEnabled = true)
    (stranded : (tree.put id object').Stranded other) :
    tree.Stranded other ∨
      other = id ∧ id.objectClass = .channel ∧ object'.phase = .offline ∧ supported tree id = false := by
  obtain ⟨channel, isChannel, place, offline, stuck⟩ := stranded
  have stuck := supported_put found keeps isChannel stuck
  by_cases same : id = other
  · subst same
    cases place.symm.trans (get?_put_self object' found)
    exact .inr ⟨rfl, isChannel, offline, stuck⟩
  · rw [get?_put_of_ne tree object' same] at place
    exact .inl ⟨channel, isChannel, place, offline, stuck⟩

theorem Stranded.of_put (found : tree.get? id = some object)
    (keeps : id.IsHalf → object.isEnabled = true → object'.isEnabled = true)
    (ready : id.objectClass = .channel → object'.phase = .offline →
      object.phase = .offline ∨ supported tree id = true)
    (stranded : (tree.put id object').Stranded other) : tree.Stranded other := by
  rcases stranded.of_put_cases found keeps with before | ⟨rfl, isChannel, offline, stuck⟩
  · exact before
  · rcases ready isChannel offline with offline | supported
    · exact ⟨object, isChannel, found, offline, stuck⟩
    · cases supported.symm.trans stuck

theorem mem_channelIds {channel : ManagedObject} (found : tree.get? (.channel bts trx ts) = some channel) :
    .channel bts trx ts ∈ tree.channelIds bts trx := by
  simp only [get?, Option.bind_eq_some_iff] at found
  obtain ⟨t, found, slot⟩ := found
  rw [channelIds_of_found found]
  exact List.mem_map.mpr ⟨ts, List.mem_range.mpr (List.getElem?_eq_some_iff.mp slot).1, rfl⟩

theorem Stranded.of_put_part {p : Half} (stranded : (tree.put (p.id bts trx) object').Stranded other)
    (away : other ∉ (tree.put (p.id bts trx) object').channelIds bts trx) : tree.Stranded other := by
  obtain ⟨channel, isChannel, place, offline, stuck⟩ := stranded
  cases other with
  | channel b t ts =>
    have elsewhere : ¬ (bts = b ∧ trx = t) := by
      rintro ⟨rfl, rfl⟩
      exact away (mem_channelIds place)
    have apart (q : Half) : p.id bts trx ≠ q.id b t := by
      intro same
      cases p <;> cases q <;> cases same <;> exact elsewhere ⟨rfl, rfl⟩
    have ne : p.id bts trx ≠ .channel b t ts := by cases p <;> rintro ⟨⟩
    rw [get?_put_of_ne tree object' ne] at place
    have stuck : tree.channelsCanStart b t = false := by
      rw [← canStart_put_of_apart object' apart]
      exact stuck
    exact ⟨channel, rfl, place, offline, stuck⟩
  | _ => cases isChannel

theorem Stranded.of_links {f : Transceiver → Transceiver}
    (keep : ∀ t, (f t).carrier = t.carrier ∧ (f t).baseband = t.baseband ∧ (f t).channels = t.channels)
    (stranded : (tree.modifyTransceiver bts trx f).Stranded id) : tree.Stranded id := by
  have same (id : ObjectId) : (tree.modifyTransceiver bts trx f).get? id = tree.get? id :=
    get?_modifyTransceiver_links keep id
  have need : (tree.modifyTransceiver bts trx f).channelsNeedCarrier = tree.channelsNeedCarrier := by
    unfold modifyTransceiver
    split <;> rfl
  obtain ⟨channel, isChannel, place, offline, stuck⟩ := stranded
  cases id with
  | channel b t ts =>
    rw [same] at place
    have stuck : (tree.modifyTransceiver bts trx f).channelsCanStart b t = false := stuck
    rw [channelsCanStart_eq, same, same, need, ← channelsCanStart_eq] at stuck
    exact ⟨channel, rfl, place, offline, stuck⟩
  | _ => cases isChannel

end Tree

end BaseStation
