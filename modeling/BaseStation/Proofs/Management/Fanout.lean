import BaseStation.Proofs.Management.Alone

namespace BaseStation

open Management

theorem modify_at_length {α : Type} (f : α → α) (done : List α) (a : α) (rest : List α) :
    (done ++ a :: rest).modify done.length f = done ++ f a :: rest := by
  induction done with
  | nil => rfl
  | cons b done ih => exact congrArg (b :: ·) ih

namespace Transceiver

def canStart (need : Bool) (t : Transceiver) : Bool :=
  t.baseband.isEnabled && (!need || t.carrier.isEnabled)

def channelsHear (need : Bool) (event : Event) (t : Transceiver) : Transceiver :=
  { t with channels := t.channels.map (ManagedObject.offered .channel (t.canStart need) event) }

def channelIds (bts trx : Nat) (t : Transceiver) : List ObjectId :=
  (List.range t.channels.length).map (.channel bts trx)

end Transceiver

namespace Tree

variable {tree : Tree} {bts trx : Nat} {t : Transceiver}

theorem channelIds_of_found (found : tree.transceiver? bts trx = some t) :
    tree.channelIds bts trx = t.channelIds bts trx := by
  simp only [channelIds, found]
  rfl

theorem channelsCanStart_of_found (found : tree.transceiver? bts trx = some t) :
    tree.channelsCanStart bts trx = t.canStart tree.channelsNeedCarrier := by
  simp only [channelsCanStart, found]
  rfl

@[simp] theorem channelsNeedCarrier_putTransceiver (tree : Tree) (bts trx : Nat) (t : Transceiver) :
    (tree.putTransceiver bts trx t).channelsNeedCarrier = tree.channelsNeedCarrier := by
  unfold putTransceiver modifyTransceiver
  split <;> rfl

def Reaches (hear : Hearer) (depth : Nat) (channels : List ManagedObject) (event : Event) : Prop :=
  hear = offer? (hear? (depth + 1)) ∨
    hear = hear? (depth + 1) ∧
      ∀ channel ∈ channels, Machine.accepts .channel channel.phase event.kind = true

theorem Reaches.one {hear : Hearer} {depth : Nat} {channels : List ManagedObject} {event : Event}
    {channel : ManagedObject} (reaches : Reaches hear depth channels event) (ts : Nat)
    (quiet : event.isRequest = false) (found : tree.transceiver? bts trx = some t)
    (slot : t.channels[ts]? = some channel) (mem : channel ∈ channels) :
    hear (.channel bts trx ts) event tree =
      some (tree.putTransceiver bts trx { t with
        channels := t.channels.modify ts fun _ =>
          channel.offered .channel (t.canStart tree.channelsNeedCarrier) event }) := by
  have place : tree.get? (.channel bts trx ts) = some channel := by simp [get?, found, slot]
  rw [← put_channel found, ← channelsCanStart_of_found found]
  rcases reaches with rfl | ⟨rfl, accepted⟩
  · exact offer?_alone depth rfl quiet place
  · exact hear?_alone depth rfl quiet place (accepted channel mem)

theorem hearEach?_rest {hear : Hearer} {depth : Nat} {event : Event} (done rest : List ManagedObject)
    (reaches : Reaches hear depth rest event) (quiet : event.isRequest = false)
    (found : tree.transceiver? bts trx = some { t with channels := done ++ rest }) :
    hearEach? hear ((List.range' done.length rest.length).map (.channel bts trx)) event tree =
      some (tree.putTransceiver bts trx { t with
        channels := done ++ rest.map
          (ManagedObject.offered .channel (t.canStart tree.channelsNeedCarrier) event) }) := by
  -- a channel changes nothing that the channels after it look at
  induction rest generalizing tree done with
  | nil =>
    rw [List.map_nil, putTransceiver_self found]
    rfl
  | cons channel rest ih =>
    let heard := channel.offered .channel (t.canStart tree.channelsNeedCarrier) event
    let next := tree.putTransceiver bts trx { t with channels := done ++ heard :: rest }
    have one : hear (.channel bts trx done.length) event tree = some next := by
      rw [reaches.one done.length quiet found (by simp) List.mem_cons_self, modify_at_length]
      rfl
    have reachesRest : Reaches hear depth rest event := by
      rcases reaches with rfl | ⟨rfl, accepted⟩
      · exact .inl rfl
      · exact .inr ⟨rfl, fun c mem => accepted c (List.mem_cons_of_mem _ mem)⟩
    have foundNext : next.transceiver? bts trx =
        some { t with channels := (done ++ [heard]) ++ rest } := by
      rw [← List.append_cons]
      exact transceiver?_putTransceiver_self _ found
    have last := ih (done ++ [heard]) reachesRest foundNext
    rw [List.length_append, List.length_singleton] at last
    rw [List.length_cons, List.range'_succ, List.map_cons, hearEach?, List.foldlM_cons, one]
    refine last.trans ?_
    simp only [next, putTransceiver_putTransceiver, channelsNeedCarrier_putTransceiver, List.map_cons,
      List.append_assoc, List.singleton_append]
    rfl

theorem hearEach?_channels {hear : Hearer} {depth : Nat} {event : Event}
    (reaches : Reaches hear depth t.channels event) (quiet : event.isRequest = false)
    (found : tree.transceiver? bts trx = some t) :
    hearEach? hear (t.channelIds bts trx) event tree =
      some (tree.putTransceiver bts trx (t.channelsHear tree.channelsNeedCarrier event)) := by
  rw [Transceiver.channelIds, List.range_eq_range']
  exact hearEach?_rest [] t.channels reaches quiet found

end Tree

end BaseStation
