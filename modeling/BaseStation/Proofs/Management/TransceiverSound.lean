import BaseStation.Proofs.Management.Fanout

namespace BaseStation

open Management

inductive Half
  | carrier
  | baseband

namespace Half

def cls : Half → ObjectClass
  | carrier => .radioCarrier
  | baseband => .basebandTransceiver

def id (bts trx : Nat) : Half → ObjectId
  | carrier => .radioCarrier bts trx
  | baseband => .basebandTransceiver bts trx

theorem objectClass_id (bts trx : Nat) (p : Half) : (p.id bts trx).objectClass = p.cls := by
  cases p <;> rfl

end Half

namespace Transceiver

variable {need : Bool} {p : Half} {t : Transceiver} {event : Event}

def part (t : Transceiver) : Half → ManagedObject
  | .carrier => t.carrier
  | .baseband => t.baseband

def setPart (t : Transceiver) (object : ManagedObject) : Half → Transceiver
  | .carrier => { t with carrier := object }
  | .baseband => { t with baseband := object }

theorem part_setPart_self (t : Transceiver) (object : ManagedObject) (p : Half) :
    (t.setPart object p).part p = object := by
  cases p <;> rfl

theorem channels_setPart (t : Transceiver) (object : ManagedObject) (p : Half) :
    (t.setPart object p).channels = t.channels := by
  cases p <;> rfl

theorem canStart_setPart_of_same {object : ManagedObject} (need : Bool)
    (same : object.isEnabled = (t.part p).isEnabled) :
    (t.setPart object p).canStart need = t.canStart need := by
  cases p <;> simp only [part] at same <;> simp only [setPart, canStart, same]

theorem canStart_of_disabled {object : ManagedObject} (disabled : object.isEnabled = false)
    (ready : (t.setPart object p).canStart need = true) : t.canStart need = true := by
  cases p with
  | carrier =>
    simp only [setPart, canStart, disabled, Bool.or_false, Bool.and_eq_true] at ready
    simp only [canStart, ready, Bool.true_or, Bool.and_true]
  | baseband => simp [setPart, canStart, disabled] at ready

/-- Every object is in a phase that its class uses, and no channel is installed before the baseband
transceiver. -/
structure Settled (t : Transceiver) : Prop where
  parts : ∀ p, (t.part p).Sound p.cls
  channels : ∀ channel ∈ t.channels, channel.Sound .channel
  uninstalled : t.baseband.phase = .notInstalled →
    ∀ channel ∈ t.channels, channel.phase = .notInstalled

structure Sound (need : Bool) (t : Transceiver) : Prop extends Settled t where
  woken : t.canStart need = true → ∀ channel ∈ t.channels, channel.phase ≠ .dependency

theorem Settled.channelsHear (settled : t.Settled)
    (installs : event = .swAct → t.baseband.phase ≠ .notInstalled)
    (wakes : t.canStart need = true → event = .bbTranscEnabled ∨ event = .rcarrierEnabled ∨
      ∀ channel ∈ t.channels, channel.phase ≠ .dependency) :
    (t.channelsHear need event).Sound need := by
  refine ⟨⟨?_, ?_, ?_⟩, ?_⟩
  · intro p
    cases p with
    | carrier => exact settled.parts .carrier
    | baseband => exact settled.parts .baseband
  · intro channel mem
    obtain ⟨before, was, rfl⟩ := List.mem_map.mp mem
    exact (settled.channels before was).offered _ _
  · intro uninstalled channel mem
    obtain ⟨before, was, rfl⟩ := List.mem_map.mp mem
    exact ManagedObject.offered_channel_uninstalled _ (settled.uninstalled uninstalled before was)
      fun installing => installs installing uninstalled
  · intro ready channel mem
    obtain ⟨before, was, rfl⟩ := List.mem_map.mp mem
    have ready : t.canStart need = true := ready
    rw [ready]
    rcases wakes ready with bb | rc | all
    · exact ManagedObject.offered_channel_woken (.inl bb)
    · exact ManagedObject.offered_channel_woken (.inr rc)
    · exact ManagedObject.offered_channel_ready (all before was)

theorem Settled.setPart {object : ManagedObject} (settled : t.Settled) (sound : object.Sound p.cls)
    (uninstalls : p = .baseband → object.phase = .notInstalled →
      ∀ channel ∈ t.channels, channel.phase = .notInstalled) : (t.setPart object p).Settled := by
  cases p with
  | carrier =>
    refine ⟨?_, settled.channels, settled.uninstalled⟩
    intro p
    cases p with
    | carrier => exact sound
    | baseband => exact settled.parts .baseband
  | baseband =>
    refine ⟨?_, settled.channels, uninstalls rfl⟩
    intro p
    cases p with
    | carrier => exact settled.parts .carrier
    | baseband => exact sound

def act? (need : Bool) (p : Half) (t : Transceiver) (action : Action) : Option Transceiver := do
  let object ← action.alone? p.cls (t.part p)
  match action.notice? p.cls (t.part p).phase with
  | some event => some ((t.setPart object p).channelsHear need event)
  | none => some (t.setPart object p)

theorem Sound.setPart {object : ManagedObject} (sound : t.Sound need)
    (alike : (t.part p).Alike object) : (t.setPart object p).Sound need := by
  refine ⟨sound.toSettled.setPart ((sound.parts p).alike alike) ?_, ?_⟩
  · rintro rfl uninstalled
    exact sound.uninstalled (alike.phase.symm.trans uninstalled)
  · rw [canStart_setPart_of_same need alike.enabled, channels_setPart]
    exact sound.woken

theorem Sound.setLinks (sound : t.Sound need) (rsl phy : Bool) :
    ({ t with rslUp := rsl, phyUp := phy } : Transceiver).Sound need := by
  refine ⟨⟨?_, sound.channels, sound.uninstalled⟩, sound.woken⟩
  intro p
  cases p with
  | carrier => exact sound.parts .carrier
  | baseband => exact sound.parts .baseband

theorem Sound.setChannel {ts : Nat} {channel object : ManagedObject} (sound : t.Sound need)
    (slot : t.channels[ts]? = some channel) (objectSound : object.Sound .channel)
    (uninstalled : channel.phase = .notInstalled → object.phase = .notInstalled)
    (ready : t.canStart need = true → channel.phase ≠ .dependency → object.phase ≠ .dependency) :
    ({ t with channels := t.channels.modify ts fun _ => object } : Transceiver).Sound need := by
  have old : channel ∈ t.channels := List.mem_of_getElem? slot
  have cases_mem : ∀ c ∈ t.channels.modify ts fun _ => object, c = object ∨ c ∈ t.channels := by
    intro c mem
    obtain ⟨i, place⟩ := List.mem_iff_getElem?.mp mem
    rw [List.getElem?_modify, Option.map_eq_map, Option.map_eq_some_iff] at place
    obtain ⟨before, was, rfl⟩ := place
    split
    · exact .inl rfl
    · exact .inr (List.mem_of_getElem? was)
  refine ⟨⟨?_, ?_, ?_⟩, ?_⟩
  · intro p
    cases p with
    | carrier => exact sound.parts .carrier
    | baseband => exact sound.parts .baseband
  · intro c mem
    rcases cases_mem c mem with rfl | mem
    · exact objectSound
    · exact sound.channels c mem
  · intro down c mem
    rcases cases_mem c mem with rfl | mem
    · exact uninstalled (sound.uninstalled down channel old)
    · exact sound.uninstalled down c mem
  · intro canStart c mem
    rcases cases_mem c mem with rfl | mem
    · exact ready canStart (sound.woken canStart channel old)
    · exact sound.woken canStart c mem

theorem Sound.quiet {action : Action} (sound : t.Sound need) (p : Half) (quiet : action.IsQuiet) :
    ∃ t', t.act? need p action = some t' ∧ t'.Sound need ∧
      (t'.part p).phase = (t.part p).phase ∧ t'.channels = t.channels := by
  obtain ⟨object, alone, alike⟩ := quiet.alone? p.cls (t.part p)
  refine ⟨t.setPart object p, ?_, sound.setPart alike, ?_, channels_setPart t object p⟩
  · simp only [act?, alone, Option.bind_eq_bind, Option.bind_some, quiet.notice?_eq_none]
  · rw [part_setPart_self, alike.phase]

theorem Settled.phase_ne_dependency (settled : t.Settled) (p : Half) :
    (t.part p).phase ≠ .dependency := by
  intro waits
  have inUse := (settled.parts p).inUse
  rw [waits] at inUse
  cases p <;> cases inUse

theorem Sound.enable (sound : t.Sound need) (ready : (t.part p).phase = .offline) :
    ∃ t', t.act? need p (.become .enabled) = some t' ∧ t'.Sound need := by
  have mayMove : Machine.mayMove p.cls (t.part p).phase .enabled = true := by
    rw [ready]
    cases p <;> rfl
  have alone : (Action.become .enabled).alone? p.cls (t.part p) =
      some ((t.part p).entered p.cls .enabled) := if_pos mayMove
  have settled : (t.setPart ((t.part p).entered p.cls .enabled) p).Settled :=
    sound.toSettled.setPart ((sound.parts p).alone alone) fun _ uninstalled => by cases uninstalled
  simp only [act?, alone, Option.bind_eq_bind, Option.bind_some]
  cases p with
  | carrier => exact ⟨_, rfl, settled.channelsHear (by rintro ⟨⟩) fun _ => .inr (.inl rfl)⟩
  | baseband => exact ⟨_, rfl, settled.channelsHear (by rintro ⟨⟩) fun _ => .inl rfl⟩

theorem Sound.leave (p : Half) (target : Phase) (sound : t.Sound need)
    (leaves : target = .notInstalled ∨ target = .offline ∧ (t.part p).phase ≠ .offline)
    (uninstalls : p = .baseband → target = .notInstalled →
      ∀ channel ∈ t.channels, channel.phase = .notInstalled) :
    ∃ t', t.act? need p (.become target) = some t' ∧ t'.Sound need ∧
      (t'.part p).phase = target ∧ ((t.part p).phase = .notInstalled → t'.channels = t.channels) := by
  have mayMove : Machine.mayMove p.cls (t.part p).phase target = true := by
    rcases leaves with rfl | ⟨rfl, away⟩
    · exact Machine.mayMove_notInstalled (sound.parts p).inUse
    · have used := sound.phase_ne_dependency p
      cases p <;> cases phase : (t.part _).phase <;>
        first | rfl | exact absurd phase used | exact absurd phase away
  have alone : (Action.become target).alone? p.cls (t.part p) =
      some ((t.part p).entered p.cls target) := if_pos mayMove
  have disabled : ((t.part p).entered p.cls target).isEnabled = false := by
    rcases leaves with rfl | ⟨rfl, _⟩ <;> rfl
  let t' := t.setPart ((t.part p).entered p.cls target) p
  have settled : t'.Settled := sound.toSettled.setPart ((sound.parts p).alone alone) uninstalls
  -- nothing becomes possible for the channels as one of the two goes, so none has to be woken
  have woken : t'.canStart need = true → ∀ channel ∈ t'.channels, channel.phase ≠ .dependency := by
    intro ready
    rw [channels_setPart]
    exact sound.woken (canStart_of_disabled disabled ready)
  simp only [act?, alone, Option.bind_eq_bind, Option.bind_some]
  cases notice : (Action.become target).notice? p.cls (t.part p).phase with
  | none =>
    refine ⟨t', rfl, ⟨settled, woken⟩, ?_, fun _ => channels_setPart _ _ p⟩
    rw [part_setPart_self]
    rfl
  | some event =>
    refine ⟨t'.channelsHear need event, rfl, settled.channelsHear ?_ ?_, ?_, ?_⟩
    · rintro rfl
      cases p <;> cases phase : (t.part _).phase <;> rw [phase] at notice <;>
        rcases leaves with rfl | ⟨rfl, _⟩ <;> cases notice
    · exact fun ready => .inr (.inr (woken ready))
    · have kept : ((t'.channelsHear need event).part p) = t'.part p := by cases p <;> rfl
      rw [kept, part_setPart_self]
      rfl
    · intro uninstalled
      rw [uninstalled] at notice
      cases p <;> rcases leaves with rfl | ⟨rfl, _⟩ <;> cases notice

end Transceiver

end BaseStation
