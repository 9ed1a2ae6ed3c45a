import BaseStation.Proofs.Management.TreeEvents

namespace BaseStation

open Management

def Half.upEvent : Half → Event
  | .carrier => .rcarrierEnabled
  | .baseband => .bbTranscEnabled

theorem ManagedObject.offered_swAct_comm {channel : ManagedObject} (uninstalled : channel.phase = .notInstalled) :
    (channel.offered .channel false .swAct).offered .channel false .rcarrierEnabled =
      (channel.offered .channel false .rcarrierEnabled).offered .channel false .swAct := by
  obtain ⟨phase, published, attributesSet, started, attributes⟩ := channel
  cases uninstalled
  rfl

namespace Transceiver

def install (need : Bool) (p : Half) (t : Transceiver) : Transceiver :=
  if (t.part p).phase = .notInstalled then
    (t.setPart ((t.part p).entered p.cls .offline) p).passDown need .swAct p
  else t

def enable (need up : Bool) (p : Half) (t : Transceiver) : Transceiver :=
  if (t.part p).phase = .offline ∧ up ∧ (t.part p).started then
    (t.setPart ((t.part p).entered p.cls .enabled) p).channelsHear need p.upEvent
  else t

def withLinks (rsl phy : Bool) (t : Transceiver) : Transceiver := { t with rslUp := rsl, phyUp := phy }

def wake (need up : Bool) (t : Transceiver) : Transceiver :=
  (t.enable need up .carrier).enable need up .baseband

def rouse (need up : Bool) (t : Transceiver) : Transceiver :=
  (((t.install need .carrier).enable need up .carrier).install need .baseband).enable need up .baseband

def rslLinkUp (need dummy : Bool) (t : Transceiver) : Transceiver :=
  (t.withLinks true t.phyUp).wake need (t.phyUp || dummy)

def phyLinkUp (need dummy : Bool) (t : Transceiver) : Transceiver :=
  (t.withLinks t.rslUp true).rouse need (t.rslUp || dummy)

variable {need up : Bool} {p q : Half} {t t' : Transceiver}

section parts

theorem part_channelsHear (event : Event) (p : Half) : (t.channelsHear need event).part p = t.part p := by
  cases p <;> rfl

theorem part_passDown (event : Event) (p q : Half) : (t.passDown need event p).part q = t.part q := by
  cases p
  · rfl
  · exact part_channelsHear event q

theorem part_setPart_of_ne (object : ManagedObject) (ne : p ≠ q) : (t.setPart object p).part q = t.part q := by
  cases p <;> cases q <;> first | rfl | exact absurd rfl ne

theorem part_install (p : Half) : (t.install need p).part p =
    if (t.part p).phase = .notInstalled then (t.part p).entered p.cls .offline else t.part p := by
  unfold install
  split
  · rw [part_passDown, part_setPart_self]
  · rfl

theorem part_install_of_ne (ne : p ≠ q) : (t.install need p).part q = t.part q := by
  unfold install
  split
  · rw [part_passDown, part_setPart_of_ne _ ne]
  · rfl

theorem part_enable (p : Half) : (t.enable need up p).part p =
    if (t.part p).phase = .offline ∧ up ∧ (t.part p).started then (t.part p).entered p.cls .enabled
    else t.part p := by
  unfold enable
  split
  · rw [part_channelsHear, part_setPart_self]
  · rfl

theorem part_enable_of_ne (ne : p ≠ q) : (t.enable need up p).part q = t.part q := by
  unfold enable
  split
  · rw [part_channelsHear, part_setPart_of_ne _ ne]
  · rfl

end parts

section links

variable {rsl phy : Bool}

theorem enable_withLinks : (t.withLinks rsl phy).enable need up p = (t.enable need up p).withLinks rsl phy := by
  have same : (t.withLinks rsl phy).part p = t.part p := by cases p <;> rfl
  unfold enable
  rw [same]
  split
  · cases p <;> rfl
  · rfl

theorem install_withLinks : (t.withLinks rsl phy).install need p = (t.install need p).withLinks rsl phy := by
  have same : (t.withLinks rsl phy).part p = t.part p := by cases p <;> rfl
  unfold install
  rw [same]
  split
  · cases p <;> rfl
  · rfl

theorem wake_withLinks : (t.withLinks rsl phy).wake need up = (t.wake need up).withLinks rsl phy := by
  simp only [wake, enable_withLinks]

theorem rouse_withLinks : (t.withLinks rsl phy).rouse need up = (t.rouse need up).withLinks rsl phy := by
  simp only [rouse, enable_withLinks, install_withLinks]

end links

section sound

theorem act?_enable (need : Bool) (ready : (t.part p).phase = .offline) :
    t.act? need p (.become .enabled) =
      some ((t.setPart ((t.part p).entered p.cls .enabled) p).channelsHear need p.upEvent) := by
  have mayMove : Machine.mayMove p.cls (t.part p).phase .enabled = true := by
    rw [ready]
    cases p <;> rfl
  have alone : (Action.become .enabled).alone? p.cls (t.part p) =
      some ((t.part p).entered p.cls .enabled) := if_pos mayMove
  have notice : (Action.become .enabled).notice? p.cls (t.part p).phase = some p.upEvent := by
    cases p <;> rfl
  simp only [act?, alone, notice, Option.bind_eq_bind, Option.bind_some]

theorem act?_install (need : Bool) (uninstalled : (t.part p).phase = .notInstalled) :
    t.act? need p (.become .offline) = some (t.setPart ((t.part p).entered p.cls .offline) p) := by
  have mayMove : Machine.mayMove p.cls (t.part p).phase .offline = true := by
    rw [uninstalled]
    cases p <;> rfl
  have alone : (Action.become .offline).alone? p.cls (t.part p) =
      some ((t.part p).entered p.cls .offline) := if_pos mayMove
  have notice : (Action.become .offline).notice? p.cls (t.part p).phase = none := by
    rw [uninstalled]
    cases p <;> rfl
  simp only [act?, alone, notice, Option.bind_eq_bind, Option.bind_some]

theorem Sound.enabled (sound : t.Sound need) (up : Bool) (p : Half) : (t.enable need up p).Sound need := by
  unfold Transceiver.enable
  split
  · rename_i due
    obtain ⟨t', enabled, sound'⟩ := sound.enable due.1
    cases (act?_enable need due.1).symm.trans enabled
    exact sound'
  · exact sound

theorem Sound.installed (sound : t.Sound need) (p : Half) : (t.install need p).Sound need := by
  unfold install
  split
  · rename_i uninstalled
    obtain ⟨t', leave, sound', phase, _⟩ :=
      sound.leave p .offline (.inr ⟨rfl, by rw [uninstalled]; decide⟩) (by rintro _ ⟨⟩)
    cases (act?_install need uninstalled).symm.trans leave
    refine sound'.passDown .swAct p ?_
    rintro rfl _
    rw [show (t.setPart _ .baseband).baseband.phase = .offline from phase]
    decide
  · exact sound

end sound

section commute

theorem enable_of_done (done : t'.part p = (t.enable need up p).part p) : t'.enable need up p = t' := by
  refine if_neg ?_
  rw [done, part_enable]
  split
  · rintro ⟨⟨⟩, _⟩
  · assumption

theorem enable_false (p : Half) : t.enable need false p = t :=
  if_neg (by rintro ⟨_, ⟨⟩, _⟩)

theorem enable_install (p : Half) :
    (t.install need p).enable need up p = (t.enable need up p).install need p := by
  by_cases uninstalled : (t.part p).phase = .notInstalled
  · have idle : t.enable need up p = t := by
      refine if_neg ?_
      rw [uninstalled]
      rintro ⟨⟨⟩, _⟩
    rw [idle]
    refine if_neg ?_
    rw [part_install, if_pos uninstalled]
    rintro ⟨_, _, ⟨⟩⟩
  · have stays : t.install need p = t := if_neg uninstalled
    rw [stays]
    refine (if_neg ?_).symm
    rw [part_enable]
    split
    · rintro ⟨⟩
    · exact uninstalled

theorem Sound.down_of_notInstalled (sound : t.Sound need) (p : Half)
    (uninstalled : (t.part p).phase = .notInstalled) : (t.part p).isEnabled = false := by
  rw [← Bool.not_eq_true]
  intro enabled
  have phase := (sound.parts p).enabled.mp enabled
  rw [uninstalled] at phase
  cases phase

theorem canStart_of_down (down : t.baseband.isEnabled = false) : t.canStart need = false := by
  rw [canStart, down, Bool.false_and]

theorem install_carrier (need : Bool) (uninstalled : t.carrier.phase = .notInstalled) :
    t.install need .carrier = { t with carrier := t.carrier.entered .radioCarrier .offline } :=
  if_pos uninstalled

theorem install_baseband (need : Bool) (uninstalled : t.baseband.phase = .notInstalled) :
    t.install need .baseband = { t with
      baseband := t.baseband.entered .basebandTransceiver .offline
      channels := t.channels.map (ManagedObject.offered .channel false .swAct) } :=
  if_pos uninstalled

theorem enable_carrier (need : Bool) (due : t.carrier.phase = .offline ∧ up ∧ t.carrier.started)
    (down : t.baseband.isEnabled = false) :
    t.enable need up .carrier = { t with
      carrier := t.carrier.entered .radioCarrier .enabled
      channels := t.channels.map (ManagedObject.offered .channel false .rcarrierEnabled) } := by
  have waits : (t.setPart ((t.part .carrier).entered Half.carrier.cls .enabled) .carrier).canStart need =
      false := canStart_of_down down
  refine (if_pos due).trans ?_
  rw [channelsHear, waits]
  rfl

theorem enable_baseband (need : Bool) (due : t.baseband.phase = .offline ∧ up ∧ t.baseband.started) :
    t.enable need up .baseband = { t with
      baseband := t.baseband.entered .basebandTransceiver .enabled
      channels := t.channels.map
        (ManagedObject.offered .channel (!need || t.carrier.isEnabled) .bbTranscEnabled) } :=
  if_pos due

theorem enable_install_of_idle (ne : q ≠ p)
    (idle : ¬ (t.part q).phase = .notInstalled ∨
      ¬ ((t.part p).phase = .offline ∧ up ∧ (t.part p).started)) :
    (t.install need q).enable need up p = (t.enable need up p).install need q := by
  rcases idle with installed | idle
  · have stays : t.install need q = t := if_neg installed
    rw [stays]
    refine (if_neg ?_).symm
    rw [part_enable_of_ne ne.symm]
    exact installed
  · have stays : t.enable need up p = t := if_neg idle
    rw [stays]
    refine if_neg ?_
    rw [part_install_of_ne ne]
    exact idle

theorem enable_install_baseband (sound : t.Sound need) :
    (t.install need .baseband).enable need up .carrier =
      (t.enable need up .carrier).install need .baseband := by
  by_cases both : t.baseband.phase = .notInstalled ∧
      (t.carrier.phase = .offline ∧ up ∧ t.carrier.started)
  · obtain ⟨uninstalled, due⟩ := both
    have down : t.baseband.isEnabled = false := sound.down_of_notInstalled .baseband uninstalled
    rw [install_baseband need uninstalled, enable_carrier need due down,
      enable_carrier need (by exact due) (by rfl), install_baseband need (by exact uninstalled)]
    have deaf : ∀ channel ∈ t.channels,
        (channel.offered .channel false .swAct).offered .channel false .rcarrierEnabled =
          (channel.offered .channel false .rcarrierEnabled).offered .channel false .swAct :=
      fun channel mem => ManagedObject.offered_swAct_comm (sound.uninstalled uninstalled channel mem)
    simp only [List.map_map]
    exact congrArg (fun channels => { t with
      carrier := t.carrier.entered .radioCarrier .enabled
      baseband := t.baseband.entered .basebandTransceiver .offline
      channels := channels }) (List.map_congr_left deaf)
  · exact enable_install_of_idle (by rintro ⟨⟩) (Decidable.not_and_iff_or_not.mp both)

/-- Installed or not, a carrier that is not enabled is the same to the channels. -/
theorem enable_install_carrier (sound : t.Sound need) :
    (t.install need .carrier).enable need up .baseband =
      (t.enable need up .baseband).install need .carrier := by
  by_cases both : t.carrier.phase = .notInstalled ∧
      (t.baseband.phase = .offline ∧ up ∧ t.baseband.started)
  · obtain ⟨uninstalled, due⟩ := both
    have down : t.carrier.isEnabled = false := sound.down_of_notInstalled .carrier uninstalled
    rw [install_carrier need uninstalled, enable_baseband need due, enable_baseband need (by exact due),
      install_carrier need (by exact uninstalled), down]
    rfl
  · exact enable_install_of_idle (by rintro ⟨⟩) (Decidable.not_and_iff_or_not.mp both)

theorem wake_rouse (sound : t.Sound need) (up : Bool) :
    (t.rouse need up).wake need true = t.rouse need true := by
  cases up with
  | true =>
    have carrier : (t.rouse need true).enable need true .carrier = t.rouse need true := by
      apply enable_of_done (t := t.install need .carrier)
      rw [rouse, part_enable_of_ne (by rintro ⟨⟩), part_install_of_ne (by rintro ⟨⟩)]
    rw [wake, carrier]
    exact enable_of_done rfl
  | false =>
    have late : t.rouse need false = (t.install need .carrier).install need .baseband := by
      simp only [rouse, enable_false]
    rw [late, wake, enable_install_baseband (sound.installed .carrier)]
    rfl

theorem rouse_wake (sound : t.Sound need) (up : Bool) :
    (t.wake need up).rouse need true = t.rouse need true := by
  cases up with
  | false => simp only [wake, enable_false]
  | true =>
    let installed := (t.install need .carrier).enable need true .carrier
    have carrier : ((t.wake need true).install need .carrier).enable need true .carrier =
        installed.enable need true .baseband := by
      have first : (t.wake need true).install need .carrier = installed.enable need true .baseband := by
        rw [wake, ← enable_install_carrier (sound.enabled true .carrier), ← enable_install .carrier]
      rw [first]
      apply enable_of_done (t := t.install need .carrier)
      rw [part_enable_of_ne (by rintro ⟨⟩)]
    have baseband : ((installed.enable need true .baseband).install need .baseband).enable need true .baseband =
        (installed.install need .baseband).enable need true .baseband := by
      rw [← enable_install .baseband]
      exact enable_of_done rfl
    rw [rouse, carrier, baseband]
    rfl

theorem rslLinkUp_withLinks (rsl : Bool) (dummy : Bool) :
    (t.withLinks rsl true).rslLinkUp need dummy = (t.wake need true).withLinks true true := by
  have links : (t.withLinks rsl true).withLinks true true = t.withLinks true true := rfl
  rw [rslLinkUp, show (t.withLinks rsl true).phyUp = true from rfl, links, Bool.true_or, wake_withLinks]

theorem phyLinkUp_withLinks (phy : Bool) (dummy : Bool) :
    (t.withLinks true phy).phyLinkUp need dummy = (t.rouse need true).withLinks true true := by
  have links : (t.withLinks true phy).withLinks true true = t.withLinks true true := rfl
  rw [phyLinkUp, show (t.withLinks true phy).rslUp = true from rfl, links, Bool.true_or, rouse_withLinks]

theorem phyLinkUp_rslLinkUp (sound : t.Sound need) (dummy : Bool) :
    (t.phyLinkUp need dummy).rslLinkUp need dummy = (t.rslLinkUp need dummy).phyLinkUp need dummy := by
  have roused : t.phyLinkUp need dummy = (t.rouse need (t.rslUp || dummy)).withLinks t.rslUp true :=
    rouse_withLinks
  have woken : t.rslLinkUp need dummy = (t.wake need (t.phyUp || dummy)).withLinks true t.phyUp :=
    wake_withLinks
  rw [roused, woken, rslLinkUp_withLinks, phyLinkUp_withLinks, wake_rouse sound, rouse_wake sound]

end commute

end Transceiver

end BaseStation
