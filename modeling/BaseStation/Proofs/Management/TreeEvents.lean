import BaseStation.Proofs.Management.TreeSound

namespace BaseStation

open Management

namespace Tree

variable {tree : Tree} {depth : Nat} {event : Event}

theorem foldlM_cons_some {hear : Hearer} {id : ObjectId} {action : Action} {actions : List Action}
    {tree tree' : Tree} (first : act? hear id tree action = some tree') :
    (action :: actions).foldlM (act? hear id) tree = actions.foldlM (act? hear id) tree' := by
  rw [List.foldlM_cons, first]
  rfl

theorem Sound.transceiversHear {hear : Hearer} (tree₀ : Tree) (event : Event) (sound : tree.Sound)
    (reaches : ReachesParts hear depth event) (quiet : event.isRequest = false)
    (same : tree₀.transceivers = tree.transceivers) :
    ∃ tree', hearEach? hear (tree₀.transceiverIds 0) event tree = some tree' ∧ tree'.Sound ∧
      Within tree tree' := by
  refine hearEach?_parts reaches quiet _ sound ?_
  intro id mem
  rw [← same]
  exact mem_transceiverIds mem

theorem bts_shutdownStart (depth : Nat) (sound : tree.Sound) :
    ∃ tree', Reacts (depth + 2) tree (.bts 0) tree.bts .shutdownStart tree' ∧ tree'.Sound ∧
      tree'.siteManager = tree.siteManager ∧ tree'.gprsNse = tree.gprsNse := by
  obtain ⟨bts, announce, sound₁, _⟩ := sound.btsQuiet (hear? (depth + 2)) .announceShutdown
  obtain ⟨tree₂, told, sound₂, ts, rfl, _⟩ :=
    sound₁.transceiversHear tree .shutdownStart (.inr ⟨rfl, rfl⟩) rfl rfl
  exact ⟨_, (foldlM_cons_some announce).trans ((foldlM_tell ..).trans told), sound₂, rfl, rfl⟩

theorem bts_shutdownFinish (depth : Nat) (sound : tree.Sound) :
    ∃ tree', Reacts (depth + 2) tree (.bts 0) tree.bts .shutdownFinish tree' ∧ tree'.Sound ∧
      tree'.siteManager = tree.siteManager ∧ tree'.bts.phase = .notInstalled ∧
      (tree.gprsNse.phase = .notInstalled → tree'.gprsNse.phase = .notInstalled) := by
  obtain ⟨tree₁, told, sound₁, ts, rfl, _⟩ :=
    sound.transceiversHear tree .shutdownFinish (.inr ⟨rfl, rfl⟩) rfl rfl
  obtain ⟨tree₂, leave, sound₂, root, down, nse⟩ := sound₁.btsUninstall (depth + 1)
  refine ⟨tree₂, ?_, sound₂, root, down, nse⟩
  show (List.map _ _ ++ [_]).foldlM _ _ = _
  rw [List.foldlM_append]
  refine (congrArg (· >>= _) ((foldlM_tell ..).trans told)).trans ?_
  exact foldlM_cons_some leave

theorem bts_omlUp (depth : Nat) (sound : tree.Sound)
    (accepted : Machine.accepts .bts tree.bts.phase .omlUp = true)
    (rooted : tree.siteManager.phase ≠ .notInstalled) :
    ∃ tree', Reacts (depth + 2) tree (.bts 0) tree.bts .omlUp tree' ∧ tree'.Sound ∧
      tree'.siteManager = tree.siteManager ∧ tree'.gprsNse = tree.gprsNse := by
  unfold Reacts
  cases phase : tree.bts.phase with
  | dependency | enabled =>
    rw [phase] at accepted
    cases accepted
  | offline =>
    obtain ⟨bts, again, sound₁, _⟩ := sound.btsQuiet (hear? (depth + 2)) .repeatState
    refine ⟨_, ?_, sound₁, rfl, rfl⟩
    simp only [reactionIn, reaction, ObjectId.objectClass, phase]
    exact foldlM_cons_some again
  | notInstalled =>
    obtain ⟨bts, report, sound₁, phase₁⟩ := sound.btsQuiet (hear? (depth + 2)) .reportSoftware
    obtain ⟨bts', install, sound₂⟩ :=
      sound₁.btsInstall (hear? (depth + 2)) rooted (phase₁.trans phase)
    obtain ⟨tree₃, offered, sound₃, ts, rfl, _⟩ :=
      sound₂.transceiversHear tree .omlUp (.inl rfl) rfl rfl
    refine ⟨_, ?_, sound₃, rfl, rfl⟩
    simp only [reactionIn, reaction, ObjectId.objectClass, phase]
    exact (foldlM_cons_some report).trans
      ((foldlM_cons_some install).trans ((foldlM_offer ..).trans offered))

theorem bts_opstartAck (depth : Nat) (sound : tree.Sound) (ready : tree.bts.phase = .offline) :
    ∃ tree', Reacts (depth + 2) tree (.bts 0) tree.bts .opstartAck tree' ∧ tree'.Sound ∧
      tree'.siteManager = tree.siteManager := by
  obtain ⟨bts, acknowledge, sound₁, phase⟩ := sound.btsQuiet (hear? (depth + 2)) .acknowledge
  obtain ⟨tree₂, enable, sound₂, root⟩ := sound₁.btsEnable (depth + 1) (phase.trans ready)
  exact ⟨tree₂, (foldlM_cons_some acknowledge).trans (foldlM_cons_some enable), sound₂, root⟩

theorem hear?_bts (depth : Nat) (event : Event) (sound : tree.Sound) (quiet : event.isRequest = false)
    (accepted : Machine.accepts .bts tree.bts.phase event.kind = true)
    (rooted : event = .omlUp → tree.siteManager.phase ≠ .notInstalled) :
    ∃ tree', hear? (depth + 3) (.bts 0) event tree = some tree' ∧ tree'.Sound := by
  suffices h : ∃ tree', Reacts (depth + 2) tree (.bts 0) tree.bts event tree' ∧ tree'.Sound by
    obtain ⟨tree', reacts, sound'⟩ := h
    exact ⟨tree', hear?_of_reacts rfl reacts accepted, sound'⟩
  cases event with
  | rxSetAttr _ | rxOpstart => cases quiet
  | swAct | rslUp | rslDown | phyLinkUp | phyLinkDown | disable | bbTranscEnabled | bbTranscDisabled
  | rcarrierEnabled | rcarrierDisabled | btsEnabled | btsDisabled =>
    cases phase : tree.bts.phase <;> rw [phase] at accepted <;> cases accepted
  | shutdownStart =>
    obtain ⟨tree', reacts, sound', _⟩ := bts_shutdownStart depth sound
    exact ⟨tree', reacts, sound'⟩
  | shutdownFinish =>
    obtain ⟨tree', reacts, sound', _⟩ := bts_shutdownFinish depth sound
    exact ⟨tree', reacts, sound'⟩
  | omlUp =>
    obtain ⟨tree', reacts, sound', _⟩ := bts_omlUp depth sound accepted (rooted rfl)
    exact ⟨tree', reacts, sound'⟩
  | opstartAck =>
    have ready := Machine.offline_of_answer (by decide) (.inl rfl) accepted
    obtain ⟨tree', reacts, sound', _⟩ := bts_opstartAck depth sound ready
    exact ⟨tree', reacts, sound'⟩
  | opstartNack cause =>
    obtain ⟨bts, refuse, sound₁, _⟩ := sound.btsQuiet (hear? (depth + 2)) (.refuse cause)
    exact ⟨_, foldlM_cons_some refuse, sound₁⟩

section siteManager

theorem act?_siteManager (hear : Hearer) (tree : Tree) {action : Action} {object : ManagedObject}
    (alone : action.alone? .siteManager tree.siteManager = some object) :
    act? hear .siteManager tree action = some { tree with siteManager := object } :=
  (act?_of_alone hear (show tree.get? .siteManager = some tree.siteManager from rfl) alone).trans (by
    cases action.notice? .siteManager tree.siteManager.phase <;> rfl)

theorem Sound.setSiteManager {object : ManagedObject} (sound : tree.Sound)
    (objectSound : object.Sound .siteManager)
    (uninstalled : object.phase = .notInstalled →
      tree.gprsNse.phase = .notInstalled ∧ tree.bts.phase = .notInstalled) :
    ({ tree with siteManager := object } : Tree).Sound :=
  ⟨objectSound, sound.gprsNse, sound.bts, uninstalled, sound.waiting, sound.serving,
    sound.transceivers⟩

theorem Sound.rootQuiet {action : Action} (hear : Hearer) (sound : tree.Sound)
    (quiet : action.IsQuiet) :
    ∃ object, act? hear .siteManager tree action = some { tree with siteManager := object } ∧
      ({ tree with siteManager := object } : Tree).Sound ∧
      object.phase = tree.siteManager.phase := by
  obtain ⟨object, alone, alike⟩ := quiet.alone? .siteManager tree.siteManager
  exact ⟨object, act?_siteManager hear tree alone, sound.put .siteManager rfl alike,
    alike.phase⟩

theorem Sound.rootBecome (hear : Hearer) (target : Phase) (sound : tree.Sound)
    (mayMove : Machine.mayMove .siteManager tree.siteManager.phase target = true)
    (uninstalled : target = .notInstalled →
      tree.gprsNse.phase = .notInstalled ∧ tree.bts.phase = .notInstalled) :
    ∃ object, act? hear .siteManager tree (.become target) = some { tree with siteManager := object } ∧
      ({ tree with siteManager := object } : Tree).Sound ∧ object.phase = target := by
  have alone : (Action.become target).alone? .siteManager tree.siteManager =
      some (tree.siteManager.entered .siteManager target) := if_pos mayMove
  exact ⟨_, act?_siteManager hear tree alone,
    sound.setSiteManager (sound.siteManager.alone alone) uninstalled, rfl⟩

theorem root_shutdownStart (depth : Nat) (sound : tree.Sound) :
    ∃ tree', Reacts (depth + 3) tree .siteManager tree.siteManager .shutdownStart tree' ∧
      tree'.Sound := by
  obtain ⟨root, announce, sound₁, _⟩ := sound.rootQuiet (hear? (depth + 3)) .announceShutdown
  have nse := offered_shutdownStart .gprsNse tree.bts.isEnabled tree.gprsNse
  have sound₂ := sound₁.setGprsNse (sound₁.gprsNse.offered tree.bts.isEnabled .shutdownStart)
    (fun h => nse.trans (sound₁.uninstalled h).1) (fun h => sound₁.waiting (nse.symm.trans h))
    (fun h => sound₁.serving (nse ▸ h))
  obtain ⟨tree₃, reacts, sound₃, _⟩ := bts_shutdownStart depth sound₂
  have told := hear?_of_reacts rfl reacts rfl
  refine ⟨tree₃, (foldlM_cons_some announce).trans ?_, sound₃⟩
  exact Eq.trans (foldlM_cons_some (hear?_gprsNse (depth + 2) rfl rfl)) (foldlM_cons_some told)

theorem root_shutdownFinish (depth : Nat) (sound : tree.Sound) :
    ∃ tree', Reacts (depth + 3) tree .siteManager tree.siteManager .shutdownFinish tree' ∧
      tree'.Sound := by
  have nse := ManagedObject.offered_shutdownFinish .gprsNse tree.bts.isEnabled tree.gprsNse rfl
  have sound₁ := sound.setGprsNse (sound.gprsNse.offered tree.bts.isEnabled .shutdownFinish)
    (fun _ => nse) (by rw [nse]; rintro ⟨⟩) (by rw [nse]; rintro (h | h) <;> cases h)
  obtain ⟨tree₂, reacts, sound₂, _, bts, nse₂⟩ := bts_shutdownFinish depth sound₁
  have told := hear?_of_reacts rfl reacts rfl
  obtain ⟨object, leave, sound₃, _⟩ := sound₂.rootBecome (hear? (depth + 3)) .notInstalled
    (Machine.mayMove_notInstalled sound₂.siteManager.inUse) fun _ => ⟨nse₂ nse, bts⟩
  refine ⟨_, Eq.trans (foldlM_cons_some (hear?_gprsNse (depth + 2) rfl rfl)) ?_, sound₃⟩
  exact Eq.trans (foldlM_cons_some told) (foldlM_cons_some leave)

theorem root_omlUp (depth : Nat) (sound : tree.Sound)
    (uninstalled : tree.siteManager.phase = .notInstalled) :
    ∃ tree', Reacts (depth + 3) tree .siteManager tree.siteManager .omlUp tree' ∧ tree'.Sound := by
  obtain ⟨nseDown, btsDown⟩ := sound.uninstalled uninstalled
  obtain ⟨root, report, sound₁, phase₁⟩ := sound.rootQuiet (hear? (depth + 3)) .reportSoftware
  have mayMove : Machine.mayMove .siteManager root.phase .offline = true := by
    rw [phase₁, uninstalled]
    rfl
  obtain ⟨root', install, sound₂, phase₂⟩ :=
    sound₁.rootBecome (hear? (depth + 3)) .offline mayMove (by rintro ⟨⟩)
  have rooted : root'.phase ≠ .notInstalled := by
    rw [phase₂]
    decide
  have disabled : tree.bts.isEnabled = false := by
    rw [Bool.eq_false_iff]
    intro enabled
    have := sound.bts.enabled.mp enabled
    rw [btsDown] at this
    cases this
  have nse : (tree.gprsNse.offered .gprsNse tree.bts.isEnabled .omlUp).phase = .dependency := by
    rw [disabled]
    exact offered_omlUp nseDown
  have sound₃ := sound₂.setGprsNse (sound₂.gprsNse.offered tree.bts.isEnabled .omlUp)
    (fun h => absurd h rooted) (fun _ => by rw [btsDown]; decide)
    (by rw [nse]; rintro (h | h) <;> cases h)
  have accepted : Machine.accepts .bts tree.bts.phase .omlUp = true := by
    rw [btsDown]
    rfl
  obtain ⟨tree₄, reacts, sound₄, _⟩ := bts_omlUp depth sound₃ accepted rooted
  have told := hear?_of_reacts rfl reacts accepted
  refine ⟨tree₄, (foldlM_cons_some report).trans ((foldlM_cons_some install).trans ?_), sound₄⟩
  exact Eq.trans (foldlM_cons_some (hear?_gprsNse (depth + 2) rfl (by rw [nseDown]; rfl)))
    (foldlM_cons_some told)

theorem root_opstartAck (depth : Nat) (sound : tree.Sound) (ready : tree.siteManager.phase = .offline) :
    ∃ tree', Reacts (depth + 3) tree .siteManager tree.siteManager .opstartAck tree' ∧ tree'.Sound := by
  obtain ⟨root, acknowledge, sound₁, phase⟩ := sound.rootQuiet (hear? (depth + 3)) .acknowledge
  have mayMove : Machine.mayMove .siteManager root.phase .enabled = true := by
    rw [phase, ready]
    rfl
  obtain ⟨root', enable, sound₂, _⟩ :=
    sound₁.rootBecome (hear? (depth + 3)) .enabled mayMove (by rintro ⟨⟩)
  exact ⟨_, (foldlM_cons_some acknowledge).trans (foldlM_cons_some enable), sound₂⟩

theorem hear?_siteManager (depth : Nat) (sound : tree.Sound) (quiet : event.isRequest = false)
    (accepted : Machine.accepts .siteManager tree.siteManager.phase event.kind = true) :
    ∃ tree', hear? (depth + 4) .siteManager event tree = some tree' ∧ tree'.Sound := by
  suffices h : ∃ tree', Reacts (depth + 3) tree .siteManager tree.siteManager event tree' ∧
      tree'.Sound by
    obtain ⟨tree', reacts, sound'⟩ := h
    exact ⟨tree', hear?_of_reacts rfl reacts accepted, sound'⟩
  cases event with
  | rxSetAttr _ | rxOpstart => cases quiet
  | swAct | rslUp | rslDown | phyLinkUp | phyLinkDown | disable | bbTranscEnabled | bbTranscDisabled
  | rcarrierEnabled | rcarrierDisabled | btsEnabled | btsDisabled =>
    cases phase : tree.siteManager.phase <;> rw [phase] at accepted <;> cases accepted
  | shutdownStart => exact root_shutdownStart depth sound
  | shutdownFinish => exact root_shutdownFinish depth sound
  | omlUp =>
    refine root_omlUp depth sound ?_
    cases phase : tree.siteManager.phase <;> rw [phase] at accepted <;> first | rfl | cases accepted
  | opstartAck =>
    exact root_opstartAck depth sound (Machine.offline_of_answer (by decide) (.inl rfl) accepted)
  | opstartNack cause =>
    obtain ⟨root, refuse, sound₁, _⟩ := sound.rootQuiet (hear? (depth + 3)) (.refuse cause)
    exact ⟨_, foldlM_cons_some refuse, sound₁⟩

end siteManager

def External (id : ObjectId) : Event → Prop
  | .disable | .opstartAck | .opstartNack _ => True
  | .omlUp | .shutdownStart | .shutdownFinish => id = .siteManager
  | .swAct | .rslUp | .phyLinkUp | .phyLinkDown =>
    ∃ bts trx, id = .radioCarrier bts trx ∨ id = .basebandTransceiver bts trx
  | _ => False

theorem External.quiet {id : ObjectId} (external : External id event) : event.isRequest = false := by
  cases event <;> first | rfl | cases external

def linkNews : List Event := [.swAct, .rslUp, .phyLinkUp, .phyLinkDown]

theorem external_of_linkNews {event : Event} (news : event ∈ linkNews) (bts trx : Nat) (p : Half) :
    External (p.id bts trx) event := by
  have part : ∃ b t, p.id bts trx = .radioCarrier b t ∨ p.id bts trx = .basebandTransceiver b t := by
    cases p with
    | carrier => exact ⟨bts, trx, .inl rfl⟩
    | baseband => exact ⟨bts, trx, .inr rfl⟩
  simp only [linkNews, List.mem_cons, List.not_mem_nil, or_false] at news
  rcases news with rfl | rfl | rfl | rfl <;> exact part

theorem hear?_gprsNse_sound (depth : Nat) (sound : tree.Sound) (external : External .gprsNse event)
    (accepted : Machine.accepts .gprsNse tree.gprsNse.phase event.kind = true) :
    ∃ tree', hear? (depth + 1) .gprsNse event tree = some tree' ∧ tree'.Sound := by
  have answer : event = .opstartAck ∨ ∃ cause, event = .opstartNack cause := by
    cases event with
    | opstartAck => exact .inl rfl
    | opstartNack cause => exact .inr ⟨cause, rfl⟩
    | disable => cases phase : tree.gprsNse.phase <;> rw [phase] at accepted <;> cases accepted
    | omlUp | shutdownStart | shutdownFinish => cases external
    | swAct | rslUp | phyLinkUp | phyLinkDown => obtain ⟨_, _, h | h⟩ := external <;> cases h
    | _ => cases external
  have kind : event.kind = .opstartAck ∨ event.kind = .opstartNack := by
    rcases answer with rfl | ⟨cause, rfl⟩
    · exact .inl rfl
    · exact .inr rfl
  have ready : tree.gprsNse.phase = .offline := Machine.offline_of_answer (by decide) kind accepted
  have stays : (tree.gprsNse.offered .gprsNse tree.bts.isEnabled event).phase = .offline ∨
      (tree.gprsNse.offered .gprsNse tree.bts.isEnabled event).phase = .enabled := by
    generalize tree.gprsNse = object at ready ⊢
    obtain ⟨phase, published, attributesSet, started, attributes⟩ := object
    cases ready
    rcases answer with rfl | ⟨cause, rfl⟩
    · exact .inr rfl
    · exact .inl rfl
  have enabled := sound.serving (.inl ready)
  refine ⟨_, hear?_gprsNse depth external.quiet accepted,
    sound.setGprsNse (sound.gprsNse.offered _ _) ?_ ?_ fun _ => enabled⟩
  · intro root
    have := (sound.uninstalled root).1
    rw [ready] at this
    cases this
  · intro waits
    rw [waits] at stays
    rcases stays with h | h <;> cases h

theorem hear?_channel_sound {bts trx ts : Nat} {channel : ManagedObject} (depth : Nat)
    (sound : tree.Sound) (found : tree.get? (.channel bts trx ts) = some channel)
    (quiet : event.isRequest = false) (installs : event ≠ .swAct)
    (accepted : Machine.accepts .channel channel.phase event.kind = true) :
    ∃ tree', hear? (depth + 1) (.channel bts trx ts) event tree = some tree' ∧ tree'.Sound := by
  refine ⟨_, hear?_alone depth rfl quiet found accepted, ?_⟩
  simp only [get?, Option.bind_eq_some_iff] at found
  obtain ⟨t, found, slot⟩ := found
  have sound_t := sound.transceiver found
  rw [put_channel found]
  refine sound.putTransceiver (sound_t.setChannel slot
    ((sound_t.channels channel (List.mem_of_getElem? slot)).offered _ _) ?_ ?_)
  · exact fun uninstalled => ManagedObject.offered_channel_uninstalled _ uninstalled installs
  · intro canStart ready
    have supported : supported tree (.channel bts trx ts) = true :=
      (channelsCanStart_of_found found).trans canStart
    rw [supported]
    exact ManagedObject.offered_channel_ready ready

/-- Any object told of an event that it accepts and that comes from outside. -/
theorem hear?_sound {id : ObjectId} {object : ManagedObject} (sound : tree.Sound)
    (found : tree.get? id = some object)
    (accepted : Machine.accepts id.objectClass object.phase event.kind = true)
    (external : External id event) :
    ∃ tree', hear? nesting id event tree = some tree' ∧ tree'.Sound := by
  have quiet := external.quiet
  cases id with
  | siteManager =>
    cases found
    exact hear?_siteManager 0 sound quiet accepted
  | gprsNse =>
    cases found
    exact hear?_gprsNse_sound 3 sound external accepted
  | bts b =>
    by_cases first : b = 0
    · subst first
      cases found
      refine hear?_bts 1 event sound quiet accepted ?_
      rintro rfl
      cases external
    · simp only [get?, first, if_false] at found
      cases found
  | radioCarrier b trx =>
    simp only [get?, Option.map_eq_some_iff] at found
    obtain ⟨t, found, rfl⟩ := found
    obtain ⟨t', heard, sound'⟩ :=
      hear?_part (p := .carrier) 2 found (sound.transceiver found) quiet accepted
    exact ⟨_, heard, sound.putTransceiver sound'⟩
  | basebandTransceiver b trx =>
    simp only [get?, Option.map_eq_some_iff] at found
    obtain ⟨t, found, rfl⟩ := found
    obtain ⟨t', heard, sound'⟩ :=
      hear?_part (p := .baseband) 2 found (sound.transceiver found) quiet accepted
    exact ⟨_, heard, sound.putTransceiver sound'⟩
  | channel b trx ts =>
    refine hear?_channel_sound 3 sound found quiet ?_ accepted
    rintro rfl
    obtain ⟨_, _, h | h⟩ := external <;> cases h

end Tree

end BaseStation
