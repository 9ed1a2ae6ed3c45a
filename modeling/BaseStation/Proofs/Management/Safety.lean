import BaseStation.Proofs.Management.Reachable

namespace BaseStation.Manager

/-- The only way to a fault is to ask an object of the tree for something that it does not accept in its
phase. News of the links, changes of the administrative state, and all that objects and equipment tell
each other meanwhile never are one. -/
theorem receive_faults_iff {manager : Manager} (reachable : Reachable manager) (flags : LinkFlags)
    (message : Message) (fault : Fault) :
    manager.receive flags message = .error fault ↔ manager.Refuses message fault := by
  rcases receive_cases flags message reachable.sound with
    ⟨effect, received, _, never⟩ | ⟨fault', faults, refuses⟩
  · constructor
    · intro faults
      cases received.symm.trans faults
    · intro refuses
      exact absurd refuses (never fault)
  · constructor
    · intro faults'
      cases faults.symm.trans faults'
      exact refuses
    · intro refuses'
      obtain ⟨request, event, object, asked, told, found, refused, rfl⟩ := refuses
      obtain ⟨request', event', object', asked', told', found', refused', rfl⟩ := refuses'
      cases asked.symm.trans asked'
      cases told.symm.trans told'
      cases found.symm.trans found'
      exact faults

theorem receive_faults_uninstalled :
    let manager := ofConfig (.ofHosts ["bsc"]) (.fresh 1)
    let start := Message.ofPrimitive ⟨0⟩ (.request (.start (.bts 0)))
    Reachable manager ∧ manager.receive .initial start =
      .error (.eventRefused .bts (.bts 0) .rxOpstart .notInstalled) := by
  have reachable : Reachable (ofConfig (.ofHosts ["bsc"]) (.fresh 1)) :=
    ⟨_, [], ⟨_, _, false, rfl⟩, .start⟩
  refine ⟨reachable, (receive_faults_iff reachable _ _ _).mpr ?_⟩
  exact ⟨.start (.bts 0), .rxOpstart, .fresh, rfl, rfl, rfl, rfl, rfl⟩

/-- No channel waits that may start, and the GPRS NSE waits, once installed, just while the BTS is not
enabled. -/
theorem waiting_for_cause {manager : Manager} (reachable : Reachable manager) :
    (∀ bts trx ts channel, manager.tree.get? (.channel bts trx ts) = some channel →
      channel.phase = .dependency → manager.tree.channelsCanStart bts trx = false) ∧
    (manager.tree.gprsNse.phase = .dependency →
      manager.tree.bts.phase ≠ .enabled ∧ manager.tree.bts.isEnabled = false) ∧
    (manager.tree.gprsNse.phase = .offline ∨ manager.tree.gprsNse.phase = .enabled →
      manager.tree.bts.phase = .enabled ∧ manager.tree.bts.isEnabled = true) := by
  have sound := reachable.sound
  refine ⟨?_, ?_, ?_⟩
  · intro bts trx ts channel found waits
    simp only [Tree.get?, Option.bind_eq_some_iff] at found
    obtain ⟨t, found, slot⟩ := found
    rw [Tree.channelsCanStart_of_found found]
    rw [← Bool.not_eq_true]
    intro ready
    exact (sound.transceiver found).woken ready channel (List.mem_of_getElem? slot) waits
  · intro waits
    have down := sound.waiting waits
    refine ⟨down, ?_⟩
    rw [← Bool.not_eq_true]
    exact fun enabled => down (sound.bts.enabled.mp enabled)
  · intro serves
    have up := sound.serving serves
    exact ⟨up, sound.bts.enabled.mpr up⟩

theorem waiting_for_baseband :
    (∃ manager channel, Reachable manager ∧ manager.tree.get? (.channel 0 0 3) = some channel ∧
      channel.phase = .dependency ∧ manager.tree.channelsCanStart 0 0 = false ∧
      manager.tree.gprsNse.phase = .dependency ∧
      manager.tree.bts.phase ≠ .enabled ∧ manager.tree.bts.isEnabled = false) ∧
    ∃ manager, Reachable manager ∧ manager.tree.gprsNse.phase = .offline ∧
      manager.tree.bts.phase = .enabled ∧ manager.tree.bts.isEnabled = true := by
  let start := ofConfig (.ofHosts ["bsc"]) (.fresh 1)
  have fresh : Fresh start := ⟨_, _, false, rfl⟩
  have received : ∃ linked waits channel configured serves,
      start.receive .initial (.ofPrimitive ⟨0⟩ (.link .omlLinkUp)) = .ok linked ∧
      linked.state.receive .initial (.ofPrimitive ⟨0⟩ (.link (.phyLinkUp 0))) = .ok waits ∧
      waits.state.tree.get? (.channel 0 0 3) = some channel ∧ channel.phase = .dependency ∧
      waits.state.tree.gprsNse.phase = .dependency ∧
      linked.state.receive .initial
        (.ofPrimitive ⟨0⟩ (.request (.setAttributes (.bts 0) .empty))) = .ok configured ∧
      configured.state.receive .initial (.ofPrimitive ⟨0⟩ (.request (.start (.bts 0)))) = .ok serves ∧
      serves.state.tree.gprsNse.phase = .offline :=
    ⟨_, _, _, _, _, rfl, rfl, rfl, rfl, rfl, rfl, rfl, rfl⟩
  obtain ⟨linked, waits, channel, configured, serves, up, installed, found, idle, nse, set, started, offline⟩ :=
    received
  have one := Run.receive .initial _ .start up
  have reachable : Reachable waits.state := ⟨_, _, fresh, .receive _ _ one installed⟩
  have reachable' : Reachable serves.state := ⟨_, _, fresh, .receive _ _ (.receive _ _ one set) started⟩
  obtain ⟨channels, waiting, _⟩ := waiting_for_cause reachable
  obtain ⟨_, _, serving⟩ := waiting_for_cause reachable'
  exact ⟨⟨_, channel, reachable, found, idle, channels 0 0 3 channel found idle, nse, waiting nse⟩,
    _, reachable', offline, serving (.inl offline)⟩

end BaseStation.Manager
