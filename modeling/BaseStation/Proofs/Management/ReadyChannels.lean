import BaseStation.Proofs.Management.Sparing

namespace BaseStation

open Management

namespace Manager

variable {manager : Manager} {flags : LinkFlags} {time : FrameTime} {effect : Effect Manager}
  {id target : ObjectId} {site site' : Site}

theorem runAtMost_spares {count : Nat} (fit : site.Fit) (h : runAtMost count site = .ok site') :
    ∀ id, site'.tree.Stranded id → site.tree.Stranded id := by
  induction count generalizing site with
  | zero =>
    cases h
    exact fun _ stranded => stranded
  | succ count ih =>
    rw [runAtMost_succ] at h
    split at h
    · cases h
      exact fun _ stranded => stranded
    · rename_i waiting rest queue
      obtain ⟨middle, first, last⟩ := bind_eq_ok h
      have mild : Mild waiting.id waiting.event := fit.mild waiting (by simp [queue])
      have popped : Site.Fit { site with pending := rest } :=
        ⟨fit.coherent, fun other mem => fit.mild other (by simp [queue, mem])⟩
      have next : Site.Spares { site with pending := rest } middle := by
        refine spares_chains.runNext (fun middle => ?_) first
        exact dispatchWithin_spares nesting waiting.id waiting.event _ middle mild
      exact fun id stranded => next.stranded popped id (ih (next.fit popped) last id stranded)

theorem fit_quiet {tree : Tree} (hardware : Hardware) (coherent : tree.Coherent) :
    (Site.quiet tree hardware).Fit :=
  ⟨coherent, fun _ mem => absurd mem List.not_mem_nil⟩

theorem run_stranded {step : Step} (h : manager.run flags time step = .ok effect) :
    ∃ site, step (.quiet manager.tree manager.hardware) = .ok site ∧
      (site.Fit → ∀ id, effect.state.tree.Stranded id → site.tree.Stranded id) ∧
      (site.pending = [] → effect.state.tree = site.tree) := by
  obtain ⟨site, stepped, h⟩ := bind_eq_ok h
  obtain ⟨site', settled, last⟩ := bind_eq_ok h
  cases last
  refine ⟨site, stepped, fun fit => runAtMost_spares fit settled, fun idle => ?_⟩
  cases (runPending_idle idle).symm.trans settled
  rfl

theorem run_spares {step : Step} (coherent : manager.tree.Coherent)
    (spares : ∀ site, step (.quiet manager.tree manager.hardware) = .ok site →
      (Site.quiet manager.tree manager.hardware).Spares site)
    (h : manager.run flags time step = .ok effect) (stranded : effect.state.tree.Stranded id) :
    manager.tree.Stranded id := by
  obtain ⟨site, stepped, after, _⟩ := run_stranded h
  have sparing := spares site stepped
  have fit := fit_quiet manager.hardware coherent
  exact sparing.stranded fit id (after (sparing.fit fit) id stranded)

theorem tellTransceiver_spares {trx : Nat} {events : List Event}
    (mild : ∀ event ∈ events, ∀ id, Mild id event) (h : tellTransceiver trx events site = .ok site') :
    site.Spares site' :=
  spares_chains.tellTransceiver (fun event mem id site site' =>
    dispatchWithin_spares nesting id event site site' (mild event mem id)) h

theorem publishAdmin_tree {admin : AdminState} {object : ManagedObject}
    (found : site.tree.get? target = some object)
    (h : (do return answerAdmin target (.ok ()) (← publish target none none (some admin) site)) =
      Except.ok site') :
    site'.tree = site.tree.put target
        { object with published := updated object.published none none (some admin) } ∧
      site'.pending = site.pending := by
  rw [publish_of_found found] at h
  cases h
  exact ⟨rfl, rfl⟩

theorem lockChannel_tree (isChannel : target.objectClass = .channel)
    (accepted : site.hardware.changeAdmin target .locked = .ok ())
    (h : changeAdmin target .locked site = .ok site') :
    ∃ channel channel', site.tree.get? target = some channel ∧
      site'.tree = site.tree.put target channel' ∧ site'.pending = site.pending ∧
      channel'.Alike (channel.offered .channel (supported site.tree target) .disable) := by
  simp only [changeAdmin_eq, accepted, if_true] at h
  obtain ⟨middle, locked, h⟩ := bind_eq_ok h
  obtain ⟨channel, found⟩ := found_of_dispatchIfAccepted locked
  obtain ⟨tree, pending⟩ := channel_offered isChannel rfl found locked
  have place := Tree.get?_put_self (channel.offered .channel (supported site.tree target) .disable) found
  rw [← tree] at place
  obtain ⟨tree', pending'⟩ := publishAdmin_tree place h
  rw [tree, Tree.put_put] at tree'
  exact ⟨channel, _, found, tree', pending'.trans pending, ⟨rfl, rfl⟩⟩

/-- The message locks a channel that is enabled although its transceiver cannot carry traffic. -/
def Strands (manager : Manager) (message : Message) (id : ObjectId) : Prop :=
  ∃ channel, id.objectClass = .channel ∧ message.primitive = .request (.changeAdmin id .locked) ∧
    manager.hardware.changeAdmin id .locked = .ok () ∧ manager.tree.get? id = some channel ∧
    channel.phase = .enabled ∧ supported manager.tree id = false

theorem changeAdmin_spares {admin : AdminState}
    (mild : admin = .locked → site.hardware.changeAdmin target admin = .ok () →
      target.objectClass ≠ .channel)
    (h : changeAdmin target admin site = .ok site') : site.Spares site' := by
  refine spares_chains.changeAdmin ?_ ?_ ?_ h
  · exact fun cause => .same rfl rfl
  · intro locks accepted site'
    exact dispatchWithin_spares nesting target .disable site site'
      ⟨by rintro ⟨⟩, fun _ => mild locks accepted⟩
  · intro site site' published
    obtain ⟨object, found, _⟩ := Site.bind_object published
    rw [publish_of_found found] at published
    cases published
    exact .put found rfl (fun sound => sound.alike ⟨rfl, rfl⟩) (fun _ => .inl)
      (fun _ _ enabled => enabled) (fun _ => .inl)

theorem lockChannel_stranded (isChannel : target.objectClass = .channel)
    (accepted : site.hardware.changeAdmin target .locked = .ok ())
    (h : changeAdmin target .locked site = .ok site') :
    site'.pending = site.pending ∧ (∀ id, site'.tree.Stranded id → site.tree.Stranded id ∨
      id = target ∧ ∃ channel, site.tree.get? target = some channel ∧ channel.phase = .enabled ∧
        supported site.tree target = false) ∧
      ∀ channel, site.tree.get? target = some channel → channel.phase = .enabled →
        supported site.tree target = false → site'.tree.Stranded target := by
  obtain ⟨channel, channel', found, tree, pending, alike⟩ := lockChannel_tree isChannel accepted h
  have phase : channel'.phase = if channel.phase = .enabled then .offline else channel.phase := by
    rw [← ManagedObject.offered_channel_disable, alike.phase]
  have unhalf : ¬ target.IsHalf := fun half => half.apart isChannel
  refine ⟨pending, ?_, ?_⟩
  · intro id stranded
    rw [tree] at stranded
    rcases stranded.of_put_cases found (fun half => absurd half unhalf) with
      before | ⟨rfl, _, offline, stuck⟩
    · exact .inl before
    · by_cases running : channel.phase = .enabled
      · exact .inr ⟨rfl, channel, found, running, stuck⟩
      · rw [phase, if_neg running] at offline
        exact .inl ⟨channel, isChannel, found, offline, stuck⟩
  · intro object place running stuck
    cases found.symm.trans place
    refine ⟨channel', isChannel, ?_, by rw [phase, if_pos running], ?_⟩
    · rw [tree]
      exact Tree.get?_put_self channel' found
    · cases target with
      | channel bts trx ts =>
        rw [tree]
        refine (Tree.canStart_put_of_apart channel' fun p => ?_).trans stuck
        cases p <;> rintro ⟨⟩
      | _ => cases isChannel

theorem receiveRequest_stranded {message : Message} {request : Request}
    (asked : message.primitive = .request request) (coherent : manager.tree.Coherent)
    (received : manager.receiveRequest flags message.created request = .ok effect)
    (stranded : effect.state.tree.Stranded id) : manager.tree.Stranded id ∨ manager.Strands message id := by
  rw [receiveRequest_eq] at received
  split at received
  · cases request with
    | setAttributes target attributes =>
      refine .inl (run_spares coherent (fun _ => ?_) received stranded)
      exact dispatchWithin_spares nesting target (.rxSetAttr attributes) _ _ ⟨by rintro ⟨⟩, by rintro ⟨⟩⟩
    | start target =>
      refine .inl (run_spares coherent (fun _ => ?_) received stranded)
      exact dispatchWithin_spares nesting target .rxOpstart _ _ ⟨by rintro ⟨⟩, by rintro ⟨⟩⟩
    | changeAdmin target admin =>
      by_cases locks : admin = .locked ∧ target.objectClass = .channel ∧
          manager.hardware.changeAdmin target admin = .ok ()
      · obtain ⟨rfl, isChannel, accepted⟩ := locks
        obtain ⟨site, stepped, _, settled⟩ := run_stranded received
        obtain ⟨pending, only, _⟩ := lockChannel_stranded isChannel accepted stepped
        rw [settled pending] at stranded
        rcases only id stranded with before | ⟨rfl, channel, found, running, stuck⟩
        · exact .inl before
        · exact .inr ⟨channel, isChannel, asked, accepted, found, running, stuck⟩
      · refine .inl (run_spares coherent (fun _ => changeAdmin_spares ?_) received stranded)
        exact fun locked accepted isChannel => locks ⟨locked, isChannel, accepted⟩
  · cases received
    exact .inl stranded

theorem receiveLink_spares {numTrx : Nat} {control : LinkControl} (sound : manager.tree.Sound)
    (shaped : manager.tree.Shaped numTrx)
    (received : manager.receiveLink flags time control = .ok effect)
    (stranded : effect.state.tree.Stranded id) : manager.tree.Stranded id := by
  have relinked {trx : Nat} {f : Transceiver → Transceiver} {events : List Event} {flags : LinkFlags}
      (relinks : Relinks f events) (coherent : (manager.tree.modifyTransceiver 0 trx f).Coherent)
      (ran : { manager with tree := manager.tree.modifyTransceiver 0 trx f }.run flags time
        (tellTransceiver trx events) = .ok effect) : manager.tree.Stranded id := by
    have mild : ∀ event ∈ events, ∀ id, Mild id event := by
      cases relinks <;> simp [Mild]
    have before := run_spares coherent (fun _ => tellTransceiver_spares mild) ran stranded
    exact Tree.Stranded.of_links relinks.keep before
  rw [receiveLink_eq] at received
  cases control with
  | phyLinkUp trx =>
    dsimp only at received
    split at received
    · exact relinked .phyUp (sound.setPhy 0 trx true).coherent received
    · cases received
      exact stranded
  | phyLinkDown trx =>
    dsimp only at received
    split at received
    · exact relinked .phyDown (sound.setPhy 0 trx false).coherent received
    · cases received
      exact stranded
  | rslLinkUp trx =>
    dsimp only at received
    split at received
    · exact relinked .rslUp (sound.setRsl 0 trx true).coherent received
    · cases received
      exact stranded
  | omlLinkUp =>
    refine run_spares sound.coherent (fun site told => ?_) received stranded
    exact (dispatchWithin_spares nesting).offer _ _ _ site ⟨by rintro ⟨⟩, by rintro ⟨⟩⟩ told
  | abisLinkFailed =>
    obtain ⟨effect', ran, last⟩ := bind_eq_ok received
    cases last
    obtain ⟨site, torn, settled⟩ := tearDown_settles sound.dropRsl manager.hardware
    have gone : { manager with tree := manager.tree.dropRsl }.run { flags with omlLinkUp := false } time
        tearDown = _ := run_of_ok _ time torn settled
    cases gone.symm.trans ran
    have takes := tearDown_takesDown
      (shaped.congr fun id => congrArg Option.isSome (Tree.get?_dropRsl manager.tree id)) torn
    obtain ⟨channel, _, found, offline, _⟩ := stranded
    cases (takes.down id channel found).1.symm.trans offline

/-- Of all that a manager can receive only a lock strands a channel. -/
theorem receive_stranded {message : Message} (reachable : Reachable manager)
    (received : manager.receive flags message = .ok effect) (stranded : effect.state.tree.Stranded id) :
    manager.tree.Stranded id ∨ manager.Strands message id := by
  rw [receive_eq] at received
  split at received
  · exact receiveRequest_stranded (by assumption) reachable.sound.coherent received stranded
  · exact .inl (receiveLink_spares reachable.sound reachable.shaped received stranded)
  · cases received
    exact .inl stranded

theorem receive_strands {message : Message} (strands : manager.Strands message id)
    (received : manager.receive flags message = .ok effect) : effect.state.tree.Stranded id := by
  obtain ⟨channel, isChannel, asked, accepted, found, running, stuck⟩ := strands
  have present : manager.tree.contains id = true := Option.isSome_iff_exists.mpr ⟨channel, found⟩
  have received : manager.run flags message.created (changeAdmin id .locked) = .ok effect := by
    simp only [receive_eq, asked, receiveRequest_eq, Request.id, present, if_true] at received
    exact received
  obtain ⟨site, stepped, _, settled⟩ := run_stranded received
  obtain ⟨pending, _, own⟩ := lockChannel_stranded isChannel accepted stepped
  rw [settled pending]
  exact own channel found running stuck

/-- A run from `start` in which no message strands the channel. -/
inductive Spared (start : Manager) (id : ObjectId) : Manager → Prop
  | start : Spared start id start
  | receive {manager : Manager} (flags : LinkFlags) (message : Message) {effect : Effect Manager}
      (spared : Spared start id manager) (mild : ¬ manager.Strands message id)
      (received : manager.receive flags message = .ok effect) : Spared start id effect.state

theorem Spared.run {start : Manager} (spared : Spared start id manager) : ∃ sent, Run start sent manager := by
  induction spared with
  | start => exact ⟨_, .start⟩
  | receive flags message _ _ received ih =>
    obtain ⟨sent, run⟩ := ih
    exact ⟨_, .receive flags message run received⟩

theorem Spared.reachable {start : Manager} (fresh : Fresh start) (spared : Spared start id manager) :
    Reachable manager := by
  obtain ⟨sent, run⟩ := spared.run
  exact ⟨start, sent, fresh, run⟩

theorem Spared.not_stranded {start : Manager} (fresh : Fresh start) (spared : Spared start id manager) :
    ¬ manager.tree.Stranded id := by
  induction spared with
  | start =>
    obtain ⟨config, hardware, tracing, rfl⟩ := fresh
    rintro ⟨channel, _, found, offline, _⟩
    cases Tree.get?_fresh found
    cases offline
  | receive flags message spared mild received ih =>
    intro stranded
    rcases receive_stranded (spared.reachable fresh) received stranded with before | strands
    · exact ih before
    · exact mild strands

/-- A channel that was not locked while it was enabled without its transceiver is ready to be started just
while the transceiver can carry traffic, and waits otherwise. It takes such a lock to have it ready without
the transceiver. -/
theorem Spared.ready_iff_canStart {start : Manager} (fresh : Fresh start) {bts trx ts : Nat}
    (spared : Spared start (.channel bts trx ts) manager) :
    (∀ channel, manager.tree.get? (.channel bts trx ts) = some channel →
      (channel.phase = .offline → manager.tree.channelsCanStart bts trx = true) ∧
      (channel.phase = .dependency → manager.tree.channelsCanStart bts trx = false)) ∧
    ∀ flags message effect, manager.receive flags message = .ok effect →
      (effect.state.tree.Stranded (.channel bts trx ts) ↔ manager.Strands message (.channel bts trx ts)) := by
  have reachable := spared.reachable fresh
  have never := spared.not_stranded fresh
  refine ⟨fun channel found => ⟨fun offline => ?_, fun waits => ?_⟩, ?_⟩
  · rw [← Bool.not_eq_false]
    exact fun stuck => never ⟨channel, rfl, found, offline, stuck⟩
  · simp only [Tree.get?, Option.bind_eq_some_iff] at found
    obtain ⟨t, found, slot⟩ := found
    rw [Tree.channelsCanStart_of_found found, ← Bool.not_eq_true]
    exact fun ready =>
      (reachable.sound.transceiver found).woken ready channel (List.mem_of_getElem? slot) waits
  · intro flags message effect received
    refine ⟨fun stranded => ?_, fun strands => receive_strands strands received⟩
    exact (receive_stranded reachable received stranded).resolve_left never

theorem Spared.ready_iff_canStart_started :
    ∃ start manager channel effect, Fresh start ∧ Spared start (.channel 0 0 0) manager ∧
      manager.tree.get? (.channel 0 0 0) = some channel ∧ channel.phase = .enabled ∧
      manager.receive .initial (.ofPrimitive ⟨0⟩ (.request (.changeAdmin (.channel 0 0 0) .locked))) =
        .ok effect ∧
      effect.state.tree.Stranded (.channel 0 0 0) := by
  have received : ∃ installed, (ofConfig (.ofHosts ["bsc"]) (.fresh 1)).receive .initial
      (.ofPrimitive ⟨0⟩ (.link (.phyLinkUp 0))) = .ok installed ∧
      ∃ configured, installed.state.receive .initial
        (.ofPrimitive ⟨0⟩ (.request (.setAttributes (.channel 0 0 0) .empty))) = .ok configured ∧
      ∃ started, configured.state.receive .initial
        (.ofPrimitive ⟨0⟩ (.request (.start (.channel 0 0 0)))) = .ok started ∧
      ∃ locked, started.state.receive .initial
        (.ofPrimitive ⟨0⟩ (.request (.changeAdmin (.channel 0 0 0) .locked))) = .ok locked ∧
      ∃ channel, started.state.tree.get? (.channel 0 0 0) = some channel ∧ channel.phase = .enabled ∧
        started.state.tree.channelsCanStart 0 0 = false ∧
        started.state.hardware.changeAdmin (.channel 0 0 0) .locked = .ok () :=
    ⟨_, rfl, _, rfl, _, rfl, _, rfl, _, rfl, rfl, rfl, rfl⟩
  obtain ⟨_, first, _, second, started, third, locked, last, channel, found, running, stuck, accepted⟩ :=
    received
  have fresh : Fresh (ofConfig (.ofHosts ["bsc"]) (.fresh 1)) := ⟨_, _, false, rfl⟩
  have other {manager : Manager} {message : Message}
      (apart : message.primitive ≠ .request (.changeAdmin (.channel 0 0 0) .locked)) :
      ¬ manager.Strands message (.channel 0 0 0) := fun strands => apart strands.choose_spec.2.1
  have spared : Spared _ (.channel 0 0 0) started.state :=
    .receive _ _ (.receive _ _ (.receive _ _ .start (other (by rintro ⟨⟩)) first)
      (other (by rintro ⟨⟩)) second) (other (by rintro ⟨⟩)) third
  have stranded := ((spared.ready_iff_canStart fresh).2 _ _ _ last).mpr
    ⟨channel, rfl, rfl, accepted, found, running, stuck⟩
  exact ⟨_, started.state, channel, locked, fresh, spared, found, running, last, stranded⟩

/-- Not every channel that is ready to be started has a transceiver that can carry traffic. -/
theorem offline_without_support :
    ¬ ∀ manager, Reachable manager → ∀ bts trx ts channel,
      manager.tree.get? (.channel bts trx ts) = some channel → channel.phase = .offline →
        manager.tree.channelsCanStart bts trx = true := by
  intro always
  have received : ∃ installed, (ofConfig (.ofHosts ["bsc"]) (.fresh 1)).receive .initial
      (.ofPrimitive ⟨0⟩ (.link (.phyLinkUp 0))) = .ok installed ∧
      ∃ configured, installed.state.receive .initial
        (.ofPrimitive ⟨0⟩ (.request (.setAttributes (.channel 0 0 0) .empty))) = .ok configured ∧
      ∃ started, configured.state.receive .initial
        (.ofPrimitive ⟨0⟩ (.request (.start (.channel 0 0 0)))) = .ok started ∧
      ∃ locked, started.state.receive .initial
        (.ofPrimitive ⟨0⟩ (.request (.changeAdmin (.channel 0 0 0) .locked))) = .ok locked ∧
      ∃ channel, locked.state.tree.get? (.channel 0 0 0) = some channel ∧ channel.phase = .offline ∧
        locked.state.tree.channelsCanStart 0 0 = false :=
    ⟨_, rfl, _, rfl, _, rfl, _, rfl, _, rfl, rfl, rfl⟩
  obtain ⟨_, first, _, second, _, third, locked, last, channel, found, offline, stuck⟩ := received
  have reachable : Reachable locked.state :=
    ⟨_, _, ⟨_, _, false, rfl⟩,
      .receive _ _ (.receive _ _ (.receive _ _ (.receive _ _ .start first) second) third) last⟩
  cases (always _ reachable 0 0 0 channel found offline).symm.trans stuck

end Manager

end BaseStation
