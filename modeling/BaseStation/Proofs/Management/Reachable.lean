import BaseStation.Proofs.Management.Requests
import BaseStation.Management.Manager

namespace BaseStation

open Management

def Request.event? : Request → Option Event
  | .setAttributes _ attributes => some (.rxSetAttr attributes)
  | .start _ => some .rxOpstart
  | .changeAdmin _ _ => none

namespace Tree

variable {tree : Tree}

theorem Sound.fresh (numTrx : Nat) (need dummy : Bool) : (Tree.fresh numTrx need dummy).Sound := by
  have object (cls : ObjectClass) : ManagedObject.fresh.Sound cls := by
    refine ⟨?_, by decide⟩
    cases cls <;> rfl
  refine ⟨object _, object _, object _, fun _ => ⟨rfl, rfl⟩, (by rintro ⟨⟩), ?_, ?_⟩
  · rintro (h | h) <;> cases h
  · intro t mem
    rw [List.eq_of_mem_replicate mem]
    have slot (channel : ManagedObject) (mem : channel ∈ Transceiver.fresh.channels) :
        channel = .fresh := List.eq_of_mem_replicate mem
    refine ⟨⟨?_, ?_, ?_⟩, ?_⟩
    · intro p
      cases p <;> exact object _
    · intro channel mem
      rw [slot channel mem]
      exact object _
    · intro _ channel mem
      rw [slot channel mem]
      rfl
    · intro _ channel mem
      rw [slot channel mem]
      decide

theorem Sound.setPhy (sound : tree.Sound) (bts trx : Nat) (up : Bool) : (tree.setPhy bts trx up).Sound :=
  sound.modifyTransceiver fun t sound_t => sound_t.setLinks t.rslUp up

theorem Sound.setRsl (sound : tree.Sound) (bts trx : Nat) (up : Bool) : (tree.setRsl bts trx up).Sound :=
  sound.modifyTransceiver fun t sound_t => sound_t.setLinks up t.phyUp

theorem Sound.dropRsl (sound : tree.Sound) : tree.dropRsl.Sound := by
  refine sound.within ⟨_, rfl, List.length_map ..⟩ ?_
  intro u mem
  obtain ⟨t, was, rfl⟩ := List.mem_map.mp mem
  exact (sound.transceivers t was).setLinks false t.phyUp

theorem contains_part_modifyTransceiver {trx : Nat} (f : Transceiver → Transceiver)
    (known : (tree.transceiver? 0 trx).isSome = true) (p : Half) :
    (tree.modifyTransceiver 0 trx f).contains (p.id 0 trx) = true := by
  obtain ⟨t, found⟩ := Option.isSome_iff_exists.mp known
  have found' : (tree.modifyTransceiver 0 trx f).transceiver? 0 trx = some (f t) := by
    rw [transceiver?_modifyTransceiver_self, found]
    rfl
  rw [contains, get?_part found']
  rfl

end Tree

namespace Management

def EndsSound (site : Site) (outcome : Except Fault Site) : Prop :=
  ∃ tree, Ends outcome tree site.pending ∧ tree.Sound ∧
    ∀ id, tree.contains id = site.tree.contains id

theorem EndsSound.bind {site : Site} {outcome : Except Fault Site} {step : Step}
    (first : EndsSound site outcome)
    (next : ∀ site', site'.tree.Sound → (∀ id, site'.tree.contains id = site.tree.contains id) →
      EndsSound site' (step site')) :
    EndsSound site (outcome >>= step) := by
  obtain ⟨tree, ⟨middle, rfl, rfl, kept⟩, sound, same⟩ := first
  obtain ⟨tree', ends, sound', same'⟩ := next middle sound same
  rw [kept] at ends
  exact ⟨tree', ends, sound', fun id => (same' id).trans (same id)⟩

theorem EndsSound.done {site : Site} (sound : site.tree.Sound) : EndsSound site (.ok site) :=
  ⟨site.tree, ⟨site, rfl, rfl, rfl⟩, sound, fun _ => rfl⟩

theorem publishAdmin_sound {site : Site} {id : ObjectId} (admin : AdminState) (sound : site.tree.Sound)
    (present : site.tree.contains id = true) :
    EndsSound site (do return answerAdmin id (.ok ()) (← publish id none none (some admin) site)) := by
  obtain ⟨object, found⟩ := Option.isSome_iff_exists.mp present
  rw [publish_of_found found]
  refine ⟨_, ⟨_, rfl, rfl, rfl⟩, sound.put id found ⟨rfl, rfl⟩, ?_⟩
  intro other
  exact Tree.contains_modify ..

theorem changeAdmin_sound {id : ObjectId} (site : Site) (admin : AdminState) (sound : site.tree.Sound)
    (present : site.tree.contains id = true) : EndsSound site (Manager.changeAdmin id admin site) := by
  rw [Manager.changeAdmin_eq]
  split
  · exact ⟨site.tree, ⟨_, rfl, rfl, rfl⟩, sound, fun _ => rfl⟩
  · by_cases locks : admin = .locked
    · simp only [if_pos locks]
      refine EndsSound.bind (dispatchIfAccepted_external site sound present trivial) ?_
      intro site' sound' same
      exact publishAdmin_sound admin sound' ((same id).trans present)
    · simp only [if_neg locks]
      exact publishAdmin_sound admin sound present

theorem offerAll_sound {id : ObjectId} (events : List Event)
    (external : ∀ event ∈ events, Tree.External id event) {site : Site} (sound : site.tree.Sound)
    (present : site.tree.contains id = true) :
    EndsSound site (events.foldlM (fun site event => dispatchIfAccepted dispatch id event site) site) := by
  induction events generalizing site with
  | nil => exact EndsSound.done sound
  | cons event rest ih =>
    rw [List.foldlM_cons]
    refine EndsSound.bind
      (dispatchIfAccepted_external site sound present (external event List.mem_cons_self)) ?_
    intro site' sound' same
    exact ih (fun event mem => external event (List.mem_cons_of_mem _ mem)) sound'
      ((same id).trans present)

theorem tellTransceiver_sound {trx : Nat} {events : List Event} {site : Site} (sound : site.tree.Sound)
    (present : ∀ p : Half, site.tree.contains (p.id 0 trx) = true)
    (news : ∀ event ∈ events, event ∈ Tree.linkNews) :
    EndsSound site (Manager.tellTransceiver trx events site) := by
  have told (p : Half) : ∀ event ∈ events, Tree.External (p.id 0 trx) event :=
    fun event mem => Tree.external_of_linkNews (news event mem) 0 trx p
  refine (offerAll_sound events (told .carrier) sound (present .carrier)).bind ?_
  intro site' sound' same
  exact offerAll_sound events (told .baseband) sound' ((same _).trans (present .baseband))

theorem tearDown_sound (site : Site) (sound : site.tree.Sound) :
    EndsSound site (Manager.tearDown site) := by
  have told {site : Site} (event : Event) (sound : site.tree.Sound)
      (always : Machine.always.contains event.kind = true) (external : Tree.External .siteManager event) :
      EndsSound site (dispatch .siteManager event site) := by
    have found : site.tree.get? .siteManager = some site.tree.siteManager := rfl
    refine dispatch_external site sound found ?_ external
    rw [Machine.accepts, always, Bool.true_or]
  refine (told .shutdownStart sound rfl rfl).bind ?_
  intro site' sound' _
  refine (told .shutdownFinish sound' rfl rfl).bind ?_
  intro site'' sound'' _
  exact ⟨site''.tree, ⟨_, rfl, rfl, rfl⟩, sound'', fun _ => rfl⟩

end Management

namespace Manager

variable {manager : Manager} {flags : LinkFlags}

def after (manager : Manager) (site : Site) : Manager :=
  { manager with
    tree := site.tree
    hardware := site.hardware
    trace := if manager.tracing then manager.trace ++ site.trace else manager.trace }

theorem run_of_ok {step : Step} (flags : LinkFlags) (time : FrameTime) {site site' : Site}
    (ran : step (.quiet manager.tree manager.hardware) = .ok site)
    (settled : runPending site = .ok site') :
    manager.run flags time step =
      .ok ⟨manager.after site', flags, site'.outputs.map (.ofPrimitive time)⟩ := by
  simp only [run_eq, ran, ok_bind, settled]
  rfl

theorem run_sound {step : Step} (flags : LinkFlags) (time : FrameTime) {site : Site}
    (ran : step (.quiet manager.tree manager.hardware) = .ok site) (sound : site.tree.Sound)
    (ready : Ready site.tree site.pending) :
    ∃ effect, manager.run flags time step = .ok effect ∧ effect.state.tree.Sound := by
  obtain ⟨site', settled, sound', _⟩ := runPending_sound sound ready
  exact ⟨_, run_of_ok flags time ran settled, sound'⟩

theorem run_endsSound {step : Step} (manager : Manager) (flags : LinkFlags) (time : FrameTime)
    (ends : EndsSound (.quiet manager.tree manager.hardware)
      (step (.quiet manager.tree manager.hardware))) :
    ∃ effect, manager.run flags time step = .ok effect ∧ effect.state.tree.Sound := by
  obtain ⟨tree, ⟨site, ran, rfl, idle⟩, sound, _⟩ := ends
  refine run_sound flags time ran sound ?_
  rw [idle]
  exact Ready.none _

theorem receiveRequest_sound {request : Request} (time : FrameTime) (sound : manager.tree.Sound)
    (accepted : ∀ event object, request.event? = some event →
      manager.tree.get? request.id = some object →
      Machine.accepts request.id.objectClass object.phase event.kind = true) :
    ∃ effect, manager.receiveRequest flags time request = .ok effect ∧ effect.state.tree.Sound := by
  rw [receiveRequest_eq]
  split
  · rename_i present
    obtain ⟨object, found⟩ := Option.isSome_iff_exists.mp present
    have asks (event : Event) (asked : request.event? = some event) (isRequest : event.isRequest = true)
        (step : stepOfRequest request = dispatch request.id event) :
        ∃ effect, manager.run flags time (stepOfRequest request) = .ok effect ∧
          effect.state.tree.Sound := by
      obtain ⟨site, object', ran, tree, alike, ready⟩ :=
        dispatch_request (.quiet manager.tree manager.hardware) isRequest found
          (accepted event object asked found)
      rw [step]
      refine run_sound flags time ran ?_ (ready rfl)
      rw [tree]
      exact sound.put request.id found alike
    cases request with
    | setAttributes id attributes => exact asks (.rxSetAttr attributes) rfl rfl rfl
    | start id => exact asks .rxOpstart rfl rfl rfl
    | changeAdmin id admin =>
      exact run_endsSound manager flags time
        (changeAdmin_sound (.quiet manager.tree manager.hardware) admin sound present)
  · exact ⟨_, rfl, sound⟩

theorem receiveRequest_refused {request : Request} {event : Event} {object : ManagedObject}
    (time : FrameTime) (asked : request.event? = some event)
    (found : manager.tree.get? request.id = some object)
    (refused : Machine.accepts request.id.objectClass object.phase event.kind = false) :
    manager.receiveRequest flags time request =
      .error (.eventRefused request.id.objectClass request.id event.kind object.phase) := by
  have step : stepOfRequest request = dispatch request.id event := by
    cases request <;> cases asked <;> rfl
  have ran : dispatch request.id event (.quiet manager.tree manager.hardware) =
      .error (.eventRefused request.id.objectClass request.id event.kind object.phase) := by
    rw [dispatch_eq]
    exact dispatchWithin_refused 3 found refused
  have present : manager.tree.contains request.id = true := by simp [Tree.contains, found]
  simp only [receiveRequest_eq, present, if_true, run_eq, step, ran]
  rfl

theorem receiveLink_sound (flags : LinkFlags) (control : LinkControl) (time : FrameTime)
    (sound : manager.tree.Sound) :
    ∃ effect, manager.receiveLink flags time control = .ok effect ∧ effect.state.tree.Sound := by
  have tell {trx : Nat} {events : List Event} (f : Transceiver → Transceiver) (flags : LinkFlags)
      (sound : (manager.tree.modifyTransceiver 0 trx f).Sound)
      (known : (manager.tree.transceiver? 0 trx).isSome = true)
      (news : ∀ event ∈ events, event ∈ Tree.linkNews) :=
    run_endsSound { manager with tree := manager.tree.modifyTransceiver 0 trx f } flags time
       (tellTransceiver_sound sound (Tree.contains_part_modifyTransceiver f known) news)
  rw [receiveLink_eq]
  cases control with
  | phyLinkUp trx =>
    dsimp only
    split
    · exact tell _ _ (sound.setPhy 0 trx true) (by assumption) (by decide)
    · exact ⟨_, rfl, sound⟩
  | phyLinkDown trx =>
    dsimp only
    split
    · exact tell _ _ (sound.setPhy 0 trx false) (by assumption) (by decide)
    · exact ⟨_, rfl, sound⟩
  | rslLinkUp trx =>
    dsimp only
    split
    · exact tell _ _ (sound.setRsl 0 trx true) (by assumption) (by decide)
    · exact ⟨_, rfl, sound⟩
  | omlLinkUp =>
    exact run_endsSound manager _ time
      (dispatchIfAccepted_external (.quiet manager.tree manager.hardware) sound rfl rfl)
  | abisLinkFailed =>
    obtain ⟨effect, ran, sound'⟩ :=
      run_endsSound { manager with tree := manager.tree.dropRsl }
        { flags with omlLinkUp := false } time
        (tearDown_sound (.quiet manager.tree.dropRsl manager.hardware) sound.dropRsl)
    refine ⟨⟨{ effect.state with stopping := true }, effect.flags, effect.sent⟩, ?_, sound'⟩
    simp only [ran]
    rfl

/-- The message asks an object of the tree for something that it does not accept in its phase; this is
the fault. -/
def Refuses (manager : Manager) (message : Message) (fault : Fault) : Prop :=
  ∃ request event object, message.primitive = .request request ∧ request.event? = some event ∧
    manager.tree.get? request.id = some object ∧
    Machine.accepts request.id.objectClass object.phase event.kind = false ∧
    fault = .eventRefused request.id.objectClass request.id event.kind object.phase

/-- What is received is dealt with to the end, unless it is refused. -/
theorem receive_cases (flags : LinkFlags) (message : Message) (sound : manager.tree.Sound) :
    (∃ effect, manager.receive flags message = .ok effect ∧ effect.state.tree.Sound ∧
      ∀ fault, ¬ manager.Refuses message fault) ∨
    ∃ fault, manager.receive flags message = .error fault ∧ manager.Refuses message fault := by
  by_cases refuses : ∃ fault, manager.Refuses message fault
  · obtain ⟨fault, request, event, object, asked, told, found, refused, rfl⟩ := refuses
    refine .inr ⟨_, ?_, request, event, object, asked, told, found, refused, rfl⟩
    rw [receive_eq, asked]
    exact receiveRequest_refused message.created told found refused
  · have never : ∀ fault, ¬ manager.Refuses message fault := fun fault h => refuses ⟨fault, h⟩
    left
    suffices h : ∃ effect, manager.receive flags message = .ok effect ∧ effect.state.tree.Sound by
      obtain ⟨effect, received, sound'⟩ := h
      exact ⟨effect, received, sound', never⟩
    rw [receive_eq]
    split
    · rename_i request asked
      refine receiveRequest_sound message.created sound ?_
      intro event object told found
      apply Decidable.byContradiction
      intro refused
      exact refuses ⟨_, request, event, object, asked, told, found, by simpa using refused, rfl⟩
    · exact receiveLink_sound flags _ message.created sound
    · exact ⟨_, rfl, sound⟩

/-- From `start` a manager receives messages one after the other, none of which leads to a fault; the
list is what it sent altogether. The link flags, which others write as well, may be any each time. -/
inductive Run (start : Manager) : List Primitive → Manager → Prop
  | start : Run start [] start
  | receive {sent : List Primitive} {manager : Manager} (flags : LinkFlags) (message : Message)
      {effect : Effect Manager} (run : Run start sent manager)
      (received : manager.receive flags message = .ok effect) :
      Run start (sent ++ effect.sent.map (·.primitive)) effect.state

/-- A manager that has received nothing yet, for any configuration and equipment, traced or not. -/
def Fresh (manager : Manager) : Prop :=
  ∃ config hardware tracing, manager = { ofConfig config hardware with tracing := tracing }

def Reachable (manager : Manager) : Prop := ∃ start sent, Fresh start ∧ Run start sent manager

theorem Run.sound {start : Manager} {sent : List Primitive} (run : Run start sent manager)
    (sound : start.tree.Sound) : manager.tree.Sound := by
  induction run with
  | start => exact sound
  | receive flags message _ received ih =>
    rcases receive_cases flags message ih with ⟨effect, received', sound', _⟩ | ⟨fault, faults, _⟩
    · cases received.symm.trans received'
      exact sound'
    · cases received.symm.trans faults

theorem Reachable.sound (reachable : Reachable manager) : manager.tree.Sound := by
  obtain ⟨start, sent, ⟨config, hardware, tracing, rfl⟩, run⟩ := reachable
  exact run.sound (Tree.Sound.fresh ..)

end Manager

end BaseStation
