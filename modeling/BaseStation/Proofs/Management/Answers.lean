import BaseStation.Proofs.Management.BscView

namespace BaseStation

open Management

def Primitive.answer? : Primitive → Option Report
  | .report (.ack id procedure) => some (.ack id procedure)
  | .report (.nack id procedure cause) => some (.nack id procedure cause)
  | _ => none

def answersIn (said : List Primitive) : List Report := said.filterMap Primitive.answer?

def Request.answer (request : Request) : Option NackCause → Report
  | none => .ack request.id request.procedure
  | some cause => .nack request.id request.procedure cause

def ObjectClass.needsAttributes : ObjectClass → Bool
  | .gprsNse | .bts | .radioCarrier | .channel => true
  | .siteManager | .basebandTransceiver => false

/-- What the equipment has against a request. Attributes of the site manager do not reach it. -/
def Hardware.refusal? (hardware : Hardware) : Request → Option NackCause
  | .setAttributes id attributes =>
    if id = .siteManager then none
    else match hardware.applyAttributes id attributes with
      | .error cause => some cause
      | .ok _ => none
  | .start id => hardware.refusedStart.lookup id
  | .changeAdmin id admin =>
    match hardware.changeAdmin id admin with
    | .error cause => some cause
    | .ok () => none

/-- The request is to start an object whose last attributes were not accepted but should have been. -/
def Request.IsPremature (request : Request) (object : ManagedObject) : Prop :=
  request.procedure = .opstart ∧ request.id.objectClass.needsAttributes = true ∧
    object.attributesSet = false

instance (request : Request) (object : ManagedObject) : Decidable (request.IsPremature object) :=
  inferInstanceAs (Decidable (_ ∧ _ ∧ _))

/-- Why a manager refuses a request, if it does. -/
def Manager.refusal? (manager : Manager) (request : Request) : Option NackCause :=
  match manager.tree.get? request.id with
  | none => some .objInstanceUnknown
  | some object =>
    if request.IsPremature object then some .cantPerform else manager.hardware.refusal? request

def Event.leadsToAnswer : Event → Bool
  | .rxSetAttr _ | .rxOpstart | .opstartAck | .opstartNack _ => true
  | _ => false

@[simp] theorem answersIn_append (said said' : List Primitive) :
    answersIn (said ++ said') = answersIn said ++ answersIn said' :=
  List.filterMap_append

namespace Management

theorem answersIn_news (id : ObjectId) (before after : ObjectState) :
    answersIn (news id before after) = [] := by
  unfold news
  split <;> rfl

theorem answersIn_released (id : ObjectId) (target : Phase) : answersIn (released id target) = [] := by
  cases id <;> cases target <;> rfl

structure Unanswered (site site' : Site) : Prop where
  answers : answersIn site'.outputs = answersIn site.outputs
  pending : site'.pending = site.pending

structure Answered (report : Report) (site site' : Site) : Prop where
  answers : answersIn site'.outputs = answersIn site.outputs ++ [report]
  pending : site'.pending = site.pending

theorem unanswered_chains : Chains Unanswered where
  refl _ := ⟨rfl, rfl⟩
  trans first last := ⟨last.answers.trans first.answers, last.pending.trans first.pending⟩

section

variable {site middle site' : Site} {id : ObjectId} {event : Event} {dispatch : Dispatcher}
  {answer : Report}

theorem Unanswered.answered (before : Unanswered site middle) (answered : Answered answer middle site') :
    Answered answer site site' := by
  refine ⟨?_, answered.pending.trans before.pending⟩
  rw [answered.answers, before.answers]

theorem Answered.unanswered (answered : Answered answer site middle) (after : Unanswered middle site') :
    Answered answer site site' :=
  ⟨after.answers.trans answered.answers, after.pending.trans answered.pending⟩

theorem Unanswered.say {said : List Primitive} (outputs : site'.outputs = site.outputs ++ said)
    (plain : answersIn said = []) (pending : site'.pending = site.pending) : Unanswered site site' := by
  refine ⟨?_, pending⟩
  rw [outputs, answersIn_append, plain, List.append_nil]

def Unanswering (dispatch : Dispatcher) : Prop :=
  ∀ id event site site', event.leadsToAnswer = false → dispatch id event site = .ok site' →
    Unanswered site site'

theorem Unanswering.offer (mute : Unanswering dispatch) : Unanswering (dispatchIfAccepted dispatch) := by
  intro id event site site' plain h
  exact unanswered_chains.offer (fun site' => mute id event site site' plain) h

theorem notice?_unanswered {cls : ObjectClass} {previous target : Phase}
    (h : notice? cls previous target = some event) : event.leadsToAnswer = false := by
  cases cls <;> cases previous <;> cases target <;> cases h <;> rfl

theorem publish_unanswered {operational : Option OperationalState} {availability : Option Availability}
    {administrative : Option AdminState}
    (h : publish id operational availability administrative site = .ok site') :
    Unanswered site site' := by
  obtain ⟨object, found, _⟩ := Site.bind_object h
  rw [publish_of_found found] at h
  cases h
  exact .say rfl (answersIn_news ..) rfl

theorem become_unanswered (mute : Unanswering dispatch) {target : Phase}
    (h : changePhaseWith dispatch id target site = .ok site') : Unanswered site site' := by
  obtain ⟨object, found, mayMove⟩ := found_of_changePhaseWith h
  rw [changePhaseWith_of_found dispatch found mayMove] at h
  have settled : Unanswered site (site.settle id object target) := by
    refine .say (List.append_assoc ..) ?_ rfl
    rw [answersIn_append, answersIn_released, answersIn_news]
    rfl
  have told : Unanswered (site.settle id object target) site' :=
    unanswered_chains.notice (fun id' event site site' notice =>
      mute id' event site site' (notice?_unanswered notice)) h
  exact unanswered_chains.trans settled told

def Action.leadsToAnswer : Action → Bool
  | .apply _ | .keep _ | .start | .startConfigured | .acknowledge | .refuse _ => true
  | .tell _ event | .offer _ event => event.leadsToAnswer
  | _ => false

theorem reaction_unanswered (cls : ObjectClass) (supported linked : Bool) (children : List ObjectId)
    (object : ManagedObject) (plain : event.leadsToAnswer = false) :
    ∀ action ∈ reaction cls supported linked children object event, action.leadsToAnswer = false := by
  intro action mem
  cases reaction_dueTo _ _ _ _ _ _ action mem with
  | tell other event | offer other event => exact plain
  | announceShutdown | repeatState | reportSoftware _ | become _ _ | uninstall => rfl
  | apply _ | keep _ | start | startConfigured | acknowledge | refuse _ => cases plain

theorem Unanswering.act (mute : Unanswering dispatch) {action : Action}
    (plain : action.leadsToAnswer = false) (h : action.run dispatch id site = .ok site') :
    Unanswered site site' := by
  cases action with
  | apply _ | keep _ | start | startConfigured | acknowledge | refuse _ => cases plain
  | tell other event => exact mute other event site site' plain h
  | offer other event => exact mute.offer other event site site' plain h
  | announceShutdown => exact publish_unanswered h
  | become target => exact become_unanswered mute h
  | reportSoftware =>
    cases h
    exact .say rfl rfl rfl
  | repeatState =>
    obtain ⟨object, _, h⟩ := Site.bind_object h
    cases h
    exact .say rfl rfl rfl

theorem Unanswering.perform (mute : Unanswering dispatch) {actions : List Action}
    (plain : ∀ action ∈ actions, action.leadsToAnswer = false)
    (h : perform dispatch id actions site = .ok site') : Unanswered site site' :=
  unanswered_chains.foldlM actions (fun action mem _ _ h => mute.act (plain action mem) h) h

theorem dispatchWithin_unanswering (depth : Nat) : Unanswering (dispatchWithin depth) := by
  induction depth with
  | zero =>
    intro id event site site' _ h
    cases h
  | succ depth ih =>
    intro id event site site' plain h
    obtain ⟨object, _, _, h⟩ := performed_of_dispatchWithin h
    have recorded : Unanswered site (site.record (.dispatched id event.kind)) := ⟨rfl, rfl⟩
    exact unanswered_chains.trans recorded (ih.perform (reaction_unanswered _ _ _ _ _ plain) h)

theorem dispatch_unanswering : Unanswering Management.dispatch := dispatchWithin_unanswering nesting

def startOutcome : Option NackCause → Event
  | none => .opstartAck
  | some cause => .opstartNack cause

theorem start_eq (hardware : Hardware) (id : ObjectId) :
    hardware.start id = ⟨id, startOutcome (hardware.refusedStart.lookup id), false⟩ := by
  unfold Hardware.start
  cases hardware.refusedStart.lookup id <;> rfl

theorem dispatch_answered {outcome : Option NackCause}
    (h : Management.dispatch id (startOutcome outcome) site = .ok site') :
    Answered ((Request.start id).answer outcome) site site' := by
  rw [dispatch_eq] at h
  obtain ⟨object, found, _, h⟩ := performed_of_dispatchWithin h
  let told := site.record (.dispatched id (startOutcome outcome).kind)
  have recorded : Unanswered site told := ⟨rfl, rfl⟩
  have found : told.tree.get? id = some object := found
  apply recorded.answered
  cases outcome with
  | none =>
    simp only [reactionIn, startOutcome, reaction, perform_cons, Action.run] at h
    obtain ⟨acked, acknowledged, h⟩ := bind_eq_ok h
    cases (acknowledgeStart_of_found found).symm.trans acknowledged
    have answered : Answered (.ack id .opstart) told
        ((told.put id { object with started := true }).report (.ack id .opstart)) :=
      ⟨answersIn_append .., rfl⟩
    apply answered.unanswered
    refine (dispatchWithin_unanswering 3).perform ?_ h
    split <;> simp [Action.leadsToAnswer]
  | some cause =>
    simp only [reactionIn, startOutcome, reaction, perform_single, Action.run] at h
    cases (refuseStart_of_found cause found).symm.trans h
    exact ⟨answersIn_append .., rfl⟩

def Site.Idle (site : Site) : Prop := ∀ waiting ∈ site.pending, waiting.event.leadsToAnswer = false

theorem runAtMost_unanswered {count : Nat} (idle : site.Idle) (h : runAtMost count site = .ok site') :
    answersIn site'.outputs = answersIn site.outputs := by
  induction count generalizing site with
  | zero =>
    cases h
    rfl
  | succ count ih =>
    rw [runAtMost_succ] at h
    split at h
    · cases h
      rfl
    · rename_i waiting rest queue
      obtain ⟨middle, first, last⟩ := bind_eq_ok h
      have plain := idle waiting (by simp [queue])
      have told : Unanswered { site with pending := rest } middle :=
        unanswered_chains.runNext (fun _ => dispatch_unanswering _ _ _ _ plain) first
      have idle' : middle.Idle := by
        intro other mem
        rw [told.pending] at mem
        exact idle other (by simp [queue, show other ∈ rest from mem])
      exact (ih idle' last).trans told.answers

/-- A request is answered and nothing that waits leads to another answer, or what alone waits is the
equipment's answer to a start. -/
inductive Due (request : Request) (refusal : Option NackCause) (site : Site) : Prop
  | given (answers : answersIn site.outputs = [request.answer refusal]) (idle : site.Idle)
  | raised (id : ObjectId) (start : request = .start id) (silent : answersIn site.outputs = [])
      (present : site.tree.contains id = true)
      (pending : site.pending = [⟨id, startOutcome refusal, false⟩])

theorem Due.settle {request : Request} {refusal : Option NackCause} (due : Due request refusal site)
    (h : runPending site = .ok site') : answersIn site'.outputs = [request.answer refusal] := by
  cases due with
  | given answers idle => exact (runAtMost_unanswered idle h).trans answers
  | raised id start silent present pending =>
    subst start
    have cost : pendingCost site.hardware.numTrx (startOutcome refusal) = 1 := by
      cases refusal <;> rfl
    have one : runAtMost 1 site = .ok site' := by simpa [runPending_eq_runAtMost, pending, cost] using h
    simp only [runAtMost_succ, pending] at one
    obtain ⟨middle, ran, last⟩ := bind_eq_ok one
    cases last
    have told : Management.dispatch id (startOutcome refusal) { site with pending := [] } = .ok site' := by
      simpa [runNext_eq, present] using ran
    rw [(dispatch_answered told).answers, silent]
    rfl

structure Site.Silent (site : Site) : Prop where
  answers : answersIn site.outputs = []
  pending : site.pending = []

theorem Site.Silent.unanswered (silent : site.Silent) (h : Unanswered site site') : site'.Silent :=
  ⟨h.answers.trans silent.answers, h.pending.trans silent.pending⟩

section request

variable {object : ManagedObject} {refusal : Option NackCause}

theorem Site.Silent.report {request : Request} (silent : site.Silent)
    (outputs : site'.outputs = site.outputs ++ [.report (request.answer refusal)]) (idle : site'.Idle) :
    Due request refusal site' := by
  refine .given ?_ idle
  rw [outputs, answersIn_append, silent.answers]
  cases refusal <;> rfl

theorem Site.Silent.idle (silent : site.Silent) (pending : site'.pending = site.pending) : site'.Idle := by
  intro waiting mem
  rw [pending, silent.pending] at mem
  exact absurd mem List.not_mem_nil

theorem start_due (silent : site.Silent) (found : site.tree.get? id = some object) :
    Due (.start id) (site.hardware.refusal? (.start id)) (Management.start id site) := by
  refine .raised id rfl silent.answers ?_ ?_
  · show site.tree.contains id = true
    simp [Tree.contains, found]
  · show site.pending ++ [site.hardware.start id] = _
    rw [silent.pending, start_eq]
    rfl

theorem setAttributes_due {attributes : Attributes} (silent : site.Silent) (ne : id ≠ .siteManager)
    (h : setAttributes id attributes site = .ok site') :
    Due (.setAttributes id attributes) (site.hardware.refusal? (.setAttributes id attributes)) site' := by
  obtain ⟨object, _, h⟩ := Site.bind_object h
  simp only [Hardware.refusal?, if_neg ne]
  cases applied : site.hardware.applyAttributes id attributes with
  | error cause =>
    simp only [applied] at h
    cases h
    exact silent.report rfl (silent.idle rfl)
  | ok result =>
    obtain ⟨hardware, events⟩ := result
    simp only [applied] at h
    cases h
    refine silent.report rfl ?_
    intro waiting mem
    have mem : waiting ∈ site.pending ++ events := mem
    rw [silent.pending, List.nil_append] at mem
    obtain ⟨p, bts, trx, rfl⟩ := applyAttributes_raises applied waiting mem
    rfl

theorem changeAdmin_due {admin : AdminState} (silent : site.Silent)
    (h : Manager.changeAdmin id admin site = .ok site') :
    Due (.changeAdmin id admin) (site.hardware.refusal? (.changeAdmin id admin)) site' := by
  have publishes {middle : Site} (before : Unanswered site middle)
      (h : (do return answerAdmin id (.ok ()) (← publish id none none (some admin) middle)) =
        Except.ok site') : Due (.changeAdmin id admin) none site' := by
    obtain ⟨published, told, last⟩ := bind_eq_ok h
    cases last
    have silent := silent.unanswered (unanswered_chains.trans before (publish_unanswered told))
    exact silent.report rfl (silent.idle rfl)
  rw [Manager.changeAdmin_eq] at h
  cases outcome : site.hardware.changeAdmin id admin with
  | error cause =>
    simp only [outcome] at h
    cases h
    simp only [Hardware.refusal?, outcome]
    exact silent.report rfl (silent.idle rfl)
  | ok accepted =>
    simp only [outcome] at h
    simp only [Hardware.refusal?, outcome]
    by_cases locks : admin = .locked
    · simp only [if_pos locks] at h
      obtain ⟨middle, disabled, h⟩ := bind_eq_ok h
      exact publishes (dispatch_unanswering.offer id .disable site middle rfl disabled) h
    · simp only [if_neg locks] at h
      exact publishes (unanswered_chains.refl site) h

theorem keepAttributes_due {attributes : Attributes} (silent : site.Silent)
    (h : keepAttributes .siteManager attributes site = .ok site') :
    Due (.setAttributes .siteManager attributes) none site' := by
  obtain ⟨object, _, h⟩ := Site.bind_object h
  cases h
  exact silent.report rfl (silent.idle rfl)

def Site.refusal? (site : Site) (object : ManagedObject) (request : Request) : Option NackCause :=
  if request.IsPremature object then some .cantPerform else site.hardware.refusal? request

theorem startConfigured_due (silent : site.Silent) (found : site.tree.get? id = some object)
    (needs : id.objectClass.needsAttributes = true) (h : startConfigured id site = .ok site') :
    Due (.start id) (site.refusal? object (.start id)) site' := by
  simp only [startConfigured, Site.object_of_found found, ok_bind] at h
  unfold Site.refusal?
  cases configured : object.attributesSet with
  | true =>
    rw [if_neg (by simp [Request.IsPremature, configured])]
    simp only [configured, if_true] at h
    cases h
    exact start_due silent found
  | false =>
    rw [if_pos ⟨rfl, needs, configured⟩]
    simp only [configured] at h
    cases h
    exact silent.report rfl (silent.idle rfl)

theorem stepOfRequest_due {request : Request} (silent : site.Silent)
    (found : site.tree.get? request.id = some object)
    (h : Manager.stepOfRequest request site = .ok site') :
    Due request (site.refusal? object request) site' := by
  cases request with
  | setAttributes id attributes =>
    have asked : ¬ (Request.setAttributes id attributes).IsPremature object := by rintro ⟨⟨⟩, _⟩
    rw [Site.refusal?, if_neg asked]
    obtain ⟨_, _, _, h⟩ := performed_of_dispatchWithin h
    simp only [reactionIn, reaction, perform_single] at h
    have silent : (site.record (.dispatched id EventKind.rxSetAttr)).Silent := ⟨silent.1, silent.2⟩
    by_cases root : id = .siteManager
    · subst root
      simp only [Hardware.refusal?, if_true]
      exact keepAttributes_due silent h
    · have ne : id.objectClass ≠ .siteManager := by
        cases id <;> first | exact absurd rfl root | rintro ⟨⟩
      rw [if_neg ne] at h
      have due := setAttributes_due silent root h
      exact due
  | start id =>
    obtain ⟨_, _, _, h⟩ := performed_of_dispatchWithin h
    simp only [reactionIn, reaction, perform_single] at h
    have silent : (site.record (.dispatched id EventKind.rxOpstart)).Silent := ⟨silent.1, silent.2⟩
    have found : (site.record (.dispatched id EventKind.rxOpstart)).tree.get? id = some object := found
    cases needs : id.objectClass.needsAttributes with
    | true =>
      rw [if_neg (by rintro (same | same) <;> rw [same] at needs <;> cases needs)] at h
      have due := startConfigured_due silent found needs h
      exact due
    | false =>
      have free : id.objectClass = .siteManager ∨ id.objectClass = .basebandTransceiver := by
        cases id <;> first | cases needs; done | exact .inl rfl | exact .inr rfl
      rw [if_pos free] at h
      cases h
      have asked : ¬ (Request.start id).IsPremature object := by
        rintro ⟨_, needed, _⟩
        cases needs.symm.trans needed
      rw [Site.refusal?, if_neg asked]
      have due := start_due silent found
      exact due
  | changeAdmin id admin =>
    have asked : ¬ (Request.changeAdmin id admin).IsPremature object := by rintro ⟨⟨⟩, _⟩
    rw [Site.refusal?, if_neg asked]
    exact changeAdmin_due silent h

end request

theorem tellTransceiver_unanswered {trx : Nat} {events : List Event}
    (plain : ∀ event ∈ events, event.leadsToAnswer = false)
    (h : Manager.tellTransceiver trx events site = .ok site') : Unanswered site site' :=
  unanswered_chains.tellTransceiver
    (fun event mem id site site' => dispatch_unanswering id event site site' (plain event mem)) h

theorem tearDown_unanswered (h : Manager.tearDown site = .ok site') : Unanswered site site' := by
  obtain ⟨middle, first, h⟩ := bind_eq_ok h
  obtain ⟨middle', second, last⟩ := bind_eq_ok h
  cases last
  have started := dispatch_unanswering _ _ site middle rfl first
  have finished := dispatch_unanswering _ _ middle middle' rfl second
  have both := unanswered_chains.trans started finished
  exact ⟨both.answers, both.pending⟩

end

end Management

namespace Manager

variable {manager : Manager} {flags : LinkFlags} {time : FrameTime} {effect : Effect Manager}

theorem quiet_silent (tree : Tree) (hardware : Hardware) : (Site.quiet tree hardware).Silent := ⟨rfl, rfl⟩

theorem receiveRequest_answers_once {request : Request}
    (received : manager.receiveRequest flags time request = .ok effect) :
    answersIn (effect.sent.map (·.primitive)) = [request.answer (manager.refusal? request)] := by
  rw [receiveRequest_eq] at received
  unfold Manager.refusal?
  cases found : manager.tree.get? request.id with
  | none =>
    rw [if_neg (by simp [Tree.contains, found])] at received
    cases received
    rfl
  | some object =>
    rw [if_pos (by simp [Tree.contains, found])] at received
    obtain ⟨site, stepped, received⟩ := bind_eq_ok received
    obtain ⟨site', settled, last⟩ := bind_eq_ok received
    cases last
    rw [ofPrimitive_primitive]
    exact (stepOfRequest_due (quiet_silent ..) found stepped).settle settled

theorem run_unanswered {step : Step}
    (plain : ∀ site site', step site = .ok site' → Unanswered site site')
    (received : manager.run flags time step = .ok effect) :
    answersIn (effect.sent.map (·.primitive)) = [] := by
  obtain ⟨site, stepped, received⟩ := bind_eq_ok received
  obtain ⟨site', settled, last⟩ := bind_eq_ok received
  cases last
  have silent := (quiet_silent ..).unanswered (plain _ _ stepped)
  rw [ofPrimitive_primitive]
  exact (runAtMost_unanswered (silent.idle rfl) settled).trans silent.answers

theorem receiveLink_unanswered {control : LinkControl}
    (received : manager.receiveLink flags time control = .ok effect) :
    answersIn (effect.sent.map (·.primitive)) = [] := by
  rw [receiveLink_eq] at received
  cases control with
  | phyLinkUp trx | phyLinkDown trx | rslLinkUp trx =>
    dsimp only at received
    split at received
    · exact run_unanswered (fun _ _ h => tellTransceiver_unanswered (by decide) h) received
    · cases received
      rfl
  | omlLinkUp =>
    exact run_unanswered (fun site site' h => dispatch_unanswering.offer _ _ site site' rfl h) received
  | abisLinkFailed =>
    obtain ⟨effect', ran, last⟩ := bind_eq_ok received
    cases last
    have answers := run_unanswered (fun _ _ h => tearDown_unanswered h) ran
    exact answers

/-- A request that does not end in a fault is answered exactly once, with an answer that names its object and
its procedure. It is refused for its object if that is not in the tree, and as one that cannot be performed
if it starts an object whose last attributes were not accepted but should have been; for the rest the answer
is the equipment's. News of the links is not answered. -/
theorem requests_answered_once {message : Message} (received : manager.receive flags message = .ok effect) :
    (∀ request, message.primitive = .request request →
      answersIn (effect.sent.map (·.primitive)) = [request.answer (manager.refusal? request)] ∧
      (manager.refusal? request = some .objInstanceUnknown ↔
        manager.tree.get? request.id = none ∨
          (∃ object, manager.tree.get? request.id = some object ∧ ¬ request.IsPremature object) ∧
            manager.hardware.refusal? request = some .objInstanceUnknown)) ∧
    ∀ control, message.primitive = .link control → answersIn (effect.sent.map (·.primitive)) = [] := by
  rw [receive_eq] at received
  refine ⟨fun request asked => ?_, fun control told => ?_⟩
  · rw [asked] at received
    refine ⟨receiveRequest_answers_once received, ?_⟩
    unfold Manager.refusal?
    cases found : manager.tree.get? request.id with
    | none => simp
    | some object => by_cases premature : request.IsPremature object <;> simp [premature]
  · rw [told] at received
    exact receiveLink_unanswered received

theorem requests_answered_once_premature :
    ∃ manager effect, Reachable manager ∧
      manager.receive .initial (.ofPrimitive ⟨0⟩ (.request (.start (.bts 0)))) = .ok effect ∧
      answersIn (effect.sent.map (·.primitive)) = [.nack (.bts 0) .opstart .cantPerform] := by
  have received : ∃ linked started,
      (ofConfig (.ofHosts ["bsc"]) (.fresh 1)).receive .initial
        (.ofPrimitive ⟨0⟩ (.link .omlLinkUp)) = .ok linked ∧
      linked.state.receive .initial (.ofPrimitive ⟨0⟩ (.request (.start (.bts 0)))) = .ok started ∧
      linked.state.refusal? (.start (.bts 0)) = some .cantPerform :=
    ⟨_, _, rfl, rfl, rfl⟩
  obtain ⟨linked, started, received, received', refused⟩ := received
  have reachable : Reachable linked.state := ⟨_, _, ⟨_, _, false, rfl⟩, .receive _ _ .start received⟩
  have answers := ((requests_answered_once received').1 (.start (.bts 0)) rfl).1
  rw [refused] at answers
  exact ⟨linked.state, started, reachable, received', answers⟩

/-- Equipment may refuse an object that is there with the cause that is meant for one that is not. -/
theorem unknown_not_only_missing : ¬ ∀ manager, Reachable manager → ∀ message request flags effect,
    message.primitive = .request request → manager.receive flags message = .ok effect →
      (.nack request.id request.procedure .objInstanceUnknown ∈ answersIn (effect.sent.map (·.primitive)) ↔
        manager.tree.get? request.id = none) := by
  intro only
  let refusing := (Hardware.fresh 1).refuseAttributes (.bts 0) .objInstanceUnknown
  let request : Request := .setAttributes (.bts 0) .empty
  have received : ∃ linked refused,
      (ofConfig (.ofHosts ["bsc"]) refusing).receive .initial
        (.ofPrimitive ⟨0⟩ (.link .omlLinkUp)) = .ok linked ∧
      linked.state.receive .initial (.ofPrimitive ⟨0⟩ (.request request)) = .ok refused ∧
      answersIn (refused.sent.map (·.primitive)) =
        [.nack (.bts 0) .setAttr .objInstanceUnknown] ∧
      linked.state.tree.get? (.bts 0) ≠ none := by
    refine ⟨_, _, rfl, rfl, rfl, ?_⟩
    rintro ⟨⟩
  obtain ⟨linked, refused, received, received', answers, there⟩ := received
  have reachable : Reachable linked.state := ⟨_, _, ⟨_, _, false, rfl⟩, .receive _ _ .start received⟩
  have told := only _ reachable (.ofPrimitive ⟨0⟩ (.request request)) request _ _ rfl received'
  rw [answers] at told
  exact there (told.mp List.mem_cons_self)

end Manager

end BaseStation
