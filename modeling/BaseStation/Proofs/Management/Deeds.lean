import BaseStation.Proofs.Management.Answers
import BaseStation.Proofs.Management.Evolution

namespace BaseStation

open Management

def ObjectClass.followsLinks : ObjectClass → Bool
  | .radioCarrier | .basebandTransceiver => true
  | .siteManager | .gprsNse | .bts | .channel => false

def Primitive.TellsOf (id : ObjectId) : Primitive → Prop
  | .report told => told.id = id
  | .releaseTimeslot trx ts => ∃ bts, id = .channel bts trx ts
  | _ => False

namespace Management

/-- The first object tells the second of events of its own accord. -/
inductive Informs : ObjectId → ObjectId → Prop
  | siteNse : Informs .siteManager .gprsNse
  | siteBts : Informs .siteManager (.bts 0)
  | nse (bts : Nat) : Informs (.bts bts) .gprsNse
  | carrier (bts trx : Nat) : Informs (.bts bts) (.radioCarrier bts trx)
  | baseband (bts trx : Nat) : Informs (.bts bts) (.basebandTransceiver bts trx)
  | carrierChannel (bts trx ts : Nat) : Informs (.radioCarrier bts trx) (.channel bts trx ts)
  | basebandChannel (bts trx ts : Nat) : Informs (.basebandTransceiver bts trx) (.channel bts trx ts)

def Closed (about : ObjectId → Prop) : Prop := ∀ id other, about id → Informs id other → about other

theorem closed_all : Closed fun _ => True := fun _ _ _ _ => trivial

def arrival (id : ObjectId) (object : ManagedObject) (target : Phase) : List Entry :=
  .did (.moved id object.phase target) ::
    (released id target ++ news id object.published (enteredState target object.published)).map .said

/-- One thing done at an object: what becomes of the object, what is recorded and said, and the events that are
raised. An object is started only as it may be. -/
inductive Deed (may : ObjectId → ManagedObject → Prop) (id : ObjectId) (object : ManagedObject) :
    ManagedObject → List Entry → List PendingEvent → Prop
  | hears (kind : EventKind) (accepted : Machine.accepts id.objectClass object.phase kind = true) :
      Deed may id object object [.did (.dispatched id kind)] []
  | administers (admin : AdminState) :
      Deed may id object { object with published := updated object.published none none (some admin) }
        ((news id object.published (updated object.published none none (some admin))).map .said) []
  | repeats : Deed may id object object [.said (.report (.stateChanged id object.published))] []
  | grants : Deed may id object object [.said (.report (.ack id .chgAdmState))] []
  | denies (cause : NackCause) : Deed may id object object [.said (.report (.nack id .chgAdmState cause))] []
  | takes (attributes : Attributes) (raised : List PendingEvent)
      (accepted : Machine.accepts id.objectClass object.phase .rxSetAttr = true)
      (informs : ∀ waiting ∈ raised, Informs id waiting.id) :
      Deed may id object { object.withAttributes attributes with attributesSet := true }
        [.said (.report (.ack id .setAttr))] raised
  | misses (cause : NackCause) (accepted : Machine.accepts id.objectClass object.phase .rxSetAttr = true) :
      Deed may id object { object with attributesSet := false }
        [.said (.report (.nack id .setAttr cause))] []
  | asks (waiting : PendingEvent) (own : waiting.id = id)
      (accepted : Machine.accepts id.objectClass object.phase .rxOpstart = true) :
      Deed may id object object [] [waiting]
  | refuses (cause : NackCause) (accepted : Machine.accepts id.objectClass object.phase .rxOpstart = true) :
      Deed may id object object [.said (.report (.nack id .opstart cause))] []
  | fails (cause : NackCause) (accepted : Machine.accepts id.objectClass object.phase .opstartNack = true) :
      Deed may id object { object with started := false } [.said (.report (.nack id .opstart cause))] []
  | acknowledges (follows : id.objectClass.followsLinks = true)
      (accepted : Machine.accepts id.objectClass object.phase .opstartAck = true) :
      Deed may id object { object with started := true } [.said (.report (.ack id .opstart))] []
  | starts (upright : id.objectClass.followsLinks = false)
      (accepted : Machine.accepts id.objectClass object.phase .opstartAck = true) (due : may id object) :
      Deed may id object ({ object with started := true }.entered id.objectClass .enabled)
        (.said (.report (.ack id .opstart)) :: arrival id object .enabled) []
  | moves (target : Phase) (mayMove : Machine.mayMove id.objectClass object.phase target = true)
      (stays : object.phase = .notInstalled → target = .notInstalled)
      (enables : target = .enabled → id.objectClass.followsLinks = true) :
      Deed may id object (object.entered id.objectClass target) (arrival id object target) []
  | installs (target : Phase) (mayMove : Machine.mayMove id.objectClass object.phase target = true)
      (uninstalled : object.phase = .notInstalled) (leaves : target ≠ .notInstalled) :
      Deed may id object (object.entered id.objectClass target)
        (.said (.report (.softwareActivated id)) :: arrival id object target) []

inductive Act (about : ObjectId → Prop) (may : ObjectId → ManagedObject → Prop) (site site' : Site) : Prop
  | deed {id : ObjectId} {object object' : ManagedObject} {log : List Entry} {raised : List PendingEvent}
      (concerned : about id) (found : site.tree.get? id = some object)
      (deed : Deed may id object object' log raised) (tree : site'.tree = site.tree.put id object')
      (outputs : site'.outputs = site.outputs ++ primitives log)
      (trace : site'.trace = site.trace ++ traces log) (pending : site'.pending = site.pending ++ raised)
  | beside (tree : site'.tree = site.tree) (outputs : site'.outputs = site.outputs)
      (trace : site'.trace = site.trace) (pending : ∀ waiting ∈ site'.pending, waiting ∈ site.pending)

def Deeds (about : ObjectId → Prop) (may : ObjectId → ManagedObject → Prop) : Site → Site → Prop :=
  Relation.ReflTransGen (Act about may)

section entries

@[simp] theorem primitives_said (said : List Primitive) : primitives (said.map .said) = said :=
  primitives_log [] said

@[simp] theorem traces_said (said : List Primitive) : traces (said.map .said) = [] := traces_log [] said

@[simp] theorem primitives_cons_said (primitive : Primitive) (log : List Entry) :
    primitives (.said primitive :: log) = primitive :: primitives log := rfl

@[simp] theorem traces_cons_said (primitive : Primitive) (log : List Entry) :
    traces (.said primitive :: log) = traces log := rfl

@[simp] theorem primitives_arrival (id : ObjectId) (object : ManagedObject) (target : Phase) :
    primitives (arrival id object target) =
      released id target ++ news id object.published (enteredState target object.published) :=
  primitives_log [.moved id object.phase target] _

@[simp] theorem traces_arrival (id : ObjectId) (object : ManagedObject) (target : Phase) :
    traces (arrival id object target) = [.moved id object.phase target] :=
  traces_log [.moved id object.phase target] _

end entries

section own

def Entry.IsOf (id : ObjectId) : Entry → Prop
  | did (.dispatched other _) | did (.moved other _ _) => other = id
  | said primitive => primitive.TellsOf id

variable {may : ObjectId → ManagedObject → Prop} {id : ObjectId} {object object' : ManagedObject}
  {log : List Entry} {raised : List PendingEvent}

theorem news_isOf (id : ObjectId) (before after : ObjectState) :
    ∀ entry ∈ (news id before after).map Entry.said, entry.IsOf id := by
  unfold news
  split
  · exact fun _ mem => absurd mem List.not_mem_nil
  · exact List.forall_mem_singleton.mpr rfl

theorem released_isOf (id : ObjectId) (target : Phase) :
    ∀ entry ∈ (released id target).map Entry.said, entry.IsOf id := by
  unfold released
  split
  · exact List.forall_mem_singleton.mpr ⟨_, rfl⟩
  · exact fun _ mem => absurd mem List.not_mem_nil

theorem arrival_isOf (id : ObjectId) (object : ManagedObject) (target : Phase) :
    ∀ entry ∈ arrival id object target, entry.IsOf id := by
  refine List.forall_mem_cons.mpr ⟨rfl, ?_⟩
  rw [List.map_append]
  exact List.forall_mem_append.mpr ⟨released_isOf id target, news_isOf id _ _⟩

theorem Deed.isOf (deed : Deed may id object object' log raised) : ∀ entry ∈ log, entry.IsOf id := by
  cases deed with
  | administers admin => exact news_isOf id _ _
  | starts _ _ _ | installs _ _ _ _ => exact List.forall_mem_cons.mpr ⟨rfl, arrival_isOf id object _⟩
  | moves target _ _ _ => exact arrival_isOf id object target
  | asks _ _ _ => exact fun _ mem => absurd mem List.not_mem_nil
  | _ => exact List.forall_mem_singleton.mpr rfl

theorem said_of_mem_primitives {primitive : Primitive} (mem : primitive ∈ primitives log) :
    .said primitive ∈ log := by
  obtain ⟨entry, place, same⟩ := List.mem_filterMap.mp mem
  cases entry <;> cases same
  exact place

end own

section deeds

variable {about : ObjectId → Prop} {may : ObjectId → ManagedObject → Prop} {dispatch : Dispatcher}
  {id : ObjectId} {event : Event} {site site' : Site} {object : ManagedObject}

theorem deeds_chains (about : ObjectId → Prop) (may : ObjectId → ManagedObject → Prop) :
    Chains (Deeds about may) where
  refl _ := .refl
  trans := .trans

/-- What every deed brings about, and all else that is done, any number of them brings about. -/
theorem Deeds.brings {R : Site → Site → Prop} (chains : Chains R)
    (act : ∀ site site', Act about may site site' → R site site') (deeds : Deeds about may site site') :
    R site site' := by
  induction deeds with
  | refl => exact chains.refl _
  | tail _ last ih => exact chains.trans ih (act _ _ last)

def Action.isPlain : Action → Bool
  | .announceShutdown | .repeatState | .apply _ | .keep _ | .start | .startConfigured | .refuse _ => true
  | .reportSoftware | .become _ | .acknowledge | .tell _ _ | .offer _ _ => false

inductive Course (cls : ObjectClass) (event : Event) (object : ManagedObject) : List Action → Prop
  | nothing : Course cls event object []
  | answers {action : Action} (due : Action.DueTo event action) (plain : action.isPlain = true) :
      Course cls event object [action]
  | moves {target : Phase} (stays : object.phase = .notInstalled → target = .notInstalled)
      (enables : target = .enabled → cls.followsLinks = true) : Course cls event object [.become target]
  | installs {target : Phase} (uninstalled : object.phase = .notInstalled) (leaves : target ≠ .notInstalled) :
      Course cls event object [.reportSoftware, .become target]
  | acknowledges (acked : event = .opstartAck) (follows : cls.followsLinks = true) :
      Course cls event object [.acknowledge]
  | starts (acked : event = .opstartAck) : Course cls event object [.acknowledge, .become .enabled]

theorem installedPhase_ne (supported : Bool) : installedPhase supported ≠ .notInstalled := by
  cases supported <;> decide

theorem reaction_course {cls : ObjectClass} (supported : Bool) {linked : Bool}
    (upright : cls.followsLinks = false → linked = true)
    (accepted : Machine.accepts cls object.phase event.kind = true) :
    Course cls event object (reaction cls supported linked [] object event) := by
  have moves {condition : Prop} [Decidable condition] {target : Phase}
      (stays : condition → object.phase = .notInstalled → target = .notInstalled)
      (enables : target = .enabled → cls.followsLinks = true) :
      Course cls event object (if condition then [.become target] else []) := by
    split
    · exact .moves (stays (by assumption)) enables
    · exact .nothing
  cases event with
  | shutdownStart => exact .answers .announceShutdown rfl
  | shutdownFinish => exact .moves (fun _ => rfl) (by rintro ⟨⟩)
  | rxSetAttr attributes =>
    refine .answers (reaction_dueTo cls supported linked [] object _ _ (List.mem_singleton_self _)) ?_
    split <;> rfl
  | rxOpstart =>
    refine .answers (reaction_dueTo cls supported linked [] object _ _ (List.mem_singleton_self _)) ?_
    split <;> rfl
  | opstartAck =>
    cases linked with
    | true => exact .starts rfl
    | false =>
      refine .acknowledges rfl ?_
      rw [← Bool.not_eq_false]
      intro upright'
      cases upright upright'
  | opstartNack cause => exact .answers (.refuse cause) rfl
  | swAct => exact .installs (Machine.notInstalled_of_swAct accepted) (installedPhase_ne supported)
  | omlUp =>
    simp only [reaction]
    split
    · refine .installs ?_ (by decide)
      cases phase : object.phase <;> rw [phase] at accepted <;> first | rfl | cases accepted
    · exact .installs (by assumption) (installedPhase_ne supported)
    · exact .installs (by assumption) (by decide)
    · exact .answers .repeatState rfl
    · exact .answers .repeatState rfl
  | rslUp | phyLinkUp =>
    refine moves (fun ready uninstalled => ?_) fun _ => ?_
    · cases ready.1.symm.trans uninstalled
    · cases cls <;> cases phase : object.phase <;> rw [phase] at accepted <;> first | rfl | cases accepted
  | rslDown | phyLinkDown | disable =>
    exact moves (fun enabled uninstalled => by cases enabled.symm.trans uninstalled) (by rintro ⟨⟩)
  | bbTranscEnabled | rcarrierEnabled =>
    refine moves (fun _ uninstalled => ?_) (by rintro ⟨⟩)
    rw [uninstalled] at accepted
    cases cls <;> cases accepted
  | bbTranscDisabled | rcarrierDisabled =>
    simp only [reaction]
    split
    · exact .nothing
    · refine .moves (fun uninstalled => ?_) (by rintro ⟨⟩)
      rw [uninstalled] at accepted
      cases cls <;> cases accepted
  | btsEnabled =>
    exact moves (fun enabled uninstalled => by cases enabled.symm.trans uninstalled) (by rintro ⟨⟩)
  | btsDisabled =>
    refine moves (fun installed uninstalled => ?_) (by rintro ⟨⟩)
    rw [uninstalled] at installed
    rcases installed with same | same <;> cases same

theorem eq_channel_of_mem {tree : Tree} {bts trx : Nat} {other : ObjectId} (own : other ∈ tree.channelIds bts trx) :
    ∃ ts, other = .channel bts trx ts := by
  unfold Tree.channelIds at own
  split at own
  · exact absurd own List.not_mem_nil
  · obtain ⟨ts, _, rfl⟩ := List.mem_map.mp own
    exact ⟨ts, rfl⟩

theorem children_informs {tree : Tree} {other : ObjectId} (child : other ∈ children tree id) :
    Informs id other := by
  cases id with
  | siteManager =>
    simp only [children, Tree.siteChildren, List.mem_cons, List.not_mem_nil, or_false] at child
    rcases child with rfl | rfl
    · exact .siteNse
    · exact .siteBts
  | bts bts =>
    obtain ⟨trx, _, mem⟩ := List.mem_flatMap.mp child
    simp only [List.mem_cons, List.not_mem_nil, or_false] at mem
    rcases mem with rfl | rfl
    · exact .carrier bts trx
    · exact .baseband bts trx
  | basebandTransceiver bts trx =>
    obtain ⟨ts, rfl⟩ := eq_channel_of_mem child
    exact .basebandChannel bts trx ts
  | gprsNse | radioCarrier _ _ | channel _ _ _ => exact absurd child List.not_mem_nil

theorem applyAttributes_informs {hardware hardware' : Hardware} {attributes : Attributes}
    {events : List PendingEvent} (applied : hardware.applyAttributes id attributes = .ok (hardware', events)) :
    ∀ waiting ∈ events, Informs id waiting.id := by
  intro waiting mem
  rcases applyAttributes_activates applied with rfl | ⟨bts, rfl, rfl⟩
  · exact absurd mem List.not_mem_nil
  · obtain ⟨trx, _, mem⟩ := List.mem_flatMap.mp mem
    simp only [List.mem_cons, List.not_mem_nil, or_false] at mem
    rcases mem with rfl | rfl
    · exact .carrier bts trx
    · exact .baseband bts trx

theorem act_of_plain {action : Action} (due : Action.DueTo event action) (plain : action.isPlain = true)
    (concerned : about id) (found : site.tree.get? id = some object)
    (accepted : Machine.accepts id.objectClass object.phase event.kind = true)
    (h : action.run dispatch id site = .ok site') : Act about may site site' := by
  have same := (Tree.put_self found).symm
  cases due with
  | reportSoftware _ | become _ _ | uninstall | acknowledge | tell _ _ | offer _ _ => cases plain
  | announceShutdown =>
    rw [Action.run, publish_of_found found] at h
    cases h
    exact .deed concerned found (.administers .shutdown) rfl (by simp [Site.inform]) (by simp [Site.inform])
      (List.append_nil _).symm
  | repeatState =>
    rw [Action.run, republish_of_found found] at h
    cases h
    exact .deed concerned found .repeats same rfl (List.append_nil _).symm (List.append_nil _).symm
  | keep attributes =>
    simp only [Action.run, keepAttributes, Site.object_of_found found, ok_bind] at h
    cases h
    let kept (object : ManagedObject) := { object.withAttributes attributes with attributesSet := true }
    exact .deed concerned found (.takes attributes [] accepted fun _ mem => absurd mem List.not_mem_nil)
      (Tree.modify_eq_put kept found) rfl (List.append_nil _).symm (List.append_nil _).symm
  | apply attributes =>
    simp only [Action.run, setAttributes, Site.object_of_found found, ok_bind] at h
    split at h
    · rename_i hardware events applied
      cases h
      let kept (object : ManagedObject) := { object.withAttributes attributes with attributesSet := true }
      exact .deed concerned found (.takes attributes events accepted (applyAttributes_informs applied))
        (Tree.modify_eq_put kept found) rfl (List.append_nil _).symm rfl
    · rename_i cause applied
      cases h
      let missed (object : ManagedObject) := { object with attributesSet := false }
      exact .deed concerned found (.misses cause accepted) (Tree.modify_eq_put missed found) rfl
        (List.append_nil _).symm (List.append_nil _).symm
  | start =>
    cases h
    exact .deed concerned found (.asks (site.hardware.start id) (by rw [start_eq]) accepted) same
      (List.append_nil _).symm (List.append_nil _).symm rfl
  | startConfigured =>
    simp only [Action.run, Management.startConfigured, Site.object_of_found found, ok_bind] at h
    split at h <;> cases h
    · exact .deed concerned found (.asks (site.hardware.start id) (by rw [start_eq]) accepted) same
        (List.append_nil _).symm (List.append_nil _).symm rfl
    · exact .deed concerned found (.refuses .cantPerform accepted) same rfl (List.append_nil _).symm
        (List.append_nil _).symm
  | refuse cause =>
    rw [Action.run, refuseStart_of_found cause found] at h
    cases h
    exact .deed concerned found (.fails cause accepted) rfl rfl (List.append_nil _).symm
      (List.append_nil _).symm

def Does (about : ObjectId → Prop) (may : ObjectId → ManagedObject → Prop) (dispatch : Dispatcher) : Prop :=
  ∀ id event site site', about id →
    (event = .opstartAck → ∀ object, site.tree.get? id = some object → may id object) →
    dispatch id event site = .ok site' → Deeds about may site site'

theorem Does.offer (does : Does about may dispatch) : Does about may (dispatchIfAccepted dispatch) := by
  intro id event site site' concerned due h
  exact (deeds_chains about may).offer (fun site' => does id event site site' concerned due) h

theorem Does.notice (does : Does about may dispatch) (closed : Closed about) (concerned : about id)
    {previous target : Phase} (h : giveNotice dispatch id previous target site = .ok site') :
    Deeds about may site site' := by
  have quiet {event : Event} (notice : notice? id.objectClass previous target = some event) (other : ObjectId)
      (site : Site) : event = .opstartAck → ∀ object, site.tree.get? other = some object → may other object := by
    rintro rfl
    cases notice?_unanswered notice
  have channels {event : Event} {bts trx : Nat} (notice : notice? id.objectClass previous target = some event)
      (informs : ∀ ts, Informs id (.channel bts trx ts))
      (h : dispatchEach (dispatchIfAccepted dispatch) (site.tree.channelIds bts trx) event site = .ok site') :
      Deeds about may site site' := by
    refine (deeds_chains about may).foldlM _ (fun other mem middle middle' h => ?_) h
    obtain ⟨ts, rfl⟩ := eq_channel_of_mem mem
    exact does.offer _ event middle middle' (closed _ _ concerned (informs ts)) (quiet notice _ middle) h
  unfold giveNotice at h
  split at h
  · rename_i bts event notice
    exact does _ event site site' (closed _ _ concerned (.nse bts)) (quiet notice _ site) h
  · rename_i bts trx event notice
    exact channels notice (.carrierChannel bts trx) h
  · rename_i bts trx event notice
    exact channels notice (.basebandChannel bts trx) h
  · cases h
    exact .refl

theorem Does.become (does : Does about may dispatch) (closed : Closed about) (concerned : about id)
    {target : Phase} (found : site.tree.get? id = some object)
    (stays : object.phase = .notInstalled → target = .notInstalled)
    (enables : target = .enabled → id.objectClass.followsLinks = true)
    (h : changePhaseWith dispatch id target site = .ok site') : Deeds about may site site' := by
  obtain ⟨object', found', mayMove⟩ := found_of_changePhaseWith h
  cases found.symm.trans found'
  rw [changePhaseWith_of_found dispatch found mayMove] at h
  have settles : Act about may site (site.settle id object target) :=
    .deed concerned found (.moves target mayMove stays enables) rfl (by simp [Site.settle])
      (by simp [Site.settle]) (List.append_nil _).symm
  exact .head settles (does.notice closed concerned h)

theorem Does.install (does : Does about may dispatch) (closed : Closed about) (concerned : about id)
    {target : Phase} (found : site.tree.get? id = some object)
    (uninstalled : object.phase = .notInstalled) (leaves : target ≠ .notInstalled)
    (h : changePhaseWith dispatch id target (reportSoftware id site) = .ok site') :
    Deeds about may site site' := by
  have place : (reportSoftware id site).tree.get? id = some object := found
  obtain ⟨object', found', mayMove⟩ := found_of_changePhaseWith h
  cases place.symm.trans found'
  rw [changePhaseWith_of_found dispatch place mayMove] at h
  have settles : Act about may site ((reportSoftware id site).settle id object target) :=
    .deed concerned found (.installs target mayMove uninstalled leaves) rfl
      (by simp [Site.settle, reportSoftware, Site.report, Site.emit])
      (by simp [Site.settle, reportSoftware, Site.report, Site.emit]) (List.append_nil _).symm
  exact .head settles (does.notice closed concerned h)

theorem Does.start (does : Does about may dispatch) (closed : Closed about) (concerned : about id)
    (found : site.tree.get? id = some object) (due : may id object)
    (accepted : Machine.accepts id.objectClass object.phase .opstartAck = true)
    (h : perform dispatch id [.acknowledge, .become .enabled] site = .ok site') :
    Deeds about may site site' := by
  simp only [perform_cons, perform_single, Action.run, acknowledgeStart_of_found found, ok_bind] at h
  let started : ManagedObject := { object with started := true }
  let acked := (site.put id started).report (.ack id .opstart)
  have place : acked.tree.get? id = some started := Tree.get?_put_self started found
  cases follows : id.objectClass.followsLinks with
  | true =>
    have acknowledged : Act about may site acked :=
      .deed concerned found (.acknowledges follows accepted) rfl rfl (List.append_nil _).symm
        (List.append_nil _).symm
    refine .head acknowledged (does.become closed concerned place (fun uninstalled => ?_) (fun _ => follows) h)
    exact absurd uninstalled (Machine.installed_of_opstartAck accepted)
  | false =>
    obtain ⟨object', found', mayMove⟩ := found_of_changePhaseWith h
    cases place.symm.trans found'
    rw [changePhaseWith_of_found dispatch place mayMove] at h
    have settles : Act about may site (acked.settle id started .enabled) :=
      .deed concerned found (.starts follows accepted due) (Tree.put_put ..)
        (by simp [Site.settle, acked, started, Site.report, Site.emit, Site.put])
        (by simp [Site.settle, acked, started, Site.report, Site.emit, Site.put]) (List.append_nil _).symm
    exact .head settles (does.notice closed concerned h)

theorem Course.deeds {actions : List Action} (course : Course id.objectClass event object actions)
    (does : Does about may dispatch) (closed : Closed about) (concerned : about id)
    (found : site.tree.get? id = some object)
    (accepted : Machine.accepts id.objectClass object.phase event.kind = true)
    (due : event = .opstartAck → may id object) (h : perform dispatch id actions site = .ok site') :
    Deeds about may site site' := by
  cases course with
  | nothing =>
    cases h
    exact .refl
  | answers dueTo plain =>
    rw [perform_single] at h
    exact .single (act_of_plain dueTo plain concerned found accepted h)
  | moves stays enables =>
    rw [perform_single] at h
    exact does.become closed concerned found stays enables h
  | installs uninstalled leaves =>
    simp only [perform_cons, perform_single, Action.run, ok_bind] at h
    exact does.install closed concerned found uninstalled leaves h
  | acknowledges acked follows =>
    subst acked
    simp only [perform_single, Action.run, acknowledgeStart_of_found found] at h
    cases h
    exact .single (.deed concerned found (.acknowledges follows accepted) rfl rfl (List.append_nil _).symm
      (List.append_nil _).symm)
  | starts acked =>
    subst acked
    exact does.start closed concerned found (due rfl) accepted h

theorem linked_of_upright (tree : Tree) (upright : id.objectClass.followsLinks = false) :
    linked tree id = true := by
  cases id <;> first | rfl | cases upright

theorem dispatchWithin_does (closed : Closed about) (depth : Nat) : Does about may (dispatchWithin depth) := by
  induction depth with
  | zero =>
    intro id event site site' _ _ h
    cases h
  | succ depth ih =>
    intro id event site site' concerned due h
    obtain ⟨object, found, accepted, h⟩ := performed_of_dispatchWithin h
    let recorded := site.record (.dispatched id event.kind)
    have hears : Act about may site recorded :=
      .deed concerned found (.hears event.kind accepted) (Tree.put_self found).symm (List.append_nil _).symm
        rfl (List.append_nil _).symm
    have place : recorded.tree.get? id = some object := found
    refine .head hears ?_
    have course := reaction_course (supported site.tree id) (linked_of_upright site.tree) accepted
    have passes {actions : List Action} {middle middle' : Site} (still : event ≠ .opstartAck)
        (hands : ∀ action ∈ actions, Action.HandsDown (children site.tree id) event action)
        (h : perform (Management.dispatchWithin depth) id actions middle = .ok middle') :
        Deeds about may middle middle' := by
      refine (deeds_chains about may).foldlM _ (fun action mem site site' h => ?_) h
      cases hands action mem with
      | tell child =>
        exact ih _ event site site' (closed _ _ concerned (children_informs child)) (absurd · still) h
      | offer child =>
        exact ih.offer _ event site site' (closed _ _ concerned (children_informs child)) (absurd · still) h
    by_cases finish : event = .shutdownFinish
    -- the children come first, and may have changed the object
    · subst finish
      rw [reactionIn, reaction, perform_append] at h
      obtain ⟨middle, first, last⟩ := bind_eq_ok h
      rw [perform_single] at last
      obtain ⟨object', found', _⟩ := found_of_changePhaseWith last
      exact (passes (by rintro ⟨⟩) (handsDown_tell _ _) first).trans
        (ih.become closed concerned found' (fun _ => rfl) (by rintro ⟨⟩) last)
    · obtain ⟨told, parts, hands, alone⟩ := reaction_parts id.objectClass (supported site.tree id)
        (linked site.tree id) (children site.tree id) object finish
      rw [reactionIn, parts, perform_append] at h
      obtain ⟨middle, first, last⟩ := bind_eq_ok h
      have own := course.deeds ih closed concerned place accepted (fun acked => due acked object found) first
      by_cases acked : event = .opstartAck
      · rw [alone acked] at last
        cases last
        exact own
      · exact own.trans (passes acked hands last)

theorem dispatch_does (closed : Closed about) : Does about may Management.dispatch :=
  dispatchWithin_does closed nesting

end deeds

end Management

end BaseStation
