import BaseStation.Proofs.Management.BscView
import BaseStation.Proofs.Management.Dispatchers

namespace BaseStation

open Management

def Phase.state : Phase → OperationalState × Availability
  | .notInstalled => (.disabled, .notInstalled)
  | .dependency => (.disabled, .dependency)
  | .offline => (.disabled, .offLine)
  | .enabled => (.enabled, .ok)

namespace ManagedObject

/-- Just in its phase the object publishes the state that belongs to a phase. -/
def Matches (object : ManagedObject) : Prop :=
  ∀ phase, object.phase = phase ↔
    (object.published.operational, object.published.availability) = phase.state

theorem matches_iff {object : ManagedObject} :
    object.Matches ↔ (object.published.operational, object.published.availability) = object.phase.state := by
  constructor
  · exact fun all => (all object.phase).mp rfl
  · intro own phase
    rw [own]
    cases object.phase <;> cases phase <;> decide

instance (object : ManagedObject) : Decidable object.Matches := decidable_of_iff' _ matches_iff

theorem Matches.consistent {object : ManagedObject} (fits : object.Matches) :
    object.published.isConsistent = true := by
  have own := matches_iff.mp fits
  obtain ⟨operational, availability⟩ := Prod.mk.inj own
  rw [ObjectState.isConsistent, operational, availability]
  cases object.phase <;> rfl

theorem Matches.entered (cls : ObjectClass) (target : Phase) (object : ManagedObject) :
    (object.entered cls target).Matches := by
  rw [matches_iff]
  cases target <;> rfl

end ManagedObject

namespace Tree

variable {tree : Tree}

def Matches (tree : Tree) : Prop := ∀ id object, tree.get? id = some object → object.Matches

theorem mem_ids {id : ObjectId} {object : ManagedObject} (found : tree.get? id = some object) :
    id ∈ tree.ids := by
  have row {bts trx : Nat} {t : Transceiver} (found : tree.transceiver? bts trx = some t) :
      bts = 0 ∧ trx < tree.numTrx 0 := by
    obtain ⟨first, found⟩ := transceiver?_some found
    exact ⟨first, (List.getElem?_eq_some_iff.mp found).1⟩
  cases id with
  | siteManager | gprsNse => simp [ids]
  | bts b =>
    simp only [get?] at found
    split at found
    · rename_i first
      simp [ids, first]
    · cases found
  | radioCarrier b trx | basebandTransceiver b trx =>
    simp only [get?, Option.map_eq_some_iff] at found
    obtain ⟨t, found, rfl⟩ := found
    obtain ⟨rfl, place⟩ := row found
    apply List.mem_append_right
    refine List.mem_flatMap.mpr ⟨trx, List.mem_range.mpr place, ?_⟩
    simp
  | channel b trx ts =>
    simp only [get?, Option.bind_eq_some_iff] at found
    obtain ⟨t, found, slot⟩ := found
    obtain ⟨rfl, place⟩ := row found
    have slot := (List.getElem?_eq_some_iff.mp slot).1
    apply List.mem_append_right
    refine List.mem_flatMap.mpr ⟨trx, List.mem_range.mpr place, ?_⟩
    simp [channelIds, found, slot]

theorem matches_iff : tree.Matches ↔ ∀ id ∈ tree.ids, ∀ object ∈ tree.get? id, object.Matches := by
  constructor
  · intro fits id _ object found
    exact fits id object found
  · intro fits id object found
    exact fits id (mem_ids found) object found

instance (tree : Tree) : Decidable tree.Matches := decidable_of_iff' _ matches_iff

theorem Matches.congr {tree' : Tree} (fits : tree.Matches) (same : ∀ id, tree'.get? id = tree.get? id) :
    tree'.Matches := by
  intro id object found
  rw [same] at found
  exact fits id object found

theorem Matches.put (fits : tree.Matches) (id : ObjectId) {object : ManagedObject} (own : object.Matches) :
    (tree.put id object).Matches := by
  intro other found place
  by_cases same : id = other
  · subst same
    rw [Tree.put, get?_modify_self, Option.map_eq_some_iff] at place
    obtain ⟨_, _, rfl⟩ := place
    exact own
  · rw [get?_put_of_ne tree object same] at place
    exact fits other found place

theorem Matches.fresh (numTrx : Nat) (need dummy : Bool) : (Tree.fresh numTrx need dummy).Matches := by
  intro id object found
  rw [get?_fresh found, ManagedObject.matches_iff]
  rfl

end Tree

namespace Management

/-- Every state that is reported is consistent. -/
def Consistent (said : List Primitive) : Prop :=
  ∀ id state, .report (.stateChanged id state) ∈ said → state.isConsistent = true

structure Site.Truthful (site : Site) : Prop where
  fits : site.tree.Matches
  consistent : Consistent site.outputs

/-- Dispatch that does something else wherever a published state does not match its phase. -/
def watchedWithin (otherwise : Dispatcher) : Nat → Dispatcher
  | 0, id, _, _ => .error (.nestingExceeded id)
  | depth + 1, id, event, site =>
    if site.tree.Matches then do
      let object ← site.object id
      Machine.requireEvent id.objectClass id object.phase event.kind
      handle (watchedWithin otherwise depth) id object.phase event
        (site.record (.dispatched id event.kind))
    else otherwise id event site

def watched (otherwise : Dispatcher) : Dispatcher := watchedWithin otherwise nesting

section

variable {site site' : Site} {id : ObjectId} {object : ManagedObject}

theorem Consistent.append {said said' : List Primitive} (before : Consistent said) (after : Consistent said') :
    Consistent (said ++ said') := by
  intro id state mem
  rcases List.mem_append.mp mem with mem | mem
  · exact before id state mem
  · exact after id state mem

theorem Consistent.news (id : ObjectId) (before : ObjectState) {after : ObjectState}
    (consistent : after.isConsistent = true) : Consistent (news id before after) := by
  intro id' state mem
  unfold Management.news at mem
  split at mem
  · exact absurd mem List.not_mem_nil
  · cases List.mem_singleton.mp mem
    exact consistent

theorem Consistent.released (id : ObjectId) (target : Phase) : Consistent (released id target) := by
  intro id' state mem
  cases id <;> cases target <;> first | exact absurd mem List.not_mem_nil | cases List.mem_singleton.mp mem

theorem Consistent.silent {primitive : Primitive} (silent : (Entry.said primitive).isReport = false) :
    Consistent [primitive] := by
  intro id state mem
  rw [← List.mem_singleton.mp mem] at silent
  cases silent

theorem Site.Truthful.same (truthful : site.Truthful) (tree : site'.tree = site.tree)
    (outputs : site'.outputs = site.outputs) : site'.Truthful := by
  constructor
  · rw [tree]
    exact truthful.fits
  · rw [outputs]
    exact truthful.consistent

theorem Site.Truthful.say (truthful : site.Truthful) {said : List Primitive} (tree : site'.tree = site.tree)
    (outputs : site'.outputs = site.outputs ++ said) (consistent : Consistent said) : site'.Truthful := by
  constructor
  · rw [tree]
    exact truthful.fits
  · rw [outputs]
    exact truthful.consistent.append consistent

theorem Site.Truthful.answer {object' : ManagedObject} {primitive : Primitive} (truthful : site.Truthful)
    (found : site.tree.get? id = some object) (tree : site'.tree = site.tree.put id object')
    (same : object'.phase = object.phase ∧ object'.published = object.published)
    (outputs : site'.outputs = site.outputs ++ [primitive])
    (silent : (Entry.said primitive).isReport = false) : site'.Truthful := by
  have own := ManagedObject.matches_iff.mp (truthful.fits id object found)
  rw [← same.1, ← same.2] at own
  constructor
  · rw [tree]
    exact truthful.fits.put id (ManagedObject.matches_iff.mpr own)
  · rw [outputs]
    exact truthful.consistent.append (.silent silent)

theorem Site.Truthful.inform (truthful : site.Truthful) {state : ObjectState}
    (own : { object with published := state }.Matches) : (site.inform id object state).Truthful :=
  ⟨truthful.fits.put id own, truthful.consistent.append (.news id _ own.consistent)⟩

theorem Site.Truthful.settle (truthful : site.Truthful) (target : Phase) :
    (site.settle id object target).Truthful := by
  have own := ManagedObject.Matches.entered id.objectClass target object
  refine ⟨truthful.fits.put id own, ?_⟩
  have told : Consistent (news id object.published (enteredState target object.published)) :=
    .news id _ own.consistent
  exact (truthful.consistent.append (.released id target)).append told

theorem setAttributes_truthful {attributes : Attributes} (truthful : site.Truthful)
    (h : setAttributes id attributes site = .ok site') : site'.Truthful := by
  obtain ⟨object, found, h⟩ := Site.bind_object h
  cases applied : site.hardware.applyAttributes id attributes with
  | error cause =>
    simp only [applied] at h
    cases h
    have place := Site.modify_of_found site (fun object => { object with attributesSet := false }) found
    exact truthful.answer found (congrArg Site.tree place) ⟨rfl, rfl⟩ rfl rfl
  | ok result =>
    obtain ⟨hardware, events⟩ := result
    simp only [applied] at h
    cases h
    have place := Site.modify_of_found (Site.raise { site with hardware := hardware } events)
      (fun object => { object.withAttributes attributes with attributesSet := true }) found
    exact truthful.answer found (congrArg Site.tree place) ⟨rfl, rfl⟩ rfl rfl

theorem publishAdmin_truthful (admin : AdminState) (truthful : site.Truthful)
    (h : publish id none none (some admin) site = .ok site') : site'.Truthful := by
  obtain ⟨object, found, _⟩ := Site.bind_object h
  rw [publish_of_found found] at h
  cases h
  have own := ManagedObject.matches_iff.mp (truthful.fits id object found)
  exact truthful.inform (ManagedObject.matches_iff.mpr own)

end

section watched

variable {dispatch dispatch' : Dispatcher} {id : ObjectId}

theorem become_agrees (agree : AgreeOn Site.Truthful dispatch dispatch') (target : Phase) :
    Agree Site.Truthful (changePhaseWith dispatch id target) (changePhaseWith dispatch' id target) := by
  intro site truthful
  by_cases ready : ∃ object, site.tree.get? id = some object ∧
      Machine.mayMove id.objectClass object.phase target = true
  · obtain ⟨object, found, mayMove⟩ := ready
    rw [changePhaseWith_of_found dispatch found mayMove, changePhaseWith_of_found dispatch' found mayMove]
    exact agree.notice id object.phase target _ (truthful.settle target)
  · refine ⟨?_, fun after h => absurd (found_of_changePhaseWith h) ready⟩
    obtain ⟨enter, same⟩ := changePhaseWith_eq_move dispatch id target
    obtain ⟨enter', same'⟩ := changePhaseWith_eq_move dispatch' id target
    rw [same, same', move, move]
    cases found : site.tree.get? id with
    | none =>
      simp only [Site.object, found]
      rfl
    | some object =>
      have refused : Machine.mayMove id.objectClass object.phase target = false := by
        rw [← Bool.not_eq_true]
        exact fun mayMove => ready ⟨object, found, mayMove⟩
      simp only [Site.object_of_found found, ok_bind, Machine.requireMove, refused]
      rfl

theorem act_agrees (agree : AgreeOn Site.Truthful dispatch dispatch') (action : Action) :
    Agree Site.Truthful (action.run dispatch id) (action.run dispatch' id) := by
  cases action with
  | tell other event => exact agree other event
  | offer other event => exact agree.offer other event
  | become target => exact become_agrees agree target
  | announceShutdown => exact .keeps fun _ _ truthful h => publishAdmin_truthful .shutdown truthful h
  | start =>
    refine .keeps fun site after truthful h => ?_
    cases h
    exact truthful.same rfl rfl
  | reportSoftware =>
    refine .keeps fun site after truthful h => ?_
    cases h
    exact truthful.say rfl rfl (.silent rfl)
  | repeatState =>
    refine .keeps fun site after truthful h => ?_
    obtain ⟨object, found, h⟩ := Site.bind_object h
    cases h
    refine truthful.say rfl rfl ?_
    intro id' state mem
    cases List.mem_singleton.mp mem
    exact (truthful.fits id object found).consistent
  | startConfigured =>
    refine .keeps fun site after truthful h => ?_
    obtain ⟨object, _, h⟩ := Site.bind_object h
    split at h <;> cases h
    · exact truthful.same rfl rfl
    · exact truthful.say rfl rfl (.silent rfl)
  | apply attributes => exact .keeps fun _ _ truthful h => setAttributes_truthful truthful h
  | keep attributes =>
    refine .keeps fun site after truthful h => ?_
    obtain ⟨object, found, h⟩ := Site.bind_object h
    cases h
    have place := Site.modify_of_found site
      (fun object => { object.withAttributes attributes with attributesSet := true }) found
    exact truthful.answer found (congrArg Site.tree place) ⟨rfl, rfl⟩ rfl rfl
  | acknowledge =>
    refine .keeps fun site after truthful h => ?_
    obtain ⟨object, found, _⟩ := Site.bind_object h
    rw [Action.run, acknowledgeStart_of_found found] at h
    cases h
    exact truthful.answer found rfl ⟨rfl, rfl⟩ rfl rfl
  | refuse cause =>
    refine .keeps fun site after truthful h => ?_
    obtain ⟨object, found, _⟩ := Site.bind_object h
    rw [Action.run, refuseStart_of_found cause found] at h
    cases h
    exact truthful.answer found rfl ⟨rfl, rfl⟩ rfl rfl

theorem perform_agrees (agree : AgreeOn Site.Truthful dispatch dispatch') (actions : List Action) :
    Agree Site.Truthful (perform dispatch id actions) (perform dispatch' id actions) :=
  .foldlM actions fun action _ => act_agrees agree action

/-- Nothing is dispatched but in sites where all that is published matches. -/
theorem watchedWithin_agrees (otherwise : Dispatcher) (depth : Nat) :
    AgreeOn Site.Truthful (dispatchWithin depth) (watchedWithin otherwise depth) := by
  induction depth with
  | zero => exact fun id event site truthful => ⟨rfl, by rintro after ⟨⟩⟩
  | succ depth ih =>
    intro id event site truthful
    have fits := truthful.fits
    cases found : site.tree.get? id with
    | none =>
      simp only [watchedWithin, dispatchWithin, if_pos fits, Site.object, found]
      exact ⟨rfl, by rintro after ⟨⟩⟩
    | some object =>
      let told := site.record (.dispatched id event.kind)
      have place : told.tree.get? id = some object := found
      cases accepted : Machine.accepts id.objectClass object.phase event.kind with
      | false =>
        rw [dispatchWithin_refused depth found accepted]
        simp only [watchedWithin, if_pos fits, Site.object_of_found found, ok_bind, Machine.requireEvent,
          accepted]
        exact ⟨rfl, by rintro after ⟨⟩⟩
      | true =>
        have handled := handle_eq_perform (watchedWithin otherwise depth) place accepted
        rw [dispatchWithin_succ depth found accepted]
        simp only [watchedWithin, if_pos fits, Site.object_of_found found, ok_bind, Machine.requireEvent,
          accepted, if_true]
        rw [handled]
        exact perform_agrees ih _ told (truthful.same rfl rfl)

theorem watched_agrees (otherwise : Dispatcher) :
    AgreeOn Site.Truthful Management.dispatch (watched otherwise) :=
  watchedWithin_agrees otherwise nesting

theorem runNextWith_agrees (agree : AgreeOn Site.Truthful dispatch dispatch') (waiting : PendingEvent) :
    Agree Site.Truthful (runNextWith dispatch waiting) (runNextWith dispatch' waiting) := by
  intro site truthful
  unfold runNextWith
  split
  · exact ⟨rfl, by rintro after ⟨⟩; exact truthful⟩
  · split
    · exact agree.offer _ _ site truthful
    · exact agree _ _ site truthful

theorem runAtMostWith_agrees (agree : AgreeOn Site.Truthful dispatch dispatch') (count : Nat) :
    Agree Site.Truthful (runAtMostWith dispatch count) (runAtMostWith dispatch' count) := by
  induction count with
  | zero => exact fun site truthful => ⟨rfl, by rintro after ⟨⟩; exact truthful⟩
  | succ count ih =>
    intro site truthful
    unfold runAtMostWith
    split
    · exact ⟨rfl, by rintro after ⟨⟩; exact truthful⟩
    · rename_i waiting rest _
      have both := (runNextWith_agrees agree waiting).bind ih
      exact both { site with pending := rest } (truthful.same rfl rfl)

theorem runPendingWith_agrees (agree : AgreeOn Site.Truthful dispatch dispatch') :
    Agree Site.Truthful (runPendingWith dispatch) (runPendingWith dispatch') :=
  fun site truthful => runAtMostWith_agrees agree _ site truthful

theorem changeAdminWith_agrees (agree : AgreeOn Site.Truthful dispatch dispatch') (admin : AdminState) :
    Agree Site.Truthful (Manager.changeAdminWith dispatch id admin)
      (Manager.changeAdminWith dispatch' id admin) := by
  have publishes : Agree Site.Truthful
      (fun site => do return answerAdmin id (.ok ()) (← publish id none none (some admin) site))
      (fun site => do return answerAdmin id (.ok ()) (← publish id none none (some admin) site)) := by
    refine .keeps fun site after truthful h => ?_
    obtain ⟨published, told, last⟩ := bind_eq_ok h
    cases last
    exact (publishAdmin_truthful admin truthful told).say rfl rfl (.silent rfl)
  intro site truthful
  unfold Manager.changeAdminWith
  split
  · exact ⟨rfl, by rintro after ⟨⟩; exact truthful.say rfl rfl (.silent rfl)⟩
  · by_cases locks : admin = .locked
    · simp only [if_pos locks]
      exact ((agree.offer id .disable).bind publishes) site truthful
    · simp only [if_neg locks]
      exact ⟨trivial, (publishes site truthful).2⟩

theorem stepOfRequestWith_agrees (agree : AgreeOn Site.Truthful dispatch dispatch') (request : Request) :
    Agree Site.Truthful (Manager.stepOfRequestWith dispatch request)
      (Manager.stepOfRequestWith dispatch' request) := by
  cases request with
  | setAttributes id attributes => exact agree id _
  | start id => exact agree id _
  | changeAdmin id admin => exact changeAdminWith_agrees agree admin

theorem tellTransceiverWith_agrees (agree : AgreeOn Site.Truthful dispatch dispatch') (trx : Nat)
    (events : List Event) :
    Agree Site.Truthful (Manager.tellTransceiverWith dispatch trx events)
      (Manager.tellTransceiverWith dispatch' trx events) := by
  have offers (id : ObjectId) := Agree.foldlM events fun event _ => agree.offer id event
  exact (offers _).bind (offers _)

theorem tearDownWith_agrees (agree : AgreeOn Site.Truthful dispatch dispatch') :
    Agree Site.Truthful (Manager.tearDownWith dispatch) (Manager.tearDownWith dispatch') := by
  have closes : Agree Site.Truthful (fun site => .ok { site with hardware := site.hardware.close })
      (fun site => .ok { site with hardware := site.hardware.close }) := by
    refine .keeps fun site after truthful h => ?_
    cases h
    exact truthful.same rfl rfl
  exact (agree _ _).bind ((agree _ _).bind closes)

end watched

end Management

namespace Manager

def Matched (outcome outcome' : Except Fault (Effect Manager)) : Prop :=
  outcome' = outcome ∧ ∀ effect, outcome = .ok effect →
    effect.state.tree.Matches ∧ Consistent (effect.sent.map (·.primitive))

variable {manager : Manager} {flags : LinkFlags} {time : FrameTime} {dispatch dispatch' : Dispatcher}

theorem matched_silent (flags : LinkFlags) (fits : manager.tree.Matches) :
    Matched (.ok (.silent manager flags)) (.ok (.silent manager flags)) := by
  refine ⟨rfl, ?_⟩
  rintro effect ⟨⟩
  exact ⟨fits, fun id state mem => absurd mem List.not_mem_nil⟩

theorem runWith_matched (manager : Manager) {step step' : Step} (agree : AgreeOn Site.Truthful dispatch dispatch')
    (steps : Agree Site.Truthful step step') (flags : LinkFlags) (time : FrameTime)
    (fits : manager.tree.Matches) :
    Matched (manager.runWith dispatch flags time step) (manager.runWith dispatch' flags time step') := by
  have quiet : (Site.quiet manager.tree manager.hardware).Truthful :=
    ⟨fits, fun id state mem => absurd mem List.not_mem_nil⟩
  obtain ⟨same, kept⟩ := steps _ quiet
  unfold runWith
  rw [same]
  cases stepped : step (.quiet manager.tree manager.hardware) with
  | error fault => exact ⟨rfl, by rintro effect ⟨⟩⟩
  | ok site =>
    obtain ⟨same, kept⟩ := runPendingWith_agrees agree site (kept site stepped)
    simp only [ok_bind, same]
    refine ⟨rfl, fun effect h => ?_⟩
    obtain ⟨site', settled, last⟩ := bind_eq_ok h
    cases last
    have truthful := kept site' settled
    refine ⟨truthful.fits, ?_⟩
    rw [ofPrimitive_primitive]
    exact truthful.consistent

theorem receiveRequestWith_matched (agree : AgreeOn Site.Truthful dispatch dispatch')
    (fits : manager.tree.Matches) (request : Request) :
    Matched (manager.receiveRequestWith dispatch flags time request)
      (manager.receiveRequestWith dispatch' flags time request) := by
  unfold receiveRequestWith
  split
  · exact runWith_matched manager agree (stepOfRequestWith_agrees agree request) flags time fits
  · refine ⟨rfl, ?_⟩
    rintro effect ⟨⟩
    exact ⟨fits, Consistent.silent rfl⟩

theorem receiveLinkWith_matched (agree : AgreeOn Site.Truthful dispatch dispatch')
    (fits : manager.tree.Matches) (control : LinkControl) :
    Matched (manager.receiveLinkWith dispatch flags time control)
      (manager.receiveLinkWith dispatch' flags time control) := by
  have tell (trx : Nat) (events : List Event) (flags : LinkFlags) {f : Transceiver → Transceiver}
      (keep : ∀ t, (f t).carrier = t.carrier ∧ (f t).baseband = t.baseband ∧ (f t).channels = t.channels) :
      Matched
        ({ manager with tree := manager.tree.modifyTransceiver 0 trx f }.runWith dispatch flags time
          (tellTransceiverWith dispatch trx events))
        ({ manager with tree := manager.tree.modifyTransceiver 0 trx f }.runWith dispatch' flags time
          (tellTransceiverWith dispatch' trx events)) := by
    have fits' : (manager.tree.modifyTransceiver 0 trx f).Matches :=
      fits.congr (Tree.get?_modifyTransceiver_links keep)
    exact runWith_matched _ agree (tellTransceiverWith_agrees agree trx events) flags time fits'
  unfold receiveLinkWith
  cases control with
  | phyLinkUp trx | phyLinkDown trx | rslLinkUp trx =>
    dsimp only
    split
    · exact tell trx _ _ fun _ => ⟨rfl, rfl, rfl⟩
    · exact matched_silent flags fits
  | omlLinkUp => exact runWith_matched manager agree (agree.offer _ _) _ time fits
  | abisLinkFailed =>
    have fits' := fits.congr (Tree.get?_dropRsl manager.tree)
    have torn := runWith_matched { manager with tree := manager.tree.dropRsl } agree
      (tearDownWith_agrees agree) { flags with omlLinkUp := false } time fits'
    dsimp only
    rw [torn.1]
    refine ⟨rfl, fun effect h => ?_⟩
    obtain ⟨effect', ran, last⟩ := bind_eq_ok h
    cases last
    exact torn.2 effect' ran

theorem receiveWith_matched (agree : AgreeOn Site.Truthful dispatch dispatch') (fits : manager.tree.Matches)
    (flags : LinkFlags) (message : Message) :
    Matched (manager.receiveWith dispatch flags message) (manager.receiveWith dispatch' flags message) := by
  unfold receiveWith
  split
  · exact receiveRequestWith_matched agree fits _
  · exact receiveLinkWith_matched agree fits _
  · exact matched_silent flags fits

theorem receive_watched (otherwise : Dispatcher) (fits : manager.tree.Matches) (flags : LinkFlags)
    (message : Message) :
    Matched (manager.receive flags message) (manager.receiveWith (watched otherwise) flags message) :=
  receiveWith_matched (watched_agrees otherwise) fits flags message

theorem Run.fits {start : Manager} {sent : List Primitive} (run : Run start sent manager)
    (fits : start.tree.Matches) : manager.tree.Matches := by
  induction run with
  | start => exact fits
  | receive flags message _ received ih =>
    exact ((receive_watched Management.dispatch ih flags message).2 _ received).1

theorem Reachable.fits (reachable : Reachable manager) : manager.tree.Matches := by
  obtain ⟨start, sent, ⟨config, hardware, tracing, rfl⟩, run⟩ := reachable
  exact run.fits (Tree.Matches.fresh _ _ _)

/-- In every state that a manager reaches, all objects publish what belongs to their phases. They do so
whenever an event is dispatched as well, also by an object that was told of another: it makes no difference
to what a manager does about a message if dispatch does anything else where they do not. What is reported is
consistent. -/
theorem published_matches_phase (reachable : Reachable manager) :
    (∀ id object, manager.tree.get? id = some object →
      object.Matches ∧ object.published.isConsistent = true) ∧
    ∀ flags message,
      (∀ otherwise, manager.receiveWith (watched otherwise) flags message =
        manager.receive flags message) ∧
      ∀ effect, manager.receive flags message = .ok effect → Consistent (effect.sent.map (·.primitive)) := by
  have fits := reachable.fits
  refine ⟨fun id object found => ⟨fits id object found, (fits id object found).consistent⟩, ?_⟩
  intro flags message
  refine ⟨fun otherwise => (receive_watched otherwise fits flags message).1, fun effect received => ?_⟩
  exact ((receive_watched Management.dispatch fits flags message).2 effect received).2

theorem published_matches_phase_nested :
    Reachable (ofConfig (.ofHosts ["bsc"]) (.fresh 1)) ∧
      ∃ effect, (ofConfig (.ofHosts ["bsc"]) (.fresh 1)).receiveWith
          (watched fun id _ _ => .error (.unknownObject id)) .initial
          (.ofPrimitive ⟨0⟩ (.link (.phyLinkUp 0))) = .ok effect ∧
        .report (.stateChanged (.channel 0 0 3) ⟨.disabled, .dependency, .locked⟩) ∈
          effect.sent.map (·.primitive) := by
  have reachable : Reachable (ofConfig (.ofHosts ["bsc"]) (.fresh 1)) :=
    ⟨_, [], ⟨_, _, false, rfl⟩, .start⟩
  have matched := ((published_matches_phase reachable).2 .initial
    (.ofPrimitive ⟨0⟩ (.link (.phyLinkUp 0)))).1 fun id _ _ => .error (.unknownObject id)
  refine ⟨reachable, _, matched.trans rfl, ?_⟩
  decide

end Manager

end BaseStation
