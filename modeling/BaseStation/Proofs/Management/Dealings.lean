import BaseStation.Proofs.Management.Deeds

namespace BaseStation

open Management

def Primitive.addressees : Primitive → List ObjectId
  | .request asked => [asked.id]
  | .link (.phyLinkUp trx) | .link (.phyLinkDown trx) | .link (.rslLinkUp trx) =>
    [.radioCarrier 0 trx, .basebandTransceiver 0 trx]
  | .link .omlLinkUp | .link .abisLinkFailed => [.siteManager]
  | _ => []

def Tree.relinked (tree : Tree) : Primitive → Tree
  | .link (.phyLinkUp trx) => tree.setPhy 0 trx true
  | .link (.phyLinkDown trx) => tree.setPhy 0 trx false
  | .link (.rslLinkUp trx) => tree.setRsl 0 trx true
  | .link .abisLinkFailed => tree.dropRsl
  | _ => tree

theorem Tree.get?_relinked (tree : Tree) (primitive : Primitive) (id : ObjectId) :
    (tree.relinked primitive).get? id = tree.get? id := by
  have links {trx : Nat} {f : Transceiver → Transceiver} (keep : ∀ t, (f t).carrier = t.carrier ∧
      (f t).baseband = t.baseband ∧ (f t).channels = t.channels) :
      (tree.modifyTransceiver 0 trx f).get? id = tree.get? id := get?_modifyTransceiver_links keep id
  unfold Tree.relinked
  split
  · exact links fun _ => ⟨rfl, rfl, rfl⟩
  · exact links fun _ => ⟨rfl, rfl, rfl⟩
  · exact links fun _ => ⟨rfl, rfl, rfl⟩
  · exact get?_dropRsl tree id
  · rfl

namespace Management

/-- The object has the attributes that its class needs to be started. -/
def Configured (id : ObjectId) (object : ManagedObject) : Prop :=
  id.objectClass.needsAttributes = true → object.attributesSet = true

section site

variable {about : ObjectId → Prop} {may : ObjectId → ManagedObject → Prop} {id : ObjectId}
  {site site' : Site} {object object' : ManagedObject} {log : List Entry} {raised : List PendingEvent}

theorem Deed.informs (deed : Deed may id object object' log raised) :
    ∀ waiting ∈ raised, waiting.id = id ∨ Informs id waiting.id := by
  intro waiting mem
  cases deed with
  | takes attributes raised accepted informs => exact .inr (informs waiting mem)
  | asks waiting own accepted =>
    rw [List.mem_singleton.mp mem]
    exact .inl own
  | _ => exact absurd mem List.not_mem_nil

theorem Deeds.waits (closed : Closed about) (deeds : Deeds about may site site')
    (waits : ∀ waiting ∈ site.pending, about waiting.id) : ∀ waiting ∈ site'.pending, about waiting.id := by
  induction deeds with
  | refl => exact waits
  | tail _ act ih =>
    intro waiting mem
    cases act with
    | beside _ _ _ pending => exact ih waiting (pending waiting mem)
    | deed concerned _ deed _ _ _ pending =>
      rw [pending, List.mem_append] at mem
      rcases mem with old | new
      · exact ih waiting old
      · rcases deed.informs waiting new with own | informs
        · rw [own]
          exact concerned
        · exact closed _ _ concerned informs

theorem Deeds.take {rest : List PendingEvent} (fewer : ∀ waiting ∈ rest, waiting ∈ site.pending) :
    Deeds about may site { site with pending := rest } :=
  .single (.beside rfl rfl rfl fewer)

theorem runAtMost_deeds (closed : Closed about) {count : Nat} (idle : site.Idle)
    (waits : ∀ waiting ∈ site.pending, about waiting.id) (h : runAtMost count site = .ok site') :
    Deeds about may site site' := by
  induction count generalizing site with
  | zero =>
    cases h
    exact .refl
  | succ count ih =>
    rw [runAtMost_succ] at h
    split at h
    · cases h
      exact .refl
    · rename_i waiting rest queue
      obtain ⟨middle, first, last⟩ := bind_eq_ok h
      have own : waiting ∈ site.pending := by simp [queue]
      have others : ∀ other ∈ rest, other ∈ site.pending := fun other mem => by simp [queue, mem]
      have plain := idle waiting own
      have told : Deeds about may { site with pending := rest } middle := by
        refine (deeds_chains about may).runNext (fun middle => ?_) first
        refine dispatch_does closed _ _ _ middle (waits waiting own) fun acked => ?_
        rw [acked] at plain
        cases plain
      have same : middle.pending = rest :=
        (unanswered_chains.runNext (fun _ => dispatch_unanswering _ _ _ _ plain) first).pending
      have later := ih (fun other mem => idle other (others other (same ▸ mem)))
        (fun other mem => waits other (others other (same ▸ mem))) last
      exact (Deeds.take others).trans (told.trans later)

/-- What a request leaves to be done comes to deeds, if the equipment starts an object only as it may. -/
theorem Due.deeds {request : Request} {refusal : Option NackCause} (due : Due request refusal site)
    (closed : Closed about) (waits : ∀ waiting ∈ site.pending, about waiting.id)
    (startable : ∀ id, request = .start id → refusal = none →
      ∀ object, site.tree.get? id = some object → may id object)
    (h : runPending site = .ok site') : Deeds about may site site' := by
  cases due with
  | given answers idle => exact runAtMost_deeds closed idle waits h
  | raised id start silent present pending =>
    have own : about id := waits _ (by rw [pending]; exact List.mem_singleton_self _)
    rw [runPending_eq_runAtMost] at h
    generalize site.pending.foldl _ 0 = count at h
    cases count with
    | zero =>
      cases h
      exact .refl
    | succ count =>
      simp only [runAtMost_succ, pending] at h
      obtain ⟨middle, ran, last⟩ := bind_eq_ok h
      have told : Management.dispatch id (startOutcome refusal) { site with pending := [] } = .ok middle := by
        simpa [runNext_eq, present] using ran
      have done : Deeds about may { site with pending := [] } middle := by
        refine dispatch_does closed id _ _ middle own (fun acked => ?_) told
        cases refusal with
        | none => exact startable id start rfl
        | some cause => cases acked
      have idle : middle.pending = [] := (dispatch_answered told).pending
      have later : Deeds about may middle site' := by
        refine runAtMost_deeds closed ?_ ?_ last <;>
          exact fun other mem => absurd (idle ▸ mem) List.not_mem_nil
      exact (Deeds.take fun _ mem => absurd mem List.not_mem_nil).trans (done.trans later)

theorem tree_of_rxOpstart (h : Management.dispatch id .rxOpstart site = .ok site') : site'.tree = site.tree := by
  obtain ⟨object, _, _, h⟩ := performed_of_dispatchWithin h
  simp only [reactionIn, reaction, perform_single] at h
  split at h
  · cases h
    rfl
  · obtain ⟨_, _, h⟩ := Site.bind_object h
    split at h <;> cases h <;> rfl

theorem changeAdmin_deeds (closed : Closed about) (concerned : about id) {admin : AdminState}
    (found : site.tree.get? id = some object) (h : Manager.changeAdmin id admin site = .ok site') :
    Deeds about may site site' := by
  have said {site site' : Site} {object : ManagedObject} {answer : Report}
      (found : site.tree.get? id = some object) (deed : Deed may id object object [.said (.report answer)] [])
      (same : site' = site.report answer) : Act about may site site' := by
    subst same
    exact .deed concerned found deed (Tree.put_self found).symm rfl (List.append_nil _).symm
      (List.append_nil _).symm
  refine (deeds_chains about may).changeAdmin ?_ ?_ ?_ h
  · intro cause
    exact .single (said found (.denies cause) rfl)
  · intro _ _ middle
    exact dispatch_does closed id .disable site middle concerned (by rintro ⟨⟩)
  · intro site site' published
    obtain ⟨object, found, _⟩ := Site.bind_object published
    rw [publish_of_found found] at published
    cases published
    have tells : Act about may site
        (site.inform id object (updated object.published none none (some admin))) :=
      .deed concerned found (.administers admin) rfl (by simp [Site.inform]) (by simp [Site.inform])
        (List.append_nil _).symm
    exact .head tells (.single (said (Tree.get?_put_self _ found) .grants rfl))

theorem stepOfRequest_deeds (closed : Closed about) {request : Request} (concerned : about request.id)
    (found : site.tree.get? request.id = some object) (h : Manager.stepOfRequest request site = .ok site') :
    Deeds about may site site' := by
  cases request with
  | setAttributes id attributes => exact dispatch_does closed _ _ site site' concerned (by rintro ⟨⟩) h
  | start id => exact dispatch_does closed _ _ site site' concerned (by rintro ⟨⟩) h
  | changeAdmin id admin => exact changeAdmin_deeds closed concerned found h

theorem offerAll_deeds (closed : Closed about) (concerned : about id) {events : List Event}
    (plain : ∀ event ∈ events, event.leadsToAnswer = false)
    (h : events.foldlM (fun site event => dispatchIfAccepted Management.dispatch id event site) site = .ok site') :
    Deeds about may site site' := by
  refine (deeds_chains about may).offerAll (fun event mem site site' => ?_) h
  refine dispatch_does closed id event site site' concerned fun acked => ?_
  have plain := plain event mem
  rw [acked] at plain
  cases plain

theorem tellTransceiver_deeds (closed : Closed about) {trx : Nat} (carrier : about (.radioCarrier 0 trx))
    (baseband : about (.basebandTransceiver 0 trx)) {events : List Event}
    (plain : ∀ event ∈ events, event.leadsToAnswer = false)
    (h : Manager.tellTransceiver trx events site = .ok site') : Deeds about may site site' := by
  obtain ⟨middle, first, last⟩ := bind_eq_ok h
  have told : Deeds about may site middle := offerAll_deeds closed carrier plain first
  exact told.trans (offerAll_deeds closed baseband plain last)

theorem tearDown_deeds (closed : Closed about) (root : about .siteManager)
    (h : Manager.tearDown site = .ok site') : Deeds about may site site' := by
  obtain ⟨middle, first, h⟩ := bind_eq_ok h
  obtain ⟨middle', second, last⟩ := bind_eq_ok h
  cases last
  have shuts : Deeds about may site middle := dispatch_does closed _ _ _ middle root (by rintro ⟨⟩) first
  have finishes : Deeds about may middle middle' :=
    dispatch_does closed _ _ _ middle' root (by rintro ⟨⟩) second
  exact (shuts.trans finishes).tail (.beside rfl rfl rfl fun _ mem => mem)

theorem Unanswered.settled {tree : Tree} {hardware : Hardware} (unanswered : Unanswered (.quiet tree hardware) site)
    (h : runPending site = .ok site') : site' = site := by
  cases (runPending_idle unanswered.pending).symm.trans h
  rfl

end site

end Management

namespace Manager

variable {about : ObjectId → Prop} {manager : Manager} {flags : LinkFlags} {effect : Effect Manager}

structure Leaves (manager : Manager) (site : Site) (effect : Effect Manager) : Prop where
  tree : effect.state.tree = site.tree
  sent : effect.sent.map (·.primitive) = site.outputs
  tracing : effect.state.tracing = manager.tracing
  trace : effect.state.trace = if manager.tracing then manager.trace ++ site.trace else manager.trace

inductive Deals (about : ObjectId → Prop) (manager : Manager) (primitive : Primitive)
    (effect : Effect Manager) : Prop
  | ignores (same : effect.state = manager) (silent : effect.sent = [])
  | refuses {id : ObjectId} {procedure : Procedure} (concerned : about id)
      (absent : manager.tree.get? id = none) (same : effect.state = manager)
      (sent : effect.sent.map (·.primitive) = [.report (.nack id procedure .objInstanceUnknown)])
  | acts {site : Site}
      (deeds : Deeds about Configured (.quiet (manager.tree.relinked primitive) manager.hardware) site)
      (leaves : manager.Leaves site effect)

theorem run_leaves {time : FrameTime} {tree : Tree} {step : Step}
    (ran : { manager with tree := tree }.run flags time step = .ok effect) :
    ∃ site site', step (.quiet tree manager.hardware) = .ok site ∧ runPending site = .ok site' ∧
      manager.Leaves site' effect := by
  obtain ⟨site, stepped, ran⟩ := bind_eq_ok ran
  obtain ⟨site', settled, last⟩ := bind_eq_ok ran
  cases last
  exact ⟨site, site', stepped, settled, rfl, ofPrimitive_primitive time _, rfl, rfl⟩

theorem run_deals {primitive : Primitive} {time : FrameTime} {tree : Tree} {step : Step}
    (same : tree = manager.tree.relinked primitive)
    (deeds : ∀ site site', step site = .ok site' → Deeds about Configured site site')
    (unanswered : ∀ site site', step site = .ok site' → Unanswered site site')
    (ran : { manager with tree := tree }.run flags time step = .ok effect) :
    manager.Deals about primitive effect := by
  subst same
  obtain ⟨site, site', stepped, settled, leaves⟩ := run_leaves ran
  cases (unanswered _ _ stepped).settled settled
  exact .acts (deeds _ _ stepped) leaves

theorem receiveRequest_deals {time : FrameTime} {request : Request} (closed : Closed about)
    (concerned : about request.id) (received : manager.receiveRequest flags time request = .ok effect) :
    manager.Deals about (.request request) effect := by
  rw [receiveRequest_eq] at received
  cases found : manager.tree.get? request.id with
  | none =>
    rw [if_neg (by simp [Tree.contains, found])] at received
    cases received
    exact .refuses concerned found rfl rfl
  | some object =>
    rw [if_pos (by simp [Tree.contains, found])] at received
    have ran : { manager with tree := manager.tree }.run flags time (stepOfRequest request) = .ok effect :=
      received
    obtain ⟨site, site', stepped, settled, leaves⟩ := run_leaves ran
    have deeds : Deeds about Configured (.quiet manager.tree manager.hardware) site :=
      stepOfRequest_deeds closed concerned found stepped
    have due := stepOfRequest_due (quiet_silent ..) found stepped
    refine .acts (deeds.trans (due.deeds closed ?_ ?_ settled)) leaves
    · exact deeds.waits closed fun _ mem => absurd mem List.not_mem_nil
    · rintro id rfl mayStart object' place needs
      have same : site.tree.get? id = some object := by
        rw [tree_of_rxOpstart stepped]
        exact found
      cases same.symm.trans place
      unfold Site.refusal? at mayStart
      split at mayStart
      · cases mayStart
      · rename_i mature
        rw [← Bool.not_eq_false]
        exact fun unset => mature ⟨rfl, needs, unset⟩

theorem receiveLink_deals {time : FrameTime} {control : LinkControl} (closed : Closed about)
    (concerned : ∀ id ∈ (Primitive.link control).addressees, about id)
    (received : manager.receiveLink flags time control = .ok effect) :
    manager.Deals about (.link control) effect := by
  rw [receiveLink_eq] at received
  cases control with
  | phyLinkUp trx | phyLinkDown trx | rslLinkUp trx =>
    obtain ⟨carrier, concerned⟩ := List.forall_mem_cons.mp concerned
    have baseband := concerned _ (List.mem_singleton_self _)
    dsimp only at received
    split at received
    · exact run_deals rfl (fun _ _ => tellTransceiver_deeds closed carrier baseband (by decide))
        (fun _ _ => tellTransceiver_unanswered (by decide)) received
    · cases received
      exact .ignores rfl rfl
  | omlLinkUp =>
    have root := concerned _ (List.mem_singleton_self _)
    exact run_deals rfl (fun site site' => (dispatch_does closed).offer _ _ site site' root (by rintro ⟨⟩))
      (fun site site' => dispatch_unanswering.offer _ _ site site' rfl) received
  | abisLinkFailed =>
    have root := concerned _ (List.mem_singleton_self _)
    obtain ⟨effect', ran, last⟩ := bind_eq_ok received
    cases last
    obtain ⟨site, site', torn, settled, leaves⟩ := run_leaves ran
    cases (tearDown_unanswered torn).settled settled
    exact .acts (tearDown_deeds closed root torn) { leaves with }

theorem receive_deals {message : Message} (closed : Closed about)
    (concerned : ∀ id ∈ message.primitive.addressees, about id)
    (received : manager.receive flags message = .ok effect) :
    manager.Deals about message.primitive effect := by
  rw [receive_eq] at received
  split at received
  · rename_i request asked
    rw [asked] at concerned ⊢
    exact receiveRequest_deals closed (concerned _ (List.mem_singleton_self _)) received
  · rename_i control told
    rw [told] at concerned ⊢
    exact receiveLink_deals closed concerned received
  · cases received
    exact .ignores rfl rfl

end Manager

end BaseStation
