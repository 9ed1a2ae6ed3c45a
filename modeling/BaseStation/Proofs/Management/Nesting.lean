import BaseStation.Proofs.Management.Deeds

namespace BaseStation

/-- One side of a protocol did what the state of the other does not allow. -/
def Fault.IsViolation : Fault → Prop
  | .eventRefused .. | .moveRefused .. => True
  | _ => False

/-- The levels of objects that may hear of an event through the object. -/
def ObjectId.rank : ObjectId → Nat
  | .gprsNse | .channel _ _ _ => 0
  | .radioCarrier _ _ | .basebandTransceiver _ _ => 1
  | .bts _ => 2
  | .siteManager => 3

theorem ObjectId.rank_lt (id : ObjectId) : id.rank < Management.nesting := by
  cases id <;> simp [rank, Management.nesting]

namespace Management

variable {site middle : Site} {dispatch : Dispatcher} {id other : ObjectId} {object : ManagedObject} {event : Event}
  {rank : Nat}

theorem Informs.rank_lt (informs : Informs id other) : other.rank < id.rank := by
  cases informs <;> simp [ObjectId.rank]

def Site.Has (site : Site) (id : ObjectId) : Prop := site.tree.contains id = true

def Site.Alike (site site' : Site) : Prop := ∀ id, site'.tree.contains id = site.tree.contains id

theorem Site.Alike.has (alike : site.Alike middle) (has : site.Has id) : middle.Has id :=
  (alike id).trans has

theorem Site.Has.found (has : site.Has id) : ∃ object, site.tree.get? id = some object :=
  Option.isSome_iff_exists.mp has

theorem Site.alike_put (site : Site) (id : ObjectId) (object : ManagedObject) : site.Alike (site.put id object) :=
  fun other => site.tree.contains_modify id other fun _ => object

theorem channelIds_has {tree : Tree} {bts trx : Nat} (own : other ∈ tree.channelIds bts trx) :
    tree.contains other = true ∧ other.rank = 0 := by
  unfold Tree.channelIds at own
  split at own
  · exact absurd own List.not_mem_nil
  · rename_i t found
    obtain ⟨ts, place, rfl⟩ := List.mem_map.mp own
    have place : ts < t.channels.length := List.mem_range.mp place
    exact ⟨by simp [Tree.contains, Tree.get?, found, place], rfl⟩

theorem children_has {tree : Tree} {child : ObjectId} (found : tree.contains id = true)
    (own : child ∈ children tree id) : tree.contains child = true := by
  cases id with
  | siteManager =>
    simp only [children, Tree.siteChildren, List.mem_cons, List.not_mem_nil, or_false] at own
    rcases own with rfl | rfl <;> rfl
  | bts bts =>
    obtain ⟨trx, place, own⟩ := List.mem_flatMap.mp own
    simp only [List.mem_cons, List.not_mem_nil, or_false] at own
    have first : bts = 0 := by
      by_cases first : bts = 0
      · exact first
      · simp [Tree.contains, Tree.get?, first] at found
    subst first
    have place : trx < tree.transceivers.length := by simpa [Tree.numTrx] using place
    rcases own with rfl | rfl <;> simp [Tree.contains, Tree.get?, Tree.transceiver?, place]
  | basebandTransceiver bts trx => exact (channelIds_has own).1
  | gprsNse | radioCarrier _ _ | channel _ _ _ => exact absurd own List.not_mem_nil

def Concludes (site : Site) : Except Fault Site → Prop
  | .ok site' => site.Alike site'
  | .error fault => fault.IsViolation

namespace Concludes

theorem after {outcome : Except Fault Site} (alike : site.Alike middle) (ends : Concludes middle outcome) :
    Concludes site outcome := by
  cases outcome with
  | ok site' => exact fun id => (ends id).trans (alike id)
  | error fault => exact ends

theorem bind {outcome : Except Fault Site} {next : Step} (first : Concludes site outcome)
    (rest : ∀ middle, site.Alike middle → Concludes middle (next middle)) : Concludes site (outcome >>= next) := by
  cases outcome with
  | ok middle => exact (rest middle first).after first
  | error fault => exact first

theorem foldlM {α : Type} {step : Site → α → Except Fault Site} (items : List α)
    (one : ∀ a ∈ items, ∀ middle, site.Alike middle → Concludes middle (step middle a)) :
    Concludes site (items.foldlM step site) := by
  induction items generalizing site with
  | nil => exact fun _ => rfl
  | cons a rest ih =>
    rw [List.foldlM_cons]
    refine (one a List.mem_cons_self site fun _ => rfl).bind fun middle alike => ?_
    exact ih fun b mem last alike' => one b (List.mem_cons_of_mem _ mem) last fun id => (alike' id).trans (alike id)

theorem offer (has : site.Has id) (told : Concludes site (dispatch id event site)) :
    Concludes site (dispatchIfAccepted dispatch id event site) := by
  obtain ⟨object, found⟩ := has.found
  cases accepted : Machine.accepts id.objectClass object.phase event.kind with
  | true =>
    rw [dispatchIfAccepted_of_accepted dispatch found accepted]
    exact told
  | false =>
    rw [dispatchIfAccepted_of_refused dispatch found accepted]
    exact fun _ => rfl

end Concludes

/-- Objects that are there and of a lower rank can be told of any event. -/
def Serves (dispatch : Dispatcher) (rank : Nat) : Prop :=
  ∀ id event (site : Site), site.Has id → id.rank < rank → Concludes site (dispatch id event site)

def Action.IsWithin (tree : Tree) (rank : Nat) : Action → Prop
  | .tell other _ | .offer other _ => tree.contains other = true ∧ other.rank < rank
  | _ => True

theorem reactionIn_handsDown (tree : Tree) (id : ObjectId) (object : ManagedObject) (event : Event) :
    ∀ action ∈ reactionIn tree id object event, action.forOthers = true →
      action.HandsDown (children tree id) event := by
  intro action mem others
  by_cases finish : event = .shutdownFinish
  · subst finish
    rcases List.mem_append.mp mem with mem | mem
    · exact handsDown_tell _ _ action mem
    · cases List.mem_singleton.mp mem
      cases others
  · obtain ⟨told, parts, hands, _⟩ := reaction_parts id.objectClass (supported tree id) (linked tree id)
      (children tree id) object finish
    rw [reactionIn, parts] at mem
    rcases List.mem_append.mp mem with mem | mem
    · cases others.symm.trans ((reaction_own _ _ _ _ _).forOthers action mem)
    · exact hands action mem

theorem reactionIn_within {tree : Tree} (found : tree.contains id = true) (object : ManagedObject) (event : Event) :
    ∀ action ∈ reactionIn tree id object event, action.IsWithin tree id.rank := by
  intro action mem
  have hands := reactionIn_handsDown tree id object event action mem
  cases action with
  | tell other told | offer other told =>
    have child : other ∈ children tree id := by cases hands rfl; assumption
    exact ⟨children_has found child, (children_informs child).rank_lt⟩
  | _ => trivial

section step

variable (serves : Serves dispatch rank) (low : id.rank ≤ rank)
include serves low

theorem Serves.notice (previous target : Phase) : Concludes site (giveNotice dispatch id previous target site) := by
  have slots (bts trx : Nat) (half : id.rank = 1) (event : Event) :
      Concludes site (dispatchEach (dispatchIfAccepted dispatch) (site.tree.channelIds bts trx) event site) := by
    refine .foldlM _ fun other mem middle alike => ?_
    obtain ⟨there, last⟩ := channelIds_has mem
    exact .offer (alike.has there) (serves other event middle (alike.has there) (by omega))
  unfold giveNotice
  split
  · exact serves .gprsNse _ site rfl (Nat.lt_of_lt_of_le (by simp [ObjectId.rank]) low)
  · exact slots _ _ rfl _
  · exact slots _ _ rfl _
  · exact fun _ => rfl

theorem Serves.become (has : site.Has id) (target : Phase) :
    Concludes site (changePhaseWith dispatch id target site) := by
  obtain ⟨object, found⟩ := has.found
  cases mayMove : Machine.mayMove id.objectClass object.phase target with
  | true =>
    rw [changePhaseWith_of_found dispatch found mayMove]
    exact (serves.notice low object.phase target).after (site.alike_put id _)
  | false =>
    obtain ⟨enter, same⟩ := changePhaseWith_eq_move dispatch id target
    rw [same]
    simp only [move, Site.object_of_found found, ok_bind, Machine.requireMove, mayMove]
    trivial

theorem Serves.act (has : site.Has id) {action : Action} (within : action.IsWithin site.tree id.rank) :
    Concludes site (action.run dispatch id site) := by
  obtain ⟨object, found⟩ := has.found
  cases action with
  | announceShutdown =>
    simp only [Action.run, publish_of_found found]
    exact site.alike_put id _
  | repeatState =>
    simp only [Action.run, republish_of_found found]
    exact fun _ => rfl
  | reportSoftware | start => exact fun _ => rfl
  | become target => exact serves.become low has target
  | apply attributes =>
    simp only [Action.run, setAttributes, Site.object_of_found found, ok_bind]
    split <;> exact fun other => site.tree.contains_modify id other _
  | keep attributes =>
    simp only [Action.run, keepAttributes, Site.object_of_found found, ok_bind]
    exact fun other => site.tree.contains_modify id other _
  | startConfigured =>
    simp only [Action.run, Management.startConfigured, Site.object_of_found found, ok_bind]
    split <;> exact fun _ => rfl
  | acknowledge =>
    simp only [Action.run, acknowledgeStart_of_found found]
    exact site.alike_put id _
  | refuse cause =>
    simp only [Action.run, refuseStart_of_found cause found]
    exact site.alike_put id _
  | tell other event => exact serves other event site within.1 (Nat.lt_of_lt_of_le within.2 low)
  | offer other event => exact .offer within.1 (serves other event site within.1 (Nat.lt_of_lt_of_le within.2 low))

end step

/-- So many events under way at a time suffice for an object that is of a lower rank than that. -/
theorem dispatchWithin_serves (depth : Nat) : Serves (dispatchWithin depth) depth := by
  induction depth with
  | zero => exact fun id _ _ _ low => absurd low (Nat.not_lt_zero _)
  | succ depth ih =>
    intro id event site has low
    obtain ⟨object, found⟩ := has.found
    cases accepted : Machine.accepts id.objectClass object.phase event.kind with
    | false =>
      rw [dispatchWithin_refused depth found accepted]
      trivial
    | true =>
      rw [dispatchWithin_succ depth found accepted]
      refine .foldlM _ fun action mem middle alike => ?_
      have has' : middle.Has id := alike.has has
      refine ih.act (Nat.le_of_lt_succ low) has' ?_
      have within := reactionIn_within has object event action mem
      cases action with
      | tell other _ | offer other _ => exact ⟨(alike other).trans within.1, within.2⟩
      | _ => trivial

theorem dispatch_concludes (event : Event) (has : site.Has id) :
    Concludes site (Management.dispatch id event site) :=
  dispatchWithin_serves nesting id event site has id.rank_lt

theorem offer_concludes (event : Event) (has : site.Has id) :
    Concludes site (dispatchIfAccepted Management.dispatch id event site) :=
  .offer has (dispatch_concludes event has)

theorem runNext_concludes (waiting : PendingEvent) (site : Site) : Concludes site (runNext waiting site) := by
  rw [runNext_eq]
  split
  · exact fun _ => rfl
  · rename_i present
    have has : site.Has waiting.id := by simpa [Site.Has] using present
    split
    · exact offer_concludes waiting.event has
    · exact dispatch_concludes waiting.event has

theorem runAtMost_concludes (count : Nat) (site : Site) : Concludes site (runAtMost count site) := by
  induction count generalizing site with
  | zero => exact fun _ => rfl
  | succ count ih =>
    rw [runAtMost_succ]
    split
    · exact fun _ => rfl
    · rename_i waiting rest _
      have first : Concludes site (runNext waiting { site with pending := rest }) :=
        runNext_concludes waiting { site with pending := rest }
      exact first.bind fun middle _ => ih middle

end Management

namespace Manager

open Management

variable {site : Site} {id : ObjectId}

theorem changeAdmin_concludes (admin : AdminState) (has : site.Has id) :
    Concludes site (changeAdmin id admin site) := by
  have publishes (site : Site) (has : site.Has id) :
      Concludes site (publish id none none (some admin) site >>= fun site => .ok (answerAdmin id (.ok ()) site)) := by
    obtain ⟨object, found⟩ := has.found
    rw [publish_of_found found]
    exact site.alike_put id _
  rw [changeAdmin_eq]
  split
  · exact fun _ => rfl
  · by_cases locks : admin = .locked
    · simp only [if_pos locks]
      exact (offer_concludes .disable has).bind fun middle alike => publishes middle (alike.has has)
    · simp only [if_neg locks]
      exact publishes site has

theorem stepOfRequest_concludes (request : Request) (has : site.Has request.id) :
    Concludes site (stepOfRequest request site) := by
  cases request with
  | setAttributes id attributes => exact dispatch_concludes _ has
  | start id => exact dispatch_concludes _ has
  | changeAdmin id admin => exact changeAdmin_concludes admin has

theorem tellTransceiver_concludes {trx : Nat} (events : List Event)
    (known : (site.tree.transceiver? 0 trx).isSome = true) : Concludes site (tellTransceiver trx events site) := by
  have tells (id : ObjectId) (site : Site) (has : site.Has id) :
      Concludes site (events.foldlM (fun site event => dispatchIfAccepted dispatch id event site) site) :=
    .foldlM events fun event _ middle alike => offer_concludes event (alike.has has)
  have half (id : ObjectId) (own : id = .radioCarrier 0 trx ∨ id = .basebandTransceiver 0 trx) : site.Has id := by
    rcases own with rfl | rfl <;> simpa [Site.Has, Tree.contains, Tree.get?] using known
  refine .bind (tells _ site (half _ (.inl rfl))) fun middle alike => ?_
  exact tells _ middle (alike.has (half _ (.inr rfl)))

theorem tearDown_concludes (site : Site) : Concludes site (tearDown site) := by
  refine .bind (dispatch_concludes .shutdownStart rfl) fun middle _ => ?_
  refine .bind (dispatch_concludes .shutdownFinish rfl) fun last _ => ?_
  exact fun _ => rfl

variable {manager : Manager} {flags : LinkFlags} {time : FrameTime} {fault : Fault}

theorem run_violates {step : Step}
    (concludes : Concludes (.quiet manager.tree manager.hardware) (step (.quiet manager.tree manager.hardware)))
    (failed : manager.run flags time step = .error fault) : fault.IsViolation := by
  rw [run_eq] at failed
  rcases bind_eq_error failed with early | ⟨middle, _, failed⟩
  · rw [early] at concludes
    exact concludes
  · rcases bind_eq_error failed with late | ⟨site, _, done⟩
    · have last : Concludes middle (runPending middle) := runAtMost_concludes _ middle
      rw [late] at last
      exact last
    · cases done

theorem run_tellTransceiver_violates {trx : Nat} {relink : Transceiver → Transceiver} {events : List Event}
    (known : (manager.tree.transceiver? 0 trx).isSome = true)
    (failed : run { manager with tree := manager.tree.modifyTransceiver 0 trx relink } flags time
      (tellTransceiver trx events) = .error fault) : fault.IsViolation := by
  refine run_violates (tellTransceiver_concludes events ?_) failed
  show ((manager.tree.modifyTransceiver 0 trx relink).transceiver? 0 trx).isSome = true
  rw [Tree.transceiver?_modifyTransceiver_self, Option.isSome_map]
  exact known

/-- Whatever the state of its objects, a manager deals with a message to the end, or the message has an object
asked for what its phase does not allow. -/
theorem receive_violates {message : Message} (failed : manager.receive flags message = .error fault) :
    fault.IsViolation := by
  rw [receive_eq] at failed
  split at failed
  · rename_i request _
    rw [receiveRequest_eq] at failed
    split at failed
    · rename_i has
      exact run_violates (stepOfRequest_concludes request has) failed
    · cases failed
  · rename_i control _
    cases control with
    | phyLinkUp trx | phyLinkDown trx | rslLinkUp trx =>
      simp only [receiveLink_eq] at failed
      split at failed
      · rename_i known
        exact run_tellTransceiver_violates known failed
      · cases failed
    | omlLinkUp =>
      have root : (Site.quiet manager.tree manager.hardware).Has .siteManager := rfl
      exact run_violates (offer_concludes .omlUp root) failed
    | abisLinkFailed =>
      rcases bind_eq_error failed with torn | ⟨effect, _, done⟩
      · exact run_violates (tearDown_concludes _) torn
      · cases done
  · cases failed

end Manager

end BaseStation
