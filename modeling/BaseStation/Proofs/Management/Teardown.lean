import BaseStation.Proofs.Management.Shape

namespace BaseStation

open Management

def childIds (numTrx : Nat) : ObjectId → List ObjectId
  | .siteManager => [.gprsNse, .bts 0]
  | .bts bts =>
    if bts = 0 then (List.range numTrx).flatMap fun trx =>
      [.radioCarrier 0 trx, .basebandTransceiver 0 trx] else []
  | .basebandTransceiver bts trx =>
    if bts = 0 ∧ trx < numTrx then (List.range ObjectId.slots).map (.channel 0 trx) else []
  | .gprsNse | .radioCarrier _ _ | .channel _ _ _ => []

theorem childIds_baseband {numTrx trx : Nat} (place : trx ∈ List.range numTrx) :
    childIds numTrx (.basebandTransceiver 0 trx) = (List.range ObjectId.slots).map (.channel 0 trx) :=
  if_pos ⟨rfl, List.mem_range.mp place⟩

theorem Tree.Shaped.children {numTrx : Nat} {tree : Tree} (shaped : tree.Shaped numTrx)
    (id : ObjectId) : children tree id = childIds numTrx id := by
  cases id with
  | siteManager | gprsNse | radioCarrier _ _ | channel _ _ _ => rfl
  | bts bts =>
    by_cases first : bts = 0
    · subst first
      exact shaped.transceiverIds
    · simp [Management.children, childIds, Tree.transceiverIds, Tree.numTrx, first]
  | basebandTransceiver bts trx =>
    by_cases known : bts = 0 ∧ trx < numTrx
    · obtain ⟨rfl, place⟩ := known
      simp only [Management.children, childIds, place, and_self, if_true]
      exact shaped.channelIds place
    · have absent : tree.transceiver? bts trx = none := by
        rw [← shaped.length_transceivers] at known
        by_cases first : bts = 0 <;> simp_all [Tree.transceiver?]
      simp [Management.children, childIds, known, Tree.channelIds, absent]

def downward (numTrx : Nat) : Nat → ObjectId → List ObjectId
  | 0, _ => []
  | depth + 1, id => id :: (childIds numTrx id).flatMap (downward numTrx depth)

def upward (numTrx : Nat) : Nat → ObjectId → List ObjectId
  | 0, _ => []
  | depth + 1, id => (childIds numTrx id).flatMap (upward numTrx depth) ++ [id]

theorem upward_perm (numTrx depth : Nat) (id : ObjectId) :
    (upward numTrx depth id).Perm (downward numTrx depth id) := by
  induction depth generalizing id with
  | zero => exact .refl _
  | succ depth ih =>
    have below := List.Perm.flatMap_left (childIds numTrx id) fun child _ => ih child
    exact (List.perm_append_singleton id _).trans (below.cons id)

theorem downward_siteManager (numTrx : Nat) : downward numTrx nesting .siteManager = siteIds numTrx := by
  have transceiver (trx : Nat) (place : trx ∈ List.range numTrx) :
      [ObjectId.radioCarrier 0 trx, .basebandTransceiver 0 trx].flatMap (downward numTrx 2) =
        [.radioCarrier 0 trx, .basebandTransceiver 0 trx] ++
          (List.range ObjectId.slots).map (.channel 0 trx) := by
    simp only [List.flatMap_cons, List.flatMap_nil, List.append_nil, downward, childIds_baseband place]
    rfl
  have below : ((List.range numTrx).flatMap fun trx =>
      [ObjectId.radioCarrier 0 trx, .basebandTransceiver 0 trx]).flatMap (downward numTrx 2) =
        (List.range numTrx).flatMap fun trx => [.radioCarrier 0 trx, .basebandTransceiver 0 trx] ++
          (List.range ObjectId.slots).map (.channel 0 trx) := by
    rw [List.flatMap_assoc]
    exact List.flatMap_congr transceiver
  show ObjectId.siteManager :: ([ObjectId.gprsNse] ++ ((ObjectId.bts 0 :: _) ++ [])) = _
  rw [List.append_nil, siteIds, ← below]
  rfl

theorem upward_siteManager (numTrx : Nat) : upward numTrx nesting .siteManager =
    [.gprsNse] ++ ((List.range numTrx).flatMap fun trx => [.radioCarrier 0 trx] ++
      (List.range ObjectId.slots).map (.channel 0 trx) ++ [.basebandTransceiver 0 trx]) ++
      [.bts 0, .siteManager] := by
  have transceiver (trx : Nat) (place : trx ∈ List.range numTrx) :
      [ObjectId.radioCarrier 0 trx, .basebandTransceiver 0 trx].flatMap (upward numTrx 2) =
        [.radioCarrier 0 trx] ++ (List.range ObjectId.slots).map (.channel 0 trx) ++
          [.basebandTransceiver 0 trx] := by
    simp only [List.flatMap_cons, List.flatMap_nil, List.append_nil, upward, childIds_baseband place]
    rfl
  have below : ((List.range numTrx).flatMap fun trx =>
      [ObjectId.radioCarrier 0 trx, .basebandTransceiver 0 trx]).flatMap (upward numTrx 2) =
        (List.range numTrx).flatMap fun trx => [.radioCarrier 0 trx] ++
          (List.range ObjectId.slots).map (.channel 0 trx) ++ [.basebandTransceiver 0 trx] := by
    rw [List.flatMap_assoc]
    exact List.flatMap_congr transceiver
  rw [← below]
  show ([ObjectId.gprsNse] ++ ((_ ++ [ObjectId.bts 0]) ++ [])) ++ [ObjectId.siteManager] = _
  rw [List.append_nil, ← List.append_assoc, List.append_assoc]
  rfl

section upward

variable {numTrx depth : Nat} {id child : ObjectId}

theorem upward_sublist (isChild : child ∈ childIds numTrx id) :
    (upward numTrx depth child).Sublist (upward numTrx (depth + 1) id) := by
  have part : (upward numTrx depth child).Sublist
      ((childIds numTrx id).flatMap (upward numTrx depth)) := by
    rw [List.flatMap_def]
    exact List.sublist_flatten_of_mem (List.mem_map_of_mem isChild)
  exact part.trans (List.sublist_append_left ..)

theorem child_sublist_upward (isChild : child ∈ childIds numTrx id) :
    [child, id].Sublist (upward numTrx (depth + 2) id) := by
  have own : child ∈ upward numTrx (depth + 1) child := by simp [upward]
  have below : [child].Sublist ((childIds numTrx id).flatMap (upward numTrx (depth + 1))) :=
    List.singleton_sublist.mpr (List.mem_flatMap.mpr ⟨child, isChild, own⟩)
  exact below.append (.refl [id])

theorem child_sublist_siteManager (isChild : child ∈ childIds numTrx id) :
    [child, id].Sublist (upward numTrx nesting .siteManager) := by
  have bts : (upward numTrx 3 (.bts 0)).Sublist (upward numTrx nesting .siteManager) :=
    upward_sublist (by simp [childIds])
  cases id with
  | siteManager => exact child_sublist_upward isChild
  | bts b =>
    by_cases first : b = 0
    · subst first
      exact (child_sublist_upward isChild).trans bts
    · simp [childIds, first] at isChild
  | basebandTransceiver b trx =>
    by_cases known : b = 0 ∧ trx < numTrx
    · obtain ⟨rfl, place⟩ := known
      have transceiver : (upward numTrx 2 (.basebandTransceiver 0 trx)).Sublist
          (upward numTrx 3 (.bts 0)) := upward_sublist (by simp [childIds, place])
      exact ((child_sublist_upward isChild).trans transceiver).trans bts
    · simp [childIds, known] at isChild
  | gprsNse | radioCarrier _ _ | channel _ _ _ => cases isChild

end upward

namespace Management

def shutdowns (trace : List Trace) : List Trace :=
  trace.filter fun
    | .dispatched _ kind => Machine.always.contains kind
    | .moved _ _ _ => false

def uninstalled (trace : List Trace) : List ObjectId :=
  trace.filterMap fun
    | .moved id _ .notInstalled => some id
    | _ => none

def releases (sent : List Primitive) : List (Nat × Nat) :=
  sent.filterMap fun
    | .releaseTimeslot trx ts => some (trx, ts)
    | _ => none

def timeslots (ids : List ObjectId) : List (Nat × Nat) :=
  ids.filterMap fun
    | .channel _ trx ts => some (trx, ts)
    | _ => none

section append

@[simp] theorem shutdowns_append (first second : List Trace) :
    shutdowns (first ++ second) = shutdowns first ++ shutdowns second := List.filter_append ..

@[simp] theorem uninstalled_append (first second : List Trace) :
    uninstalled (first ++ second) = uninstalled first ++ uninstalled second := List.filterMap_append

@[simp] theorem releases_append (first second : List Primitive) :
    releases (first ++ second) = releases first ++ releases second := List.filterMap_append

@[simp] theorem timeslots_append (first second : List ObjectId) :
    timeslots (first ++ second) = timeslots first ++ timeslots second := List.filterMap_append

theorem releases_news (id : ObjectId) (before after : ObjectState) :
    releases (news id before after) = [] := by
  unfold news
  split <;> rfl

theorem releases_released (id : ObjectId) : releases (released id .notInstalled) = timeslots [id] := by
  cases id <;> rfl

end append

def IsDown (tree : Tree) (id : ObjectId) : Prop :=
  ∃ object, tree.get? id = some object ∧ object.phase = .notInstalled ∧ object.published = .initial

/-- What a walk of shutdown events does: which events are told, and which objects are uninstalled. -/
structure Shuts (told : List Trace) (down : List ObjectId) (site site' : Site) : Prop where
  shutdowns : shutdowns site'.trace = shutdowns site.trace ++ told
  uninstalled : uninstalled site'.trace = uninstalled site.trace ++ down
  releases : releases site'.outputs = releases site.outputs ++ timeslots down
  contains : ∀ id, site'.tree.contains id = site.tree.contains id

structure Uninstalls (told : List Trace) (down : List ObjectId) (site site' : Site) : Prop
    extends Shuts told down site site' where
  down : ∀ id ∈ down, IsDown site'.tree id
  kept : ∀ id, IsDown site.tree id → IsDown site'.tree id

section walks

variable {site site' site'' : Site} {told told' : List Trace} {down down' : List ObjectId}
  {id : ObjectId} {object : ManagedObject} {dispatch : Dispatcher} {event : Event} {numTrx : Nat}

theorem Shuts.refl (site : Site) : Shuts [] [] site site :=
  ⟨(List.append_nil _).symm, (List.append_nil _).symm, (List.append_nil _).symm, fun _ => rfl⟩

theorem Shuts.trans (first : Shuts told down site site') (last : Shuts told' down' site' site'') :
    Shuts (told ++ told') (down ++ down') site site'' where
  shutdowns := by rw [last.shutdowns, first.shutdowns, List.append_assoc]
  uninstalled := by rw [last.uninstalled, first.uninstalled, List.append_assoc]
  releases := by rw [last.releases, first.releases, timeslots_append, List.append_assoc]
  contains := fun id => (last.contains id).trans (first.contains id)

theorem Uninstalls.refl (site : Site) : Uninstalls [] [] site site :=
  ⟨.refl site, fun _ mem => absurd mem List.not_mem_nil, fun _ down => down⟩

theorem Uninstalls.trans (first : Uninstalls told down site site')
    (last : Uninstalls told' down' site' site'') :
    Uninstalls (told ++ told') (down ++ down') site site'' := by
  refine ⟨first.toShuts.trans last.toShuts, fun id mem => ?_, fun id was => last.kept id (first.kept id was)⟩
  rcases List.mem_append.mp mem with earlier | later
  · exact last.kept id (first.down id earlier)
  · exact last.down id later

theorem shuts_record (site : Site) (id : ObjectId) (kind : EventKind) :
    Shuts (shutdowns [.dispatched id kind]) [] site (site.record (.dispatched id kind)) where
  shutdowns := shutdowns_append ..
  uninstalled := uninstalled_append ..
  releases := (List.append_nil _).symm
  contains := fun _ => rfl

theorem uninstalls_record (site : Site) (id : ObjectId) (kind : EventKind) :
    Uninstalls (shutdowns [.dispatched id kind]) [] site (site.record (.dispatched id kind)) :=
  ⟨shuts_record site id kind, fun _ mem => absurd mem List.not_mem_nil, fun _ was => was⟩

theorem shuts_inform (site : Site) (id : ObjectId) (object : ManagedObject) (state : ObjectState) :
    Shuts [] [] site (site.inform id object state) where
  shutdowns := (List.append_nil _).symm
  uninstalled := (List.append_nil _).symm
  releases := by
    rw [Site.inform, releases_append, releases_news]
    rfl
  contains := fun _ => Tree.contains_modify ..

theorem uninstalls_settle (site : Site) (found : site.tree.get? id = some object) :
    Uninstalls [] [id] site (site.settle id object .notInstalled) where
  shutdowns := shutdowns_append ..
  uninstalled := uninstalled_append ..
  releases := by
    simp only [Site.settle, releases_append, releases_news, releases_released, List.append_nil]
  contains := fun _ => Tree.contains_modify ..
  down := by
    intro other mem
    cases List.mem_singleton.mp mem
    exact ⟨_, Tree.get?_put_self _ found, rfl, rfl⟩
  kept := by
    intro other was
    by_cases same : id = other
    · subst same
      exact ⟨_, Tree.get?_put_self _ found, rfl, rfl⟩
    · obtain ⟨object', place, isDown⟩ := was
      exact ⟨object', (Tree.get?_put_of_ne _ _ same).trans place, isDown⟩

structure IsWalk (R : List Trace → List ObjectId → Site → Site → Prop) : Prop where
  refl : ∀ site, R [] [] site site
  trans : ∀ {told told' down down' site site' site''}, R told down site site' →
    R told' down' site' site'' → R (told ++ told') (down ++ down') site site''
  contains : ∀ {told down site site'}, R told down site site' →
    ∀ id, site'.tree.contains id = site.tree.contains id

theorem isWalk_shuts : IsWalk Shuts := ⟨.refl, .trans, Shuts.contains⟩

theorem isWalk_uninstalls : IsWalk Uninstalls := ⟨.refl, .trans, fun walk => walk.contains⟩

theorem IsWalk.each {R : List Trace → List ObjectId → Site → Site → Prop} (walk : IsWalk R)
    {toldOf : ObjectId → List Trace} {downOf : ObjectId → List ObjectId} (ids : List ObjectId)
    (one : ∀ id site site', site.tree.Shaped numTrx → dispatch id event site = .ok site' →
      R (toldOf id) (downOf id) site site')
    (shaped : site.tree.Shaped numTrx) (h : dispatchEach dispatch ids event site = .ok site') :
    R (ids.flatMap toldOf) (ids.flatMap downOf) site site' := by
  induction ids generalizing site with
  | nil =>
    cases h
    exact walk.refl _
  | cons id rest ih =>
    rw [dispatchEach, List.foldlM_cons] at h
    obtain ⟨middle, first, last⟩ := bind_eq_ok h
    have begins := one id site middle shaped first
    exact walk.trans begins (ih (shaped.congr (walk.contains begins)) last)

theorem shutdownStart_shuts {depth : Nat} (shaped : site.tree.Shaped numTrx)
    (h : dispatchWithin depth id .shutdownStart site = .ok site') :
    Shuts ((downward numTrx depth id).map (.dispatched · .shutdownStart)) [] site site' := by
  induction depth generalizing id site site' with
  | zero => cases h
  | succ depth ih =>
    obtain ⟨object, found, _, h⟩ := performed_of_dispatchWithin h
    have found : (site.record (.dispatched id .shutdownStart)).tree.get? id = some object := found
    simp only [reactionIn, reaction, perform_cons, Action.run, publish_of_found found, ok_bind,
      perform_tell, Event.kind, shaped.children] at h
    have published := (shuts_record site id .shutdownStart).trans
      (shuts_inform _ id object (updated object.published none none (some .shutdown)))
    have below : Shuts _ ((childIds numTrx id).flatMap fun _ => []) _ site' :=
      isWalk_shuts.each (childIds numTrx id) (fun _ _ _ shaped h => ih shaped h)
        (shaped.congr published.contains) h
    have silent : (childIds numTrx id).flatMap (fun _ => ([] : List ObjectId)) = [] :=
      List.flatMap_eq_nil_iff.mpr fun _ _ => rfl
    have all := published.trans below
    rw [silent] at all
    simpa [downward, List.map_flatMap, Management.shutdowns, Machine.always] using all

theorem uninstalls_settle_dependency (found : site.tree.get? id = some object)
    (up : object.phase ≠ .notInstalled) :
    Uninstalls [] [] site (site.settle id object .dependency) where
  shutdowns := shutdowns_append ..
  uninstalled := uninstalled_append ..
  releases := by
    have nothing : released id .dependency = [] := by cases id <;> rfl
    simp only [Site.settle, nothing, releases_append, releases_news, List.append_nil]
    exact (List.append_nil _).symm
  contains := fun _ => Tree.contains_modify ..
  down := fun _ mem => absurd mem List.not_mem_nil
  kept := by
    rintro other ⟨object', place, isDown, published⟩
    have ne : id ≠ other := by
      rintro rfl
      cases found.symm.trans place
      exact up isDown
    exact ⟨object', (Tree.get?_put_of_ne _ _ ne).trans place, isDown, published⟩

theorem btsDisabled_uninstalls {depth : Nat}
    (h : dispatchWithin depth .gprsNse .btsDisabled site = .ok site') : Uninstalls [] [] site site' := by
  cases depth with
  | zero => cases h
  | succ depth =>
    obtain ⟨object, found, _, h⟩ := performed_of_dispatchWithin h
    have told := uninstalls_record site .gprsNse .btsDisabled
    have found : (site.record (.dispatched .gprsNse Event.btsDisabled.kind)).tree.get? .gprsNse =
      some object := found
    simp only [reactionIn, reaction] at h
    split at h
    · rename_i up
      rw [perform_single, Action.run] at h
      obtain ⟨_, place, mayMove⟩ := found_of_changePhaseWith h
      cases found.symm.trans place
      rw [changePhaseWith_of_found _ found mayMove] at h
      have quiet : giveNotice (dispatchWithin depth) .gprsNse object.phase .dependency = Except.ok := by
        cases object.phase <;> rfl
      rw [quiet] at h
      cases h
      have installed : object.phase ≠ .notInstalled := by
        rcases up with phase | phase <;> rw [phase] <;> decide
      exact told.trans (uninstalls_settle_dependency found installed)
    · cases h
      exact told

theorem notice_uninstalls {depth : Nat} {previous : Phase}
    (h : giveNotice (dispatchWithin depth) id previous .notInstalled site = .ok site') :
    Uninstalls [] [] site site' := by
  unfold giveNotice at h
  split at h
  · rename_i notice
    cases previous <;> cases notice
    exact btsDisabled_uninstalls h
  · rename_i notice
    cases previous <;> cases notice
  · rename_i notice
    cases previous <;> cases notice
  · cases h
    exact .refl _

theorem shutdownFinish_uninstalls {depth : Nat} (shaped : site.tree.Shaped numTrx)
    (h : dispatchWithin depth id .shutdownFinish site = .ok site') :
    Uninstalls ((downward numTrx depth id).map (.dispatched · .shutdownFinish))
      (upward numTrx depth id) site site' := by
  induction depth generalizing id site site' with
  | zero => cases h
  | succ depth ih =>
    obtain ⟨_, _, _, h⟩ := performed_of_dispatchWithin h
    rw [reactionIn, reaction, perform_append, perform_tell, shaped.children] at h
    obtain ⟨middle, first, last⟩ := bind_eq_ok h
    have told := uninstalls_record site id .shutdownFinish
    have below := isWalk_uninstalls.each (childIds numTrx id) (fun _ _ _ shaped h => ih shaped h)
      (shaped.congr told.contains) first
    -- the object may have heard of others meanwhile, so that only its move is looked at
    rw [perform_single] at last
    obtain ⟨object, found, mayMove⟩ := found_of_changePhaseWith last
    rw [Action.run, changePhaseWith_of_found _ found mayMove] at last
    have itself := (uninstalls_settle middle found).trans (notice_uninstalls last)
    have all := told.trans (below.trans itself)
    simpa [downward, upward, List.map_flatMap, Management.shutdowns, Machine.always] using all

end walks

theorem timeslots_upward (numTrx : Nat) : timeslots (upward numTrx nesting .siteManager) =
    (List.range numTrx).flatMap fun trx => (List.range ObjectId.slots).map (trx, ·) := by
  have one (trx : Nat) : timeslots ([.radioCarrier 0 trx] ++
      (List.range ObjectId.slots).map (.channel 0 trx) ++ [.basebandTransceiver 0 trx]) =
        (List.range ObjectId.slots).map (trx, ·) := rfl
  have all : timeslots ((List.range numTrx).flatMap fun trx => [.radioCarrier 0 trx] ++
      (List.range ObjectId.slots).map (.channel 0 trx) ++ [.basebandTransceiver 0 trx]) =
        (List.range numTrx).flatMap fun trx => (List.range ObjectId.slots).map (trx, ·) := by
    rw [timeslots, List.filterMap_flatMap]
    exact List.flatMap_congr fun trx _ => one trx
  rw [upward_siteManager, timeslots_append, timeslots_append, all]
  exact List.append_nil _

/-- What takes a site out of service: every object is told of the shutdown, then every object is told that
it is over, and each is uninstalled once, after the objects below it. -/
structure TakesDown (numTrx : Nat) (tree : Tree) (site : Site) : Prop where
  told : shutdowns site.trace = (siteIds numTrx).map (.dispatched · .shutdownStart) ++
    (siteIds numTrx).map (.dispatched · .shutdownFinish)
  once : (uninstalled site.trace).Perm (siteIds numTrx)
  childFirst : ∀ id, ∀ child ∈ children tree id, [child, id].Sublist (uninstalled site.trace)
  rootLast : (uninstalled site.trace).getLast? = some .siteManager
  released : releases site.outputs =
    (List.range numTrx).flatMap fun trx => (List.range ObjectId.slots).map (trx, ·)
  down : ∀ id object, site.tree.get? id = some object →
    object.phase = .notInstalled ∧ object.published = .initial
  closed : site.hardware.closed = true

theorem tearDown_takesDown {numTrx : Nat} {tree : Tree} {hardware : Hardware} {site : Site}
    (shaped : tree.Shaped numTrx) (h : Manager.tearDown (.quiet tree hardware) = .ok site) :
    TakesDown numTrx tree site := by
  obtain ⟨middle, started, h⟩ := bind_eq_ok h
  obtain ⟨last, finished, h⟩ := bind_eq_ok h
  cases h
  have starts := shutdownStart_shuts shaped started
  have finishes := shutdownFinish_uninstalls (shaped.congr starts.contains) finished
  have all := starts.trans finishes.toShuts
  rw [downward_siteManager, List.nil_append] at all
  have order : uninstalled last.trace = upward numTrx nesting .siteManager := all.uninstalled
  have perm : (upward numTrx nesting .siteManager).Perm (siteIds numTrx) := by
    rw [← downward_siteManager]
    exact upward_perm ..
  refine ⟨all.shutdowns, ?_, ?_, ?_, ?_, ?_, rfl⟩
  · rw [order]
    exact perm
  · intro id child isChild
    rw [shaped.children] at isChild
    rw [order]
    exact child_sublist_siteManager isChild
  · rw [order, upward_siteManager]
    exact List.getLast?_append_of_ne_nil _ (by simp)
  · rw [← timeslots_upward]
    exact all.releases
  · intro id object found
    have present : last.tree.contains id = true := Option.isSome_iff_exists.mpr ⟨object, found⟩
    rw [all.contains] at present
    have visited : id ∈ upward numTrx nesting .siteManager := perm.mem_iff.mpr ((shaped id).mp present)
    obtain ⟨object', place, isDown, published⟩ := finishes.down id visited
    cases found.symm.trans place
    exact ⟨isDown, published⟩

end Management

namespace Manager

theorem tearDown_settles {tree : Tree} (sound : tree.Sound) (hardware : Hardware) :
    ∃ site, tearDown (.quiet tree hardware) = .ok site ∧ runPending site = .ok site := by
  obtain ⟨_, ⟨site, torn, _, idle⟩, _, _⟩ := tearDown_sound (.quiet tree hardware) sound
  exact ⟨site, torn, runPending_idle idle⟩

/-- When the link to the BSC fails, the whole site is taken out of service, whatever state it is in, and
the stack is to stop. -/
theorem receive_abisLinkFailed {manager : Manager} (reachable : Reachable manager) (flags : LinkFlags)
    {message : Message} (failed : message.primitive = .link .abisLinkFailed) :
    let numTrx := manager.tree.transceivers.length
    (siteIds numTrx).Nodup ∧ (∀ id, manager.tree.contains id = true ↔ id ∈ siteIds numTrx) ∧
    ∃ site, TakesDown numTrx manager.tree site ∧
      manager.receive flags message = .ok ⟨{ manager.after site with stopping := true },
        { flags with omlLinkUp := false }, site.outputs.map (.ofPrimitive message.created)⟩ := by
  intro numTrx
  have shaped : manager.tree.Shaped numTrx := reachable.shaped
  refine ⟨nodup_siteIds numTrx, shaped, ?_⟩
  have shaped' : manager.tree.dropRsl.Shaped numTrx :=
    shaped.congr fun id => congrArg Option.isSome (Tree.get?_dropRsl manager.tree id)
  obtain ⟨site, torn, settled⟩ := tearDown_settles reachable.sound.dropRsl manager.hardware
  have takes := tearDown_takesDown shaped' torn
  refine ⟨site, { takes with childFirst := ?_ }, ?_⟩
  · intro id child isChild
    rw [shaped.children, ← shaped'.children] at isChild
    exact takes.childFirst id child isChild
  · have ran : { manager with tree := manager.tree.dropRsl }.run { flags with omlLinkUp := false }
        message.created tearDown = _ := run_of_ok _ _ torn settled
    simp only [receive_eq, failed, receiveLink_eq, ran]
    rfl

theorem receive_abisLinkFailed_up :
    ∃ manager site, Reachable manager ∧
      (∃ carrier channel, manager.tree.get? (.radioCarrier 0 0) = some carrier ∧
        manager.tree.get? (.channel 0 0 7) = some channel ∧
        carrier.phase = .offline ∧ channel.phase = .dependency) ∧
      TakesDown 1 manager.tree site ∧
      manager.receive .initial (.ofPrimitive ⟨0⟩ (.link .abisLinkFailed)) =
        .ok ⟨{ manager.after site with stopping := true }, { LinkFlags.initial with omlLinkUp := false },
          site.outputs.map (.ofPrimitive ⟨0⟩)⟩ := by
  have received : ∃ effect, (ofConfig (.ofHosts ["bsc"]) (.fresh 1)).receive .initial
      (.ofPrimitive ⟨0⟩ (.link (.phyLinkUp 0))) = .ok effect ∧
      effect.state.tree.transceivers.length = 1 ∧
      ∃ carrier channel, effect.state.tree.get? (.radioCarrier 0 0) = some carrier ∧
        effect.state.tree.get? (.channel 0 0 7) = some channel ∧
        carrier.phase = .offline ∧ channel.phase = .dependency :=
    ⟨_, rfl, rfl, _, _, rfl, rfl, rfl, rfl⟩
  obtain ⟨effect, received, one, mixed⟩ := received
  have reachable : Reachable effect.state :=
    ⟨_, _, ⟨_, _, false, rfl⟩, .receive _ _ .start received⟩
  obtain ⟨_, _, site, takes, fails⟩ :=
    receive_abisLinkFailed reachable .initial
      (show (Message.ofPrimitive ⟨0⟩ (.link .abisLinkFailed)).primitive = _ from rfl)
  rw [one] at takes
  exact ⟨effect.state, site, reachable, mixed, takes, fails⟩

end Manager

end BaseStation
