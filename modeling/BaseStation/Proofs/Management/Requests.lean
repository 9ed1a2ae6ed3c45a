import BaseStation.Proofs.Management.TreeEvents

namespace BaseStation

open Management

namespace Management

theorem dispatch_follows : Follows dispatch (Tree.hear? nesting) := dispatchWithin_follows nesting

theorem dispatch_eq : dispatch = dispatchWithin (3 + 1) := rfl

section outside

variable {id : ObjectId} {event : Event}

theorem dispatch_external {object : ManagedObject} (site : Site) (sound : site.tree.Sound)
    (found : site.tree.get? id = some object)
    (accepted : Machine.accepts id.objectClass object.phase event.kind = true)
    (external : Tree.External id event) :
    ∃ tree, Ends (dispatch id event site) tree site.pending ∧ tree.Sound ∧
      ∀ other, tree.contains other = site.tree.contains other := by
  obtain ⟨tree, heard, sound'⟩ := Tree.hear?_sound sound found accepted external
  exact ⟨tree, dispatch_follows id event site tree heard, sound',
    Tree.hear?_keepsObjects nesting id event site.tree tree heard⟩

theorem dispatchIfAccepted_external (site : Site) (sound : site.tree.Sound)
    (present : site.tree.contains id = true) (external : Tree.External id event) :
    ∃ tree, Ends (dispatchIfAccepted dispatch id event site) tree site.pending ∧ tree.Sound ∧
      ∀ other, tree.contains other = site.tree.contains other := by
  obtain ⟨object, found⟩ := Option.isSome_iff_exists.mp present
  cases accepted : Machine.accepts id.objectClass object.phase event.kind with
  | true =>
    rw [dispatchIfAccepted_of_accepted dispatch found accepted]
    exact dispatch_external site sound found accepted external
  | false =>
    rw [dispatchIfAccepted_of_refused dispatch found accepted]
    exact ⟨site.tree, ⟨site, rfl, rfl, rfl⟩, sound, fun _ => rfl⟩

end outside

structure Ready (tree : Tree) (pending : List PendingEvent) : Prop where
  external : ∀ waiting ∈ pending, Tree.External waiting.id waiting.event
  accepted : (∀ waiting ∈ pending, waiting.ifAccepted = true) ∨
    ∃ waiting object, pending = [waiting] ∧ tree.get? waiting.id = some object ∧
      Machine.accepts waiting.id.objectClass object.phase waiting.event.kind = true

theorem Ready.none (tree : Tree) : Ready tree [] :=
  ⟨fun _ mem => absurd mem List.not_mem_nil, .inl fun _ mem => absurd mem List.not_mem_nil⟩

theorem runNext_offered {waiting : PendingEvent} (site : Site) (sound : site.tree.Sound)
    (external : Tree.External waiting.id waiting.event) (polite : waiting.ifAccepted = true) :
    ∃ tree, Ends (runNext waiting site) tree site.pending ∧ tree.Sound := by
  rw [runNext_eq]
  cases present : site.tree.contains waiting.id with
  | false => exact ⟨site.tree, ⟨site, rfl, rfl, rfl⟩, sound⟩
  | true =>
    obtain ⟨tree, ends, sound', _⟩ := dispatchIfAccepted_external site sound present external
    refine ⟨tree, ?_, sound'⟩
    simp only [polite, Bool.not_true]
    exact ends

theorem runAtMost_offered {count : Nat} {site : Site} (sound : site.tree.Sound)
    (external : ∀ waiting ∈ site.pending, Tree.External waiting.id waiting.event)
    (polite : ∀ waiting ∈ site.pending, waiting.ifAccepted = true)
    (enough : site.pending.length ≤ count) :
    ∃ site', runAtMost count site = .ok site' ∧ site'.tree.Sound ∧ site'.pending = [] := by
  induction count generalizing site with
  | zero => exact ⟨site, rfl, sound, List.length_eq_zero_iff.mp (Nat.le_zero.mp enough)⟩
  | succ count ih =>
    rw [runAtMost_succ]
    cases queue : site.pending with
    | nil => exact ⟨site, rfl, sound, queue⟩
    | cons waiting rest =>
      rw [queue] at external polite enough
      obtain ⟨tree, ⟨site', ran, rfl, kept⟩, sound'⟩ :=
        runNext_offered { site with pending := rest } sound
          (external waiting List.mem_cons_self) (polite waiting List.mem_cons_self)
      have kept : site'.pending = rest := kept
      simp only [ran, ok_bind]
      rw [List.length_cons] at enough
      apply ih sound' <;> rw [kept]
      · exact fun other mem => external other (List.mem_cons_of_mem _ mem)
      · exact fun other mem => polite other (List.mem_cons_of_mem _ mem)
      · omega

theorem pendingCost_pos (numTrx : Nat) (event : Event) : 0 < pendingCost numTrx event := by
  unfold pendingCost
  split <;> omega

def waitingCost (numTrx : Nat) (pending : List PendingEvent) : Nat :=
  pending.foldl (fun count waiting => count + pendingCost numTrx waiting.event) 0

theorem runPending_eq (site : Site) :
    runPending site = runAtMost (waitingCost site.hardware.numTrx site.pending) site := rfl

theorem foldl_cost (numTrx : Nat) (pending : List PendingEvent) (count : Nat) :
    pending.foldl (fun count waiting => count + pendingCost numTrx waiting.event) count =
      count + waitingCost numTrx pending := by
  induction pending generalizing count with
  | nil => rfl
  | cons waiting rest ih =>
    rw [waitingCost, List.foldl_cons, List.foldl_cons, ih, ih]
    omega

theorem waitingCost_cons (numTrx : Nat) (waiting : PendingEvent) (rest : List PendingEvent) :
    waitingCost numTrx (waiting :: rest) = pendingCost numTrx waiting.event + waitingCost numTrx rest := by
  rw [waitingCost, List.foldl_cons, foldl_cost, Nat.zero_add]

theorem waitingCost_append (numTrx : Nat) (pending raised : List PendingEvent) :
    waitingCost numTrx (pending ++ raised) = waitingCost numTrx pending + waitingCost numTrx raised := by
  rw [waitingCost, List.foldl_append, foldl_cost]
  rfl

theorem length_le_waitingCost (numTrx : Nat) (pending : List PendingEvent) :
    pending.length ≤ waitingCost numTrx pending := by
  induction pending with
  | nil => exact Nat.zero_le _
  | cons waiting rest ih =>
    have paid := pendingCost_pos numTrx waiting.event
    rw [List.length_cons, waitingCost_cons]
    omega

/-- The events that wait are all dispatched. -/
theorem runPending_sound {site : Site} (sound : site.tree.Sound) (ready : Ready site.tree site.pending) :
    ∃ site', runPending site = .ok site' ∧ site'.tree.Sound ∧ site'.pending = [] := by
  have enough := length_le_waitingCost site.hardware.numTrx site.pending
  rw [runPending_eq]
  generalize waitingCost site.hardware.numTrx site.pending = count at enough ⊢
  rcases ready.accepted with polite | ⟨waiting, object, queue, found, accepted⟩
  · exact runAtMost_offered sound ready.external polite enough
  -- the answer to a start is all that waits, and raises nothing more
  · cases count with
    | zero =>
      rw [queue] at enough
      cases enough
    | succ count =>
      have external := ready.external waiting (by simp [queue])
      obtain ⟨tree, ⟨site', ran, rfl, kept⟩, sound', _⟩ :=
        dispatch_external { site with pending := [] } sound found accepted external
      have next : runNext waiting { site with pending := [] } = .ok site' := by
        have present : site.tree.contains waiting.id = true := by simp [Tree.contains, found]
        rw [runNext_eq]
        simp only [present, Bool.not_true]
        cases polite : waiting.ifAccepted with
        | false => exact ran
        | true =>
          rw [← ran]
          exact dispatchIfAccepted_of_accepted dispatch found accepted
      refine ⟨site', ?_, sound', kept⟩
      simp only [runAtMost_succ, queue, next, ok_bind]
      cases count with
      | zero => rfl
      | succ count => simp only [runAtMost_succ, kept]

section request

variable {site : Site} {id : ObjectId} {object : ManagedObject}

theorem applyAttributes_cases {hardware hardware' : Hardware} {attributes : Attributes}
    {events : List PendingEvent}
    (h : hardware.applyAttributes id attributes = .ok (hardware', events)) :
    (hardware' = hardware ∧ ∃ bts, id = .bts bts ∧ events = hardware.activations bts) ∨
      events = [] ∧ (hardware' = hardware ∧ (id.objectClass = .channel → attributes.pchan = none) ∨
        ∃ pchan, attributes.pchan = some pchan ∧ hardware' = hardware.setPchan id pchan) := by
  unfold Hardware.applyAttributes at h
  split at h
  · cases h
  cases id with
  | bts bts =>
    cases h
    exact .inl ⟨rfl, bts, rfl, rfl⟩
  | channel _ _ _ =>
    dsimp only at h
    split at h
    · cases h
    · split at h
      · rename_i absent
        cases h
        exact .inr ⟨rfl, .inl ⟨rfl, fun _ => absent⟩⟩
      · cases h
      · rename_i pchan _ given
        cases h
        exact .inr ⟨rfl, .inr ⟨pchan, given, rfl⟩⟩
  | radioCarrier _ _ =>
    dsimp only at h
    split at h <;> cases h
    exact .inr ⟨rfl, .inl ⟨rfl, by rintro ⟨⟩⟩⟩
  | siteManager | gprsNse | basebandTransceiver _ _ =>
    cases h
    exact .inr ⟨rfl, .inl ⟨rfl, by rintro ⟨⟩⟩⟩

theorem applyAttributes_activates {hardware hardware' : Hardware} {attributes : Attributes}
    {events : List PendingEvent}
    (h : hardware.applyAttributes id attributes = .ok (hardware', events)) :
    events = [] ∨ ∃ bts, id = .bts bts ∧ events = hardware.activations bts := by
  rcases applyAttributes_cases h with ⟨_, activates⟩ | ⟨idle, _⟩
  · exact .inr activates
  · exact .inl idle

theorem applyAttributes_raises {hardware hardware' : Hardware} {attributes : Attributes}
    {events : List PendingEvent}
    (h : hardware.applyAttributes id attributes = .ok (hardware', events)) :
    ∀ waiting ∈ events, ∃ p : Half, ∃ bts trx, waiting = ⟨p.id bts trx, .swAct, true⟩ := by
  intro waiting mem
  rcases applyAttributes_activates h with rfl | ⟨bts, _, rfl⟩
  · exact absurd mem List.not_mem_nil
  · simp only [Hardware.activations, List.mem_flatMap, List.mem_range, List.mem_cons,
      List.not_mem_nil, or_false] at mem
    obtain ⟨trx, _, rfl | rfl⟩ := mem
    · exact ⟨.carrier, bts, trx, rfl⟩
    · exact ⟨.baseband, bts, trx, rfl⟩

def Requested (site : Site) (id : ObjectId) (object : ManagedObject) (outcome : Except Fault Site) :
    Prop :=
  ∃ site' object', outcome = .ok site' ∧ site'.tree = site.tree.put id object' ∧
    object.Alike object' ∧ (site.pending = [] → Ready site'.tree site'.pending)

theorem Requested.unchanged (found : site.tree.get? id = some object) (site' : Site)
    (tree : site'.tree = site.tree)
    (ready : site.pending = [] → Ready site.tree site'.pending) :
    Requested site id object (.ok site') := by
  refine ⟨site', object, rfl, ?_, ⟨rfl, rfl⟩, ?_⟩
  · rw [tree, Tree.put_self found]
  · rw [tree]
    exact ready

theorem setAttributes_requested (attributes : Attributes) (found : site.tree.get? id = some object) :
    Requested site id object (setAttributes id attributes site) := by
  simp only [setAttributes, Site.object_of_found found, ok_bind]
  cases applied : site.hardware.applyAttributes id attributes with
  | error cause =>
    refine ⟨_, { object with attributesSet := false }, rfl, ?_, ⟨rfl, rfl⟩, ?_⟩
    · exact congrArg Site.tree
        (Site.modify_of_found site (fun object => { object with attributesSet := false }) found)
    · intro idle
      show Ready _ site.pending
      rw [idle]
      exact Ready.none _
  | ok result =>
    obtain ⟨hardware, events⟩ := result
    have raises := applyAttributes_raises applied
    refine ⟨_, { object.withAttributes attributes with attributesSet := true }, rfl, ?_, ⟨rfl, rfl⟩, ?_⟩
    · exact congrArg Site.tree
        (Site.modify_of_found (Site.raise { site with hardware := hardware } events)
          (fun object => { object.withAttributes attributes with attributesSet := true }) found)
    · intro idle
      show Ready _ (site.pending ++ events)
      rw [idle, List.nil_append]
      refine ⟨?_, .inl ?_⟩ <;> intro waiting mem <;>
        obtain ⟨p, bts, trx, rfl⟩ := raises waiting mem
      · exact Tree.external_of_linkNews List.mem_cons_self bts trx p
      · rfl

theorem keepAttributes_requested (attributes : Attributes) (found : site.tree.get? id = some object) :
    Requested site id object (keepAttributes id attributes site) := by
  simp only [keepAttributes, Site.object_of_found found, ok_bind]
  refine ⟨_, { object.withAttributes attributes with attributesSet := true }, rfl, ?_, ⟨rfl, rfl⟩, ?_⟩
  · exact congrArg Site.tree (Site.modify_of_found site
      (fun object => { object.withAttributes attributes with attributesSet := true }) found)
  · intro idle
    show Ready _ site.pending
    rw [idle]
    exact Ready.none _

theorem start_requested (found : site.tree.get? id = some object)
    (accepted : Machine.accepts id.objectClass object.phase .rxOpstart = true) :
    Requested site id object (.ok (Management.start id site)) := by
  obtain ⟨acked, nacked⟩ := Machine.accepts_answer accepted
  refine Requested.unchanged found _ rfl ?_
  intro idle
  show Ready _ (site.pending ++ [site.hardware.start id])
  rw [idle, List.nil_append]
  unfold Hardware.start
  split
  · refine ⟨?_, .inr ⟨_, object, rfl, found, nacked⟩⟩
    intro waiting mem
    rw [List.mem_singleton.mp mem]
    trivial
  · refine ⟨?_, .inr ⟨_, object, rfl, found, acked⟩⟩
    intro waiting mem
    rw [List.mem_singleton.mp mem]
    trivial

theorem startConfigured_requested (found : site.tree.get? id = some object)
    (accepted : Machine.accepts id.objectClass object.phase .rxOpstart = true) :
    Requested site id object (startConfigured id site) := by
  simp only [startConfigured, Site.object_of_found found, ok_bind]
  split
  · exact start_requested found accepted
  · refine Requested.unchanged found _ rfl ?_
    intro idle
    show Ready _ site.pending
    rw [idle]
    exact Ready.none _

theorem dispatch_request {event : Event} (site : Site) (request : event.isRequest = true)
    (found : site.tree.get? id = some object)
    (accepted : Machine.accepts id.objectClass object.phase event.kind = true) :
    Requested site id object (dispatch id event site) := by
  let told := site.record (.dispatched id event.kind)
  have ran : dispatch id event site =
      perform (dispatchWithin 3) id (reactionIn site.tree id object event) told := by
    rw [dispatch_eq, dispatchWithin_succ 3 found accepted]
  have found : told.tree.get? id = some object := found
  show Requested told id object _
  rw [ran]
  cases event with
  | rxSetAttr attributes =>
    simp only [reactionIn, reaction, perform_single]
    split
    · exact keepAttributes_requested attributes found
    · exact setAttributes_requested attributes found
  | rxOpstart =>
    simp only [reactionIn, reaction, perform_single]
    split
    · exact start_requested found accepted
    · exact startConfigured_requested found accepted
  | _ => cases request

end request

end Management

end BaseStation
