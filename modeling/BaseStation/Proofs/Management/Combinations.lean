import BaseStation.Proofs.Management.Answers
import BaseStation.Proofs.Management.Uninstalled

namespace BaseStation

open Management

def ManagedObject.pchan? (object : ManagedObject) : Option Pchan := object.attributes.bind (·.pchan)

def Tree.pchan? (tree : Tree) (id : ObjectId) : Option Pchan := (tree.get? id).bind (·.pchan?)

/-- The equipment has the channel combinations that the channels of the tree have. A channel that has one said
that it took attributes. -/
def Hardware.Mirrors (hardware : Hardware) (tree : Tree) (said : List Primitive) : Prop :=
  ∀ bts trx ts, hardware.pchan? (.channel bts trx ts) = tree.pchan? (.channel bts trx ts) ∧
    (tree.pchan? (.channel bts trx ts) ≠ none → .report (.ack (.channel bts trx ts) .setAttr) ∈ said)

theorem ManagedObject.pchan?_withAttributes (object : ManagedObject) (attributes : Attributes) :
    (object.withAttributes attributes).pchan? = (attributes.pchan <|> object.pchan?) := by
  unfold withAttributes pchan?
  cases object.attributes with
  | none => rfl
  | some old => rfl

def ManagedObject.unset (object : ManagedObject) : ManagedObject := { object with attributesSet := false }

theorem Tree.pchan?_of_found {tree : Tree} {id : ObjectId} {object : ManagedObject}
    (found : tree.get? id = some object) : tree.pchan? id = object.pchan? := by
  rw [pchan?, found]
  rfl

namespace Hardware

variable {hardware hardware' : Hardware} {tree tree' : Tree} {id other : ObjectId}
  {object object' : ManagedObject} {attributes : Attributes} {events : List PendingEvent}
  {said said' : List Primitive}

theorem pchan?_releaseTimeslot (hardware : Hardware) (id other : ObjectId) :
    (hardware.releaseTimeslot id).pchan? other = if id = other then none else hardware.pchan? other := by
  by_cases own : id = other
  · subst own
    rw [if_pos rfl]
    exact hardware.pchan?_erasePchan_self id
  · rw [if_neg own]
    exact hardware.pchan?_erasePchan_of_ne own

theorem pchan?_setPchan (hardware : Hardware) (id other : ObjectId) (pchan : Pchan) :
    (hardware.setPchan id pchan).pchan? other = if id = other then some pchan else hardware.pchan? other := by
  by_cases own : id = other
  · subst own
    rw [if_pos rfl, pchan?_setPchan_self]
  · rw [if_neg own, pchan?_setPchan_of_ne _ pchan own]

theorem pchan?_applyAttributes (applied : hardware.applyAttributes id attributes = .ok (hardware', events))
    (bts trx ts : Nat) :
    hardware'.pchan? (.channel bts trx ts) =
      if id = .channel bts trx ts then (attributes.pchan <|> hardware.pchan? id)
      else hardware.pchan? (.channel bts trx ts) := by
  rcases applyAttributes_cases applied with ⟨rfl, _, rfl, _⟩ | ⟨_, ⟨rfl, keeps⟩ | ⟨pchan, given, rfl⟩⟩
  · rw [if_neg (by rintro ⟨⟩)]
  · by_cases own : id = .channel bts trx ts
    · subst own
      rw [if_pos rfl, keeps rfl]
      rfl
    · rw [if_neg own]
  · rw [pchan?_setPchan, given]
    rfl

theorem Mirrors.congr (mirrors : hardware.Mirrors tree said) (same : ∀ id, tree'.get? id = tree.get? id) :
    hardware.Mirrors tree' said := by
  intro bts trx ts
  rw [Tree.pchan?, same]
  exact mirrors bts trx ts

theorem Mirrors.more (mirrors : hardware.Mirrors tree said) (more : said ⊆ said') :
    hardware.Mirrors tree said' :=
  fun bts trx ts => ⟨(mirrors bts trx ts).1, fun has => more ((mirrors bts trx ts).2 has)⟩

theorem Mirrors.of_found (mirrors : hardware.Mirrors tree said) (found : tree.get? id = some object)
    (channel : id.objectClass = .channel) :
    hardware.pchan? id = object.pchan? ∧ (object.pchan? ≠ none → .report (.ack id .setAttr) ∈ said) := by
  rw [← Tree.pchan?_of_found found]
  cases id with
  | channel bts trx ts => exact mirrors bts trx ts
  | siteManager | gprsNse | bts _ | radioCarrier _ _ | basebandTransceiver _ _ => cases channel

theorem Mirrors.put (mirrors : hardware.Mirrors tree said) (found : tree.get? id = some object)
    (stores : ∀ bts trx ts, hardware'.pchan? (.channel bts trx ts) =
      if id = .channel bts trx ts then object'.pchan? else hardware.pchan? (.channel bts trx ts))
    (told : id.objectClass = .channel → object'.pchan? ≠ none → .report (.ack id .setAttr) ∈ said) :
    hardware'.Mirrors (tree.put id object') said := by
  intro bts trx ts
  rw [stores]
  by_cases own : id = .channel bts trx ts
  · subst own
    rw [if_pos rfl, Tree.pchan?_of_found (Tree.get?_put_self object' found)]
    exact ⟨rfl, told rfl⟩
  · rw [if_neg own, Tree.pchan?, Tree.get?_put_of_ne tree object' own]
    exact mirrors bts trx ts

theorem Mirrors.keep (mirrors : hardware.Mirrors tree said) (found : tree.get? id = some object)
    (same : id.objectClass = .channel → object'.pchan? = object.pchan?) :
    hardware.Mirrors (tree.put id object') said := by
  refine mirrors.put found (fun bts trx ts => ?_) fun channel => ?_
  · by_cases own : id = .channel bts trx ts
    · subst own
      rw [if_pos rfl, same rfl, (mirrors.of_found found rfl).1]
    · rw [if_neg own]
  · rw [same channel]
    exact (mirrors.of_found found channel).2

theorem Mirrors.apply (mirrors : hardware.Mirrors tree said) (found : tree.get? id = some object)
    (applied : hardware.applyAttributes id attributes = .ok (hardware', events))
    (told : .report (.ack id .setAttr) ∈ said) :
    hardware'.Mirrors (tree.put id { object.withAttributes attributes with attributesSet := true }) said := by
  refine mirrors.put found (fun bts trx ts => ?_) fun _ _ => told
  rw [pchan?_applyAttributes applied]
  by_cases own : id = .channel bts trx ts
  · subst own
    rw [if_pos rfl, if_pos rfl, (mirrors.of_found found rfl).1]
    exact (object.pchan?_withAttributes attributes).symm
  · rw [if_neg own, if_neg own]

/-- A channel that is uninstalled loses its attributes as its timeslot is released. -/
theorem Mirrors.settle (mirrors : hardware.Mirrors tree said) (found : tree.get? id = some object)
    (target : Phase) :
    (releasedHardware hardware id target).Mirrors (tree.put id (object.entered id.objectClass target)) said := by
  have stays (still : target ≠ .notInstalled) : (object.entered id.objectClass target).pchan? = object.pchan? := by
    rw [ManagedObject.pchan?, ManagedObject.entered, if_neg fun due => still due.1]
    rfl
  cases id with
  | channel b t s =>
    cases target with
    | notInstalled =>
      have forgotten : (object.entered .channel .notInstalled).pchan? = none := rfl
      refine mirrors.put found (fun bts trx ts => ?_) fun _ has => absurd forgotten has
      exact pchan?_releaseTimeslot ..
    | dependency | offline | enabled => exact mirrors.keep found fun _ => stays (by decide)
  | siteManager | gprsNse | bts _ | radioCarrier _ _ | basebandTransceiver _ _ =>
    exact mirrors.keep found (by rintro ⟨⟩)

end Hardware

namespace Management

variable {site site' : Site} {id : ObjectId} {object object' : ManagedObject} {before said : List Primitive}

def Site.Mirrored (before : List Primitive) (site : Site) : Prop :=
  site.hardware.Mirrors site.tree (before ++ site.outputs)

theorem Site.Mirrored.of_said (mirrors : site'.hardware.Mirrors site'.tree (before ++ site.outputs))
    (outputs : site'.outputs = site.outputs ++ said) : site'.Mirrored before := by
  rw [Site.Mirrored, outputs, ← List.append_assoc]
  exact mirrors.more (List.subset_append_left _ _)

theorem Site.Mirrored.keep (mirrored : site.Mirrored before) (found : site.tree.get? id = some object)
    (tree : site'.tree = site.tree.put id object') (hardware : site'.hardware = site.hardware)
    (outputs : site'.outputs = site.outputs ++ said)
    (same : id.objectClass = .channel → object'.pchan? = object.pchan?) : site'.Mirrored before := by
  refine .of_said ?_ outputs
  rw [tree, hardware]
  exact Hardware.Mirrors.keep mirrored found same

theorem Site.Mirrored.take {attributes : Attributes} {events : List PendingEvent}
    (mirrored : site.Mirrored before) (found : site.tree.get? id = some object)
    (applied : site.hardware.applyAttributes id attributes = .ok (site'.hardware, events))
    (tree : site'.tree = site.tree.put id { object.withAttributes attributes with attributesSet := true })
    (outputs : site'.outputs = site.outputs ++ [.report (.ack id .setAttr)]) : site'.Mirrored before := by
  rw [Site.Mirrored, tree, outputs, ← List.append_assoc]
  have more := Hardware.Mirrors.more mirrored (List.subset_append_left _ [.report (.ack id .setAttr)])
  exact more.apply found applied List.mem_concat_self

theorem steady_mirrored (before : List Primitive) :
    Steady fun site site' => site.Mirrored before → site'.Mirrored before where
  refl _ mirrored := mirrored
  trans first last mirrored := last (first mirrored)
  touches touch mirrored := by
    cases touch with
    | reports _ _ closed tree hardware outputs =>
      refine .of_said ?_ outputs
      rw [tree, hardware]
      exact mirrored
    | changes _ _ found tree same hardware outputs =>
      refine mirrored.keep found tree hardware outputs fun _ => ?_
      rw [ManagedObject.pchan?, same]
      rfl
    | takes found equipment tree outputs =>
      obtain ⟨root, hardware⟩ | ⟨events, applied⟩ := equipment
      · exact mirrored.keep found tree hardware outputs fun channel => by cases root.symm.trans channel
      · exact mirrored.take found applied tree outputs
    | settles target found settled =>
      subst settled
      exact .of_said (mirrored.settle found target) (List.append_assoc ..)

end Management

theorem Hardware.refusal?_setAttributes {hardware : Hardware} {id : ObjectId} {attributes : Attributes}
    {cause : NackCause} (refused : hardware.refusal? (.setAttributes id attributes) = some cause) :
    id.objectClass ≠ .siteManager ∧ hardware.applyAttributes id attributes = .error cause := by
  rw [refusal?] at refused
  split at refused
  · cases refused
  · rename_i apart
    refine ⟨?_, ?_⟩
    · cases id <;> first | exact absurd rfl apart | rintro ⟨⟩
    · split at refused <;> cases refused
      assumption

namespace Management

theorem dispatch_refused {tree : Tree} {hardware : Hardware} {id : ObjectId} {attributes : Attributes}
    {cause : NackCause} {site : Site}
    (refused : hardware.refusal? (.setAttributes id attributes) = some cause)
    (h : Management.dispatch id (.rxSetAttr attributes) (.quiet tree hardware) = .ok site) :
    site = ⟨tree.modify id .unset, hardware, [], [.report (.nack id .setAttr cause)],
      [.dispatched id .rxSetAttr]⟩ := by
  obtain ⟨apart, refuses⟩ := Hardware.refusal?_setAttributes refused
  obtain ⟨_, _, _, h⟩ := performed_of_dispatchWithin h
  simp only [reactionIn, reaction, perform_single, if_neg apart] at h
  obtain ⟨_, _, h⟩ := Site.bind_object h
  split at h
  · rename_i applied
    cases refuses.symm.trans applied
  · rename_i applied
    cases refuses.symm.trans applied
    cases h
    rfl

end Management

namespace Manager

variable {manager start : Manager} {flags : LinkFlags} {effect : Effect Manager} {sent : List Primitive}

theorem receive_mirrored {message : Message} (mirrors : manager.hardware.Mirrors manager.tree sent)
    (received : manager.receive flags message = .ok effect) :
    effect.state.hardware.Mirrors effect.state.tree (sent ++ effect.sent.map (·.primitive)) := by
  rcases receive_does (steady_mirrored sent) received with
    ⟨tree, site, same, does, after, equipment, said⟩ | ⟨after, _⟩
  · have quiet : Site.Mirrored sent (.quiet tree manager.hardware) :=
      (mirrors.congr same).more (List.subset_append_left _ _)
    rw [after, equipment, said]
    exact does quiet
  · rw [after]
    exact mirrors.more (List.subset_append_left _ _)

theorem Run.mirrored (run : Run start sent manager) (mirrors : start.hardware.Mirrors start.tree []) :
    manager.hardware.Mirrors manager.tree sent := by
  induction run with
  | start => exact mirrors
  | receive flags message _ received ih => exact receive_mirrored ih received

theorem Fresh.mirrored (fresh : Fresh manager) (unused : manager.hardware.pchans = []) :
    manager.hardware.Mirrors manager.tree [] := by
  intro bts trx ts
  obtain ⟨config, hardware, tracing, rfl⟩ := fresh
  have stored : hardware.pchan? (.channel bts trx ts) = none := by
    rw [Hardware.pchan?, show hardware.pchans = [] from unused]
    rfl
  have absent : (ofConfig config hardware).tree.pchan? (.channel bts trx ts) = none := by
    rw [Tree.pchan?, Option.bind_eq_none_iff]
    intro object found
    cases Tree.get?_fresh found
    rfl
  exact ⟨stored.trans absent.symm, fun has => absurd absent has⟩

/-- What comes of attributes that a manager refuses. -/
structure Declines (manager : Manager) (flags : LinkFlags) (id : ObjectId) (attributes : Attributes)
    (cause : NackCause) (effect : Effect Manager) : Prop where
  state : effect.state =
    { manager with tree := manager.tree.modify id .unset, trace := effect.state.trace }
  trace : effect.state.trace = manager.trace ∨
    effect.state.trace = manager.trace ++ [.dispatched id .rxSetAttr]
  flags : effect.flags = flags
  sent : effect.sent.map (·.primitive) = [.report (.nack id .setAttr cause)]
  idle : manager.tree.contains id = true → ∃ site,
    stepOfRequest (.setAttributes id attributes) (.quiet manager.tree manager.hardware) = .ok site ∧
      site.pending = []

theorem receiveRequest_declines {time : FrameTime} {id : ObjectId} {attributes : Attributes} {cause : NackCause}
    (refused : manager.refusal? (.setAttributes id attributes) = some cause)
    (received : manager.receiveRequest flags time (.setAttributes id attributes) = .ok effect) :
    manager.Declines flags id attributes cause effect := by
  rw [Manager.refusal?, show (Request.setAttributes id attributes).id = id from rfl] at refused
  rw [receiveRequest_eq] at received
  cases found : manager.tree.get? id with
  -- an object that is not there is refused before anything is dispatched
  | none =>
    have absent : ¬ manager.tree.contains (Request.setAttributes id attributes).id = true := by
      simp [Request.id, Tree.contains, found]
    rw [if_neg absent] at received
    rw [found] at refused
    cases received
    cases refused
    refine ⟨?_, .inl rfl, rfl, rfl, fun present => absurd present absent⟩
    rw [Tree.modify_of_absent _ found]
  | some object =>
    have present : manager.tree.contains (Request.setAttributes id attributes).id = true := by
      simp [Request.id, Tree.contains, found]
    have asked : ¬ (Request.setAttributes id attributes).IsPremature object := by rintro ⟨⟨⟩, _⟩
    rw [if_pos present] at received
    rw [found] at refused
    dsimp only at refused
    rw [if_neg asked] at refused
    obtain ⟨site, stepped, received⟩ := bind_eq_ok received
    obtain ⟨site', settled, last⟩ := bind_eq_ok received
    cases last
    have same := dispatch_refused refused stepped
    have idle : site.pending = [] := by rw [same]
    cases (runPending_idle idle).symm.trans settled
    refine ⟨?_, ?_, rfl, ?_, fun _ => ⟨site, stepped, idle⟩⟩
    · rw [same]
    · rw [same]
      cases manager.tracing with
      | false => exact .inl rfl
      | true => exact .inr rfl
    · rw [ofPrimitive_primitive, same]

theorem refusal?_of_nack {time : FrameTime} {id : ObjectId} {attributes : Attributes} {cause : NackCause}
    (received : manager.receiveRequest flags time (.setAttributes id attributes) = .ok effect)
    (told : .report (.nack id .setAttr cause) ∈ effect.sent.map (·.primitive)) :
    manager.refusal? (.setAttributes id attributes) = some cause := by
  have answered : .nack id .setAttr cause ∈ answersIn (effect.sent.map (·.primitive)) :=
    List.mem_filterMap.mpr ⟨_, told, rfl⟩
  rw [receiveRequest_answers_once received, List.mem_singleton] at answered
  cases refusal : manager.refusal? (.setAttributes id attributes) with
  | none =>
    rw [refusal] at answered
    cases answered
  | some other =>
    rw [refusal] at answered
    cases answered
    rfl

/-- Equipment that starts with no timeslot in use has the channel combination of every channel just as the
channel has it, whatever was received, and none of a channel that never took attributes or is not installed.
Attributes that are refused change nothing but that the object does not count as configured. -/
theorem Run.combinations_mirrored (fresh : Fresh start) (unused : start.hardware.pchans = [])
    (run : Run start sent manager) :
    (∀ bts trx ts, manager.hardware.pchan? (.channel bts trx ts) = manager.tree.pchan? (.channel bts trx ts) ∧
      (.report (.ack (.channel bts trx ts) .setAttr) ∉ sent →
        manager.hardware.pchan? (.channel bts trx ts) = none) ∧
      ∀ object, manager.tree.get? (.channel bts trx ts) = some object → object.phase = .notInstalled →
        manager.hardware.pchan? (.channel bts trx ts) = none) ∧
    ∀ flags message id attributes cause effect, message.primitive = .request (.setAttributes id attributes) →
      manager.receive flags message = .ok effect →
      .report (.nack id .setAttr cause) ∈ effect.sent.map (·.primitive) →
        manager.Declines flags id attributes cause effect := by
  have mirrored := run.mirrored (fresh.mirrored unused)
  refine ⟨fun bts trx ts => ?_, ?_⟩
  · obtain ⟨same, took⟩ := mirrored bts trx ts
    rw [same]
    refine ⟨rfl, fun untold => Decidable.byContradiction fun has => untold (took has), ?_⟩
    intro object found uninstalled
    have blank := run.forgets fresh.forgets _ object found uninstalled
    rw [Tree.pchan?_of_found found, ManagedObject.pchan?, blank.attributes (by rintro ⟨⟩)]
    rfl
  · intro flags message id attributes cause effect asked received told
    rw [Manager.receive_eq, asked] at received
    exact receiveRequest_declines (refusal?_of_nack received told) received

theorem Run.combinations_mirrored_refused : ∃ sent manager effect,
    Run (ofConfig (.ofHosts ["bsc"]) (.fresh 1)) sent manager ∧
      manager.tree.pchan? (.channel 0 0 0) = some .tchF ∧
      manager.hardware.pchan? (.channel 0 0 0) = some .tchF ∧
      manager.receive .initial (.ofPrimitive ⟨0⟩
        (.request (.setAttributes (.channel 0 0 0) ⟨none, none, some .sdcch8, some 9, none⟩))) = .ok effect ∧
      effect.state.tree.pchan? (.channel 0 0 0) = some .tchF ∧
      manager.Declines .initial (.channel 0 0 0) ⟨none, none, some .sdcch8, some 9, none⟩ .paramRange effect := by
  have steps : ∃ installed, (ofConfig (.ofHosts ["bsc"]) (.fresh 1)).receive .initial
      (.ofPrimitive ⟨0⟩ (.link (.phyLinkUp 0))) = .ok installed ∧
      ∃ configured, installed.state.receive .initial (.ofPrimitive ⟨0⟩
        (.request (.setAttributes (.channel 0 0 0) ⟨none, none, some .tchF, none, none⟩))) = .ok configured ∧
      configured.state.tree.pchan? (.channel 0 0 0) = some .tchF ∧
      ∃ refused, configured.state.receive .initial (.ofPrimitive ⟨0⟩
        (.request (.setAttributes (.channel 0 0 0) ⟨none, none, some .sdcch8, some 9, none⟩))) = .ok refused ∧
      refused.state.tree.pchan? (.channel 0 0 0) = some .tchF ∧
      .report (.nack (.channel 0 0 0) .setAttr .paramRange) ∈ refused.sent.map (·.primitive) :=
    ⟨_, rfl, _, rfl, rfl, _, rfl, rfl, .head _⟩
  obtain ⟨_, first, configured, second, has, refused, third, kept, told⟩ := steps
  have fresh : Fresh (ofConfig (.ofHosts ["bsc"]) (.fresh 1)) := ⟨_, _, false, rfl⟩
  have run := Run.receive _ _ (.receive _ _ .start first) second
  obtain ⟨mirrored, refuses⟩ := run.combinations_mirrored fresh rfl
  have stored := (mirrored 0 0 0).1.trans has
  exact ⟨_, configured.state, refused, run, has, stored, third, kept, refuses _ _ _ _ _ _ rfl third told⟩

end Manager

end BaseStation
