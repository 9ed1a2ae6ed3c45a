import BaseStation.Proofs.Management.Installations

namespace BaseStation

open Management

/-- Objects of the class are in service only on request, and with attributes. -/
def ObjectClass.gated : ObjectClass → Bool
  | .gprsNse | .bts | .channel => true
  | .siteManager | .radioCarrier | .basebandTransceiver => false

theorem ObjectClass.gated_needsAttributes {cls : ObjectClass} (gated : cls.gated = true) :
    cls.needsAttributes = true := by
  cases cls <;> first | rfl | cases gated

theorem ObjectClass.gated_upright {cls : ObjectClass} (gated : cls.gated = true) :
    cls.followsLinks = false := by
  cases cls <;> first | rfl | cases gated

/-- After the primitive the BSC can no longer rely on that the procedure of the object succeeded. -/
def Primitive.Voids (id : ObjectId) (procedure : Procedure) : Primitive → Prop
  | .report (.nack other asked _) => other = id ∧ asked = procedure
  | .report (.softwareActivated other) => other = id
  | .report (.stateChanged other state) => other = id ∧ state.availability = .notInstalled
  | _ => False

theorem Primitive.TellsOf.unique {id other : ObjectId} {procedure : Procedure} {primitive : Primitive}
    (tells : primitive.TellsOf id) (voids : primitive.Voids other procedure) : other = id := by
  unfold Voids at voids
  split at voids
  · exact voids.1.symm.trans tells
  · exact voids.symm.trans tells
  · exact voids.1.symm.trans tells
  · cases voids

/-- A procedure of the object was acknowledged, and no primitive since voids that. -/
def Granted (id : ObjectId) (procedure : Procedure) (sent : List Primitive) : Prop :=
  ∃ earlier later, sent = earlier ++ .report (.ack id procedure) :: later ∧
    ∀ primitive ∈ later, ¬ primitive.Voids id procedure

theorem Granted.append {id : ObjectId} {procedure : Procedure} {sent said : List Primitive}
    (granted : Granted id procedure sent) (safe : ∀ primitive ∈ said, ¬ primitive.Voids id procedure) :
    Granted id procedure (sent ++ said) := by
  obtain ⟨earlier, later, rfl, lasts⟩ := granted
  exact ⟨earlier, later ++ said, by simp, List.forall_mem_append.mpr ⟨lasts, safe⟩⟩

theorem Granted.acked (id : ObjectId) (procedure : Procedure) (sent : List Primitive) {said : List Primitive}
    (safe : ∀ primitive ∈ said, ¬ primitive.Voids id procedure) :
    Granted id procedure (sent ++ .report (.ack id procedure) :: said) :=
  ⟨sent, said, rfl, safe⟩

namespace Management

/-- What an object of a gated class has, the BSC was told of. -/
structure Earned (id : ObjectId) (sent : List Primitive) (object : ManagedObject) : Prop where
  blank : object.phase = .notInstalled → object.attributesSet = false
  kept : object.attributesSet = true → object.attributes.isSome = true
  configured : object.attributesSet = true → Granted id .setAttr sent
  serves : object.phase = .enabled →
    object.attributesSet = true ∧ object.started = true ∧ Granted id .opstart sent

section deeds

variable {id : ObjectId} {object object' : ManagedObject} {log : List Entry} {raised : List PendingEvent}
  {sent said : List Primitive} {site site' : Site}

theorem asked_of_accepts {cls : ObjectClass} {phase : Phase} {kind : EventKind} (gated : cls.gated = true)
    (asked : kind ∈ [EventKind.rxSetAttr, .rxOpstart, .opstartAck, .opstartNack])
    (accepted : Machine.accepts cls phase kind = true) : phase ≠ .notInstalled ∧ phase ≠ .enabled := by
  simp only [List.mem_cons, List.not_mem_nil, or_false] at asked
  cases cls with
  | siteManager | radioCarrier | basebandTransceiver => cases gated
  | gprsNse | bts | channel =>
    rcases asked with rfl | rfl | rfl | rfl <;> cases phase <;>
      first | exact ⟨by decide, by decide⟩ | cases accepted

theorem safe_news {state : ObjectState} (up : state.availability ≠ .notInstalled) (before : ObjectState)
    (procedure : Procedure) : ∀ primitive ∈ news id before state, ¬ primitive.Voids id procedure := by
  unfold news
  split
  · exact fun _ mem => absurd mem List.not_mem_nil
  · exact List.forall_mem_singleton.mpr fun voids => up voids.2

theorem safe_arrival {target : Phase} (up : target ≠ .notInstalled) (procedure : Procedure) :
    ∀ primitive ∈ primitives (arrival id object target), ¬ primitive.Voids id procedure := by
  have fits : (enteredState target object.published).Fits target :=
    fits_of_matches (.entered id.objectClass target object)
  rw [primitives_arrival, released_of_ne up]
  exact safe_news (fun down => up (fits.notInstalled_iff.mp down)) object.published procedure

theorem of_entered_attributesSet {cls : ObjectClass} {target : Phase}
    (set : (object.entered cls target).attributesSet = true) :
    object.attributesSet = true ∧ target ≠ .notInstalled := by
  refine ⟨(Bool.and_eq_true_iff.mp set).2, ?_⟩
  rintro rfl
  cases set

theorem Earned.append (earned : Earned id sent object)
    (safe : object.attributesSet = true → ∀ procedure ≠ .chgAdmState,
      ∀ primitive ∈ said, ¬ primitive.Voids id procedure) : Earned id (sent ++ said) object where
  blank := earned.blank
  kept := earned.kept
  configured set := (earned.configured set).append (safe set .setAttr (by decide))
  serves enabled := by
    obtain ⟨set, started, granted⟩ := earned.serves enabled
    exact ⟨set, started, granted.append (safe set .opstart (by decide))⟩

theorem earned_of_unset (unset : object.attributesSet = false) (rests : object.phase ≠ .enabled) :
    Earned id sent object where
  blank _ := unset
  kept set := by cases unset.symm.trans set
  configured set := by cases unset.symm.trans set
  serves enabled := absurd enabled rests

theorem Earned.started (earned : Earned id sent object) (set : object.attributesSet = true) :
    Earned id (sent ++ primitives (.said (.report (.ack id .opstart)) :: arrival id object .enabled))
      ({ object with started := true }.entered id.objectClass .enabled) := by
  have safe (procedure : Procedure) :
      ∀ primitive ∈ primitives (arrival id object .enabled), ¬ primitive.Voids id procedure :=
    safe_arrival (by decide) procedure
  constructor
  · rintro ⟨⟩
  · exact fun _ => earned.kept set
  · intro _
    exact (earned.configured set).append (List.forall_mem_cons.mpr ⟨fun voids => voids, safe .setAttr⟩)
  · exact fun _ => ⟨set, rfl, .acked id .opstart sent (safe .opstart)⟩

theorem Earned.moved (earned : Earned id sent object) {target : Phase} (rests : target ≠ .enabled) :
    Earned id (sent ++ primitives (arrival id object target)) (object.entered id.objectClass target) := by
  constructor
  · rintro rfl
    rfl
  · intro set
    obtain ⟨set, installed⟩ := of_entered_attributesSet set
    rw [ManagedObject.entered, if_neg fun down => installed down.1]
    exact earned.kept set
  · intro set
    obtain ⟨set, installed⟩ := of_entered_attributesSet set
    exact (earned.configured set).append (safe_arrival installed .setAttr)
  · exact fun enabled => absurd enabled rests

/-- Whatever is done at an object of a gated class, it has earned what it has. -/
theorem Deed.earned (deed : Deed Configured id object object' log raised)
    (gated : id.objectClass.gated = true) (fits : object.Matches) (earned : Earned id sent object) :
    Earned id (sent ++ primitives log) object' := by
  have up (set : object.attributesSet = true) : object.published.availability ≠ .notInstalled := by
    intro down
    have uninstalled := (fits_of_matches fits).notInstalled_iff.mp down
    cases set.symm.trans (earned.blank uninstalled)
  cases deed with
  | hears _ _ | asks _ _ _ => exact earned.append fun _ _ _ _ mem => absurd mem List.not_mem_nil
  | administers admin =>
    let state := updated object.published none none (some admin)
    have still (set : object.attributesSet = true) : state.availability ≠ .notInstalled := up set
    have told : Earned id (sent ++ news id object.published state) object :=
      earned.append fun set procedure _ => safe_news (still set) object.published procedure
    rw [primitives_said]
    exact { told with }
  | repeats => exact earned.append fun set _ _ => List.forall_mem_singleton.mpr fun voids => up set voids.2
  | grants => exact earned.append fun _ _ _ => List.forall_mem_singleton.mpr fun voids => voids
  | denies cause =>
    exact earned.append fun _ _ other => List.forall_mem_singleton.mpr fun voids => other voids.2.symm
  -- nothing of what follows is asked of an object that is enabled, which could lose what it has by it
  | takes attributes raised accepted informs =>
    obtain ⟨installed, rests⟩ := asked_of_accepts gated (by simp) accepted
    refine ⟨fun down => absurd down installed, fun _ => rfl, fun _ => ?_, fun enabled => absurd enabled rests⟩
    exact .acked id .setAttr sent fun _ mem => absurd mem List.not_mem_nil
  | misses cause accepted => exact earned_of_unset rfl (asked_of_accepts gated (by simp) accepted).2
  | refuses cause accepted | fails cause accepted =>
    obtain ⟨installed, rests⟩ := asked_of_accepts gated (by simp) accepted
    refine ⟨earned.blank, earned.kept, fun set => ?_, fun enabled => absurd enabled rests⟩
    exact (earned.configured set).append (List.forall_mem_singleton.mpr fun voids => by cases voids.2)
  | acknowledges follows accepted => cases follows.symm.trans (ObjectClass.gated_upright gated)
  | starts upright accepted due => exact earned.started (due (ObjectClass.gated_needsAttributes gated))
  | moves target mayMove stays enables =>
    refine earned.moved fun enabled => ?_
    cases (enables enabled).symm.trans (ObjectClass.gated_upright gated)
  | installs target mayMove uninstalled leaves =>
    refine earned_of_unset ?_ fun enabled => ?_
    · rw [← Bool.not_eq_true]
      intro set
      cases (of_entered_attributesSet set).1.symm.trans (earned.blank uninstalled)
    · have enabled : target = .enabled := enabled
      rw [uninstalled, enabled, Machine.not_mayMove_enabled] at mayMove
      cases mayMove

structure Site.Earns (sent : List Primitive) (site : Site) : Prop where
  fits : site.tree.Matches
  earned : ∀ id object, id.objectClass.gated = true → site.tree.get? id = some object →
    Earned id (sent ++ site.outputs) object

theorem earns_chains (sent : List Primitive) :
    Chains fun site site' => site.Earns sent → site'.Earns sent where
  refl _ earns := earns
  trans first last earns := last (first earns)

theorem Act.earns {about : ObjectId → Prop} (act : Act about Configured site site')
    (earns : site.Earns sent) : site'.Earns sent := by
  cases act with
  | beside tree outputs _ _ =>
    constructor
    · rw [tree]
      exact earns.fits
    · rw [tree, outputs]
      exact earns.earned
  | @deed id object object' log raised _ found deed tree outputs _ _ =>
    have fits := earns.fits id object found
    constructor
    · rw [tree]
      exact earns.fits.put id (deed.matches fits)
    · intro other now gated place
      rw [outputs, ← List.append_assoc]
      rw [tree] at place
      by_cases same : id = other
      · subst same
        rw [Tree.get?_put_self _ found] at place
        cases place
        exact deed.earned gated fits (earns.earned id object gated found)
      · rw [Tree.get?_put_of_ne _ _ same] at place
        refine (earns.earned other now gated place).append fun _ procedure _ primitive mem voids => same ?_
        have tells : primitive.TellsOf id := deed.isOf _ (said_of_mem_primitives mem)
        exact (tells.unique voids).symm

end deeds

end Management

namespace Manager

variable {start manager : Manager} {flags : LinkFlags} {effect : Effect Manager} {sent : List Primitive}
  {id : ObjectId} {object : ManagedObject}

def Earns (sent : List Primitive) (manager : Manager) : Prop :=
  ∀ id object, id.objectClass.gated = true → manager.tree.get? id = some object → Earned id sent object

theorem receive_earns {message : Message} (fits : manager.tree.Matches) (earns : manager.Earns sent)
    (received : manager.receive flags message = .ok effect) :
    effect.state.Earns (sent ++ effect.sent.map (·.primitive)) := by
  cases receive_deals closed_all (fun _ _ => trivial) received with
  | ignores same silent =>
    rw [same, silent, List.map_nil, List.append_nil]
    exact earns
  | @refuses other procedure _ absent same refused =>
    rw [same, refused]
    intro id object gated found
    refine (earns id object gated found).append fun _ _ _ => List.forall_mem_singleton.mpr fun voids => ?_
    rw [voids.1, found] at absent
    cases absent
  | acts deeds leaves =>
    have before : Site.Earns sent (.quiet (manager.tree.relinked message.primitive) manager.hardware) := by
      constructor
      · exact fits.congr (Tree.get?_relinked manager.tree message.primitive)
      · intro id object gated found
        have found : (manager.tree.relinked message.primitive).get? id = some object := found
        rw [Tree.get?_relinked] at found
        exact (earns id object gated found).append fun _ _ _ _ mem => absurd mem List.not_mem_nil
    have after := deeds.brings (earns_chains sent) (fun _ _ act => act.earns) before
    rw [leaves.sent]
    intro id object gated found
    rw [leaves.tree] at found
    exact after.earned id object gated found

theorem Run.earns (fresh : Fresh start) (run : Run start sent manager) : manager.Earns sent := by
  obtain ⟨config, hardware, tracing, rfl⟩ := fresh
  induction run with
  | start =>
    intro id object _ found
    cases Tree.get?_fresh found
    exact earned_of_unset rfl (by decide)
  | receive flags message before received ih =>
    exact receive_earns (before.fits (Tree.Matches.fresh _ _ _)) ih received

/-- Whenever a channel, the BTS or the GPRS NSE is enabled, it has attributes and has been started: since it
was installed the BSC was told that its attributes were taken and that it started, and told nothing since that
goes against it. -/
theorem Run.enabled_earned (fresh : Fresh start) (run : Run start sent manager)
    (gated : id.objectClass.gated = true) (found : manager.tree.get? id = some object)
    (enabled : object.phase = .enabled) :
    object.attributesSet = true ∧ object.started = true ∧ object.attributes.isSome = true ∧
      Granted id .setAttr sent ∧ Granted id .opstart sent := by
  have earned := run.earns fresh id object gated found
  obtain ⟨set, started, granted⟩ := earned.serves enabled
  exact ⟨set, started, earned.kept set, earned.configured set, granted⟩

theorem Run.enabled_earned_dependency : ∃ sent waiting effect channel,
    Run (ofConfig (.ofHosts ["bsc"]) (.fresh 1)) sent waiting ∧
      (waiting.tree.get? (.channel 0 0 0)).map (·.phase) = some .dependency ∧
      waiting.receive .initial (.ofPrimitive ⟨0⟩ (.request (.start (.channel 0 0 0)))) = .ok effect ∧
      effect.state.tree.get? (.channel 0 0 0) = some channel ∧ channel.phase = .enabled ∧
      channel.attributesSet = true ∧ channel.started = true ∧ channel.attributes.isSome = true ∧
      Granted (.channel 0 0 0) .setAttr (sent ++ effect.sent.map (·.primitive)) ∧
      Granted (.channel 0 0 0) .opstart (sent ++ effect.sent.map (·.primitive)) := by
  have received : ∃ installed, (ofConfig (.ofHosts ["bsc"]) (.fresh 1)).receive .initial
      (.ofPrimitive ⟨0⟩ (.link (.phyLinkUp 0))) = .ok installed ∧
      ∃ configured, installed.state.receive .initial
        (.ofPrimitive ⟨0⟩ (.request (.setAttributes (.channel 0 0 0) .empty))) = .ok configured ∧
      (configured.state.tree.get? (.channel 0 0 0)).map (·.phase) = some .dependency ∧
      ∃ started channel, configured.state.receive .initial
        (.ofPrimitive ⟨0⟩ (.request (.start (.channel 0 0 0)))) = .ok started ∧
      started.state.tree.get? (.channel 0 0 0) = some channel ∧ channel.phase = .enabled :=
    ⟨_, rfl, _, rfl, rfl, _, _, rfl, rfl, rfl⟩
  obtain ⟨_, first, configured, second, waits, started, channel, third, found, enabled⟩ := received
  have fresh : Fresh (ofConfig (.ofHosts ["bsc"]) (.fresh 1)) := ⟨_, _, false, rfl⟩
  have before := Run.receive _ _ (.receive _ _ .start first) second
  have run := Run.receive _ _ before third
  have gated : (ObjectId.channel 0 0 0).objectClass.gated = true := rfl
  exact ⟨_, configured.state, started, channel, before, waits, third, found, enabled,
    run.enabled_earned fresh gated found enabled⟩

end Manager

end BaseStation
