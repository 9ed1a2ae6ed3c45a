import BaseStation.Proofs.Management.Shape
import BaseStation.Proofs.Management.Throughout

namespace BaseStation

open Management

namespace Management

def Action.leavesOutcome : Action → Bool
  | .apply _ | .keep _ | .acknowledge => true
  | _ => false

/-- No object that is not installed takes attributes or the answer to a start. -/
theorem reaction_leavesOutcome {cls : ObjectClass} {supported linked : Bool} {object : ManagedObject}
    {event : Event} (accepted : Machine.accepts cls object.phase event.kind = true)
    (uninstalled : object.phase = .notInstalled) :
    ∀ action ∈ reaction cls supported linked [] object event, action.leavesOutcome = false := by
  rw [uninstalled] at accepted
  intro action mem
  cases reaction_dueTo cls supported linked [] object event action mem with
  | apply _ | keep _ | acknowledge => cases cls <;> cases accepted
  | _ => rfl

end Management

namespace ManagedObject

variable {cls : ObjectClass} {object object' : ManagedObject} {action : Action}

/-- Nothing is left of what the object went through; the site manager may have attributes. -/
structure Blank (cls : ObjectClass) (object : ManagedObject) : Prop where
  attributesSet : object.attributesSet = false
  started : object.started = false
  attributes : cls ≠ .siteManager → object.attributes = none

def Forgets (cls : ObjectClass) (object : ManagedObject) : Prop :=
  object.phase = .notInstalled → object.Blank cls

theorem Blank.entered (cls : ObjectClass) (object : ManagedObject) :
    (object.entered cls .notInstalled).Blank cls :=
  ⟨rfl, rfl, fun apart => if_pos ⟨rfl, apart⟩⟩

theorem phase_of_makes (still : ∀ target, action ≠ .become target) (makes : action.Makes cls object object') :
    object'.phase = object.phase := by
  cases action with
  | become target => exact absurd rfl (still target)
  | tell _ _ | offer _ _ => cases makes
  | apply attributes => rcases makes with rfl | rfl <;> rfl
  | keep _ | start | startConfigured | announceShutdown | repeatState | reportSoftware | acknowledge
  | refuse _ =>
    cases makes
    rfl

theorem Forgets.makes (forgets : object.Forgets cls)
    (ready : object.phase = .notInstalled → action.leavesOutcome = false)
    (makes : action.Makes cls object object') : object'.Forgets cls := by
  cases action with
  | tell _ _ | offer _ _ => cases makes
  | become target =>
    cases eq_entered_of_become (becomes_single.mpr makes)
    rintro rfl
    exact .entered cls object
  | apply _ | keep _ | acknowledge =>
    intro uninstalled
    rw [phase_of_makes (by rintro _ ⟨⟩) makes] at uninstalled
    cases ready uninstalled
  | start | startConfigured | announceShutdown | repeatState | reportSoftware =>
    cases makes
    exact fun uninstalled => { forgets uninstalled with }
  | refuse cause =>
    cases makes
    exact fun uninstalled => { forgets uninstalled with started := rfl }

theorem Forgets.becomes {actions : List Action} (own : Own actions) (forgets : object.Forgets cls)
    (ready : object.phase = .notInstalled → ∀ action ∈ actions, action.leavesOutcome = false)
    (becomes : Becomes cls actions object object') : object'.Forgets cls := by
  induction own generalizing object with
  | nil =>
    cases becomes
    exact forgets
  | last own =>
    refine forgets.makes (fun uninstalled => ?_) (becomes_single.mp becomes)
    exact ready uninstalled _ (List.mem_singleton_self _)
  | cons own still after ih =>
    obtain ⟨middle, makes, rest⟩ := becomes
    have first := forgets.makes (fun uninstalled => ready uninstalled _ List.mem_cons_self) makes
    refine ih first (fun uninstalled action mem => ?_) rest
    rw [phase_of_makes still makes] at uninstalled
    exact ready uninstalled action (List.mem_cons_of_mem _ mem)

theorem Forgets.step {linked : Bool} (forgets : object.Forgets cls) (step : Step cls linked object object') :
    object'.Forgets cls := by
  cases step with
  | hears supported event accepted becomes =>
    exact forgets.becomes (reaction_own ..) (reaction_leavesOutcome accepted) becomes
  | administered admin => exact fun uninstalled => { forgets uninstalled with }

end ManagedObject

namespace Tree

def Forgets (tree : Tree) : Prop :=
  ∀ id object, tree.get? id = some object → object.Forgets id.objectClass

variable {tree tree' : Tree}

theorem Forgets.congr (forgets : tree.Forgets) (same : ∀ id, tree'.get? id = tree.get? id) :
    tree'.Forgets := by
  intro id object found
  rw [same] at found
  exact forgets id object found

theorem Evolves.forgets (evolves : tree.Evolves tree') (forgets : tree.Forgets) : tree'.Forgets :=
  fun id => evolves.keeps (fun _ _ before step => before.step step) (forgets id)

end Tree

namespace Management

def siteConfigured : Primitive := .report (.ack .siteManager .setAttr)

theorem siteConfigured_not_mem_news (id : ObjectId) (before after : ObjectState) :
    siteConfigured ∉ news id before after := by
  unfold news
  split
  · exact List.not_mem_nil
  · rintro ⟨⟩
    contradiction

theorem siteConfigured_not_mem_released (id : ObjectId) (target : Phase) :
    siteConfigured ∉ released id target := by
  cases id <;> cases target <;> simp [released, siteConfigured]

def Site.Accounts (site site' : Site) : Prop :=
  ∃ said, site'.outputs = site.outputs ++ said ∧
    (site'.tree.siteManager.attributes.isSome = true ↔
      site.tree.siteManager.attributes.isSome = true ∨ siteConfigured ∈ said)

variable {site site' : Site} {id : ObjectId} {object object' : ManagedObject} {said : List Primitive}

theorem Site.Accounts.quiet (tree : site'.tree = site.tree) (outputs : site'.outputs = site.outputs ++ said)
    (silent : siteConfigured ∉ said) : site.Accounts site' := by
  refine ⟨said, outputs, ?_⟩
  rw [tree]
  simp [silent]

theorem Site.Accounts.put (found : site.tree.get? id = some object)
    (tree : site'.tree = site.tree.put id object') (outputs : site'.outputs = site.outputs ++ said)
    (own : id = .siteManager → (object'.attributes.isSome = true ↔
      object.attributes.isSome = true ∨ siteConfigured ∈ said))
    (apart : id ≠ .siteManager → siteConfigured ∉ said) : site.Accounts site' := by
  refine ⟨said, outputs, ?_⟩
  rw [tree]
  by_cases root : id = .siteManager
  · subst root
    cases found
    exact own rfl
  · have same : (site.tree.put id object').get? .siteManager = site.tree.get? .siteManager :=
      Tree.get?_put_of_ne _ object' root
    have same : (site.tree.put id object').siteManager = site.tree.siteManager := Option.some.inj same
    rw [same]
    simp [apart root]

theorem Site.Accounts.keep (found : site.tree.get? id = some object)
    (tree : site'.tree = site.tree.put id object') (outputs : site'.outputs = site.outputs ++ said)
    (same : id = .siteManager → object'.attributes = object.attributes) (silent : siteConfigured ∉ said) :
    site.Accounts site' := by
  refine .put found tree outputs (fun root => ?_) fun _ => silent
  rw [same root]
  simp [silent]

theorem Site.Accounts.take (found : site.tree.get? id = some object)
    (tree : site'.tree = site.tree.put id object') (has : object'.attributes.isSome = true)
    (outputs : site'.outputs = site.outputs ++ [.report (.ack id .setAttr)]) : site.Accounts site' := by
  refine .put found tree outputs ?_ ?_
  · rintro rfl
    simp [has, siteConfigured]
  · intro apart
    simpa [siteConfigured] using apart.symm

theorem steady_accounts : Steady Site.Accounts where
  refl site := .quiet rfl (List.append_nil _).symm List.not_mem_nil
  trans := by
    rintro site middle site' ⟨said, first, before⟩ ⟨said', last, after⟩
    refine ⟨said ++ said', ?_, ?_⟩
    · rw [last, first, List.append_assoc]
    · rw [after, before, List.mem_append, or_assoc]
  touches touch := by
    have silent {said : List Report} (other : ∀ id, .ack id .setAttr ∉ said) :
        siteConfigured ∉ said.map .report := by simpa [siteConfigured] using other .siteManager
    cases touch with
    | reports _ other _ tree _ outputs => exact .quiet tree outputs (silent other)
    | changes _ other found tree same _ outputs => exact .keep found tree outputs (fun _ => same) (silent other)
    | takes found _ tree outputs => exact .take found tree rfl outputs
    | settles target found settled =>
      subst settled
      refine .keep found rfl (List.append_assoc ..) ?_ ?_
      · rintro rfl
        exact if_neg fun due => due.2 rfl
      · rw [List.mem_append, not_or]
        exact ⟨siteConfigured_not_mem_released _ _, siteConfigured_not_mem_news _ _ _⟩

end Management

namespace Manager

variable {manager start : Manager} {flags : LinkFlags} {effect : Effect Manager} {sent : List Primitive}

theorem receive_forgets {message : Message} (forgets : manager.tree.Forgets)
    (received : manager.receive flags message = .ok effect) : effect.state.tree.Forgets := by
  cases receive_leads received with
  | evolves after => exact after.forgets forgets
  | relinks relinks told after =>
    refine after.forgets ((tellTransceiver_evolves told).forgets (forgets.congr ?_))
    exact Tree.get?_modifyTransceiver_links relinks.keep
  | tearsDown torn after =>
    refine after.forgets ((tearDown_evolves torn).forgets (forgets.congr ?_))
    exact Tree.get?_dropRsl manager.tree

theorem Run.forgets (run : Run start sent manager) (forgets : start.tree.Forgets) : manager.tree.Forgets := by
  induction run with
  | start => exact forgets
  | receive flags message _ received ih => exact receive_forgets ih received

theorem receive_accounts {message : Message} (received : manager.receive flags message = .ok effect) :
    effect.state.tree.siteManager.attributes.isSome = true ↔
      manager.tree.siteManager.attributes.isSome = true ∨
        siteConfigured ∈ effect.sent.map (·.primitive) := by
  rcases receive_does steady_accounts received with ⟨tree, site, same, does, after, _, sent⟩ | ⟨after, refused⟩
  · obtain ⟨said, outputs, accounts⟩ := does
    have root : tree.siteManager = manager.tree.siteManager := Option.some.inj (same .siteManager)
    rw [after, sent, outputs, accounts, ← root]
    rfl
  · have silent : siteConfigured ∉ effect.sent.map (·.primitive) := by
      intro mem
      obtain ⟨id, procedure, same⟩ := refused _ mem
      cases same
    rw [after]
    simp only [silent, or_false]

theorem Run.accounts (run : Run start sent manager) (unset : start.tree.siteManager.attributes = none) :
    manager.tree.siteManager.attributes.isSome = true ↔ siteConfigured ∈ sent := by
  induction run with
  | start => simp [unset]
  | receive flags message _ received ih => rw [receive_accounts received, ih, List.mem_append]

theorem Fresh.forgets (fresh : Fresh manager) : manager.tree.Forgets := by
  obtain ⟨config, hardware, tracing, rfl⟩ := fresh
  intro id object found _
  cases Tree.get?_fresh found
  exact ⟨rfl, rfl, fun _ => rfl⟩

/-- An object that is not installed has neither taken attributes nor been started, whatever happened before.
It has no attributes left either, unless it is the site manager and told the BSC that it took some. -/
theorem Run.uninstalled_blank (fresh : Fresh start) (run : Run start sent manager) {id : ObjectId}
    {object : ManagedObject} (found : manager.tree.get? id = some object)
    (uninstalled : object.phase = .notInstalled) :
    object.attributesSet = false ∧ object.started = false ∧
      (object.attributes = none ↔
        ¬ (id = .siteManager ∧ .report (.ack .siteManager .setAttr) ∈ sent)) := by
  have blank := run.forgets fresh.forgets id object found uninstalled
  refine ⟨blank.attributesSet, blank.started, ?_⟩
  by_cases root : id = .siteManager
  · subst root
    obtain ⟨config, hardware, tracing, rfl⟩ := fresh
    have accounts := run.accounts rfl
    cases found
    rw [← Option.not_isSome_iff_eq_none, accounts]
    simp [siteConfigured]
  · have apart : id.objectClass ≠ .siteManager := by
      cases id <;> first | exact absurd rfl root | rintro ⟨⟩
    simp [blank.attributes apart, root]

theorem run_tornDown : ∃ sent manager root channel,
    Run (ofConfig (.ofHosts ["bsc"]) (.fresh 1)) sent manager ∧
      manager.tree.get? .siteManager = some root ∧ root.phase = .notInstalled ∧
      root.attributes.isSome = true ∧
      manager.tree.get? (.channel 0 0 0) = some channel ∧ channel.phase = .notInstalled := by
  have steps : ∃ effect, (ofConfig (.ofHosts ["bsc"]) (.fresh 1)).receive .initial
      (.ofPrimitive ⟨0⟩ (.link .omlLinkUp)) = .ok effect ∧ ∃ effect', effect.state.receive .initial
      (.ofPrimitive ⟨0⟩ (.request (.setAttributes .siteManager .empty))) = .ok effect' ∧
      ∃ effect'', effect'.state.receive .initial (.ofPrimitive ⟨0⟩ (.link .abisLinkFailed)) = .ok effect'' ∧
      ∃ root channel, effect''.state.tree.get? .siteManager = some root ∧ root.phase = .notInstalled ∧
        root.attributes.isSome = true ∧
        effect''.state.tree.get? (.channel 0 0 0) = some channel ∧ channel.phase = .notInstalled :=
    ⟨_, rfl, _, rfl, _, rfl, _, _, rfl, rfl, rfl, rfl, rfl⟩
  obtain ⟨_, first, _, second, effect, third, root, channel, holds⟩ := steps
  exact ⟨_, effect.state, root, channel,
    .receive _ _ (.receive _ _ (.receive _ _ .start first) second) third, holds⟩

theorem uninstalled_blank_tornDown : ∃ sent manager root channel,
    Run (ofConfig (.ofHosts ["bsc"]) (.fresh 1)) sent manager ∧
      manager.tree.get? .siteManager = some root ∧ root.phase = .notInstalled ∧
      root.attributesSet = false ∧ root.started = false ∧
      .report (.ack .siteManager .setAttr) ∈ sent ∧
      manager.tree.get? (.channel 0 0 0) = some channel ∧ channel.phase = .notInstalled ∧
      channel.attributes = none := by
  obtain ⟨sent, manager, root, channel, run, found, down, has, found', down'⟩ := run_tornDown
  have fresh : Fresh (ofConfig (.ofHosts ["bsc"]) (.fresh 1)) := ⟨_, _, false, rfl⟩
  obtain ⟨unset, idle, kept⟩ := run.uninstalled_blank fresh found down
  obtain ⟨_, _, dropped⟩ := run.uninstalled_blank fresh found' down'
  have told : .report (.ack .siteManager .setAttr) ∈ sent := by
    refine Decidable.byContradiction fun untold => ?_
    rw [kept.mpr fun due => untold due.2] at has
    cases has
  have blank' : channel.attributes = none := dropped.mpr fun due => by cases due.1
  exact ⟨sent, manager, root, channel, run, found, down, unset, idle, told, found', down', blank'⟩

/-- The site manager does not come back with nothing. -/
theorem uninstalled_not_blank : ¬ ∀ manager, Reachable manager → ∀ id object,
    manager.tree.get? id = some object → object.phase = .notInstalled →
      object.attributesSet = false ∧ object.started = false ∧ object.attributes = none := by
  intro blank
  obtain ⟨sent, manager, root, _, run, found, down, has, _⟩ := run_tornDown
  obtain ⟨_, _, lost⟩ := blank manager ⟨_, sent, ⟨_, _, false, rfl⟩, run⟩ _ root found down
  rw [lost] at has
  cases has

end Manager

end BaseStation
