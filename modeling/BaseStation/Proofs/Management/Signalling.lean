import BaseStation.Proofs.Management.LinkOrder
import BaseStation.Proofs.Management.Outputs
import BaseStation.Proofs.Management.Sparing

namespace BaseStation

open Management

def Event.isQuiet : Event → Bool
  | .omlUp | .shutdownFinish => false
  | _ => true

theorem Event.isQuiet_of_isRaised {event : Event} (raised : event.isRaised = true) : event.isQuiet = true := by
  cases event <;> first | rfl | cases raised

namespace Tree

variable {tree : Tree} {id : ObjectId} {object object' : ManagedObject}

def rslUp (tree : Tree) : List Bool := tree.transceivers.map (·.rslUp)

theorem rslUp_fresh (numTrx : Nat) (need dummy : Bool) :
    (Tree.fresh numTrx need dummy).rslUp = List.replicate numTrx false := List.map_replicate

theorem rslUp_modifyTransceiver {f : Transceiver → Transceiver} (same : ∀ t, (f t).rslUp = t.rslUp)
    (tree : Tree) (bts trx : Nat) : (tree.modifyTransceiver bts trx f).rslUp = tree.rslUp := by
  unfold modifyTransceiver
  split
  · apply List.ext_getElem?
    intro i
    simp only [rslUp, List.getElem?_map, List.getElem?_modify]
    cases tree.transceivers[i]? with
    | none => rfl
    | some t => by_cases here : trx = i <;> simp [here, same]
  · rfl

theorem rslUp_put (tree : Tree) (id : ObjectId) (object : ManagedObject) :
    (tree.put id object).rslUp = tree.rslUp := by
  cases id with
  | siteManager | gprsNse => rfl
  | bts b => by_cases first : b = 0 <;> simp [put, modify, rslUp, first]
  | radioCarrier b trx | basebandTransceiver b trx | channel b trx ts =>
    exact rslUp_modifyTransceiver (by intro t; rfl) tree b trx

theorem rslUp_setRsl (tree : Tree) (trx : Nat) :
    (tree.setRsl 0 trx true).rslUp = tree.rslUp.set trx true := by
  apply List.ext_getElem?
  intro i
  simp only [setRsl, modifyTransceiver, if_true, rslUp, List.getElem?_map, List.getElem?_modify,
    List.getElem?_set]
  by_cases here : trx = i
  · subst here
    cases found : tree.transceivers[trx]? with
    | none => simp [List.getElem?_eq_none_iff.mp found]
    | some t => simp [(List.getElem?_eq_some_iff.mp found).1]
  · simp [here]

theorem rslUp_setPhy (tree : Tree) (trx : Nat) (up : Bool) : (tree.setPhy 0 trx up).rslUp = tree.rslUp :=
  rslUp_modifyTransceiver (by intro t; rfl) tree 0 trx

theorem rslUp_dropRsl (tree : Tree) : tree.dropRsl.rslUp = tree.rslUp.map fun _ => false := by
  simp only [rslUp, dropRsl, List.map_map]
  rfl

def isInstalled (tree : Tree) : Bool := tree.siteManager.phase != .notInstalled

theorem isInstalled_put_of_ne (tree : Tree) (object : ManagedObject) (ne : id ≠ .siteManager) :
    (tree.put id object).isInstalled = tree.isInstalled := by
  have same : some (tree.put id object).siteManager = some tree.siteManager := get?_put_of_ne tree object ne
  rw [isInstalled, isInstalled, Option.some.inj same]

end Tree

namespace Management

/-- A property of a tree that lasts as its objects are told of events of some kind. -/
structure Lasts (P : Tree → Prop) (tells : Event → Prop) : Prop where
  quiet : ∀ event, event.isQuiet = true → tells event
  put : ∀ {tree : Tree} {id : ObjectId} {object object' : ManagedObject}, P tree →
    tree.get? id = some object → object'.phase = object.phase → P (tree.put id object')
  moves : ∀ {tree : Tree} {id : ObjectId} {object : ManagedObject} {event : Event} {target : Phase},
    tells event → P tree → tree.get? id = some object →
    Machine.accepts id.objectClass object.phase event.kind = true →
    .become target ∈ reactionIn tree id object event →
    ∀ {tree' : Tree} {middle : ManagedObject}, P tree' → tree'.get? id = some middle →
      P (tree'.put id (middle.entered id.objectClass target))

structure Site.Holds (P : Tree → Prop) (site : Site) : Prop where
  tree : P site.tree
  raised : ∀ waiting ∈ site.pending, waiting.event.isRaised = true

def Keeps (P : Tree → Prop) (tells : Event → Prop) (dispatch : Dispatcher) : Prop :=
  ∀ id event site site', tells event → dispatch id event site = .ok site' → site.Holds P → site'.Holds P

variable {P : Tree → Prop} {tells : Event → Prop} {dispatch : Dispatcher} {id : ObjectId} {event : Event}
  {site site' : Site} {object : ManagedObject}

theorem holds_chains (P : Tree → Prop) : Chains fun site site' => site.Holds P → site'.Holds P where
  refl _ holds := holds
  trans first last holds := last (first holds)

theorem Site.Holds.quiet {tree : Tree} (hardware : Hardware) (holds : P tree) :
    (Site.quiet tree hardware).Holds P :=
  ⟨holds, fun _ mem => absurd mem List.not_mem_nil⟩

theorem Keeps.offer (keeps : Keeps P tells dispatch) : Keeps P tells (dispatchIfAccepted dispatch) := by
  intro id event site site' told h
  exact (holds_chains P).offer (fun site' => keeps id event site site' told) h

theorem notice?_isQuiet {cls : ObjectClass} {previous target : Phase}
    (h : notice? cls previous target = some event) : event.isQuiet = true := by
  cases cls <;> cases previous <;> cases target <;> cases h <;> rfl

theorem Lasts.become (lasts : Lasts P tells) (keeps : Keeps P tells dispatch) {target : Phase}
    (enters : ∀ object, site.tree.get? id = some object →
      P (site.tree.put id (object.entered id.objectClass target)))
    (h : changePhaseWith dispatch id target site = .ok site') (holds : site.Holds P) : site'.Holds P := by
  obtain ⟨object, found, mayMove⟩ := found_of_changePhaseWith h
  rw [changePhaseWith_of_found dispatch found mayMove] at h
  have settled : (site.settle id object target).Holds P := ⟨enters object found, holds.raised⟩
  exact (holds_chains P).notice (fun id' event site site' notice =>
    keeps id' event site site' (lasts.quiet event (notice?_isQuiet notice))) h settled

theorem Lasts.own (lasts : Lasts P tells) {action : Action} (own : action.forOthers = false)
    (still : ∀ target, action ≠ .become target) (found : site.tree.get? id = some object)
    (h : action.run dispatch id site = .ok site') (holds : site.Holds P) : site'.Holds P := by
  obtain ⟨object', makes, tree⟩ := run_makes own still found h
  constructor
  · rw [tree]
    exact lasts.put holds.tree found (makes.alike still).phase
  · intro waiting mem
    exact (run_raises own still found h waiting mem).elim (holds.raised waiting) fun raised => raised

theorem Lasts.dispatchWithin (lasts : Lasts P tells) (depth : Nat) : Keeps P tells (dispatchWithin depth) := by
  induction depth with
  | zero =>
    intro id event site site' _ h
    cases h
  | succ depth ih =>
    intro id event site site' told h holds
    obtain ⟨object, found, accepted, h⟩ := performed_of_dispatchWithin h
    have recorded : (site.record (.dispatched id event.kind)).Holds P := ⟨holds.tree, holds.raised⟩
    refine (holds_chains P).foldlM _ (fun action mem middle middle' h holds' => ?_) h recorded
    have due := reaction_dueTo id.objectClass (supported site.tree id) (linked site.tree id)
      (children site.tree id) object event action mem
    cases due with
    | tell other event => exact ih other event middle middle' told h holds'
    | offer other event => exact ih.offer other event middle middle' told h holds'
    | become | uninstall =>
      -- actions before this one may have changed the tree, but not that the event was accepted
      exact lasts.become ih (fun _ place => lasts.moves told holds.tree found accepted mem holds'.tree place)
        h holds'
    | reportSoftware =>
      cases h
      exact ⟨holds'.tree, holds'.raised⟩
    | start =>
      -- the equipment answers later, by an event that is raised
      cases h
      exact ⟨holds'.tree, List.forall_mem_append.mpr
        ⟨holds'.raised, List.forall_mem_singleton.mpr (start_isRaised ..)⟩⟩
    | announceShutdown | repeatState | apply _ | keep _ | startConfigured | acknowledge | refuse _ =>
      obtain ⟨_, place, _⟩ := Site.bind_object h
      exact lasts.own rfl (by rintro _ ⟨⟩) place h holds'

theorem Lasts.keeps (lasts : Lasts P tells) : Keeps P tells Management.dispatch := lasts.dispatchWithin nesting

theorem Lasts.runAtMost (lasts : Lasts P tells) {count : Nat} (h : runAtMost count site = .ok site')
    (holds : site.Holds P) : site'.Holds P := by
  induction count generalizing site with
  | zero =>
    cases h
    exact holds
  | succ count ih =>
    rw [Management.runAtMost_succ] at h
    split at h
    · cases h
      exact holds
    · rename_i waiting rest queue
      obtain ⟨middle, first, last⟩ := bind_eq_ok h
      have raised := holds.raised
      rw [queue] at raised
      have told := lasts.quiet _ (Event.isQuiet_of_isRaised (raised waiting List.mem_cons_self))
      have taken : ({ site with pending := rest } : Site).Holds P :=
        ⟨holds.tree, fun other mem => raised other (List.mem_cons_of_mem _ mem)⟩
      exact ih last ((holds_chains P).runNext (fun site' h => lasts.keeps _ _ _ site' told h) first taken)

theorem Lasts.changeAdmin (lasts : Lasts P tells) {admin : AdminState}
    (h : Manager.changeAdmin id admin site = .ok site') : site.Holds P → site'.Holds P := by
  have answered (outcome : Except NackCause Unit) {site : Site} (holds : site.Holds P) :
      (answerAdmin id outcome site).Holds P := by
    cases outcome <;> exact ⟨holds.tree, holds.raised⟩
  refine (holds_chains P).changeAdmin (fun cause => answered (.error cause)) ?_ ?_ h
  · exact fun _ _ site' => lasts.keeps id .disable site site' (lasts.quiet _ rfl)
  · intro site site' published holds
    obtain ⟨object, found, _⟩ := Site.bind_object published
    rw [publish_of_found found] at published
    cases published
    exact answered (.ok ()) ⟨lasts.put holds.tree found rfl, holds.raised⟩

theorem Lasts.stepOfRequest (lasts : Lasts P tells) {request : Request}
    (h : Manager.stepOfRequest request site = .ok site') (holds : site.Holds P) : site'.Holds P := by
  cases request with
  | setAttributes id attributes => exact lasts.keeps _ _ site site' (lasts.quiet _ rfl) h holds
  | start id => exact lasts.keeps _ _ site site' (lasts.quiet _ rfl) h holds
  | changeAdmin id admin => exact lasts.changeAdmin h holds

theorem Lasts.tellTransceiver (lasts : Lasts P tells) {trx : Nat} {events : List Event}
    (quiet : ∀ event ∈ events, event.isQuiet = true) (h : Manager.tellTransceiver trx events site = .ok site') :
    site.Holds P → site'.Holds P :=
  (holds_chains P).tellTransceiver (fun event mem id site site' =>
    lasts.keeps id event site site' (lasts.quiet event (quiet event mem))) h

theorem Lasts.tearDown (lasts : Lasts P tells) (ends : tells .shutdownFinish)
    (h : Manager.tearDown site = .ok site') (holds : site.Holds P) : site'.Holds P := by
  obtain ⟨middle, first, h⟩ := bind_eq_ok h
  obtain ⟨middle', second, last⟩ := bind_eq_ok h
  cases last
  have started := lasts.keeps _ _ site middle (lasts.quiet _ rfl) first holds
  have finished := lasts.keeps _ _ middle middle' ends second started
  exact ⟨finished.tree, finished.raised⟩

theorem lasts_rslUp (ups : List Bool) : Lasts (fun tree => tree.rslUp = ups) fun _ => True where
  quiet _ _ := trivial
  put holds _ _ := (Tree.rslUp_put ..).trans holds
  moves _ _ _ _ _ _ _ holds _ := (Tree.rslUp_put ..).trans holds

theorem installed_of_become {supported linked : Bool} {children : List ObjectId} {target : Phase}
    (quiet : event.isQuiet = true) (accepted : Machine.accepts .siteManager object.phase event.kind = true)
    (due : .become target ∈ reaction .siteManager supported linked children object event) :
    object.phase ≠ .notInstalled ∧ target ≠ .notInstalled := by
  constructor
  · intro uninstalled
    rw [uninstalled] at accepted
    cases event with
    | omlUp | shutdownFinish => cases quiet
    | shutdownStart => simp [reaction] at due
    | _ => cases accepted
  · rintro rfl
    cases reaction_dueTo _ _ _ _ _ _ _ due with
    | become _ stays => exact stays rfl
    | uninstall => cases quiet

theorem lasts_isInstalled (installed : Bool) :
    Lasts (fun tree => tree.isInstalled = installed) fun event => event.isQuiet = true where
  quiet _ quiet := quiet
  put := by
    intro tree id object object' holds found same
    by_cases root : id = .siteManager
    · subst root
      cases found
      rw [← holds]
      exact congrArg (· != .notInstalled) same
    · exact (Tree.isInstalled_put_of_ne tree object' root).trans holds
  moves := by
    intro tree id object event target quiet holds found accepted due tree' middle holds' _
    by_cases root : id = .siteManager
    · subst root
      cases found
      obtain ⟨before, after⟩ := installed_of_become quiet accepted due
      have up : installed = true := holds.symm.trans (bne_iff_ne.mpr before)
      rw [up]
      exact bne_iff_ne.mpr after
    · exact (Tree.isInstalled_put_of_ne tree' _ root).trans holds'

end Management

/-- How far signalling with the BSC is up: for the site itself, by its manager being installed, and for each
transceiver. -/
structure Signalling where
  oml : Bool
  installed : Bool
  rsl : List Bool
  deriving DecidableEq, Repr

def Signalling.hear (seen : Signalling) : Primitive → Signalling
  | .link .omlLinkUp => { seen with oml := true, installed := true }
  | .link (.rslLinkUp trx) => { seen with rsl := seen.rsl.set trx true }
  | .link .abisLinkFailed => ⟨false, false, seen.rsl.map fun _ => false⟩
  | _ => seen

namespace Tree

variable {tree : Tree}

theorem rslUp_omlLinkUp (tree : Tree) : tree.omlLinkUp.rslUp = tree.rslUp := by
  unfold omlLinkUp
  split <;> rfl

theorem isInstalled_omlLinkUp (tree : Tree) : tree.omlLinkUp.isInstalled = true := by
  unfold omlLinkUp
  split
  · rfl
  · rename_i installed
    exact bne_iff_ne.mpr installed

theorem isInstalled_modifyTransceiver (tree : Tree) (bts trx : Nat) (f : Transceiver → Transceiver) :
    (tree.modifyTransceiver bts trx f).isInstalled = tree.isInstalled := by
  unfold modifyTransceiver
  split <;> rfl

end Tree

namespace Manager

variable {manager : Manager} {flags : LinkFlags} {time : FrameTime} {step : Step} {effect : Effect Manager}

def signalling (manager : Manager) (flags : LinkFlags) : Signalling :=
  ⟨flags.omlLinkUp, manager.tree.isInstalled, manager.tree.rslUp⟩

theorem run_flags (ran : manager.run flags time step = .ok effect) : effect.flags = flags := by
  obtain ⟨_, _, ran⟩ := bind_eq_ok ran
  obtain ⟨_, _, last⟩ := bind_eq_ok ran
  cases last
  rfl

theorem run_lasts {P : Tree → Prop} {tells : Event → Prop} (lasts : Lasts P tells)
    (keeps : ∀ site site', step site = .ok site' → site.Holds P → site'.Holds P)
    (ran : manager.run flags time step = .ok effect) (holds : P manager.tree) : P effect.state.tree := by
  obtain ⟨site, stepped, ran⟩ := bind_eq_ok ran
  obtain ⟨site', settled, last⟩ := bind_eq_ok ran
  cases last
  have begins := Site.Holds.quiet manager.hardware holds
  exact (lasts.runAtMost settled (keeps _ _ stepped begins)).tree

theorem run_signalling
    (keeps : ∀ {P : Tree → Prop} {tells : Event → Prop}, Lasts P tells →
      ∀ site site', step site = .ok site' → site.Holds P → site'.Holds P)
    (ran : manager.run flags time step = .ok effect) :
    effect.state.signalling effect.flags = manager.signalling flags := by
  have installed : effect.state.tree.isInstalled = manager.tree.isInstalled :=
    run_lasts (lasts_isInstalled _) (keeps (lasts_isInstalled _)) ran rfl
  have ups : effect.state.tree.rslUp = manager.tree.rslUp :=
    run_lasts (lasts_rslUp _) (keeps (lasts_rslUp _)) ran rfl
  rw [signalling, signalling, run_flags ran, installed, ups]

theorem receiveRequest_signalling {request : Request}
    (received : manager.receiveRequest flags time request = .ok effect) :
    effect.state.signalling effect.flags = manager.signalling flags := by
  rw [receiveRequest_eq] at received
  split at received
  · exact run_signalling (fun lasts _ _ h => lasts.stepOfRequest h) received
  · cases received
    rfl

theorem tellTransceiver_signalling {trx : Nat} {f : Transceiver → Transceiver} {events : List Event}
    (quiet : ∀ event ∈ events, event.isQuiet = true)
    (ran : { manager with tree := manager.tree.modifyTransceiver 0 trx f }.run flags time
      (tellTransceiver trx events) = .ok effect) :
    effect.state.signalling effect.flags =
      ⟨flags.omlLinkUp, manager.tree.isInstalled, (manager.tree.modifyTransceiver 0 trx f).rslUp⟩ := by
  rw [run_signalling (fun lasts _ _ h => lasts.tellTransceiver quiet h) ran, signalling,
    Tree.isInstalled_modifyTransceiver]

theorem rslUp_set_of_unknown {trx : Nat} (unknown : ¬ (manager.tree.transceiver? 0 trx).isSome = true) :
    manager.tree.rslUp.set trx true = manager.tree.rslUp := by
  have absent := Option.not_isSome_iff_eq_none.mp unknown
  rw [← Tree.rslUp_setRsl, Tree.setRsl, Tree.modifyTransceiver_of_none absent]

theorem receiveLink_signalling {control : LinkControl} (sound : manager.tree.Sound)
    (lives : control ≠ .abisLinkFailed) (received : manager.receiveLink flags time control = .ok effect) :
    effect.state.signalling effect.flags = (manager.signalling flags).hear (.link control) := by
  cases control with
  | abisLinkFailed => exact absurd rfl lives
  | omlLinkUp =>
    have settles : manager.Settles (manager.receiveLink flags time .omlLinkUp) _ _ :=
      receiveLink_settles flags time sound rfl
    obtain ⟨effect', received', tree, _, flagsUp⟩ := settles
    cases received.symm.trans received'
    rw [signalling, tree, flagsUp]
    show Signalling.mk _ (manager.tree.omlLinkUp).isInstalled (manager.tree.omlLinkUp).rslUp = _
    rw [Tree.isInstalled_omlLinkUp, Tree.rslUp_omlLinkUp]
    rfl
  | phyLinkUp trx | phyLinkDown trx =>
    rw [receiveLink_eq] at received
    dsimp only at received
    split at received
    · rw [tellTransceiver_signalling (by decide) received]
      show Signalling.mk _ _ (manager.tree.setPhy 0 trx _).rslUp = _
      rw [Tree.rslUp_setPhy]
      rfl
    · cases received
      rfl
  | rslLinkUp trx =>
    rw [receiveLink_eq] at received
    dsimp only at received
    split at received
    · rw [tellTransceiver_signalling (by decide) received]
      show Signalling.mk _ _ (manager.tree.setRsl 0 trx true).rslUp = _
      rw [Tree.rslUp_setRsl]
      rfl
    · rename_i unknown
      cases received
      show manager.signalling flags = Signalling.mk _ _ (manager.tree.rslUp.set trx true)
      rw [rslUp_set_of_unknown unknown]
      rfl

theorem receive_failure_signalling {numTrx : Nat} {message : Message} (sound : manager.tree.Sound)
    (shaped : manager.tree.Shaped numTrx) (failed : message.primitive = .link .abisLinkFailed)
    (received : manager.receive flags message = .ok effect) :
    effect.state.signalling effect.flags = (manager.signalling flags).hear (.link .abisLinkFailed) := by
  obtain ⟨_, flagsDown, down, _⟩ := receive_failure sound shaped failed received
  have uninstalled : effect.state.tree.isInstalled = false := by
    have root := down .siteManager effect.state.tree.siteManager rfl
    rw [Tree.isInstalled, root]
    rfl
  have ups : effect.state.tree.rslUp = manager.tree.rslUp.map fun _ => false := by
    simp only [receive_eq, failed, receiveLink_eq] at received
    obtain ⟨effect', ran, last⟩ := bind_eq_ok received
    cases last
    have lasts := lasts_rslUp manager.tree.dropRsl.rslUp
    exact (run_lasts lasts (fun _ _ h => lasts.tearDown trivial h) ran rfl).trans (Tree.rslUp_dropRsl _)
  rw [signalling, flagsDown, uninstalled, ups]
  rfl

/-- Signalling changes as the message says, and not at all if it says nothing of that. -/
theorem receive_signalling {numTrx : Nat} {message : Message} (sound : manager.tree.Sound)
    (shaped : manager.tree.Shaped numTrx) (received : manager.receive flags message = .ok effect) :
    effect.state.signalling effect.flags = (manager.signalling flags).hear message.primitive := by
  by_cases failed : message.primitive = .link .abisLinkFailed
  · rw [failed]
    exact receive_failure_signalling sound shaped failed received
  · rw [receive_eq] at received
    split at received
    · rename_i request asked
      rw [asked]
      exact receiveRequest_signalling received
    · rename_i control told
      rw [told] at failed ⊢
      exact receiveLink_signalling sound (fun same => failed (congrArg _ same)) received
    · rename_i silent silent'
      cases received
      cases primitive : message.primitive with
      | request request => exact absurd primitive (silent request)
      | link control => exact absurd primitive (silent' control)
      | _ => rfl

end Manager

end BaseStation
