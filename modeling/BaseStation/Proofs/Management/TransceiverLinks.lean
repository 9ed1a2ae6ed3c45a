import BaseStation.Proofs.Management.Teardown

namespace BaseStation

open Management

theorem Half.cls_ne_channel (p : Half) : p.cls ≠ .channel := by cases p <;> decide

namespace ManagedObject

variable {cls : ObjectClass} {p : Half} {up supported : Bool} {object object' : ManagedObject}
  {event : Event}

inductive Turn (up : Bool) (object object' : ManagedObject) : Prop
  | still (phase : object'.phase = object.phase) (started : object'.started = object.started)
  | loses (phase : object'.phase ≠ .enabled) (started : object'.started = false)
  | starts (phase : object'.phase = if up then .enabled else .offline) (started : object'.started = true)

theorem turn_of_become {target : Phase} (down : target ≠ .enabled)
    (becomes : Becomes cls [.become target] object object') : Turn up object object' := by
  cases eq_entered_of_become becomes
  exact .loses down (by simp [entered, down])

theorem turn_of_condition {target : Phase} {condition : Prop} [Decidable condition]
    (down : target ≠ .enabled)
    (becomes : Becomes cls (if condition then [.become target] else []) object object') :
    Turn up object object' := by
  split at becomes
  · exact turn_of_become down becomes
  · cases becomes
    exact .still rfl rfl

theorem turn_of_hears (accepted : Machine.accepts p.cls object.phase event.kind = true)
    (becomes : Becomes p.cls (reaction p.cls supported up [] object event) object object') :
    Turn up object object' := by
  cases event with
  | shutdownStart =>
    obtain ⟨_, makes, rfl⟩ := becomes
    cases makes
    exact .still rfl rfl
  | shutdownFinish => exact turn_of_become (by decide) becomes
  | rxSetAttr attributes =>
    have apply : ObjectClass.siteManager ≠ p.cls := by cases p <;> decide
    simp only [reaction, apply.symm, if_false, becomes_single, Action.Makes] at becomes
    rcases becomes with rfl | rfl <;> exact .still rfl rfl
  | rxOpstart =>
    have same : object' = object := by
      simp only [reaction] at becomes
      split at becomes <;> exact becomes_single.mp becomes
    subst same
    exact .still rfl rfl
  | opstartAck =>
    have offline := Machine.offline_of_answer p.cls_ne_channel (.inl rfl) accepted
    obtain ⟨middle, makes, rest⟩ := becomes
    cases makes
    cases up with
    | false =>
      cases rest
      exact .starts offline rfl
    | true =>
      cases eq_entered_of_become rest
      exact .starts rfl rfl
  | opstartNack cause =>
    have offline := Machine.offline_of_answer p.cls_ne_channel (.inr rfl) accepted
    cases becomes_single.mp becomes
    refine .loses ?_ rfl
    rw [offline]
    decide
  | swAct =>
    obtain ⟨_, makes, rest⟩ := becomes
    cases makes
    refine turn_of_become ?_ rest
    cases supported <;> decide
  | omlUp =>
    have only : reaction p.cls supported up [] object .omlUp = [.repeatState] := by
      cases p <;> simp [reaction, Half.cls]
    rw [only] at becomes
    cases becomes_single.mp becomes
    exact .still rfl rfl
  | rslUp | phyLinkUp =>
    simp only [reaction] at becomes
    split at becomes
    · rename_i due
      obtain ⟨_, linked, started⟩ := due
      cases eq_entered_of_become becomes
      subst linked
      exact .starts rfl started
    · cases becomes
      exact .still rfl rfl
  | rslDown | phyLinkDown | disable | bbTranscEnabled | rcarrierEnabled | btsEnabled | btsDisabled =>
    exact turn_of_condition (by decide) becomes
  | bbTranscDisabled | rcarrierDisabled =>
    simp only [reaction] at becomes
    split at becomes
    · cases becomes
      exact .still rfl rfl
    · exact turn_of_become (by decide) becomes

theorem Step.turn (step : Step p.cls up object object') : Turn up object object' := by
  cases step with
  | hears supported event accepted becomes => exact turn_of_hears accepted becomes
  | administered admin => exact .still rfl rfl

def Poised (object : ManagedObject) : Prop :=
  object.started = true → object.phase = .offline ∨ object.phase = .enabled

def Rightful (up : Bool) (object : ManagedObject) : Prop :=
  object.phase = .enabled → object.started = true ∧ up = true

def Roused (up : Bool) (object : ManagedObject) : Prop :=
  object.started = true → up = true → object.phase = .enabled

/-- It is enabled just while it is started and the links are up. -/
structure InStep (up : Bool) (object : ManagedObject) : Prop where
  poised : object.Poised
  rightful : object.Rightful up
  roused : object.Roused up

theorem Poised.turn (poised : object.Poised) (turn : Turn up object object') : object'.Poised := by
  cases turn with
  | still phase started =>
    rw [Poised, phase, started]
    exact poised
  | loses _ lost => simp [Poised, lost]
  | starts phase _ => cases up <;> simp [Poised, phase]

theorem Rightful.turn (rightful : object.Rightful up) (turn : Turn up object object') :
    object'.Rightful up := by
  cases turn with
  | still phase started =>
    rw [Rightful, phase, started]
    exact rightful
  | loses phase _ => exact fun enabled => absurd enabled phase
  | starts phase started => cases up <;> simp [Rightful, phase, started]

theorem Roused.turn (roused : object.Roused up) (turn : Turn up object object') : object'.Roused up := by
  cases turn with
  | still phase started =>
    rw [Roused, phase, started]
    exact roused
  | loses _ lost => simp [Roused, lost]
  | starts phase _ => cases up <;> simp [Roused, phase]

theorem InStep.turn (inStep : object.InStep up) (turn : Turn up object object') : object'.InStep up :=
  ⟨inStep.poised.turn turn, inStep.rightful.turn turn, inStep.roused.turn turn⟩

theorem InStep.of_notInstalled (poised : object.Poised) (up : Bool) (gone : object.phase = .notInstalled) :
    object.InStep up := by
  have lost : object.started ≠ true := by
    intro started
    rcases poised started with phase | phase <;> rw [gone] at phase <;> cases phase
  refine ⟨poised, ?_, fun started => absurd started lost⟩
  rw [Rightful, gone]
  rintro ⟨⟩

theorem InStep.enabled_iff (inStep : object.InStep up) :
    object.phase = .enabled ↔ object.started = true ∧ up = true :=
  ⟨inStep.rightful, fun due => inStep.roused due.1 due.2⟩

end ManagedObject

namespace Tree

def Has (tree : Tree) (id : ObjectId) (P : ManagedObject → Prop) : Prop :=
  ∀ object, tree.get? id = some object → P object

def InStep (tree : Tree) : Prop :=
  ∀ (p : Half) (bts trx : Nat),
    tree.Has (p.id bts trx) (ManagedObject.InStep (linked tree (p.id bts trx)))

variable {tree tree' : Tree} {p : Half} {bts trx : Nat} {P : ManagedObject → Prop}

theorem Evolves.has {up : Bool} (evolves : tree.Evolves tree') (links : linked tree (p.id bts trx) = up)
    (turn : ∀ {object object'}, P object → ManagedObject.Turn up object object' → P object')
    (has : tree.Has (p.id bts trx) P) : tree'.Has (p.id bts trx) P := by
  refine evolves.keeps (fun object object' holds step => turn holds ?_) has
  rw [p.objectClass_id, links] at step
  exact step.turn

theorem Evolves.inStep (evolves : tree.Evolves tree') (inStep : tree.InStep) : tree'.InStep := by
  intro p bts trx
  rw [linked_congr evolves.links]
  exact evolves.has rfl .turn (inStep p bts trx)

section links

variable {f : Transceiver → Transceiver} {id : ObjectId}

theorem linked_part (tree : Tree) (bts trx : Nat) (p : Half) :
    linked tree (p.id bts trx) = ((tree.links bts trx).1 && (tree.links bts trx).2) := by
  cases p <;> rfl

theorem found_of_linked (up : linked tree (p.id bts trx) = true) :
    ∃ t, tree.transceiver? bts trx = some t := by
  rw [linked_part, links] at up
  cases found : tree.transceiver? bts trx with
  | none => simp [found] at up
  | some t => exact ⟨t, rfl⟩

theorem linked_raised (raises : ∀ t, (t.rslUp → (f t).rslUp) ∧ (t.phyUp → (f t).phyUp))
    (up : linked tree (p.id bts trx) = true) :
    linked (tree.modifyTransceiver bts trx f) (p.id bts trx) = true := by
  obtain ⟨t, found⟩ := found_of_linked up
  have raised := raises t
  simp only [linked_part, links_of_found found, Bool.and_eq_true, Bool.or_eq_true] at up
  simp only [linked_part, links_modifyTransceiver_self f found, Bool.and_eq_true, Bool.or_eq_true]
  exact ⟨up.1.imp_left raised.1, up.2.imp_left raised.2⟩

theorem linked_of_lowered (lowers : ∀ t, ((f t).rslUp → t.rslUp) ∧ ((f t).phyUp → t.phyUp))
    (up : linked (tree.modifyTransceiver bts trx f) (p.id bts trx) = true) :
    linked tree (p.id bts trx) = true := by
  obtain ⟨t', found'⟩ := found_of_linked up
  rw [transceiver?_modifyTransceiver_self, Option.map_eq_some_iff] at found'
  obtain ⟨t, found, _⟩ := found'
  have lowered := lowers t
  simp only [linked_part, links_modifyTransceiver_self f found, Bool.and_eq_true, Bool.or_eq_true] at up
  simp only [linked_part, links_of_found found, Bool.and_eq_true, Bool.or_eq_true]
  exact ⟨up.1.imp_left lowered.1, up.2.imp_left lowered.2⟩

end links

end Tree

namespace Management

variable {id : ObjectId} {event last : Event} {events : List Event} {object : ManagedObject}
  {p : Half} {bts trx : Nat} {site site' : Site} {up : Bool} {P Q : ManagedObject → Prop}

theorem offered_cases (still : event ≠ .shutdownFinish) (found : site.tree.get? id = some object)
    (h : dispatchIfAccepted dispatch id event site = .ok site') :
    (Machine.accepts id.objectClass object.phase event.kind = false ∧ site' = site) ∨
      ∃ object', Becomes id.objectClass
          (reaction id.objectClass (supported site.tree id) (linked site.tree id) [] object event)
          object object' ∧
        (site.tree.put id object').Evolves site'.tree := by
  cases accepted : Machine.accepts id.objectClass object.phase event.kind with
  | false =>
    rw [dispatchIfAccepted_of_refused dispatch found accepted] at h
    cases h
    exact .inl ⟨rfl, rfl⟩
  | true =>
    rw [dispatchIfAccepted_of_accepted dispatch found accepted] at h
    obtain ⟨object', same, _, h⟩ := performed_of_dispatchWithin h
    cases found.symm.trans same
    have found : (site.record (.dispatched id event.kind)).tree.get? id = some object := found
    obtain ⟨object', becomes, after⟩ := perform_hears (dispatchWithin_develops _) still found h
    exact .inr ⟨object', becomes, after⟩

theorem offered_has (still : event ≠ .shutdownFinish)
    (turn : ∀ {object object'}, Q object →
      ManagedObject.Turn (linked site.tree (p.id bts trx)) object object' → Q object')
    (refused : ∀ {object}, site.tree.get? (p.id bts trx) = some object →
      Machine.accepts p.cls object.phase event.kind = false → Q object)
    (taken : ∀ {object object' supported}, site.tree.get? (p.id bts trx) = some object →
      Becomes p.cls
        (reaction p.cls supported (linked site.tree (p.id bts trx)) [] object event) object object' →
      Q object')
    (h : dispatchIfAccepted dispatch (p.id bts trx) event site = .ok site') :
    site'.tree.Has (p.id bts trx) Q := by
  have evolves := dispatch_develops.offer _ _ site site' h
  intro object' found'
  have present : site.tree.contains (p.id bts trx) = true := by
    rw [← evolves.contains]
    exact Option.isSome_iff_exists.mpr ⟨object', found'⟩
  obtain ⟨object, found⟩ := Option.isSome_iff_exists.mp present
  rcases offered_cases still found h with ⟨unheard, rfl⟩ | ⟨middle, becomes, after⟩
  · cases found.symm.trans found'
    rw [p.objectClass_id] at unheard
    exact refused found unheard
  · rw [p.objectClass_id] at becomes
    refine after.has (Tree.linked_congr (fun _ _ => Tree.links_modify ..) _) turn ?_ object' found'
    intro object'' place
    cases place.symm.trans (Tree.get?_put_self middle found)
    exact taken found becomes

theorem linkUp_rouses (news : event = .rslUp ∨ event = .phyLinkUp)
    (poised : site.tree.Has (p.id bts trx) ManagedObject.Poised)
    (h : dispatchIfAccepted dispatch (p.id bts trx) event site = .ok site') :
    site'.tree.Has (p.id bts trx) (ManagedObject.Roused (linked site.tree (p.id bts trx))) := by
  have still : event ≠ .shutdownFinish := by rcases news with rfl | rfl <;> rintro ⟨⟩
  refine offered_has still .turn ?_ ?_ h
  · intro object found refused started _
    rcases poised object found started with offline | enabled
    · rcases news with rfl | rfl <;> rw [offline] at refused <;> cases p <;> cases refused
    · exact enabled
  · intro object object' supported found becomes
    have reacts : reaction p.cls supported (linked site.tree (p.id bts trx)) [] object event =
        if object.phase = .offline ∧ linked site.tree (p.id bts trx) ∧ object.started then
          [.become .enabled] else [] := by
      rcases news with rfl | rfl <;> rfl
    rw [reacts] at becomes
    split at becomes
    · cases eq_entered_of_become becomes
      exact fun _ _ => rfl
    · rename_i undue
      cases becomes
      intro started up
      exact (poised object found started).resolve_left fun offline => undue ⟨offline, up, started⟩

theorem phyLinkDown_disables
    (h : dispatchIfAccepted dispatch (p.id bts trx) .phyLinkDown site = .ok site') :
    site'.tree.Has (p.id bts trx) (ManagedObject.Rightful (linked site.tree (p.id bts trx))) := by
  refine offered_has (by rintro ⟨⟩) .turn ?_ ?_ h
  · intro object _ refused enabled
    rw [enabled] at refused
    cases p <;> cases refused
  · intro object object' supported _ becomes enabled
    simp only [reaction] at becomes
    split at becomes
    · cases eq_entered_of_become becomes
      cases enabled
    · cases becomes
      contradiction

theorem tellTransceiver_has
    (turnP : ∀ {object object'}, P object → ManagedObject.Turn up object object' → P object')
    (turnQ : ∀ {object object'}, Q object → ManagedObject.Turn up object object' → Q object')
    (gains : ∀ {site site'}, linked site.tree (p.id 0 trx) = up → site.tree.Has (p.id 0 trx) P →
      dispatchIfAccepted dispatch (p.id 0 trx) last site = .ok site' → site'.tree.Has (p.id 0 trx) Q)
    (links : linked site.tree (p.id 0 trx) = up) (has : site.tree.Has (p.id 0 trx) P)
    (h : Manager.tellTransceiver trx (events ++ [last]) site = .ok site') :
    site'.tree.Has (p.id 0 trx) Q := by
  have told {site site' : Site} (links : linked site.tree (p.id 0 trx) = up)
      (has : site.tree.Has (p.id 0 trx) P)
      (h : (events ++ [last]).foldlM (fun site event =>
        dispatchIfAccepted dispatch (p.id 0 trx) event site) site = .ok site') :
      site'.tree.Has (p.id 0 trx) Q := by
    rw [List.foldlM_append] at h
    obtain ⟨middle, first, h⟩ := bind_eq_ok h
    rw [List.foldlM_cons] at h
    obtain ⟨final, second, h⟩ := bind_eq_ok h
    cases h
    have before := offerAll_evolves first
    exact gains ((Tree.linked_congr before.links _).trans links) (before.has links turnP has) second
  obtain ⟨middle, first, second⟩ := bind_eq_ok h
  cases p with
  | carrier =>
    have before := offerAll_evolves first
    exact (offerAll_evolves second).has ((Tree.linked_congr before.links _).trans links) turnQ
      (told links has first)
  | baseband =>
    have before := offerAll_evolves first
    exact told ((Tree.linked_congr before.links _).trans links) (before.has links turnP has) second

end Management

section relinked

variable {tree tree' : Tree} {trx : Nat} {last : Event} {hardware : Hardware} {site : Site}

section keep

variable {f : Transceiver → Transceiver}
  (keep : ∀ t, (f t).carrier = t.carrier ∧ (f t).baseband = t.baseband ∧ (f t).channels = t.channels)

include keep

theorem Tree.InStep.relinked (inStep : tree.InStep)
    (evolves : (tree.modifyTransceiver 0 trx f).Evolves tree')
    (own : ∀ p : Half, tree'.Has (p.id 0 trx)
      (ManagedObject.InStep (linked (tree.modifyTransceiver 0 trx f) (p.id 0 trx)))) :
    tree'.InStep := by
  intro p b t
  rw [linked_congr evolves.links]
  by_cases same : 0 = b ∧ trx = t
  · obtain ⟨rfl, rfl⟩ := same
    exact own p
  · have links : linked (tree.modifyTransceiver 0 trx f) (p.id b t) = linked tree (p.id b t) := by
      rw [linked_part, linked_part, links_modifyTransceiver_of_ne]
      exact Decidable.not_and_iff_not_or_not.mp same
    refine evolves.has rfl .turn ?_
    intro object found
    rw [get?_modifyTransceiver_links keep] at found
    rw [links]
    exact inStep p b t object found

/-- One part of being in step the objects keep as the links change, the other they gain by the last event
they are told. -/
theorem tellTransceiver_inStep (kept gained : Bool → ManagedObject → Prop) (events : List Event)
    (keepTurn : ∀ {up object object'}, kept up object →
      ManagedObject.Turn up object object' → kept up object')
    (gainTurn : ∀ {up object object'}, gained up object →
      ManagedObject.Turn up object object' → gained up object')
    (both : ∀ {up object}, kept up object → gained up object → object.InStep up)
    (keeps : ∀ {p : Half} {object}, object.InStep (linked tree (p.id 0 trx)) →
      kept (linked (tree.modifyTransceiver 0 trx f) (p.id 0 trx)) object)
    (gains : ∀ {p : Half} {site site' : Site},
      site.tree.Has (p.id 0 trx) (kept (linked site.tree (p.id 0 trx))) →
      dispatchIfAccepted dispatch (p.id 0 trx) last site = .ok site' →
      site'.tree.Has (p.id 0 trx) (gained (linked site.tree (p.id 0 trx))))
    (inStep : tree.InStep)
    (told : Manager.tellTransceiver trx (events ++ [last])
      (.quiet (tree.modifyTransceiver 0 trx f) hardware) = .ok site) :
    site.tree.InStep := by
  have evolves := tellTransceiver_evolves told
  refine Tree.InStep.relinked keep inStep evolves fun p => ?_
  let up := linked (tree.modifyTransceiver 0 trx f) (p.id 0 trx)
  have before : (tree.modifyTransceiver 0 trx f).Has (p.id 0 trx) (kept up) := by
    intro object found
    rw [Tree.get?_modifyTransceiver_links keep] at found
    exact keeps (inStep p 0 trx object found)
  have after : site.tree.Has (p.id 0 trx) (gained up) := by
    refine tellTransceiver_has keepTurn gainTurn ?_ rfl before told
    intro site site' links has h
    rw [← links] at has ⊢
    exact gains has h
  intro object found
  exact both (evolves.has rfl keepTurn before object found) (after object found)

theorem linkUp_inStep (events : List Event) (inStep : tree.InStep)
    (raises : ∀ t, (t.rslUp → (f t).rslUp) ∧ (t.phyUp → (f t).phyUp))
    (news : last = .rslUp ∨ last = .phyLinkUp)
    (told : Manager.tellTransceiver trx (events ++ [last])
      (.quiet (tree.modifyTransceiver 0 trx f) hardware) = .ok site) :
    site.tree.InStep := by
  refine tellTransceiver_inStep keep (fun up object => object.Poised ∧ object.Rightful up)
    (fun up object => object.Roused up) events ?_ .turn ?_ ?_ ?_ inStep told
  · exact fun kept turn => ⟨kept.1.turn turn, kept.2.turn turn⟩
  · exact fun kept roused => ⟨kept.1, kept.2, roused⟩
  · intro p object was
    exact ⟨was.poised, fun enabled => (was.rightful enabled).imp_right (Tree.linked_raised raises)⟩
  · exact fun kept h => linkUp_rouses news (fun object found => (kept object found).1) h

theorem linkDown_inStep (events : List Event) (inStep : tree.InStep)
    (lowers : ∀ t, ((f t).rslUp → t.rslUp) ∧ ((f t).phyUp → t.phyUp))
    (told : Manager.tellTransceiver trx (events ++ [.phyLinkDown])
      (.quiet (tree.modifyTransceiver 0 trx f) hardware) = .ok site) :
    site.tree.InStep := by
  refine tellTransceiver_inStep keep (fun up object => object.Poised ∧ object.Roused up)
    (fun up object => object.Rightful up) events ?_ .turn ?_ ?_ ?_ inStep told
  · exact fun kept turn => ⟨kept.1.turn turn, kept.2.turn turn⟩
  · exact fun kept rightful => ⟨kept.1, rightful, kept.2⟩
  · intro p object was
    exact ⟨was.poised, fun started up => was.roused started (Tree.linked_of_lowered lowers up)⟩
  · exact fun _ h => phyLinkDown_disables h

end keep

theorem tearDown_inStep {numTrx : Nat} (shaped : tree.Shaped numTrx) (inStep : tree.InStep)
    (torn : Manager.tearDown (.quiet tree.dropRsl hardware) = .ok site) : site.tree.InStep := by
  have evolves := tearDown_evolves torn
  have takes := tearDown_takesDown
    (shaped.congr fun id => congrArg Option.isSome (Tree.get?_dropRsl tree id)) torn
  intro p b t object found
  have before : tree.dropRsl.Has (p.id b t) ManagedObject.Poised := by
    intro object found
    rw [Tree.get?_dropRsl] at found
    exact (inStep p b t object found).poised
  exact .of_notInstalled (evolves.has rfl .turn before object found) _ (takes.down _ object found).1

end relinked

namespace Manager

variable {manager : Manager} {flags : LinkFlags} {effect : Effect Manager} {numTrx : Nat}

theorem receive_inStep {message : Message} (shaped : manager.tree.Shaped numTrx)
    (inStep : manager.tree.InStep) (received : manager.receive flags message = .ok effect) :
    effect.state.tree.InStep := by
  cases receive_leads received with
  | evolves after => exact after.inStep inStep
  | tearsDown torn after => exact after.inStep (tearDown_inStep shaped inStep torn)
  | relinks relinks told after =>
    have keep := relinks.keep
    refine after.inStep ?_
    cases relinks with
    | phyUp => exact linkUp_inStep keep [.swAct] inStep (fun _ => ⟨id, fun _ => rfl⟩) (.inr rfl) told
    | rslUp => exact linkUp_inStep keep [] inStep (fun _ => ⟨fun _ => rfl, id⟩) (.inl rfl) told
    | phyDown => exact linkDown_inStep keep [] inStep (fun _ => ⟨id, fun up => by cases up⟩) told

theorem Run.inStep {start : Manager} {sent : List Primitive} (run : Run start sent manager)
    (shaped : start.tree.Shaped numTrx) (inStep : start.tree.InStep) : manager.tree.InStep := by
  induction run with
  | start => exact inStep
  | receive flags message run received ih =>
    exact receive_inStep (shaped.congr run.contains) ih received

theorem Fresh.inStep (fresh : Fresh manager) : manager.tree.InStep := by
  obtain ⟨config, hardware, tracing, rfl⟩ := fresh
  intro p bts trx object found
  cases Tree.get?_fresh found
  exact .of_notInstalled (by rintro ⟨⟩) _ rfl

/-- Radio carriers and baseband transceivers are enabled just while they are started and both links of
their transceiver are up, in every state a manager can reach. -/
theorem enabled_iff_started_linked (reachable : Reachable manager) {id : ObjectId} {bts trx : Nat}
    (half : id = .radioCarrier bts trx ∨ id = .basebandTransceiver bts trx) {object : ManagedObject}
    (found : manager.tree.get? id = some object) :
    object.phase = .enabled ↔ object.started = true ∧ manager.tree.links bts trx = (true, true) := by
  obtain ⟨start, sent, fresh, run⟩ := reachable
  obtain ⟨_, shaped⟩ := fresh.shaped
  have inStep := run.inStep shaped fresh.inStep
  obtain ⟨p, rfl⟩ : ∃ p : Half, id = p.id bts trx := by
    rcases half with rfl | rfl
    · exact ⟨.carrier, rfl⟩
    · exact ⟨.baseband, rfl⟩
  have links : linked manager.tree (p.id bts trx) = true ↔ manager.tree.links bts trx = (true, true) := by
    rw [Tree.linked_part, Bool.and_eq_true, Prod.ext_iff]
  rw [← links]
  exact (inStep p bts trx object found).enabled_iff

theorem enabled_iff_started_linked_baseband :
    ∃ manager carrier baseband, Reachable manager ∧
      manager.tree.get? (.radioCarrier 0 0) = some carrier ∧
      manager.tree.get? (.basebandTransceiver 0 0) = some baseband ∧
      baseband.phase = .enabled ∧ baseband.started = true ∧ manager.tree.links 0 0 = (true, true) ∧
      carrier.phase = .offline ∧ carrier.started = false := by
  have linked : ∃ effect, (ofConfig (.ofHosts ["bsc"]) (.fresh 1)).receive .initial
      (.ofPrimitive ⟨0⟩ (.link (.phyLinkUp 0))) = .ok effect ∧ ∃ effect', effect.state.receive .initial
      (.ofPrimitive ⟨0⟩ (.link (.rslLinkUp 0))) = .ok effect' ∧ ∃ effect'', effect'.state.receive .initial
      (.ofPrimitive ⟨0⟩ (.request (.start (.basebandTransceiver 0 0)))) = .ok effect'' ∧
      ∃ carrier baseband, effect''.state.tree.get? (.radioCarrier 0 0) = some carrier ∧
        effect''.state.tree.get? (.basebandTransceiver 0 0) = some baseband ∧
        baseband.phase = .enabled ∧ carrier.phase = .offline ∧ carrier.started = false :=
    ⟨_, rfl, _, rfl, _, rfl, _, _, rfl, rfl, rfl, rfl, rfl⟩
  obtain ⟨_, first, _, second, effect, third, carrier, baseband, foundCarrier, found, up, down, idle⟩ :=
    linked
  have reachable : Reachable effect.state :=
    ⟨_, _, ⟨_, _, false, rfl⟩, .receive _ _ (.receive _ _ (.receive _ _ .start first) second) third⟩
  obtain ⟨started, links⟩ := (enabled_iff_started_linked reachable (.inr rfl) found).mp up
  exact ⟨effect.state, carrier, baseband, reachable, foundCarrier, found, up, started, links, down, idle⟩

end Manager

end BaseStation
