import BaseStation.Proofs.Management.Reaction
import BaseStation.Proofs.Object.Machine

namespace BaseStation

def Event.isRequest : Event → Bool
  | .rxSetAttr _ | .rxOpstart => true
  | _ => false

structure ManagedObject.Alike (object object' : ManagedObject) : Prop where
  phase : object'.phase = object.phase
  enabled : object'.isEnabled = object.isEnabled

namespace Management

def Action.notice? (cls : ObjectClass) (phase : Phase) : Action → Option Event
  | .become target => Management.notice? cls phase target
  | _ => none

def Action.alone? (cls : ObjectClass) (object : ManagedObject) : Action → Option ManagedObject
  | .announceShutdown =>
    some { object with published := updated object.published none none (some .shutdown) }
  | .repeatState | .reportSoftware => some object
  | .become target =>
    if Machine.mayMove cls object.phase target then some (object.entered cls target) else none
  | .acknowledge => some { object with started := true }
  | .refuse _ => some { object with started := false }
  | .apply _ | .keep _ | .start | .startConfigured | .tell _ _ | .offer _ _ => none

inductive Action.IsQuiet : Action → Prop
  | announceShutdown : IsQuiet .announceShutdown
  | repeatState : IsQuiet .repeatState
  | reportSoftware : IsQuiet .reportSoftware
  | acknowledge : IsQuiet .acknowledge
  | refuse (cause : NackCause) : IsQuiet (.refuse cause)

theorem Action.IsQuiet.alone? {action : Action} (quiet : action.IsQuiet) (cls : ObjectClass)
    (object : ManagedObject) :
    ∃ object', action.alone? cls object = some object' ∧ object.Alike object' := by
  cases quiet <;> exact ⟨_, rfl, rfl, rfl⟩

theorem Action.IsQuiet.notice?_eq_none {action : Action} (quiet : action.IsQuiet) (cls : ObjectClass)
    (phase : Phase) : action.notice? cls phase = none := by
  cases quiet <;> rfl

end Management

namespace Tree

open Management

/-- How a tree changes when an object of it hears of an event, if it can. -/
abbrev Hearer := ObjectId → Event → Tree → Option Tree

def offer? (hear : Hearer) : Hearer := fun id event tree => do
  let object ← tree.get? id
  if Machine.accepts id.objectClass object.phase event.kind then hear id event tree else some tree

def hearEach? (hear : Hearer) (ids : List ObjectId) (event : Event) (tree : Tree) : Option Tree :=
  ids.foldlM (fun tree id => hear id event tree) tree

def heed? (hear : Hearer) (id : ObjectId) (notice : Option Event) (tree : Tree) : Option Tree :=
  match id, notice with
  | .bts _, some event => hear .gprsNse event tree
  | .radioCarrier bts trx, some event | .basebandTransceiver bts trx, some event =>
    hearEach? (offer? hear) (tree.channelIds bts trx) event tree
  | _, _ => some tree

theorem heed?_none (hear : Hearer) (id : ObjectId) (tree : Tree) : heed? hear id none tree = some tree := by
  cases id <;> rfl

def act? (hear : Hearer) (id : ObjectId) (tree : Tree) : Action → Option Tree
  | .tell other event => hear other event tree
  | .offer other event => offer? hear other event tree
  | action => do
    let object ← tree.get? id
    let object' ← action.alone? id.objectClass object
    heed? hear id (action.notice? id.objectClass object.phase) (tree.put id object')

theorem act?_of_alone (hear : Hearer) {id : ObjectId} {tree : Tree} {action : Action}
    {object object' : ManagedObject} (found : tree.get? id = some object)
    (alone : action.alone? id.objectClass object = some object') :
    act? hear id tree action =
      heed? hear id (action.notice? id.objectClass object.phase) (tree.put id object') := by
  cases action <;> first | cases alone; done | simp [act?, found, alone]

def hear? : Nat → Hearer
  | 0, _, _, _ => none
  | depth + 1, id, event, tree => do
    let object ← tree.get? id
    if Machine.accepts id.objectClass object.phase event.kind then
      (reactionIn tree id object event).foldlM (act? (hear? depth) id) tree
    else none

def Reacts (depth : Nat) (tree : Tree) (id : ObjectId) (object : ManagedObject) (event : Event)
    (tree' : Tree) : Prop :=
  (reactionIn tree id object event).foldlM (act? (hear? depth) id) tree = some tree'

theorem hear?_of_reacts {depth : Nat} {tree tree' : Tree} {id : ObjectId} {object : ManagedObject}
    {event : Event} (found : tree.get? id = some object)
    (reacts : Reacts depth tree id object event tree')
    (accepted : Machine.accepts id.objectClass object.phase event.kind = true) :
    hear? (depth + 1) id event tree = some tree' := by
  simp only [hear?, found, Option.bind_eq_bind, Option.bind_some, accepted, if_true]
  exact reacts

theorem foldlM_preserves {α β : Type} {f : Tree → α → Option Tree} (view : Tree → β)
    (same : ∀ tree a tree', f tree a = some tree' → view tree' = view tree) (items : List α)
    {tree tree' : Tree} (h : items.foldlM f tree = some tree') : view tree' = view tree := by
  induction items generalizing tree with
  | nil =>
    cases h
    rfl
  | cons a rest ih =>
    simp only [List.foldlM_cons, Option.bind_eq_bind, Option.bind_eq_some_iff] at h
    obtain ⟨middle, first, last⟩ := h
    exact (ih last).trans (same tree a middle first)

def KeepsObjects (hear : Hearer) : Prop :=
  ∀ id event tree tree', hear id event tree = some tree' → ∀ other, tree'.contains other = tree.contains other

theorem KeepsObjects.offer {hear : Hearer} (keeps : KeepsObjects hear) : KeepsObjects (offer? hear) := by
  intro id event tree tree' h other
  simp only [offer?, Option.bind_eq_bind, Option.bind_eq_some_iff] at h
  obtain ⟨object, _, h⟩ := h
  split at h
  · exact keeps id event tree tree' h other
  · cases h
    rfl

theorem KeepsObjects.act {hear : Hearer} (keeps : KeepsObjects hear) {id : ObjectId} {tree tree' : Tree}
    (action : Action) (h : act? hear id tree action = some tree') (other : ObjectId) :
    tree'.contains other = tree.contains other := by
  have heeds : ∀ notice tree tree', heed? hear id notice tree = some tree' →
      tree'.contains other = tree.contains other := by
    intro notice tree tree' h
    unfold heed? at h
    split at h
    · exact keeps _ _ _ _ h other
    · exact foldlM_preserves (·.contains other) (fun a id b h => keeps.offer id _ a b h other) _ h
    · exact foldlM_preserves (·.contains other) (fun a id b h => keeps.offer id _ a b h other) _ h
    · cases h
      rfl
  cases action with
  | tell target event => exact keeps target event tree tree' h other
  | offer target event => exact keeps.offer target event tree tree' h other
  | _ =>
    simp only [act?, Option.bind_eq_bind, Option.bind_eq_some_iff] at h
    obtain ⟨object, _, object', _, h⟩ := h
    exact (heeds _ _ _ h).trans (contains_modify ..)

theorem hear?_keepsObjects (depth : Nat) : KeepsObjects (hear? depth) := by
  induction depth with
  | zero =>
    intro id event tree tree' h
    cases h
  | succ depth ih =>
    intro id event tree tree' h other
    simp only [hear?, Option.bind_eq_bind, Option.bind_eq_some_iff] at h
    obtain ⟨object, _, h⟩ := h
    split at h
    · exact foldlM_preserves (·.contains other) (fun a action b h => ih.act action h other) _ h
    · cases h

end Tree

namespace Management

def Ends (outcome : Except Fault Site) (tree : Tree) (pending : List PendingEvent) : Prop :=
  ∃ site, outcome = .ok site ∧ site.tree = tree ∧ site.pending = pending

theorem Ends.bind {outcome : Except Fault Site} {step : Step} {tree tree' : Tree}
    {pending pending' : List PendingEvent} (first : Ends outcome tree pending)
    (next : ∀ site, site.tree = tree → site.pending = pending → Ends (step site) tree' pending') :
    Ends (outcome >>= step) tree' pending' := by
  obtain ⟨site, rfl, same, waiting⟩ := first
  exact next site same waiting

/-- A dispatcher does to the tree what the hearer says, and no event of the equipment is raised. -/
def Follows (dispatch : Dispatcher) (hear : Tree.Hearer) : Prop :=
  ∀ id event site tree, hear id event site.tree = some tree →
    Ends (dispatch id event site) tree site.pending

theorem ends_foldlM {α : Type} {step : Site → α → Except Fault Site} {change : Tree → α → Option Tree}
    (follows : ∀ a site tree, change site.tree a = some tree → Ends (step site a) tree site.pending)
    (items : List α) {site : Site} {tree : Tree} (h : items.foldlM change site.tree = some tree) :
    Ends (items.foldlM step site) tree site.pending := by
  induction items generalizing site with
  | nil => exact ⟨site, rfl, by simpa using h, rfl⟩
  | cons a rest ih =>
    simp only [List.foldlM_cons, Option.bind_eq_bind, Option.bind_eq_some_iff] at h ⊢
    obtain ⟨middle, first, last⟩ := h
    refine (follows a site middle first).bind ?_
    intro site' same waiting
    rw [← waiting]
    exact ih (by rw [same]; exact last)

section follows

variable {dispatch : Dispatcher} {hear : Tree.Hearer}

theorem Follows.offer (follows : Follows dispatch hear) :
    Follows (dispatchIfAccepted dispatch) (Tree.offer? hear) := by
  intro id event site tree h
  simp only [Tree.offer?, Option.bind_eq_bind, Option.bind_eq_some_iff] at h
  obtain ⟨object, found, h⟩ := h
  split at h
  · rename_i accepted
    rw [dispatchIfAccepted_of_accepted dispatch found accepted]
    exact follows id event site tree h
  · rename_i refused
    rw [dispatchIfAccepted_of_refused dispatch found (by simpa using refused)]
    cases h
    exact ⟨site, rfl, rfl, rfl⟩

theorem Follows.each (follows : Follows dispatch hear) (ids : List ObjectId) {event : Event}
    {site : Site} {tree : Tree} (h : Tree.hearEach? hear ids event site.tree = some tree) :
    Ends (dispatchEach dispatch ids event site) tree site.pending :=
  ends_foldlM (fun id site tree h => follows id event site tree h) ids h

theorem Follows.notice (follows : Follows dispatch hear) {id : ObjectId} {previous target : Phase}
    {site : Site} {tree : Tree}
    (h : Tree.heed? hear id (notice? id.objectClass previous target) site.tree = some tree) :
    Ends (giveNotice dispatch id previous target site) tree site.pending := by
  unfold giveNotice
  generalize notice? id.objectClass previous target = notice at h ⊢
  cases notice with
  | none =>
    rw [Tree.heed?_none] at h
    exact ⟨site, by cases id <;> rfl, Option.some.inj h, rfl⟩
  | some event =>
    cases id with
    | bts bts => exact follows _ _ site tree h
    | radioCarrier bts trx | basebandTransceiver bts trx => exact follows.offer.each _ h
    | siteManager | gprsNse | channel _ _ _ => exact ⟨site, rfl, Option.some.inj h, rfl⟩

theorem run_of_alone (dispatch : Dispatcher) {action : Action} {id : ObjectId} {site : Site}
    {object object' : ManagedObject} (found : site.tree.get? id = some object)
    (alone : action.alone? id.objectClass object = some object')
    (still : ∀ target, action ≠ .become target) :
    Ends (action.run dispatch id site) (site.tree.put id object') site.pending := by
  cases action with
  | become target => exact absurd rfl (still target)
  | apply _ | keep _ | start | startConfigured | tell _ _ | offer _ _ => cases alone
  | announceShutdown =>
    cases alone
    exact ⟨_, publish_of_found found none none (some .shutdown), rfl, rfl⟩
  | repeatState =>
    cases alone
    exact ⟨_, republish_of_found found, (Tree.put_self found).symm, rfl⟩
  | reportSoftware =>
    cases alone
    exact ⟨_, rfl, (Tree.put_self found).symm, rfl⟩
  | acknowledge =>
    cases alone
    exact ⟨_, acknowledgeStart_of_found found, rfl, rfl⟩
  | refuse cause =>
    cases alone
    exact ⟨_, refuseStart_of_found cause found, rfl, rfl⟩

theorem Follows.act (follows : Follows dispatch hear) {id : ObjectId} {site : Site} {tree : Tree}
    (action : Action) (h : Tree.act? hear id site.tree action = some tree) :
    Ends (action.run dispatch id site) tree site.pending := by
  cases action with
  | tell other event => exact follows other event site tree h
  | offer other event => exact follows.offer other event site tree h
  | become target =>
    simp only [Tree.act?, Option.bind_eq_bind, Option.bind_eq_some_iff, Action.alone?] at h
    obtain ⟨object, found, object', moved, h⟩ := h
    split at moved
    · rename_i mayMove
      cases moved
      rw [Action.run, changePhaseWith_of_found dispatch found mayMove]
      have h : Tree.heed? hear id (notice? id.objectClass object.phase target)
          (site.settle id object target).tree = some tree := h
      exact follows.notice h
    · cases moved
  | _ =>
    simp only [Tree.act?, Option.bind_eq_bind, Option.bind_eq_some_iff] at h
    obtain ⟨object, found, object', alone, h⟩ := h
    cases (Tree.heed?_none hear id _).symm.trans h
    refine run_of_alone dispatch found alone ?_
    intro target same
    cases same

end follows

theorem dispatchWithin_follows (depth : Nat) : Follows (dispatchWithin depth) (Tree.hear? depth) := by
  -- what an object tells others is dispatched one level further down
  induction depth with
  | zero =>
    intro id event site tree h
    cases h
  | succ depth ih =>
    intro id event site tree h
    simp only [Tree.hear?, Option.bind_eq_bind, Option.bind_eq_some_iff] at h
    obtain ⟨object, found, h⟩ := h
    split at h
    · rename_i accepted
      rw [dispatchWithin_succ depth found accepted]
      have h : (reactionIn site.tree id object event).foldlM (Tree.act? (Tree.hear? depth) id)
          (site.record (.dispatched id event.kind)).tree = some tree := h
      exact ends_foldlM (fun action site tree h => ih.act action h) _ h
    · cases h

end Management

end BaseStation
