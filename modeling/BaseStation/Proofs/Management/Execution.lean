import Mathlib.Logic.Function.Iterate
import BaseStation.Proofs.Management.Nesting

namespace BaseStation.Management

/-- One level of dispatch: an object is told of an event, and the dispatcher is for those that it tells others of. -/
def nest (dispatch : Dispatcher) : Dispatcher := fun id event site => do
  let object ← site.object id
  Machine.requireEvent id.objectClass id object.phase event.kind
  handle dispatch id object.phase event (site.record (.dispatched id event.kind))

def notices (tree : Tree) (id : ObjectId) (previous target : Phase) : List Action :=
  match id, notice? id.objectClass previous target with
  | .bts _, some event => [.tell .gprsNse event]
  | .radioCarrier bts trx, some event | .basebandTransceiver bts trx, some event =>
    (tree.channelIds bts trx).map (.offer · event)
  | _, _ => []

theorem giveNotice_eq_perform (dispatch : Dispatcher) (id : ObjectId) (previous target : Phase) (site : Site) :
    giveNotice dispatch id previous target site =
      perform dispatch id (notices site.tree id previous target) site := by
  cases id with
  | siteManager | gprsNse | channel _ _ _ => rfl
  | bts bts =>
    cases told : notice? (ObjectId.bts bts).objectClass previous target <;>
      simp [giveNotice, notices, told, Action.run]
  | radioCarrier bts trx =>
    cases told : notice? (ObjectId.radioCarrier bts trx).objectClass previous target <;>
      simp [giveNotice, notices, told, perform_offer]
  | basebandTransceiver bts trx =>
    cases told : notice? (ObjectId.basebandTransceiver bts trx).objectClass previous target <;>
      simp [giveNotice, notices, told, perform_offer]

/-- What an object may do about the event. It tells those that it informs, and of no request, and only on a
request does it turn to the equipment. -/
def Action.Fits (id : ObjectId) (event : Event) : Action → Prop
  | .tell other told | .offer other told => Informs id other ∧ told.isRequest = false
  | .apply _ | .start | .startConfigured => event.isRequest = true
  | _ => True

section fits

variable {tree : Tree} {id : ObjectId} {event : Event} {action : Action}

theorem notices_fits (tree : Tree) (id : ObjectId) (previous target : Phase) (event : Event) :
    ∀ action ∈ notices tree id previous target, action.forOthers = true ∧ action.Fits id event := by
  intro action mem
  unfold notices at mem
  split at mem
  · rename_i bts told notice
    cases List.mem_singleton.mp mem
    exact ⟨rfl, .nse bts, notice?_isRequest notice⟩
  · rename_i bts trx told notice
    obtain ⟨other, own, rfl⟩ := List.mem_map.mp mem
    obtain ⟨ts, rfl⟩ := eq_channel_of_mem own
    exact ⟨rfl, .carrierChannel bts trx ts, notice?_isRequest notice⟩
  · rename_i bts trx told notice
    obtain ⟨other, own, rfl⟩ := List.mem_map.mp mem
    obtain ⟨ts, rfl⟩ := eq_channel_of_mem own
    exact ⟨rfl, .basebandChannel bts trx ts, notice?_isRequest notice⟩
  · exact absurd mem List.not_mem_nil

theorem reactionIn_fits (tree : Tree) (id : ObjectId) (object : ManagedObject) (event : Event) :
    ∀ action ∈ reactionIn tree id object event, action.Fits id event := by
  intro action mem
  have hands := reactionIn_handsDown tree id object event action mem
  have due := reaction_dueTo id.objectClass (supported tree id) (linked tree id) (children tree id) object event
    action mem
  have quiet (others : action.forOthers = true) : event.isRequest = false := by
    cases event with
    | rxSetAttr _ | rxOpstart =>
      have taken := List.mem_singleton.mp mem
      split at taken <;> rw [taken] at others <;> cases others
    | _ => rfl
  cases due with
  | tell other event | offer other event =>
    have child : other ∈ children tree id := by cases hands rfl; assumption
    exact ⟨children_informs child, quiet rfl⟩
  | apply _ | start | startConfigured => rfl
  | _ => trivial

end fits

/-- An object at work: the event that it was told of, and what it still does about it. -/
structure Activity where
  id : ObjectId
  event : Event
  actions : List Action

/-- A dispatch under way. Each of the objects at work was told by the one after it, which waits for it. -/
structure Execution where
  activities : List Activity
  site : Site

namespace Execution

def tell (id : ObjectId) (event : Event) (execution : Execution) : Except Fault Execution := do
  let object ← execution.site.object id
  Machine.requireEvent id.objectClass id object.phase event.kind
  return ⟨⟨id, event, reactionIn execution.site.tree id object event⟩ :: execution.activities,
    execution.site.record (.dispatched id event.kind)⟩

def offer (id : ObjectId) (event : Event) (execution : Execution) : Except Fault Execution := do
  if ← accepts execution.site id event.kind then execution.tell id event else return execution

def become (target : Phase) (activity : Activity) (others : List Activity) (site : Site) :
    Except Fault Execution := do
  let object ← site.object activity.id
  Machine.requireMove activity.id.objectClass activity.id object.phase target
  let settled := site.settle activity.id object target
  let passed := notices settled.tree activity.id object.phase target
  return ⟨{ activity with actions := passed ++ activity.actions } :: others, settled⟩

def step : Execution → Except Fault Execution
  | ⟨[], site⟩ => .ok ⟨[], site⟩
  | ⟨⟨_, _, []⟩ :: others, site⟩ => .ok ⟨others, site⟩
  | ⟨⟨id, event, action :: actions⟩ :: others, site⟩ =>
    match action with
    | .tell other told => tell other told ⟨⟨id, event, actions⟩ :: others, site⟩
    | .offer other told => offer other told ⟨⟨id, event, actions⟩ :: others, site⟩
    | .become target => become target ⟨id, event, actions⟩ others site
    | action => do
      -- nobody else is told by any other action
      let site ← action.run (fun _ _ => .ok) id site
      return ⟨⟨id, event, actions⟩ :: others, site⟩

def start (id : ObjectId) (event : Event) (site : Site) : Except Fault Execution := tell id event ⟨[], site⟩

def run (count : Nat) (execution : Except Fault Execution) : Except Fault Execution :=
  (· >>= step)^[count] execution

def leaving (outcome : Except Fault Site) (others : List Activity) : Except Fault Execution :=
  outcome >>= fun site => .ok ⟨others, site⟩

def Leads (beginning : Except Fault Execution) (outcome : Except Fault Site) (others : List Activity) : Prop :=
  ∃ count, run count beginning = leaving outcome others

variable {execution : Execution} {id : ObjectId} {event : Event} {beginning : Except Fault Execution}
  {outcome outcome' : Except Fault Site} {others : List Activity} {site : Site}

theorem run_add (count later : Nat) (execution : Except Fault Execution) :
    run (later + count) execution = run later (run count execution) :=
  Function.iterate_add_apply _ later count execution

theorem run_succ (count : Nat) (execution : Except Fault Execution) :
    run (count + 1) execution = run count execution >>= step :=
  Function.iterate_succ_apply' _ count execution

theorem run_leaving_nil (count : Nat) (outcome : Except Fault Site) :
    run count (leaving outcome []) = leaving outcome [] := by
  refine Function.iterate_fixed ?_ count
  cases outcome <;> rfl

theorem leaving_injective (same : leaving outcome others = leaving outcome' others) : outcome = outcome' := by
  cases outcome <;> cases outcome' <;> cases same <;> rfl

namespace Leads

theorem ended (others : List Activity) (site : Site) : Leads (.ok ⟨others, site⟩) (.ok site) others := ⟨0, rfl⟩

theorem failed (others : List Activity) (fault : Fault) : Leads (.error fault) (.error fault) others := ⟨0, rfl⟩

theorem step (leads : Leads execution.step outcome others) : Leads (.ok execution) outcome others := by
  obtain ⟨count, ran⟩ := leads
  exact ⟨count + 1, ran⟩

theorem bind {middle : List Activity} {next : Step} (first : Leads beginning outcome middle)
    (rest : ∀ site, outcome = .ok site → Leads (.ok ⟨middle, site⟩) (next site) others) :
    Leads beginning (outcome >>= next) others := by
  obtain ⟨count, ran⟩ := first
  cases outcome with
  | error fault => exact ⟨count, ran⟩
  | ok site =>
    obtain ⟨later, continued⟩ := rest site rfl
    refine ⟨later + count, ?_⟩
    rw [run_add, ran]
    exact continued

theorem unique (leads : Leads beginning outcome []) (leads' : Leads beginning outcome' []) : outcome = outcome' := by
  obtain ⟨count, ran⟩ := leads
  obtain ⟨count', ran'⟩ := leads'
  have later := run_add count count' beginning
  rw [ran, run_leaving_nil, Nat.add_comm, run_add, ran', run_leaving_nil] at later
  exact leaving_injective later.symm

end Leads

section carries

variable {dispatch : Dispatcher} {rank : Nat} {actions : List Action} {told : Event} {other : ObjectId}

/-- Objects of a lower rank that are told of an event do in an execution what the dispatcher has them do. -/
def Carries (dispatch : Dispatcher) (rank : Nat) : Prop :=
  ∀ id event (execution : Execution), id.rank < rank →
    Leads (execution.tell id event) (dispatch id event execution.site) execution.activities

theorem Leads.offer (tells : Leads (execution.tell id event) (dispatch id event execution.site) others)
    (own : execution.activities = others) :
    Leads (execution.offer id event) (dispatchIfAccepted dispatch id event execution.site) others := by
  subst own
  cases found : execution.site.tree.get? id with
  | none =>
    have lost : accepts execution.site id event.kind = .error (.unknownObject id) := by
      simp only [accepts, Site.object, found]
      rfl
    simp only [Execution.offer, dispatchIfAccepted, tryDispatch, lost]
    exact .failed _ _
  | some object =>
    have asked : accepts execution.site id event.kind =
        .ok (Machine.accepts id.objectClass object.phase event.kind) := by
      simp only [accepts, Site.object_of_found found, ok_bind]
      rfl
    simp only [Execution.offer, asked, ok_bind]
    split
    · rename_i accepted
      rw [dispatchIfAccepted_of_accepted dispatch found accepted]
      exact tells
    · rename_i refused
      rw [dispatchIfAccepted_of_refused dispatch found (Bool.eq_false_iff.mpr refused)]
      exact .ended _ execution.site

theorem Leads.perform {rest : List Action}
    (one : ∀ action ∈ actions, ∀ rest site, Leads (.ok ⟨⟨id, event, action :: rest⟩ :: others, site⟩)
      (action.run dispatch id site) (⟨id, event, rest⟩ :: others)) :
    Leads (.ok ⟨⟨id, event, actions ++ rest⟩ :: others, site⟩) (perform dispatch id actions site)
      (⟨id, event, rest⟩ :: others) := by
  induction actions generalizing site with
  | nil => exact .ended _ site
  | cons action actions ih =>
    rw [perform_cons]
    refine (one action List.mem_cons_self _ site).bind fun middle _ => ?_
    exact ih fun next mem => one next (List.mem_cons_of_mem _ mem)

section act

variable {rest : List Action} {action : Action}

theorem Leads.alone (dispatch : Dispatcher) (own : action.forOthers = false)
    (still : ∀ target, action ≠ .become target) :
    Leads (.ok ⟨⟨id, event, action :: rest⟩ :: others, site⟩) (action.run dispatch id site)
      (⟨id, event, rest⟩ :: others) := by
  refine .step ?_
  have taken : Execution.step ⟨⟨id, event, action :: rest⟩ :: others, site⟩ =
      action.run dispatch id site >>= fun site => .ok ⟨⟨id, event, rest⟩ :: others, site⟩ := by
    cases action with
    | tell _ _ | offer _ _ => cases own
    | become target => exact absurd rfl (still target)
    | _ => rfl
  rw [taken]
  cases action.run dispatch id site with
  | error fault => exact .failed _ fault
  | ok site => exact .ended _ site

theorem Carries.ask (carries : Carries dispatch rank) (low : id.rank ≤ rank) (asks : action.forOthers = true)
    (fits : action.Fits id event) :
    Leads (.ok ⟨⟨id, event, action :: rest⟩ :: others, site⟩) (action.run dispatch id site)
      (⟨id, event, rest⟩ :: others) := by
  refine .step ?_
  cases action with
  | tell other told => exact carries other told ⟨_, site⟩ (Nat.lt_of_lt_of_le fits.1.rank_lt low)
  | offer other told => exact .offer (carries other told ⟨_, site⟩ (Nat.lt_of_lt_of_le fits.1.rank_lt low)) rfl
  | _ => cases asks

theorem Carries.notices (carries : Carries dispatch rank) (low : id.rank ≤ rank) (previous target : Phase) :
    Leads (.ok ⟨⟨id, event, notices site.tree id previous target ++ rest⟩ :: others, site⟩)
      (giveNotice dispatch id previous target site) (⟨id, event, rest⟩ :: others) := by
  rw [giveNotice_eq_perform]
  refine .perform fun action mem rest middle => ?_
  obtain ⟨asks, fits⟩ := notices_fits site.tree id previous target event action mem
  exact carries.ask low asks fits

theorem Carries.become (carries : Carries dispatch rank) (low : id.rank ≤ rank) (target : Phase) :
    Leads (.ok ⟨⟨id, event, .become target :: rest⟩ :: others, site⟩) (changePhaseWith dispatch id target site)
      (⟨id, event, rest⟩ :: others) := by
  refine .step ?_
  show Leads (Execution.become target ⟨id, event, rest⟩ others site) _ _
  cases found : site.tree.get? id with
  | none =>
    obtain ⟨enter, same⟩ := changePhaseWith_eq_move dispatch id target
    simp only [same, move, Execution.become, Site.object, found]
    exact .failed _ _
  | some object =>
    cases mayMove : Machine.mayMove id.objectClass object.phase target with
    | false =>
      obtain ⟨enter, same⟩ := changePhaseWith_eq_move dispatch id target
      simp only [same, move, Execution.become, Site.object_of_found found, ok_bind, Machine.requireMove, mayMove]
      exact .failed _ _
    | true =>
      rw [changePhaseWith_of_found dispatch found mayMove]
      simp only [Execution.become, Site.object_of_found found, ok_bind, Machine.requireMove, mayMove]
      exact carries.notices low object.phase target

theorem Carries.act (carries : Carries dispatch rank) (low : id.rank ≤ rank) (fits : action.Fits id event) :
    Leads (.ok ⟨⟨id, event, action :: rest⟩ :: others, site⟩) (action.run dispatch id site)
      (⟨id, event, rest⟩ :: others) := by
  cases action with
  | become target => exact carries.become low target
  | tell _ _ | offer _ _ => exact carries.ask low rfl fits
  | _ => exact .alone dispatch rfl (by rintro _ ⟨⟩)

end act

theorem Leads.finish (leads : Leads beginning outcome (⟨id, event, []⟩ :: others)) :
    Leads beginning outcome others := by
  have ends : Leads beginning (outcome >>= .ok) others := leads.bind fun site _ => .step (.ended others site)
  rwa [bind_ok] at ends

theorem Carries.nest (carries : Carries dispatch rank) : Carries (nest dispatch) (rank + 1) := by
  intro id event execution low
  cases found : execution.site.tree.get? id with
  | none =>
    simp only [Execution.tell, Management.nest, Site.object, found]
    exact .failed _ _
  | some object =>
    simp only [Execution.tell, Management.nest, Site.object_of_found found, ok_bind, Machine.requireEvent]
    cases accepted : Machine.accepts id.objectClass object.phase event.kind with
    | false => exact .failed _ _
    | true =>
      let recorded := execution.site.record (.dispatched id event.kind)
      let actions := reactionIn execution.site.tree id object event
      have place : recorded.tree.get? id = some object := found
      have handled : handle dispatch id object.phase event recorded = perform dispatch id actions recorded :=
        handle_eq_perform dispatch place accepted
      have fits := reactionIn_fits execution.site.tree id object event
      have worked : Leads (.ok ⟨⟨id, event, actions ++ []⟩ :: execution.activities, recorded⟩)
          (perform dispatch id actions recorded) (⟨id, event, []⟩ :: execution.activities) :=
        .perform fun action mem _ _ => carries.act (Nat.le_of_lt_succ low) (fits action mem)
      rw [List.append_nil] at worked
      show Leads _ (handle dispatch id object.phase event recorded) _
      rw [handled]
      exact worked.finish

theorem dispatchWithin_carries (depth : Nat) : Carries (dispatchWithin depth) depth := by
  induction depth with
  | zero => exact fun _ _ _ low => absurd low (Nat.not_lt_zero _)
  | succ depth ih => exact ih.nest

theorem carries_of_eq_nest (solves : dispatch = nest dispatch) (rank : Nat) : Carries dispatch rank := by
  induction rank with
  | zero => exact fun _ _ _ low => absurd low (Nat.not_lt_zero _)
  | succ rank ih =>
    rw [solves]
    exact ih.nest

theorem dispatch_ends (id : ObjectId) (event : Event) (site : Site) :
    Leads (start id event site) (Management.dispatch id event site) [] :=
  dispatchWithin_carries nesting id event ⟨[], site⟩ id.rank_lt

/-- Whatever does with objects of all ranks what an execution does is dispatch. -/
theorem Carries.eq_dispatch (carries : Carries dispatch nesting) : dispatch = Management.dispatch := by
  funext id event site
  have ends : Leads (start id event site) (dispatch id event site) [] := carries id event ⟨[], site⟩ id.rank_lt
  exact ends.unique (dispatch_ends id event site)

/-- Dispatch is the one solution of its recursive equation. -/
theorem eq_nest_iff : dispatch = nest dispatch ↔ dispatch = Management.dispatch := by
  constructor
  · exact fun solves => (carries_of_eq_nest solves nesting).eq_dispatch
  · rintro rfl
    have deeper : Carries (nest Management.dispatch) nesting := fun id event execution low =>
      (dispatchWithin_carries nesting).nest id event execution (Nat.lt_succ_of_lt low)
    exact deeper.eq_dispatch.symm

end carries

end Execution

end BaseStation.Management
