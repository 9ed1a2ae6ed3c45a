import BaseStation.Proofs.Management.Reports

namespace BaseStation

open Management

namespace Management

def Agree (invariant : Site → Prop) (step step' : Step) : Prop :=
  ∀ site, invariant site → step' site = step site ∧ ∀ after, step site = .ok after → invariant after

def AgreeOn (invariant : Site → Prop) (dispatch dispatch' : Dispatcher) : Prop :=
  ∀ id event, Agree invariant (dispatch id event) (dispatch' id event)

section agree

variable {invariant : Site → Prop} {step step' next next' : Step}

theorem Agree.keeps (keeps : ∀ site after, invariant site → step site = .ok after → invariant after) :
    Agree invariant step step :=
  fun site holds => ⟨rfl, fun after => keeps site after holds⟩

theorem Agree.bind (first : Agree invariant step step') (second : Agree invariant next next') :
    Agree invariant (fun site => step site >>= next) (fun site => step' site >>= next') := by
  intro site holds
  obtain ⟨same, kept⟩ := first site holds
  dsimp only
  rw [same]
  cases ran : step site with
  | error fault => exact ⟨rfl, by rintro after ⟨⟩⟩
  | ok middle => exact second middle (kept middle ran)

theorem Agree.foldlM {α : Type} {f f' : Site → α → Except Fault Site} (items : List α)
    (one : ∀ a ∈ items, Agree invariant (f · a) (f' · a)) :
    Agree invariant (items.foldlM f ·) (items.foldlM f' ·) := by
  induction items with
  | nil => exact .keeps fun site after holds h => by cases h; exact holds
  | cons a rest ih =>
    have first := one a List.mem_cons_self
    have later := ih fun b mem => one b (List.mem_cons_of_mem _ mem)
    simp only [List.foldlM_cons]
    exact first.bind later

variable {dispatch dispatch' : Dispatcher}

theorem AgreeOn.offer (agree : AgreeOn invariant dispatch dispatch') :
    AgreeOn invariant (dispatchIfAccepted dispatch) (dispatchIfAccepted dispatch') := by
  intro id event site holds
  cases found : site.tree.get? id with
  | none =>
    have lost (dispatch : Dispatcher) :
        dispatchIfAccepted dispatch id event site = .error (.unknownObject id) := by
      simp [dispatchIfAccepted, tryDispatch, Management.accepts, Site.object, found]
      rfl
    rw [lost, lost]
    exact ⟨rfl, by rintro after ⟨⟩⟩
  | some object =>
    cases accepted : Machine.accepts id.objectClass object.phase event.kind with
    | true =>
      rw [dispatchIfAccepted_of_accepted dispatch found accepted,
        dispatchIfAccepted_of_accepted dispatch' found accepted]
      exact agree id event site holds
    | false =>
      rw [dispatchIfAccepted_of_refused dispatch found accepted,
        dispatchIfAccepted_of_refused dispatch' found accepted]
      exact ⟨rfl, by rintro after ⟨⟩; exact holds⟩

theorem AgreeOn.each (agree : AgreeOn invariant dispatch dispatch') (ids : List ObjectId) (event : Event) :
    Agree invariant (dispatchEach dispatch ids event) (dispatchEach dispatch' ids event) :=
  .foldlM ids fun id _ => agree id event

theorem AgreeOn.notice (agree : AgreeOn invariant dispatch dispatch') (id : ObjectId)
    (previous target : Phase) :
    Agree invariant (giveNotice dispatch id previous target) (giveNotice dispatch' id previous target) := by
  intro site holds
  unfold giveNotice
  split
  · exact agree _ _ site holds
  · exact agree.offer.each _ _ site holds
  · exact agree.offer.each _ _ site holds
  · exact ⟨rfl, by rintro after ⟨⟩; exact holds⟩

end agree

end Management

end BaseStation
