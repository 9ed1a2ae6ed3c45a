import BaseStation.Management.Manager
import BaseStation.Proofs.Management.Settle

namespace BaseStation.Management

structure Chains (R : Site → Site → Prop) : Prop where
  refl : ∀ site, R site site
  trans : ∀ {site middle site'}, R site middle → R middle site' → R site site'

namespace Chains

variable {R : Site → Site → Prop} {dispatch : Dispatcher} {id : ObjectId} {event : Event}
  {site site' : Site}

theorem foldlM (chains : Chains R) {α : Type} {step : Site → α → Except Fault Site} (items : List α)
    (one : ∀ a ∈ items, ∀ site site', step site a = .ok site' → R site site')
    (h : items.foldlM step site = .ok site') : R site site' := by
  induction items generalizing site with
  | nil =>
    cases h
    exact chains.refl _
  | cons a rest ih =>
    rw [List.foldlM_cons] at h
    obtain ⟨middle, first, last⟩ := bind_eq_ok h
    have begins := one a List.mem_cons_self site middle first
    exact chains.trans begins (ih (fun b mem => one b (List.mem_cons_of_mem _ mem)) last)

theorem offer (chains : Chains R) (told : ∀ site', dispatch id event site = .ok site' → R site site')
    (h : dispatchIfAccepted dispatch id event site = .ok site') : R site site' := by
  obtain ⟨result, tried, h⟩ := bind_eq_ok h
  cases h
  obtain ⟨accepted, _, tried⟩ := bind_eq_ok tried
  cases accepted with
  | false =>
    cases tried
    exact chains.refl _
  | true =>
    obtain ⟨_, dispatched, tried⟩ := bind_eq_ok tried
    cases tried
    exact told _ dispatched

theorem notice (chains : Chains R) {previous target : Phase}
    (told : ∀ id' event site site', notice? id.objectClass previous target = some event →
      dispatch id' event site = .ok site' → R site site')
    (h : giveNotice dispatch id previous target site = .ok site') : R site site' := by
  unfold giveNotice at h
  split at h
  · rename_i notice
    exact told _ _ site site' notice h
  · rename_i notice
    exact chains.foldlM _ (fun id' _ site _ h =>
      chains.offer (fun site' => told id' _ site site' notice) h) h
  · rename_i notice
    exact chains.foldlM _ (fun id' _ site _ h =>
      chains.offer (fun site' => told id' _ site site' notice) h) h
  · cases h
    exact chains.refl _

theorem runNext (chains : Chains R) {waiting : PendingEvent}
    (told : ∀ site', Management.dispatch waiting.id waiting.event site = .ok site' → R site site')
    (h : runNext waiting site = .ok site') : R site site' := by
  rw [Management.runNext_eq] at h
  split at h
  · cases h
    exact chains.refl _
  · split at h
    · exact chains.offer told h
    · exact told site' h

theorem changeAdmin (chains : Chains R) {admin : AdminState}
    (refused : ∀ cause, R site (answerAdmin id (.error cause) site))
    (locked : admin = .locked → site.hardware.changeAdmin id admin = .ok () →
      ∀ site', Management.dispatch id .disable site = .ok site' → R site site')
    (published : ∀ site site', publish id none none (some admin) site = .ok site' →
      R site (answerAdmin id (.ok ()) site'))
    (h : Manager.changeAdmin id admin site = .ok site') : R site site' := by
  have publishes {site : Site}
      (h : (do return answerAdmin id (.ok ()) (← publish id none none (some admin) site)) =
        Except.ok site') : R site site' := by
    obtain ⟨middle, first, last⟩ := bind_eq_ok h
    cases last
    exact published site middle first
  rw [Manager.changeAdmin_eq] at h
  split at h
  · cases h
    exact refused _
  · rename_i accepted
    by_cases locks : admin = .locked
    · simp only [if_pos locks] at h
      obtain ⟨middle, first, last⟩ := bind_eq_ok h
      have disabled := chains.offer (locked locks accepted) first
      exact chains.trans disabled (publishes last)
    · simp only [if_neg locks] at h
      exact publishes h

theorem offerAll (chains : Chains R) {events : List Event}
    (told : ∀ event ∈ events, ∀ site site', dispatch id event site = .ok site' → R site site')
    (h : events.foldlM (fun site event => dispatchIfAccepted dispatch id event site) site = .ok site') :
    R site site' :=
  chains.foldlM events (fun event mem site _ h => chains.offer (told event mem site) h) h

theorem tellTransceiver (chains : Chains R) {trx : Nat} {events : List Event}
    (told : ∀ event ∈ events, ∀ id site site',
      Management.dispatch id event site = .ok site' → R site site')
    (h : Manager.tellTransceiver trx events site = .ok site') : R site site' := by
  obtain ⟨middle, first, last⟩ := bind_eq_ok h
  have carrier := chains.offerAll (fun event mem => told event mem _) first
  have baseband := chains.offerAll (fun event mem => told event mem _) last
  exact chains.trans carrier baseband

end Chains

end BaseStation.Management
