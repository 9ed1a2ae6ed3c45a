import BaseStation.Proofs.Management.Hearing

namespace BaseStation

open Management

namespace ManagedObject

def hear? (cls : ObjectClass) (supported : Bool) (event : Event) (object : ManagedObject) :
    Option ManagedObject :=
  (reaction cls supported true [] object event).foldlM (fun object action => action.alone? cls object)
    object

def offered (cls : ObjectClass) (supported : Bool) (event : Event) (object : ManagedObject) :
    ManagedObject :=
  if Machine.accepts cls object.phase event.kind then (object.hear? cls supported event).getD object
  else object

theorem hear?_eq_offered {cls : ObjectClass} (supported : Bool) {event : Event} {object : ManagedObject}
    (alone : cls.keepsOutcome = true) (quiet : event.isRequest = false)
    (accepted : Machine.accepts cls object.phase event.kind = true) :
    object.hear? cls supported event = some (object.offered cls supported event) := by
  unfold offered
  rw [if_pos accepted]
  obtain ⟨phase, published, attributesSet, started, attributes⟩ := object
  cases cls <;> first | cases alone; done | skip
  all_goals
    cases phase <;> cases event <;>
      first
      | cases accepted; done
      | cases quiet; done
      | cases supported <;> rfl

/-- The phase is one that the class uses, and the object counts as enabled in just one. -/
structure Sound (cls : ObjectClass) (object : ManagedObject) : Prop where
  inUse : (Machine.row? cls object.phase).isSome
  enabled : object.isEnabled = true ↔ object.phase = .enabled

theorem Sound.alike {cls : ObjectClass} {object object' : ManagedObject} (sound : object.Sound cls)
    (alike : object.Alike object') : object'.Sound cls := by
  refine ⟨?_, ?_⟩
  · rw [alike.phase]
    exact sound.inUse
  · rw [alike.phase, alike.enabled]
    exact sound.enabled

theorem Sound.alone {cls : ObjectClass} {action : Action} {object object' : ManagedObject}
    (sound : object.Sound cls) (h : action.alone? cls object = some object') : object'.Sound cls := by
  cases action with
  | apply _ | keep _ | start | startConfigured | tell _ _ | offer _ _ => cases h
  | announceShutdown | repeatState | reportSoftware | acknowledge | refuse _ =>
    cases h
    exact ⟨sound.inUse, sound.enabled⟩
  | become target =>
    simp only [Action.alone?] at h
    split at h
    · rename_i mayMove
      cases h
      simp only [Machine.mayMove, Bool.and_eq_true] at mayMove
      refine ⟨mayMove.1, ?_⟩
      cases target <;> simp [entered, enteredState, isEnabled, ObjectState.initial]
    · cases h

theorem Sound.actions {cls : ObjectClass} {actions : List Action} {object object' : ManagedObject}
    (sound : object.Sound cls)
    (h : actions.foldlM (fun object action => action.alone? cls object) object = some object') :
    object'.Sound cls := by
  induction actions generalizing object with
  | nil =>
    cases h
    exact sound
  | cons action rest ih =>
    simp only [List.foldlM_cons, Option.bind_eq_bind, Option.bind_eq_some_iff] at h
    obtain ⟨middle, first, last⟩ := h
    exact ih (sound.alone first) last

theorem Sound.offered {cls : ObjectClass} {object : ManagedObject} (supported : Bool) (event : Event)
    (sound : object.Sound cls) : (object.offered cls supported event).Sound cls := by
  unfold ManagedObject.offered
  split
  · cases heard : object.hear? cls supported event with
    | none => exact sound
    | some object' => exact sound.actions heard
  · exact sound

theorem offered_shutdownFinish (cls : ObjectClass) (supported : Bool) (object : ManagedObject)
    (alone : cls.keepsOutcome = true) :
    (object.offered cls supported .shutdownFinish).phase = .notInstalled := by
  obtain ⟨phase, published, attributesSet, started, attributes⟩ := object
  cases cls <;> first | cases alone; done | (cases phase <;> rfl)

section channel

variable {object : ManagedObject} {event : Event}

theorem offered_channel_uninstalled (supported : Bool) (uninstalled : object.phase = .notInstalled)
    (installs : event ≠ .swAct) :
    (object.offered .channel supported event).phase = .notInstalled := by
  obtain ⟨phase, published, attributesSet, started, attributes⟩ := object
  cases uninstalled
  cases event <;> first | rfl | exact absurd rfl installs

theorem offered_channel_ready (ready : object.phase ≠ .dependency) :
    (object.offered .channel true event).phase ≠ .dependency := by
  obtain ⟨phase, published, attributesSet, started, attributes⟩ := object
  intro waits
  cases phase <;> cases event <;> first | exact absurd rfl ready | cases waits

theorem offered_channel_woken (wakes : event = .bbTranscEnabled ∨ event = .rcarrierEnabled) :
    (object.offered .channel true event).phase ≠ .dependency := by
  obtain ⟨phase, published, attributesSet, started, attributes⟩ := object
  intro waits
  rcases wakes with rfl | rfl <;> cases phase <;> cases waits

end channel

end ManagedObject

namespace Tree

variable {tree : Tree} {id : ObjectId} {object : ManagedObject} {event : Event}

theorem heed?_alone (hear : Hearer) (notice : Option Event) (tree : Tree)
    (alone : id.objectClass.keepsOutcome = true) : heed? hear id notice tree = some tree := by
  cases id <;> first | cases alone; done | cases notice <;> rfl

theorem act?_alone (hear : Hearer) {object' : ManagedObject}
    (alone : id.objectClass.keepsOutcome = true) (actions : List Action)
    (found : tree.get? id = some object)
    (h : actions.foldlM (fun object action => action.alone? id.objectClass object) object =
      some object') :
    actions.foldlM (act? hear id) tree = some (tree.put id object') := by
  induction actions generalizing tree object with
  | nil =>
    cases h
    rw [put_self found]
    rfl
  | cons action rest ih =>
    simp only [List.foldlM_cons, Option.bind_eq_bind, Option.bind_eq_some_iff] at h ⊢
    obtain ⟨middle, first, last⟩ := h
    refine ⟨tree.put id middle, ?_, ?_⟩
    · rw [act?_of_alone hear found first, heed?_alone hear _ _ alone]
    · rw [ih (get?_put_self middle found) last, put_put]

theorem hear?_alone (depth : Nat) (alone : id.objectClass.keepsOutcome = true)
    (quiet : event.isRequest = false) (found : tree.get? id = some object)
    (accepted : Machine.accepts id.objectClass object.phase event.kind = true) :
    hear? (depth + 1) id event tree =
      some (tree.put id (object.offered id.objectClass (supported tree id) event)) := by
  have heard := ManagedObject.hear?_eq_offered (supported tree id) alone quiet accepted
  have react : reactionIn tree id object event =
      reaction id.objectClass (supported tree id) true [] object event := by
    cases id <;> first | cases alone; done | rfl
  simp only [hear?, found, accepted, react, Option.bind_eq_bind, Option.bind_some, if_true]
  exact act?_alone _ alone _ found heard

theorem offer?_alone (depth : Nat) (alone : id.objectClass.keepsOutcome = true)
    (quiet : event.isRequest = false) (found : tree.get? id = some object) :
    offer? (hear? (depth + 1)) id event tree =
      some (tree.put id (object.offered id.objectClass (supported tree id) event)) := by
  simp only [offer?, found, Option.bind_eq_bind, Option.bind_some]
  split
  · rename_i accepted
    exact hear?_alone depth alone quiet found accepted
  · rename_i refused
    rw [ManagedObject.offered, if_neg refused, put_self found]

end Tree

end BaseStation
