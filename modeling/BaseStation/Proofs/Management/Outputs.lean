import BaseStation.Proofs.Management.Teardown
import BaseStation.Proofs.Management.Throughout

namespace BaseStation

open Management

def Primitive.isOutput : Primitive → Bool
  | .report _ | .releaseTimeslot _ _ => true
  | _ => false

namespace Management

theorem isOutput_news (id : ObjectId) (before after : ObjectState) :
    (news id before after).all Primitive.isOutput = true := by
  unfold news
  split <;> rfl

theorem isOutput_released (id : ObjectId) (target : Phase) :
    (released id target).all Primitive.isOutput = true := by
  cases id <;> cases target <;> rfl

def Site.Speaks (site : Site) : Prop := site.outputs.all Primitive.isOutput = true

variable {site site' : Site}

theorem Site.Speaks.say (speaks : site.Speaks) {said : List Primitive}
    (outputs : site'.outputs = site.outputs ++ said) (own : said.all Primitive.isOutput = true) :
    site'.Speaks := by
  rw [Site.Speaks, outputs, List.all_append, speaks, own]
  rfl

theorem steady_speaks : Steady fun site site' => site.Speaks → site'.Speaks where
  refl _ speaks := speaks
  trans first last speaks := last (first speaks)
  touches touch speaks := by
    have told (said : List Report) : (said.map Primitive.report).all Primitive.isOutput = true := by
      simp [Primitive.isOutput]
    cases touch with
    | reports said _ _ _ _ outputs => exact speaks.say outputs (told said)
    | changes said _ _ _ _ _ outputs => exact speaks.say outputs (told said)
    | takes _ _ _ outputs => exact speaks.say outputs rfl
    | settles target _ settled =>
      subst settled
      refine speaks.say (List.append_assoc ..) ?_
      rw [List.all_append, isOutput_released, isOutput_news]
      rfl

end Management

namespace Manager

variable {manager : Manager} {flags : LinkFlags} {time : FrameTime} {effect : Effect Manager}

structure Answers (manager : Manager) (flags : LinkFlags) (effect : Effect Manager) : Prop where
  sent : ∀ message ∈ effect.sent, ∃ time primitive, primitive.isOutput = true ∧
    message = .ofPrimitive time primitive
  stopping : effect.state.stopping = manager.stopping
  linkFailed : effect.flags.linkFailed = flags.linkFailed

theorem answers_silent (manager : Manager) (flags : LinkFlags) :
    manager.Answers flags (.silent manager flags) :=
  ⟨fun _ mem => absurd mem List.not_mem_nil, rfl, rfl⟩

theorem run_answers {step : Step} (speaks : ∀ site site', step site = .ok site' → site.Speaks → site'.Speaks)
    (ran : manager.run flags time step = .ok effect) : manager.Answers flags effect := by
  obtain ⟨site, stepped, ran⟩ := bind_eq_ok ran
  obtain ⟨site', settled, last⟩ := bind_eq_ok ran
  cases last
  have said : site'.Speaks := steady_speaks.runAtMost settled (speaks _ _ stepped rfl)
  refine ⟨fun message mem => ?_, rfl, rfl⟩
  obtain ⟨primitive, out, rfl⟩ := List.mem_map.mp mem
  exact ⟨time, primitive, List.all_eq_true.mp said primitive out, rfl⟩

theorem receiveRequest_answers {request : Request}
    (received : manager.receiveRequest flags time request = .ok effect) : manager.Answers flags effect := by
  rw [receiveRequest_eq] at received
  split at received
  · exact run_answers (fun _ _ => steady_speaks.stepOfRequest) received
  · cases received
    refine ⟨fun message mem => ?_, rfl, rfl⟩
    exact ⟨time, _, rfl, List.mem_singleton.mp mem⟩

theorem receiveLink_answers {control : LinkControl} (lives : control ≠ .abisLinkFailed)
    (received : manager.receiveLink flags time control = .ok effect) : manager.Answers flags effect := by
  have tell {manager' : Manager} {flags' : LinkFlags} {trx : Nat} {events : List Event}
      (ran : manager'.run flags' time (tellTransceiver trx events) = .ok effect)
      (stopping : manager'.stopping = manager.stopping) (linkFailed : flags'.linkFailed = flags.linkFailed) :
      manager.Answers flags effect := by
    have answers := run_answers (fun _ _ => steady_speaks.tellTransceiver) ran
    exact ⟨answers.sent, answers.stopping.trans stopping, answers.linkFailed.trans linkFailed⟩
  rw [receiveLink_eq] at received
  cases control with
  | phyLinkUp trx | phyLinkDown trx | rslLinkUp trx =>
    dsimp only at received
    split at received
    · exact tell received rfl rfl
    · cases received
      exact answers_silent ..
  | omlLinkUp =>
    have answers := run_answers (fun _ _ => steady_speaks.offer (steady_speaks.dispatch _ _ _)) received
    exact ⟨answers.sent, answers.stopping, answers.linkFailed⟩
  | abisLinkFailed => exact absurd rfl lives

theorem receive_answers {message : Message} (lives : message.primitive ≠ .link .abisLinkFailed)
    (received : manager.receive flags message = .ok effect) : manager.Answers flags effect := by
  rw [receive_eq] at received
  split at received
  · exact receiveRequest_answers received
  · rename_i control told
    refine receiveLink_answers ?_ received
    rintro rfl
    exact lives told
  · cases received
    exact answers_silent ..

/-- Whatever it receives, a manager sends nothing but its outputs, and it does not say that the link failed. -/
theorem receive_outputs {message : Message} (received : manager.receive flags message = .ok effect) :
    (∀ message ∈ effect.sent, ∃ time primitive, primitive.isOutput = true ∧
      message = .ofPrimitive time primitive) ∧ effect.flags.linkFailed = flags.linkFailed := by
  by_cases failed : message.primitive = .link .abisLinkFailed
  · simp only [receive_eq, failed, receiveLink_eq] at received
    obtain ⟨effect', ran, last⟩ := bind_eq_ok received
    cases last
    have answers := run_answers (fun _ _ => steady_speaks.tearDown) ran
    exact ⟨answers.sent, answers.linkFailed⟩
  · have answers := receive_answers failed received
    exact ⟨answers.sent, answers.linkFailed⟩

theorem receive_failure {numTrx : Nat} {message : Message} (sound : manager.tree.Sound)
    (shaped : manager.tree.Shaped numTrx) (failed : message.primitive = .link .abisLinkFailed)
    (received : manager.receive flags message = .ok effect) :
    effect.state.stopping = true ∧ effect.flags = { flags with omlLinkUp := false } ∧
      (∀ id object, effect.state.tree.get? id = some object → object.phase = .notInstalled) ∧
      ∀ trx < numTrx, ∀ ts < ObjectId.slots,
        .ofPrimitive message.created (.releaseTimeslot trx ts) ∈ effect.sent := by
  have shaped' : manager.tree.dropRsl.Shaped numTrx :=
    shaped.congr fun id => congrArg Option.isSome (Tree.get?_dropRsl manager.tree id)
  obtain ⟨site, torn, settled⟩ := tearDown_settles sound.dropRsl manager.hardware
  have takes := tearDown_takesDown shaped' torn
  have ran : { manager with tree := manager.tree.dropRsl }.run { flags with omlLinkUp := false }
      message.created tearDown = _ := run_of_ok _ _ torn settled
  simp only [receive_eq, failed, receiveLink_eq, ran] at received
  cases received
  refine ⟨rfl, rfl, fun id object found => (takes.down id object found).1, fun trx place ts slot => ?_⟩
  have released : (trx, ts) ∈ releases site.outputs := by
    rw [takes.released]
    simp [place, slot]
  obtain ⟨primitive, out, same⟩ := List.mem_filterMap.mp released
  apply List.mem_map_of_mem
  cases primitive <;> cases same
  exact out

end Manager

end BaseStation
