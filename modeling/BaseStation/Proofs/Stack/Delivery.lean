import BaseStation.Proofs.Management.Settle
import BaseStation.Stack.Run

namespace BaseStation.Stack

variable {τ : Type} {stack stack' : Stack τ} {part : Part τ} {entity : Entity} {effect : Effect (Part τ)}

theorem entity_of_part? (found : stack.part? entity = some part) : part.entity = entity := by
  simpa using List.find?_some found

theorem part?_modifyPart {f : Part τ → Part τ}
    (keeps : ∀ part : Part τ, part.entity = entity → (f part).entity = entity) (stack : Stack τ) (other : Entity) :
    (stack.modifyPart entity f).part? other =
      (stack.part? other).map fun part => if part.entity = entity then f part else part := by
  have same (part : Part τ) : (if part.entity = entity then f part else part).entity = part.entity := by
    split
    · rename_i own
      rw [keeps part own, own]
    · rfl
  simp only [part?, modifyPart, List.find?_map, Function.comp_def, same]

theorem part?_settle_self (found : stack.part? effect.state.entity = some part) :
    (stack.settle effect).part? effect.state.entity = some effect.state := by
  have placed := part?_modifyPart (f := fun _ => effect.state) (fun _ _ => rfl) stack effect.state.entity
  rw [found, Option.map_some, if_pos (entity_of_part? found)] at placed
  exact placed

theorem part?_settle_of_ne (stack : Stack τ) {other : Entity} (ne : effect.state.entity ≠ other) :
    (stack.settle effect).part? other = stack.part? other := by
  have placed := part?_modifyPart (f := fun _ => effect.state) (fun _ _ => rfl) stack other
  refine placed.trans ?_
  cases found : stack.part? other with
  | none => rfl
  | some part => rw [Option.map_some, if_neg (entity_of_part? found ▸ Ne.symm ne)]

section keeps

variable {P : Stack τ → Prop} {count rounds : Nat}

theorem deliverMany_keeps (delivers : ∀ stack stack', stack.deliver = .ok stack' → P stack → P stack')
    (delivered : stack.deliverMany count = .ok stack') (holds : P stack) : P stack' := by
  induction count generalizing stack with
  | zero =>
    cases delivered
    exact holds
  | succ count ih =>
    obtain ⟨next, first, rest⟩ := bind_eq_ok delivered
    exact ih rest (delivers stack next first holds)

theorem deliverRounds_keeps (delivers : ∀ stack stack', stack.deliver = .ok stack' → P stack → P stack')
    (delivered : stack.deliverRounds rounds = .ok stack') (holds : P stack) : P stack' := by
  induction rounds generalizing stack with
  | zero =>
    cases delivered
    exact holds
  | succ rounds ih =>
    obtain ⟨next, first, rest⟩ := bind_eq_ok delivered
    exact ih rest (deliverMany_keeps delivers first holds)

variable [Abis.Transport τ] {now : Nat} {entities : List Entity}

theorem startParts_keeps (starts : ∀ stack stack' entity, startPart now stack entity = .ok stack' → P stack → P stack')
    (started : entities.foldlM (startPart now) stack = .ok stack') (holds : P stack) : P stack' := by
  induction entities generalizing stack with
  | nil =>
    cases started
    exact holds
  | cons entity rest ih =>
    rw [List.foldlM_cons] at started
    obtain ⟨next, first, others⟩ := bind_eq_ok started
    exact ih others (starts stack next entity first holds)

theorem frame_keeps {stop : Bool}
    (starts : ∀ stack stack' entity, startPart now stack entity = .ok stack' → P stack → P stack')
    (delivers : ∀ stack stack', stack.deliver = .ok stack' → P stack → P stack')
    (ticks : ∀ stack : Stack τ, P stack → P { stack with time := stack.time.advance 1 })
    (runs : stack.frame now = .ok (stop, stack')) (holds : P stack) : P stack' := by
  obtain ⟨began, started, runs⟩ := bind_eq_ok runs
  obtain ⟨idle, delivered, ends⟩ := bind_eq_ok runs
  obtain ⟨settled, delivered', last⟩ := bind_eq_ok ends
  cases last
  have first := startParts_keeps starts started holds
  have second := deliverRounds_keeps delivers delivered first
  exact ticks settled (deliverRounds_keeps delivers delivered' second)

end keeps

end BaseStation.Stack
