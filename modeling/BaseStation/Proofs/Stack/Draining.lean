import BaseStation.Proofs.Management.Nesting
import BaseStation.Proofs.Stack.Delivery
import BaseStation.Proofs.Stack.Station

namespace BaseStation

variable {τ : Type} {message other : Message} {fault : Fault}

/-- The second message may be sent as the first is received, by its receiver in some state. -/
def Message.Causes (τ : Type) (message other : Message) : Prop :=
  ∃ (part : Part τ) (flags : LinkFlags) (effect : Effect (Part τ)),
    part.entity = message.dest ∧ part.receive flags message = .ok effect ∧ other ∈ effect.sent

namespace Part

variable {part : Part τ} {flags : LinkFlags} {effect : Effect (Part τ)}

theorem receive_hops (received : part.receive flags message = .ok effect) :
    ∀ other ∈ effect.sent, other.dest.hops < part.entity.hops := by
  intro other mem
  obtain ⟨component, config, shared⟩ := part
  cases component with
  | phy _ | endpoint _ | recorder _ =>
    cases received
    cases mem
  | layer1 layer1 =>
    cases received
    show other.dest.hops < Entity.layer1.hops
    rcases layer1.receive_sent config message other mem with own | own <;> rw [own] <;> decide
  | manager manager =>
    obtain ⟨managed, hears, done⟩ := bind_eq_ok received
    cases done
    show other.dest.hops < Entity.oml.hops
    rcases Manager.receive_sent hears other mem with own | ⟨own, _⟩ <;> rw [own] <;> decide

theorem receive_violates (failed : part.receive flags message = .error fault) : fault.IsViolation := by
  obtain ⟨component, config, shared⟩ := part
  cases component with
  | phy _ | layer1 _ | endpoint _ | recorder _ => cases failed
  | manager manager =>
    rcases bind_eq_error failed with failed | ⟨_, _, done⟩
    · exact Manager.receive_violates failed
    · cases done

end Part

theorem Message.Causes.hops (causes : message.Causes τ other) : other.dest.hops < message.dest.hops := by
  obtain ⟨part, flags, effect, own, received, mem⟩ := causes
  exact own ▸ part.receive_hops received other mem

theorem Message.length_le_of_causes {rest : List Message} (chain : (message :: rest).IsChain (Message.Causes τ)) :
    (message :: rest).length ≤ message.dest.hops + 1 := by
  induction rest generalizing message with
  | nil => exact Nat.succ_le_succ (Nat.zero_le _)
  | cons next rest ih =>
    obtain ⟨causes, chain⟩ := List.isChain_cons_cons.mp chain
    have fewer := causes.hops
    have later := ih chain
    rw [List.length_cons]
    omega

theorem Entity.hops_lt (entity : Entity) : entity.hops < Stack.longestChain := by
  cases entity <;> decide

namespace Stack

variable {stack next stack' : Stack τ} {outcome : Except Fault (Stack τ)} {first rest : List Message}

/-- For as long as a message waits, the one that waits longest is delivered; so many were in the end. -/
inductive Drains : Nat → Stack τ → Except Fault (Stack τ) → Prop
  | done {stack : Stack τ} (idle : stack.queue.messages = []) : Drains 0 stack (.ok stack)
  | fails {stack : Stack τ} {fault : Fault} (waits : stack.queue.messages ≠ [])
      (failed : stack.deliver = .error fault) : Drains 1 stack (.error fault)
  | next {stack next : Stack τ} {outcome : Except Fault (Stack τ)} {count : Nat}
      (waits : stack.queue.messages ≠ []) (delivered : stack.deliver = .ok next)
      (drains : Drains count next outcome) : Drains (count + 1) stack outcome

theorem deliver_causes (waits : stack.queue.messages = message :: rest) (delivered : stack.deliver = .ok next) :
    ∃ sent, next.queue.messages = rest ++ sent ∧ ∀ other ∈ sent, message.Causes τ other := by
  simp only [deliver, Queue.pop?, waits] at delivered
  split at delivered
  · cases delivered
    exact ⟨[], (List.append_nil _).symm, fun _ mem => absurd mem List.not_mem_nil⟩
  · rename_i part found
    obtain ⟨effect, received, settled⟩ := bind_eq_ok delivered
    cases settled
    exact ⟨effect.sent, rfl, fun other mem => ⟨part, _, effect, entity_of_part? found, received, mem⟩⟩

theorem deliver_violates (failed : stack.deliver = .error fault) : fault.IsViolation := by
  unfold deliver at failed
  split at failed
  · cases failed
  · simp only at failed
    split at failed
    · cases failed
    · rcases bind_eq_error failed with failed | ⟨_, _, settled⟩
      · exact Part.receive_violates failed
      · cases settled

theorem Drains.idle {count : Nat} (drains : Drains count stack outcome) (ended : outcome = .ok stack') :
    stack'.queue = .empty := by
  induction drains with
  | done idle =>
    cases ended
    exact congrArg Queue.mk idle
  | fails => cases ended
  | next _ _ _ ih => exact ih ended

theorem Drains.violates {count : Nat} (drains : Drains count stack outcome) (failed : outcome = .error fault) :
    fault.IsViolation := by
  induction drains with
  | done => cases failed
  | fails _ fails =>
    cases failed
    exact deliver_violates fails
  | next _ _ _ ih => exact ih failed

/-- As the messages that wait at first have been delivered, fewer hops are left from all that wait then. -/
theorem deliverMany_drains {finish : Stack τ → Except Fault (Stack τ)} {bound : Nat}
    (finishes : ∀ stack : Stack τ, (∀ message ∈ stack.queue.messages, message.dest.hops < bound) →
      ∃ count, Drains count stack (finish stack))
    (waits : stack.queue.messages = first ++ rest) (far : ∀ message ∈ first, message.dest.hops ≤ bound)
    (near : ∀ message ∈ rest, message.dest.hops < bound) :
    ∃ count, Drains count stack (stack.deliverMany first.length >>= finish) := by
  induction first generalizing stack rest with
  | nil =>
    refine finishes stack ?_
    rw [waits]
    exact near
  | cons message first ih =>
    have waiting : stack.queue.messages ≠ [] := by simp [waits]
    show ∃ count, Drains count stack ((stack.deliver >>= deliverMany first.length) >>= finish)
    cases delivered : stack.deliver with
    | error fault => exact ⟨1, .fails waiting delivered⟩
    | ok next =>
      obtain ⟨sent, waits', causes⟩ := deliver_causes waits delivered
      have later : ∀ other ∈ rest ++ sent, other.dest.hops < bound := by
        refine List.forall_mem_append.mpr ⟨near, fun other mem => ?_⟩
        exact Nat.lt_of_lt_of_le (causes other mem).hops (far message List.mem_cons_self)
      obtain ⟨count, drains⟩ := ih (waits'.trans (List.append_assoc ..))
        (fun other mem => far other (List.mem_cons_of_mem _ mem)) later
      exact ⟨count + 1, .next waiting delivered drains⟩

theorem deliverRounds_drains {rounds : Nat}
    (near : ∀ message ∈ stack.queue.messages, message.dest.hops < rounds) :
    ∃ count, Drains count stack (stack.deliverRounds rounds) := by
  induction rounds generalizing stack with
  | zero =>
    refine ⟨0, .done (List.eq_nil_iff_forall_not_mem.mpr fun message mem => ?_)⟩
    exact absurd (near message mem) (Nat.not_lt_zero _)
  | succ rounds ih =>
    exact deliverMany_drains (fun stack => ih) (List.append_nil _).symm
      (fun message mem => Nat.le_of_lt_succ (near message mem)) fun _ mem => absurd mem List.not_mem_nil

/-- Delivery of all messages is delivery of one at a time for as long as one waits. It ends after finitely many,
with none left or in a violation of the protocol. Only what the message that is delivered causes joins the queue,
and no chain of messages that cause one another has more than three. -/
theorem deliverAll_drains (stack : Stack τ) :
    (∃ count, Drains count stack stack.deliverAll) ∧
    ((∃ stack', stack.deliverAll = .ok stack' ∧ stack'.queue = .empty) ∨
      ∃ fault, stack.deliverAll = .error fault ∧ fault.IsViolation) ∧
    (∀ message rest next, stack.queue.messages = message :: rest → stack.deliver = .ok next →
      ∃ sent, next.queue.messages = rest ++ sent ∧ ∀ other ∈ sent, message.Causes τ other) ∧
    ∀ chain : List Message, chain.IsChain (Message.Causes τ) → chain.length ≤ 3 := by
  obtain ⟨count, drains⟩ : ∃ count, Drains count stack stack.deliverAll :=
    deliverRounds_drains fun message _ => message.dest.hops_lt
  refine ⟨⟨count, drains⟩, ?_, fun _ _ _ => deliver_causes, ?_⟩
  · cases ended : stack.deliverAll with
    | ok stack' => exact .inl ⟨stack', rfl, drains.idle ended⟩
    | error fault => exact .inr ⟨fault, rfl, drains.violates ended⟩
  · intro chain causes
    cases chain with
    | nil => exact Nat.zero_le 3
    | cons message rest => exact Nat.le_trans (Message.length_le_of_causes causes) message.dest.hops_lt

theorem deliverAll_drains_linkFailed :
    (∃ (stack stack' : Stack Abis.ScriptedTransport) (count : Nat),
      stack.parts.map (·.entity) = [.oml] ∧
      stack.queue.messages =
        [⟨.ph, .phy, .oml, ⟨0⟩, .downlinkDtx ⟨0, 2, 0⟩⟩, .ofPrimitive ⟨0⟩ (.link .abisLinkFailed)] ∧
      Drains count stack (.ok stack') ∧ stack'.queue = .empty) ∧
    ∃ chain : List Message, chain.length = 3 ∧ chain.IsChain (Message.Causes Abis.ScriptedTransport) ∧
      chain.getLast? = some (.ofPrimitive ⟨0⟩ (.deactivate ⟨0, 2, 0⟩)) := by
  let config : SiteConfig := .ofHosts ["bsc"]
  let lost : Message := ⟨.ph, .phy, .oml, ⟨0⟩, .downlinkDtx ⟨0, 2, 0⟩⟩
  let failed : Message := .ofPrimitive ⟨0⟩ (.link .abisLinkFailed)
  let stack : Stack Abis.ScriptedTransport :=
    ((ofComponents config ⟨0⟩ [.manager (.fresh config)]).submit lost).submit failed
  let layer1 := (Layer1.empty.receive config (activation true)).1
  obtain ⟨⟨count, drains⟩, ends, -, -⟩ := deliverAll_drains stack
  obtain ⟨stack', delivered, empty⟩ | ⟨fault, failed, -⟩ := ends
  case inr =>
    have fine : stack.deliverAll.isOk = true := by decide +kernel
    rw [failed] at fine
    cases fine
  rw [delivered] at drains
  refine ⟨⟨stack, stack', count, rfl, rfl, drains, empty⟩, ?_⟩
  refine ⟨[failed, .ofPrimitive ⟨0⟩ (.releaseTimeslot 0 2), .ofPrimitive ⟨0⟩ (.deactivate ⟨0, 2, 0⟩)],
    rfl, ?_, rfl⟩
  refine .cons_cons ⟨.ofComponent config (.manager (.fresh config)), .initial, _, rfl, rfl, by decide +kernel⟩
    (.cons_cons ⟨.ofComponent config (.layer1 layer1), .initial, _, rfl, rfl, ?_⟩ (.singleton _))
  refine List.mem_map.mpr ⟨⟨0, 2, 0⟩, ?_, rfl⟩
  exact (List.mergeSort_perm _ _).mem_iff.mpr (by decide +kernel)

end Stack

end BaseStation
