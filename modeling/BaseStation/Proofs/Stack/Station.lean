import BaseStation.Proofs.Abis.EndpointFrames
import BaseStation.Proofs.Layer1.Agreement
import BaseStation.Proofs.Management.Outputs
import BaseStation.Proofs.Stack.PhyLayer1

namespace BaseStation

structure Station (τ : Type) where
  phy : Phy
  layer1 : Layer1
  manager : Manager
  endpoint : Abis.Endpoint τ
  flags : LinkFlags

/-- How many messages, one caused by the other, may be caused by one that the entity receives. -/
def Entity.hops : Entity → Nat
  | .phy | .abis => 0
  | .layer1 => 1
  | .oml => 2

def Message.IsFollowUp (message : Message) : Prop :=
  message.dest = .phy ∨ message.dest = .abis ∨
    message.dest = .layer1 ∧ ∃ trx ts, message.primitive = .releaseTimeslot trx ts

theorem Message.IsFollowUp.dest_ne_oml {message : Message} (follows : message.IsFollowUp) :
    message.dest ≠ .oml := by
  rcases follows with own | own | ⟨own, _⟩ <;> rw [own] <;> decide

variable {τ : Type} {config : SiteConfig} {station station' : Station τ} {message : Message}
  {sent messages first rest delivered : List Message} {time : FrameTime}

theorem Layer1.receive_sent (layer1 : Layer1) (config : SiteConfig) (message : Message) :
    ∀ sent ∈ (layer1.receive config message).2, sent.dest = .phy ∨ sent.dest = .abis := by
  intro sent mem
  unfold Layer1.receive at mem
  split at mem
  · split at mem <;> cases mem
  · unfold Layer1.sacchBlock at mem
    split at mem
    · cases mem
    · rcases List.mem_cons.mp mem with rfl | mem
      · exact .inr rfl
      · obtain ⟨params, _, rfl⟩ := List.mem_map.mp mem
        exact .inl rfl
  · cases mem
  · cases mem
  · unfold Layer1.release at mem
    split at mem
    · rw [List.mem_singleton.mp mem]
      exact .inl rfl
    · cases mem
  · obtain ⟨chan, _, rfl⟩ := List.mem_map.mp mem
    exact .inl rfl
  · cases mem

theorem Manager.receive_sent {manager : Manager} {flags : LinkFlags} {effect : Effect Manager}
    (received : manager.receive flags message = .ok effect) :
    ∀ sent ∈ effect.sent, sent.dest = .abis ∨
      sent.dest = .layer1 ∧ ∃ trx ts, sent.primitive = .releaseTimeslot trx ts := by
  intro sent mem
  obtain ⟨time, primitive, output, rfl⟩ := (receive_outputs received).1 sent mem
  cases primitive with
  | report report => exact .inl rfl
  | releaseTimeslot trx ts => exact .inr ⟨rfl, trx, ts, rfl⟩
  | _ => cases output

namespace Station

/-- What the receiver of a message makes of it, and what is sent of it. -/
inductive Hears (config : SiteConfig) (station : Station τ) (message : Message) :
    Station τ → List Message → Prop
  | phy (dest : message.dest = .phy) :
      Hears config station message { station with phy := station.phy.receive message } []
  | layer1 (dest : message.dest = .layer1) :
      Hears config station message { station with layer1 := (station.layer1.receive config message).1 }
        (station.layer1.receive config message).2
  | oml {effect : Effect Manager} (dest : message.dest = .oml)
      (received : station.manager.receive station.flags message = .ok effect) :
      Hears config station message { station with manager := effect.state, flags := effect.flags } effect.sent
  | abis (dest : message.dest = .abis) :
      Hears config station message { station with endpoint := station.endpoint.receive config message } []

structure Sound (config : SiteConfig) (station : Station τ) : Prop where
  objects : station.manager.tree.Sound
  shaped : station.manager.tree.Shaped config.bts.numTrx.toNat
  endpoint : station.endpoint.Sound config.bts.numTrx.toNat

def Follows (station : Station τ) (messages : List Message) : Prop :=
  ∃ overlooked, (station.phy.afterAll messages).Follows station.layer1 overlooked

theorem Hears.sound (hears : Hears config station message station' sent) (sound : station.Sound config) :
    station'.Sound config := by
  cases hears with
  | phy dest => exact ⟨sound.objects, sound.shaped, sound.endpoint⟩
  | layer1 dest => exact ⟨sound.objects, sound.shaped, sound.endpoint⟩
  | oml dest received =>
    refine ⟨?_, sound.shaped.congr (Manager.receive_contains received), sound.endpoint⟩
    rcases Manager.receive_cases station.flags message sound.objects with
      ⟨effect, received', sound', _⟩ | ⟨fault, faults, _⟩
    · cases received.symm.trans received'
      exact sound'
    · cases received.symm.trans faults
  | abis dest => exact ⟨sound.objects, sound.shaped, sound.endpoint.receive config message⟩

theorem Hears.isFollowUp (hears : Hears config station message station' sent) :
    ∀ other ∈ sent, other.IsFollowUp := by
  intro other mem
  cases hears with
  | phy dest => cases mem
  | layer1 dest => exact (station.layer1.receive_sent config message other mem).imp_right .inl
  | oml dest received => exact .inr (Manager.receive_sent received other mem)
  | abis dest => cases mem

theorem Hears.hops (hears : Hears config station message station' sent) :
    ∀ other ∈ sent, other.dest.hops < message.dest.hops := by
  intro other mem
  cases hears with
  | phy dest => cases mem
  | layer1 dest =>
    rcases station.layer1.receive_sent config message other mem with own | own <;>
      rw [own, dest] <;> decide
  | oml dest received =>
    rcases Manager.receive_sent received other mem with own | ⟨own, _⟩ <;> rw [own, dest] <;> decide
  | abis dest => cases mem

theorem Hears.follows (hears : Hears config station message station' sent)
    (follows : station.Follows (message :: rest)) : station'.Follows (rest ++ sent) := by
  obtain ⟨overlooked, follows⟩ := follows
  unfold Follows
  rw [Phy.afterAll_append]
  cases hears with
  | phy dest =>
    rw [Phy.afterAll_cons_self dest] at follows
    exact ⟨overlooked, follows⟩
  | layer1 dest =>
    rw [Phy.afterAll_cons_of_ne (by rw [dest]; decide)] at follows
    exact ⟨_, follows.receive config message⟩
  | @oml effect dest received =>
    have away : ∀ other ∈ effect.sent, other.dest ≠ .phy := by
      intro other mem
      rcases Manager.receive_sent received other mem with own | ⟨own, _⟩ <;> rw [own] <;> decide
    rw [Phy.afterAll_cons_of_ne (by rw [dest]; decide)] at follows
    rw [Stack.afterAll_of_away away]
    exact ⟨overlooked, follows⟩
  | abis dest =>
    rw [Phy.afterAll_cons_of_ne (by rw [dest]; decide)] at follows
    exact ⟨overlooked, follows⟩

def started (station : Station τ) (config : SiteConfig) (time : FrameTime)
    (effect : Effect (Abis.Endpoint τ)) : Station τ :=
  { station with
    phy := (station.phy.startFrame config time).1
    endpoint := effect.state
    flags := effect.flags }

inductive Delivers (config : SiteConfig) :
    Station τ → List Message → List Message → Station τ → List Message → Prop
  | none {station : Station τ} {messages : List Message} : Delivers config station messages [] station messages
  | next {station middle station' : Station τ} {message : Message}
      {rest sent delivered messages : List Message}
      (hears : Hears config station message middle sent)
      (delivers : Delivers config middle (rest ++ sent) delivered station' messages) :
      Delivers config station (message :: rest) (message :: delivered) station' messages

theorem Delivers.keeps {P : Station τ → List Message → Prop}
    (one : ∀ {station message rest station' sent}, Hears config station message station' sent →
      P station (message :: rest) → P station' (rest ++ sent))
    (delivers : Delivers config station first delivered station' messages) (holds : P station first) :
    P station' messages := by
  induction delivers with
  | none => exact holds
  | next hears _ ih => exact ih (one hears holds)

theorem Delivers.sound (delivers : Delivers config station first delivered station' messages)
    (sound : station.Sound config) : station'.Sound config :=
  delivers.keeps (P := fun station _ => station.Sound config) (fun hears sound => hears.sound sound) sound

theorem Delivers.trans {middle : Station τ} {more between : List Message}
    (begins : Delivers config station first delivered middle between)
    (ends : Delivers config middle between more station' messages) :
    Delivers config station first (delivered ++ more) station' messages := by
  induction begins with
  | none => exact ends
  | next hears _ ih => exact .next hears (ih ends)

theorem Delivers.countP {counts : Message → Bool}
    (ignored : ∀ message, message.IsFollowUp → counts message = false)
    (delivers : Delivers config station first delivered station' messages) :
    delivered.countP counts + messages.countP counts = first.countP counts := by
  induction delivers with
  | none => simp
  | next hears _ ih =>
    have silent := List.countP_eq_zero.mpr fun other mem =>
      Bool.eq_false_iff.mp (ignored other (hears.isFollowUp other mem))
    rw [List.countP_append, silent, Nat.add_zero] at ih
    rw [List.countP_cons, List.countP_cons, ← ih]
    omega

end Station

namespace Stack

def deliveredMany : Nat → Stack τ → List Message
  | 0, _ => []
  | count + 1, stack =>
    match stack.queue.pop?, stack.deliver with
    | some (message, _), .ok next => message :: deliveredMany count next
    | _, _ => []

def deliveredRounds : Nat → Stack τ → List Message
  | 0, _ => []
  | rounds + 1, stack =>
    stack.deliveredMany stack.queue.length ++
      match stack.deliverRound with
      | .ok next => deliveredRounds rounds next
      | .error _ => []

def deliveredIn [Abis.Transport τ] (now : Nat) (stack : Stack τ) : List Message :=
  match stack.startFrame now with
  | .error _ => []
  | .ok started =>
    started.deliveredRounds longestChain ++
      match started.deliverAll with
      | .ok settled => settled.deliveredRounds longestChain
      | .error _ => []

def ofStation (config : SiteConfig) (station : Station τ) (messages : List Message) (time : FrameTime) :
    Stack τ :=
  ⟨[.ofComponent config (.phy station.phy), .ofComponent config (.layer1 station.layer1),
    .ofComponent config (.manager station.manager), .ofComponent config (.endpoint station.endpoint)],
    ⟨messages⟩, time, station.flags⟩

/-- One of the messages is a request that the manager refuses as it is delivered, which is fatal. -/
def Refused {α : Type} (messages : List Message) (outcome : Except Fault α) : Prop :=
  ∃ message ∈ messages, message.dest = .oml ∧ ∃ (manager : Manager) (fault : Fault),
    manager.Refuses message fault ∧ outcome = .error fault

theorem Refused.bind {α β : Type} {outcome : Except Fault α} (refused : Refused messages outcome)
    (next : α → Except Fault β) : Refused messages (outcome >>= next) := by
  obtain ⟨message, mem, dest, manager, fault, refuses, rfl⟩ := refused
  exact ⟨message, mem, dest, manager, fault, refuses, rfl⟩

theorem Refused.mono {α : Type} {outcome : Except Fault α} {before : List Message}
    (refused : Refused messages outcome)
    (kept : ∀ message ∈ messages, message.dest = .oml →
      (∀ control, message.primitive ≠ .link control) → message ∈ before) : Refused before outcome := by
  obtain ⟨message, mem, dest, manager, fault, refuses, failed⟩ := refused
  have plain : ∀ control, message.primitive ≠ .link control := by
    obtain ⟨request, _, _, asked, _⟩ := refuses
    intro control
    rw [asked]
    rintro ⟨⟩
  exact ⟨message, kept message mem dest plain, dest, manager, fault, refuses, failed⟩

theorem Refused.of_hears {α : Type} {outcome : Except Fault α}
    (refused : Refused (rest ++ sent) outcome)
    (hears : Station.Hears config station message station' sent) : Refused (message :: rest) outcome := by
  refine refused.mono fun other mem dest _ => ?_
  rcases List.mem_append.mp mem with waits | new
  · exact List.mem_cons_of_mem _ waits
  · exact absurd dest (hears.isFollowUp other new).dest_ne_oml

theorem Refused.of_delivers {α : Type} {outcome : Except Fault α} (refused : Refused messages outcome)
    (delivers : Station.Delivers config station first delivered station' messages) :
    Refused first outcome := by
  induction delivers with
  | none => exact refused
  | next hears _ ih => exact (ih refused).of_hears hears

theorem deliver_station (sound : station.Sound config) (message : Message) (rest : List Message)
    (time : FrameTime) :
    Refused (message :: rest) (ofStation config station (message :: rest) time).deliver ∨
      ∃ station' sent, Station.Hears config station message station' sent ∧
        (ofStation config station (message :: rest) time).deliver =
          .ok (ofStation config station' (rest ++ sent) time) := by
  cases dest : message.dest with
  | phy =>
    refine .inr ⟨_, _, .phy dest, ?_⟩
    obtain ⟨sap, source, dest', created, primitive⟩ := message
    cases dest
    rfl
  | layer1 =>
    refine .inr ⟨_, _, .layer1 dest, ?_⟩
    obtain ⟨sap, source, dest', created, primitive⟩ := message
    cases dest
    rfl
  | oml =>
    have ran : (ofStation config station (message :: rest) time).deliver =
        (station.manager.receive station.flags message >>= fun effect =>
          .ok (ofStation config { station with manager := effect.state, flags := effect.flags }
            (rest ++ effect.sent) time)) := by
      obtain ⟨sap, source, dest', created, primitive⟩ := message
      cases dest
      show ((station.manager.receive station.flags _ >>= _) >>= _) = _
      cases station.manager.receive station.flags _ <;> rfl
    rw [ran]
    rcases Manager.receive_cases station.flags message sound.objects with
      ⟨effect, received, _⟩ | ⟨fault, faults, refuses⟩
    · exact .inr ⟨_, _, .oml dest received, by rw [received]; rfl⟩
    · exact .inl ⟨message, List.mem_cons_self, dest, station.manager, fault, refuses, by rw [faults]; rfl⟩
  | abis =>
    refine .inr ⟨_, _, .abis dest, ?_⟩
    obtain ⟨sap, source, dest', created, primitive⟩ := message
    cases dest
    rfl

section one

variable {stack next : Stack τ} {queue : Queue} {count rounds : Nat}

theorem deliverMany_succ (delivered : stack.deliver = .ok next) :
    stack.deliverMany (count + 1) = next.deliverMany count := by
  show (stack.deliver >>= _) = _
  rw [delivered]
  rfl

theorem deliveredMany_succ (waits : stack.queue.pop? = some (message, queue))
    (delivered : stack.deliver = .ok next) :
    stack.deliveredMany (count + 1) = message :: next.deliveredMany count := by
  simp only [deliveredMany, waits, delivered]

theorem deliverRounds_succ (delivered : stack.deliverRound = .ok next) :
    stack.deliverRounds (rounds + 1) = next.deliverRounds rounds := by
  show (stack.deliverRound >>= _) = _
  rw [delivered]
  rfl

theorem deliveredRounds_succ (delivered : stack.deliverRound = .ok next) :
    stack.deliveredRounds (rounds + 1) =
      stack.deliveredMany stack.queue.length ++ next.deliveredRounds rounds := by
  simp only [deliveredRounds, delivered]

end one

/-- As many messages are delivered as waited, and from those that wait afterwards fewer hops are left. -/
theorem deliverMany_station (sound : station.Sound config) {bound : Nat}
    (far : ∀ message ∈ first, message.dest.hops ≤ bound) (near : ∀ message ∈ rest, message.dest.hops < bound) :
    Refused (first ++ rest) ((ofStation config station (first ++ rest) time).deliverMany first.length) ∨
      ∃ station' messages, station.Delivers config (first ++ rest) first station' messages ∧
        (ofStation config station (first ++ rest) time).deliverMany first.length =
          .ok (ofStation config station' messages time) ∧
        (ofStation config station (first ++ rest) time).deliveredMany first.length = first ∧
        ∀ message ∈ messages, message.dest.hops < bound := by
  induction first generalizing station rest with
  | nil => exact .inr ⟨station, rest, .none, rfl, rfl, near⟩
  | cons message first ih =>
    rw [List.cons_append, List.length_cons]
    rcases deliver_station sound message (first ++ rest) time with refused | ⟨middle, sent, hears, delivered⟩
    · exact .inl (refused.bind _)
    · have later : ∀ other ∈ rest ++ sent, other.dest.hops < bound := by
        refine List.forall_mem_append.mpr ⟨near, fun other mem => ?_⟩
        have fewer := hears.hops other mem
        have most := far message List.mem_cons_self
        omega
      rw [deliverMany_succ delivered, deliveredMany_succ rfl delivered]
      have next := ih (hears.sound sound) (fun other mem => far other (List.mem_cons_of_mem _ mem)) later
      rw [← List.append_assoc] at next
      rcases next with refused | ⟨station', messages, delivers, ended, all, fewer⟩
      · exact .inl (refused.of_hears hears)
      · exact .inr ⟨station', messages, .next hears delivers, ended, by rw [all], fewer⟩

theorem deliverRounds_station {rounds : Nat} (sound : station.Sound config)
    (near : ∀ message ∈ messages, message.dest.hops < rounds) :
    Refused messages ((ofStation config station messages time).deliverRounds rounds) ∨
      ∃ station', station.Delivers config messages
          ((ofStation config station messages time).deliveredRounds rounds) station' [] ∧
        (ofStation config station messages time).deliverRounds rounds =
          .ok (ofStation config station' [] time) := by
  induction rounds generalizing station messages with
  | zero =>
    have drained : messages = [] := List.eq_nil_iff_forall_not_mem.mpr fun message mem =>
      absurd (near message mem) (Nat.not_lt_zero _)
    subst drained
    exact .inr ⟨station, .none, rfl⟩
  | succ rounds ih =>
    have round : Refused (messages ++ [])
        ((ofStation config station (messages ++ []) time).deliverMany messages.length) ∨ _ :=
      deliverMany_station sound (fun message mem => Nat.le_of_lt_succ (near message mem))
        fun _ mem => absurd mem List.not_mem_nil
    rw [List.append_nil] at round
    rcases round with refused | ⟨middle, between, delivers, ended, all, fewer⟩
    · exact .inl (refused.bind _)
    · have round : (ofStation config station messages time).deliverRound =
          .ok (ofStation config middle between time) := ended
      have counted : (ofStation config station messages time).deliveredMany
          (ofStation config station messages time).queue.length = messages := all
      rw [deliverRounds_succ round, deliveredRounds_succ round, counted]
      rcases ih (delivers.sound sound) fewer with refused | ⟨station', more, ended'⟩
      · exact .inl (refused.of_delivers delivers)
      · exact .inr ⟨station', delivers.trans more, ended'⟩

theorem deliverAll_station (sound : station.Sound config) (messages : List Message) (time : FrameTime) :
    Refused messages (ofStation config station messages time).deliverAll ∨
      ∃ station', station.Delivers config messages
          ((ofStation config station messages time).deliveredRounds longestChain) station' [] ∧
        (ofStation config station messages time).deliverAll = .ok (ofStation config station' [] time) := by
  refine deliverRounds_station sound fun message _ => ?_
  cases message.dest <;> decide

theorem deliverAll_idle (config : SiteConfig) (station : Station τ) (time : FrameTime) :
    (ofStation config station [] time).deliverAll = .ok (ofStation config station [] time) ∧
      (ofStation config station [] time).deliveredRounds longestChain = [] :=
  ⟨rfl, rfl⟩

variable [Abis.Transport τ]

theorem startFrame_station (station : Station τ) (messages : List Message) (time : FrameTime) (now : Nat) :
    (ofStation config station messages time).startFrame now =
      (station.endpoint.startFrame config station.flags time now >>= fun effect =>
        .ok (ofStation config (station.started config time effect)
          (messages ++ (station.phy.startFrame config time).2 ++ effect.sent) time)) := by
  have phy : startPart now (ofStation config station messages time) .phy =
      .ok (ofStation config { station with phy := (station.phy.startFrame config time).1 }
        (messages ++ (station.phy.startFrame config time).2) time) := rfl
  have idle (station : Station τ) (messages : List Message) (entity : Entity)
      (still : entity = .layer1 ∨ entity = .oml) :
      startPart now (ofStation config station messages time) entity =
        .ok (ofStation config station messages time) := by
    have started : startPart now (ofStation config station messages time) entity =
        .ok (ofStation config station (messages ++ []) time) := by
      rcases still with rfl | rfl <;> rfl
    rw [started, List.append_nil]
  show (startPart now (ofStation config station messages time) .phy >>= fun stack =>
    startPart now stack .layer1 >>= fun stack => startPart now stack .oml >>= fun stack =>
      startPart now stack .abis >>= fun stack => .ok stack) = _
  rw [phy, ok_bind, idle _ _ .layer1 (.inl rfl), ok_bind, idle _ _ .oml (.inr rfl), ok_bind]
  show ((station.endpoint.startFrame config station.flags time now >>= _) >>= _) >>= _ = _
  cases station.endpoint.startFrame config station.flags time now <;> rfl

end Stack

end BaseStation
