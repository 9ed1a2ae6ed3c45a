import BaseStation.Proofs.Stack.Failure

namespace BaseStation

variable {τ : Type} {config : SiteConfig} {station : Station τ} {messages log : List Message}

namespace Stack

open Station

variable [Abis.Transport τ]

inductive Closes (config : SiteConfig) (station : Station τ) : Bool → Prop
  | calm (calm : station.Calm []) : Closes config station false
  | down (down : station.Down config []) : Closes config station true

omit [Abis.Transport τ] in
/-- As a frame starts there is news of the links only. -/
theorem Refused.of_started {α : Type} {outcome : Except Fault α} {phy : Phy} {flags : LinkFlags}
    {time : FrameTime} {numTrx : Nat} {effect : Effect (Abis.Endpoint τ)}
    (refused : Refused (messages ++ (phy.startFrame config time).2 ++ effect.sent) outcome)
    (starts : Abis.Endpoint.Starts numTrx flags time effect) : Refused messages outcome := by
  refine refused.mono fun message mem _ plain => ?_
  rw [List.append_assoc] at mem
  rcases List.mem_append.mp mem with waits | new
  · exact waits
  · obtain ⟨control, rfl⟩ := startFrame_links phy config starts message new
    exact absurd rfl (plain control)

theorem frame_of_settled {time : FrameTime} {now : Nat} {stack started : Stack τ}
    (began : stack.startFrame now = .ok started)
    (settled : started.deliverAll = .ok (ofStation config station [] time)) :
    stack.frame now = .ok (station.manager.stopping || station.endpoint.failed,
        ofStation config station [] (time.advance 1)) ∧
      stack.deliveredIn now = started.deliveredRounds longestChain := by
  have idle := deliverAll_idle config station time
  have asks : (ofStation config station [] time).parts.any (·.component.wantsStop time) =
      (station.manager.stopping || station.endpoint.failed) := by
    simp [ofStation, Part.ofComponent, Component.wantsStop]
  constructor
  · show (_ >>= _) = _
    rw [began, ok_bind, settled, ok_bind, ← asks]
    show (_ >>= _) = _
    rw [idle.1]
    rfl
  · simp only [deliveredIn, began, settled, idle.2, List.append_nil]

theorem frame_station (sound : station.Sound config) (calm : station.Calm messages)
    (follows : station.Follows messages) (time : FrameTime) (now : Nat) {effect : Effect (Abis.Endpoint τ)}
    (began : station.endpoint.startFrame config station.flags time now = .ok effect) :
    Refused messages ((ofStation config station messages time).frame now) ∨
      ∃ station' stop, (ofStation config station messages time).frame now =
          .ok (stop, ofStation config station' [] (time.advance 1)) ∧
        station'.Sound config ∧ station'.Follows [] ∧ Closes config station' stop ∧
        ((ofStation config station messages time).deliveredIn now).countP Message.isFailure =
          if stop then 1 else 0 := by
  have starts := Abis.Endpoint.startFrame_starts sound.endpoint calm.endpoint began
  let waiting := messages ++ (station.phy.startFrame config time).2 ++ effect.sent
  have started : (ofStation config station messages time).startFrame now =
      .ok (ofStation config (station.started config time effect) waiting time) := by
    rw [startFrame_station, began]
    rfl
  have sound' : (station.started config time effect).Sound config :=
    ⟨sound.objects, sound.shaped, starts.sound⟩
  rcases deliverAll_station sound' waiting time with refused | ⟨station', delivers, settled⟩
  · left
    show Refused messages (_ >>= _)
    rw [started]
    exact (refused.of_started starts).bind _
  · obtain ⟨framed, delivered⟩ := frame_of_settled started settled
    have counted := delivers.countP fun message follows => follows.isFailure
    rw [← delivered, List.countP_nil, Nat.add_zero] at counted
    have sound'' := delivers.sound sound'
    have follows' := (follows.started starts).delivers delivers
    rcases calm.started starts with calm' | failing
    · have ends := calm'.delivers delivers
      rw [ends.manager, ends.endpoint] at framed
      have unfailed := counted.trans (countP_isFailure calm'.messages)
      exact .inr ⟨station', false, framed, sound'', follows', .calm ends, unfailed⟩
    · have ends := failing.delivers sound' delivers
      rw [ends.manager, ends.endpoint] at framed
      exact .inr ⟨station', true, framed, sound'', follows', .down ends, counted.trans failing.countP⟩

theorem frame_of_startFrame_error {time : FrameTime} {now : Nat} {fault : Fault}
    (faults : station.endpoint.startFrame config station.flags time now = .error fault) :
    (ofStation config station messages time).frame now = .error fault := by
  show (startFrame now _ >>= _) = _
  rw [startFrame_station, faults]
  rfl

theorem startFrame_of_frame {time : FrameTime} {now : Nat} {ended : Bool × Stack τ}
    (runs : (ofStation config station messages time).frame now = .ok ended) :
    ∃ effect, station.endpoint.startFrame config station.flags time now = .ok effect := by
  cases began : station.endpoint.startFrame config station.flags time now with
  | error fault => cases runs.symm.trans (frame_of_startFrame_error began)
  | ok effect => exact ⟨effect, rfl⟩

def stir (transport : τ) (stack : Stack τ) : Stack τ :=
  stack.modifyPart .abis fun part =>
    match part.component with
    | .endpoint endpoint => part.become (.endpoint { endpoint with transport := transport })
    | _ => part

/-- A stack of all four parts that was not told to stop yet, with all that was delivered. Between frames
layer 1 and the manager may be given messages, other than news of the links, and anything may happen to the
transport. -/
inductive Operating (config : SiteConfig) : List Message → Stack τ → Prop
  | fresh {transport : τ} {endpoint : Abis.Endpoint τ} (hardware : Hardware) (tracing : Bool) (time : FrameTime)
      (made : Abis.Endpoint.ofConfig config transport = .ok endpoint) :
      Operating config [] (ofComponents config time [.phy .fresh, .layer1 .empty,
        .manager { Manager.ofConfig config hardware with tracing := tracing }, .endpoint endpoint])
  | submit {log : List Message} {stack : Stack τ} (message : Message)
      (addressed : message.dest = .layer1 ∨ message.dest = .oml)
      (plain : ∀ control, message.primitive ≠ .link control) (before : Operating config log stack) :
      Operating config log (stack.submit message)
  | stir {log : List Message} {stack : Stack τ} (transport : τ) (before : Operating config log stack) :
      Operating config log (stack.stir transport)
  | frame {log : List Message} {stack stack' : Stack τ} (now : Nat) (before : Operating config log stack)
      (runs : stack.frame now = .ok (false, stack')) :
      Operating config (log ++ stack.deliveredIn now) stack'

structure Works (config : SiteConfig) (log : List Message) (stack : Stack τ) : Prop where
  parts : ∃ station messages time, stack = ofStation config station messages time ∧
    station.Sound config ∧ station.Calm messages ∧ station.Follows messages
  delivered : log.countP Message.isFailure = 0

omit [Abis.Transport τ] in
theorem Works.fresh {transport : τ} {endpoint : Abis.Endpoint τ} (hardware : Hardware) (tracing : Bool)
    (time : FrameTime) (made : Abis.Endpoint.ofConfig config transport = .ok endpoint) :
    Works config [] (ofComponents config time [.phy .fresh, .layer1 .empty,
      .manager { Manager.ofConfig config hardware with tracing := tracing }, .endpoint endpoint]) := by
  obtain ⟨sound, running⟩ := Abis.Endpoint.Sound.ofConfig made
  let station : Station τ := ⟨.fresh, .empty,
    { Manager.ofConfig config hardware with tracing := tracing }, endpoint, .initial⟩
  refine ⟨⟨station, [], time, rfl, ⟨.fresh _ _ _, .fresh _ _ _, sound⟩, ⟨rfl, running, ?_⟩, [], ?_⟩, rfl⟩
  · exact fun _ mem => absurd mem List.not_mem_nil
  · intro chan params held
    cases held

omit [Abis.Transport τ] in
theorem Works.submit {stack : Stack τ} (works : Works config log stack) {message : Message}
    (addressed : message.dest = .layer1 ∨ message.dest = .oml)
    (plain : ∀ control, message.primitive ≠ .link control) : Works config log (stack.submit message) := by
  obtain ⟨⟨station, messages, time, rfl, sound, calm, overlooked, follows⟩, delivered⟩ := works
  have calm' : station.Calm (messages ++ [message]) := by
    refine ⟨calm.manager, calm.endpoint, List.forall_mem_append.mpr ⟨calm.messages, ?_⟩⟩
    simp [Message.isFailure, plain]
  have away : message.dest ≠ .phy := by
    rcases addressed with own | own <;> rw [own] <;> decide
  refine ⟨⟨station, messages ++ [message], time, rfl, sound, calm', overlooked, ?_⟩, delivered⟩
  rw [Phy.afterAll_append, afterAll_of_away (List.forall_mem_singleton.mpr away)]
  exact follows

omit [Abis.Transport τ] in
theorem Works.stir {stack : Stack τ} (works : Works config log stack) (transport : τ) :
    Works config log (stack.stir transport) := by
  obtain ⟨⟨station, messages, time, rfl, sound, calm, follows⟩, delivered⟩ := works
  let stirred : Station τ := { station with endpoint := { station.endpoint with transport := transport } }
  have endpoint := sound.endpoint
  refine ⟨⟨stirred, messages, time, rfl, ⟨sound.objects, sound.shaped, ?_⟩, ?_, follows⟩, delivered⟩
  · exact ⟨endpoint.link, endpoint.fresh, endpoint.failed⟩
  · exact ⟨calm.manager, calm.endpoint, calm.messages⟩

theorem Works.frame {stack stack' : Stack τ} (works : Works config log stack) {now : Nat}
    (runs : stack.frame now = .ok (false, stack')) : Works config (log ++ stack.deliveredIn now) stack' := by
  obtain ⟨⟨station, messages, time, rfl, sound, calm, follows⟩, delivered⟩ := works
  obtain ⟨effect, began⟩ := startFrame_of_frame runs
  rcases frame_station sound calm follows time now began with
    ⟨_, _, _, _, _, _, refused⟩ | ⟨station', stop, framed, sound', follows', closes, counted⟩
  · cases runs.symm.trans refused
  · cases runs.symm.trans framed
    cases closes with
    | calm calm' =>
      refine ⟨⟨station', [], _, rfl, sound', calm', follows'⟩, ?_⟩
      rw [List.countP_append, delivered, counted]
      rfl

theorem Operating.works {stack : Stack τ} (operating : Operating config log stack) :
    Works config log stack := by
  induction operating with
  | fresh hardware tracing time made => exact .fresh hardware tracing time made
  | submit message addressed plain _ ih => exact ih.submit addressed plain
  | stir transport _ ih => exact ih.stir transport
  | frame now _ runs ih => exact ih.frame runs

def linkState? (stack : Stack τ) : Option Abis.LinkState := stack.endpoint?.map (·.link.state)

/-- The stack has taken its site out of service: nothing is under way, no object of the site is installed,
and neither layer 1 nor the PHY has anything left of its channels. -/
structure OutOfService (config : SiteConfig) (stack : Stack τ) : Prop where
  settled : stack.queue.isEmpty = true
  linkFailed : stack.flags.linkFailed = true
  omlDown : stack.flags.omlLinkUp = false
  objects : ∃ manager, stack.component? .oml = some (.manager manager) ∧
    manager.tree.Shaped config.bts.numTrx.toNat ∧
    ∀ id object, manager.tree.get? id = some object → object.phase = .notInstalled
  channels : ∃ layer1 phy, stack.layer1? = some layer1 ∧ stack.component? .phy = some (.phy phy) ∧
    ∀ chan : ChannelAddress, chan.trx < config.bts.numTrx.toNat → chan.ts < ObjectId.slots →
      layer1.isActive chan = false ∧ phy.params? chan = none

omit [Abis.Transport τ] in
theorem outOfService_of_down (sound : station.Sound config) (down : station.Down config [])
    (follows : station.Follows []) (time : FrameTime) :
    OutOfService config (ofStation config station [] time) := by
  refine ⟨rfl, down.linkFailed, down.omlDown, ⟨_, rfl, sound.shaped, down.objects⟩, _, _, rfl, rfl, ?_⟩
  intro chan place slot
  have idle : station.layer1.isActive chan = false := by
    rcases down.cleared chan.trx place chan.ts slot with ⟨_, mem, _⟩ | idle
    · cases mem
    · exact idle chan rfl rfl
  refine ⟨idle, ?_⟩
  obtain ⟨overlooked, follows⟩ := follows
  cases held : station.phy.params? chan with
  | none => rfl
  | some params =>
    obtain ⟨lchan, found, _⟩ := follows chan params held
    have active : station.layer1.isActive chan = true := Layer1.isActive_iff.mpr ⟨lchan, found⟩
    cases idle.symm.trans active

/-- A stack that was not told to stop has a link that did not fail. Its next frame ends unless a request that
waits is refused or the link would have to try its next host at a time that the clock cannot tell, and asks to
stop exactly if the link fails in it. The manager is told of the failure then and only then, and the whole
site is out of service by the end of the frame. -/
theorem Operating.stops (config : SiteConfig) (log : List Message) (stack : Stack τ)
    (operating : Operating config log stack) (now : Nat) :
    (∃ state, stack.linkState? = some state ∧ state ≠ .failed) ∧
      ((∃ endpoint, stack.endpoint? = some endpoint ∧ stack.frame now = .error .timeOverflow ∧
          Abis.Link.timeLimit ≤ now + endpoint.link.reconnectDelay ∧
          Abis.Retries now (endpoint.linkAt now) endpoint.transport) ∨
        Refused stack.queue.messages (stack.frame now) ∨
        ∃ stop stack', stack.frame now = .ok (stop, stack') ∧
        (stop = true ↔ stack'.linkState? = some .failed) ∧
        (log ++ stack.deliveredIn now).countP Message.isFailure = (if stop then 1 else 0) ∧
        (stop = true → OutOfService config stack')) := by
  obtain ⟨⟨station, messages, time, rfl, sound, calm, follows⟩, delivered⟩ := operating.works
  refine ⟨⟨_, rfl, fun failed => ?_⟩, ?_⟩
  · cases calm.endpoint.symm.trans (sound.endpoint.failed.mpr failed)
  · cases began : station.endpoint.startFrame config station.flags time now with
    | error fault =>
      obtain ⟨rfl, late, retries⟩ := (Abis.Endpoint.startFrame_eq_error_iff sound.endpoint).mp began
      exact .inl ⟨_, rfl, frame_of_startFrame_error began, late, retries⟩
    | ok effect =>
      refine .inr ((frame_station sound calm follows time now began).imp_right ?_)
      rintro ⟨station', stop, framed, sound', follows', closes, counted⟩
      refine ⟨stop, _, framed, ?_, ?_, ?_⟩
      · have state : (ofStation config station' [] (time.advance 1)).linkState? = some .failed ↔
            station'.endpoint.failed = true :=
          (Option.some_inj).trans sound'.endpoint.failed.symm
        rw [state]
        cases closes with
        | calm calm' => rw [calm'.endpoint]
        | down down => rw [down.endpoint]
      · rw [List.countP_append, delivered, counted, Nat.zero_add]
      · rintro rfl
        cases closes with
        | down down => exact outOfService_of_down sound' down follows' _

section Refusal

open Abis (ScriptedTransport Session)

def willing : Abis.Endpoint ScriptedTransport where
  link := ⟨["main"], 3002, 1000, .connecting, some 0, 0, none, false, [false]⟩
  transport := ⟨[], true, [], 0⟩
  started := false
  waiting := []
  reportsSent := 0
  resultsSent := 0
  resultsDropped := 0
  failed := false

def refused : Abis.Endpoint ScriptedTransport :=
  { willing with
    link := ⟨["main"], 3002, 1000, .failed, none, 1, none, false, [false]⟩
    transport := ⟨[], true, [("main", 3002)], 1⟩
    started := true
    failed := true }

def refusal : List Message :=
  [activation true, .ofPrimitive ⟨0⟩ (.link (.phyLinkUp 0)), .ofPrimitive ⟨0⟩ (.link .abisLinkFailed)]

def refusedStack : Stack ScriptedTransport :=
  ofStation (.ofHosts ["main"]) ⟨{ Phy.fresh with linksReported := true }, .empty,
    .ofConfig (.ofHosts ["main"]) (.fresh 1), refused, ⟨false, false, true⟩⟩ refusal ⟨0⟩

theorem refusedStack_stops : ∃ stack, refusedStack.deliverAll >>= endFrame = .ok (true, stack) := by
  have stops : (refusedStack.deliverAll >>= endFrame).toOption.map Prod.fst = some true := by
    decide +kernel
  cases ends : refusedStack.deliverAll >>= endFrame with
  | error fault =>
    rw [ends] at stops
    cases stops
  | ok ended =>
    obtain ⟨stop, stack⟩ := ended
    rw [ends] at stops
    cases stops
    exact ⟨stack, rfl⟩

theorem Operating.stops_refused : ∃ (stack stack' : Stack ScriptedTransport),
    Operating (.ofHosts ["main"]) [] stack ∧ stack.queue.messages = [activation true] ∧
      stack.frame 0 = .ok (true, stack') ∧ OutOfService (.ofHosts ["main"]) stack' := by
  have made : Abis.Endpoint.ofConfig (.ofHosts ["main"]) willing.transport = .ok willing := rfl
  have operating := (Operating.fresh (.fresh 1) false ⟨0⟩ made).submit (activation true) (.inl rfl)
    (by rintro _ ⟨⟩)
  have polled : Session.poll 0 (willing.link.start 0) willing.transport =
      .ok ⟨refused.link, refused.transport, [.failed]⟩ :=
    (Session.poll_due _ rfl rfl).trans (Session.hear_away 0 (by rintro ⟨⟩))
  have began : willing.startFrame (.ofHosts ["main"]) .initial ⟨0⟩ 0 =
      .ok ⟨refused, ⟨false, false, true⟩, [.ofPrimitive ⟨0⟩ (.link .abisLinkFailed)]⟩ := by
    show (Session.poll 0 (willing.link.start 0) willing.transport >>= _) = _
    rw [polled]
    rfl
  obtain ⟨stack', ends⟩ := refusedStack_stops
  let station : Station ScriptedTransport :=
    ⟨.fresh, .empty, .ofConfig (.ofHosts ["main"]) (.fresh 1), willing, .initial⟩
  have started : (ofStation (.ofHosts ["main"]) station [activation true] ⟨0⟩).startFrame 0 =
      .ok refusedStack := by
    rw [startFrame_station, began]
    rfl
  have framed : (ofStation (.ofHosts ["main"]) station [activation true] ⟨0⟩).frame 0 = .ok (true, stack') := by
    show (startFrame 0 _ >>= _) = _
    rw [started]
    exact ends
  refine ⟨_, stack', operating, rfl, framed, ?_⟩
  rcases (Operating.stops _ _ _ operating 0).2 with
    ⟨_, _, faults, _⟩ | ⟨_, _, _, _, _, _, faults⟩ | ⟨stop, _, ends, _, _, down⟩
  · cases framed.symm.trans faults
  · cases framed.symm.trans faults
  · cases framed.symm.trans ends
    exact down rfl

end Refusal

end Stack

end BaseStation
