import BaseStation.Proofs.Abis.LinkNews
import BaseStation.Proofs.Stack.Stop

namespace BaseStation

variable {τ : Type} {config : SiteConfig} {time : FrameTime}

section parts

variable {part : Part τ} {flags : LinkFlags} {message : Message} {effect : Effect (Part τ)}

structure Part.StandsBy (part : Part τ) (flags : LinkFlags) (effect : Effect (Part τ)) : Prop where
  entity : effect.state.entity = part.entity
  flags : effect.flags = flags
  sent : ∀ message ∈ effect.sent, message.IsBeside

theorem Message.isBeside_of_dest (away : message.dest ≠ .oml) : message.IsBeside :=
  fun own => absurd own away

theorem Part.receive_standsBy (manages : part.entity ≠ .oml) (links : part.entity ≠ .abis)
    (received : part.receive flags message = .ok effect) : part.StandsBy flags effect := by
  obtain ⟨component, config, shared⟩ := part
  cases component with
  | manager manager => exact absurd rfl manages
  | endpoint endpoint => exact absurd rfl links
  | phy phy | recorder recorder =>
    cases received
    exact ⟨rfl, rfl, fun _ mem => absurd mem List.not_mem_nil⟩
  | layer1 layer1 =>
    cases received
    refine ⟨rfl, rfl, fun sent mem => Message.isBeside_of_dest ?_⟩
    rcases layer1.receive_sent config message sent mem with own | own <;> rw [own] <;> decide

theorem Part.startFrame_standsBy [Abis.Transport τ] {now : Nat} (manages : part.entity ≠ .oml)
    (links : part.entity ≠ .abis)
    (started : part.startFrame flags time now = .ok effect) : part.StandsBy flags effect := by
  obtain ⟨component, config, shared⟩ := part
  cases component with
  | manager manager => exact absurd rfl manages
  | endpoint endpoint => exact absurd rfl links
  | layer1 layer1 | recorder recorder =>
    cases started
    exact ⟨rfl, rfl, fun _ mem => absurd mem List.not_mem_nil⟩
  | phy phy =>
    cases started
    refine ⟨rfl, rfl, fun message mem => ?_⟩
    have mem : message ∈ (phy.startFrame config time).2 := mem
    unfold Phy.startFrame at mem
    split at mem
    · cases mem
    · obtain ⟨trx, _, rfl⟩ := List.mem_map.mp mem
      exact fun _ _ => rfl

end parts

namespace Stack

structure InTouch (config : SiteConfig) (manager : Manager) (endpoint : Abis.Endpoint τ) (stack : Stack τ) :
    Prop where
  oml : stack.part? .oml = some (.ofComponent config (.manager manager))
  abis : stack.part? .abis = some (.ofComponent config (.endpoint endpoint))
  objects : manager.tree.Sound
  shaped : manager.tree.Shaped config.bts.numTrx.toNat
  link : endpoint.Sound config.bts.numTrx.toNat
  told : (manager.signalling stack.flags).after stack.queue.messages = endpoint.link.signalling

variable {stack stack' : Stack τ} {manager manager' : Manager} {endpoint endpoint' : Abis.Endpoint τ}
  {part : Part τ} {effect : Effect (Part τ)} {message : Message} {rest sent : List Message}

theorem InTouch.standsBy (inTouch : InTouch config manager endpoint stack) (manages : part.entity ≠ .oml)
    (links : part.entity ≠ .abis) (stands : part.StandsBy stack.flags effect) :
    InTouch config manager endpoint (stack.settle effect) := by
  rw [← stands.entity] at manages links
  refine ⟨?_, ?_, inTouch.objects, inTouch.shaped, inTouch.link, ?_⟩
  · rw [part?_settle_of_ne stack manages]
    exact inTouch.oml
  · rw [part?_settle_of_ne stack links]
    exact inTouch.abis
  · show (manager.signalling effect.flags).after (stack.queue.messages ++ effect.sent) = _
    rw [stands.flags, Signalling.after_append, inTouch.told]
    exact Signalling.after_of_beside stands.sent _

theorem InTouch.manages {effect : Effect Manager} (inTouch : InTouch config manager endpoint stack)
    (waits : stack.queue.messages = message :: rest) (own : message.dest = .oml)
    (received : manager.receive stack.flags message = .ok effect) :
    InTouch config effect.state endpoint (({ stack with queue := ⟨rest⟩ } : Stack τ).settle
      ((Part.ofComponent config (.manager manager) : Part τ).effectOf stack.flags .manager effect)) := by
  have objects : effect.state.tree.Sound := by
    rcases Manager.receive_cases stack.flags message inTouch.objects with
      ⟨effect', received', sound', _⟩ | ⟨fault, faults, _⟩
    · cases received.symm.trans received'
      exact sound'
    · cases received.symm.trans faults
  have told := inTouch.told
  rw [waits, Signalling.after_cons_self own, ← Manager.receive_signalling inTouch.objects inTouch.shaped received]
    at told
  refine ⟨part?_settle_self inTouch.oml, ?_, objects,
    inTouch.shaped.congr (Manager.receive_contains received), inTouch.link, ?_⟩
  · rw [part?_settle_of_ne _ (by rintro ⟨⟩)]
    exact inTouch.abis
  · show (effect.state.signalling effect.flags).after (rest ++ effect.sent) = _
    rw [Signalling.after_append, told]
    -- what the manager sends is for others
    refine Signalling.after_of_beside (fun sent mem => Message.isBeside_of_dest ?_) _
    rcases Manager.receive_sent received sent mem with own | ⟨own, _⟩ <;> rw [own] <;> decide

theorem InTouch.links {flags : LinkFlags} (inTouch : InTouch config manager endpoint stack)
    (link : endpoint'.Sound config.bts.numTrx.toNat) (oml : flags.omlLinkUp = stack.flags.omlLinkUp)
    (tells : endpoint.link.signalling.after sent = endpoint'.link.signalling) :
    InTouch config manager endpoint'
      (stack.settle ⟨.ofComponent config (.endpoint endpoint'), flags, sent⟩) := by
  refine ⟨?_, part?_settle_self inTouch.abis, inTouch.objects, inTouch.shaped, link, ?_⟩
  · rw [part?_settle_of_ne _ (by rintro ⟨⟩)]
    exact inTouch.oml
  · show (manager.signalling flags).after (stack.queue.messages ++ sent) = _
    have same : manager.signalling flags = manager.signalling stack.flags := by
      rw [Manager.signalling, Manager.signalling, oml]
    rw [same, Signalling.after_append, inTouch.told, tells]

theorem InTouch.skip (inTouch : InTouch config manager endpoint stack)
    (waits : stack.queue.messages = message :: rest) (away : message.dest ≠ .oml) :
    InTouch config manager endpoint { stack with queue := ⟨rest⟩ } := by
  have told := inTouch.told
  rw [waits, Signalling.after_cons_of_ne away] at told
  exact ⟨inTouch.oml, inTouch.abis, inTouch.objects, inTouch.shaped, inTouch.link, told⟩

def Attuned (config : SiteConfig) (stack : Stack τ) : Prop :=
  ∃ manager endpoint, InTouch config manager endpoint stack

theorem InTouch.deliver (inTouch : InTouch config manager endpoint stack) (delivered : stack.deliver = .ok stack') :
    Attuned config stack' := by
  unfold Stack.deliver at delivered
  cases waits : stack.queue.messages with
  | nil =>
    simp only [Queue.pop?, waits] at delivered
    cases delivered
    exact ⟨manager, endpoint, inTouch⟩
  | cons message rest =>
    simp only [Queue.pop?, waits] at delivered
    let next : Stack τ := { stack with queue := ⟨rest⟩ }
    by_cases own : message.dest = .oml
    · have found : next.part? message.dest = some (.ofComponent config (.manager manager)) := own ▸ inTouch.oml
      simp only [next] at found
      simp only [found] at delivered
      obtain ⟨_, heard, last⟩ := bind_eq_ok delivered
      obtain ⟨effect, received, made⟩ := bind_eq_ok heard
      cases made
      cases last
      exact ⟨_, _, inTouch.manages waits own received⟩
    · have skipped := inTouch.skip waits own
      cases found : next.part? message.dest with
      | none =>
        simp only [next] at found
        simp only [found] at delivered
        cases delivered
        exact ⟨_, _, skipped⟩
      | some part =>
        have entity := entity_of_part? found
        simp only [next] at found
        simp only [found] at delivered
        obtain ⟨effect, heard, last⟩ := bind_eq_ok delivered
        cases last
        by_cases links : message.dest = .abis
        · -- a message is no transport event: the link stays
          rw [links] at found
          cases found.symm.trans inTouch.abis
          cases heard
          obtain ⟨link, _, _⟩ := endpoint.receive_link config message
          exact ⟨_, _, skipped.links (inTouch.link.receive config message) rfl
            (congrArg Abis.Link.signalling link.symm)⟩
        · rw [← entity] at own links
          exact ⟨_, _, skipped.standsBy own links (Part.receive_standsBy own links heard)⟩

variable [Abis.Transport τ] {now : Nat}

theorem InTouch.startPart {entity : Entity} (inTouch : InTouch config manager endpoint stack)
    (started : startPart now stack entity = .ok stack') : Attuned config stack' := by
  unfold Stack.startPart at started
  cases found : stack.part? entity with
  | none =>
    simp only [found] at started
    cases started
    exact ⟨_, _, inTouch⟩
  | some part =>
    have place := entity_of_part? found
    simp only [found] at started
    obtain ⟨effect, began, last⟩ := bind_eq_ok started
    cases last
    by_cases manages : entity = .oml
    · subst manages
      cases found.symm.trans inTouch.oml
      cases began
      refine ⟨manager, endpoint, part?_settle_self inTouch.oml, ?_, inTouch.objects, inTouch.shaped, inTouch.link, ?_⟩
      · rw [part?_settle_of_ne _ (by rintro ⟨⟩)]
        exact inTouch.abis
      · show (manager.signalling stack.flags).after (stack.queue.messages ++ []) = _
        rw [List.append_nil]
        exact inTouch.told
    · by_cases links : entity = .abis
      · subst links
        cases found.symm.trans inTouch.abis
        obtain ⟨effect, polled, made⟩ := bind_eq_ok began
        cases made
        obtain ⟨oml, tells⟩ := Abis.Endpoint.startFrame_signalling inTouch.link polled
        exact ⟨_, _, inTouch.links (Abis.Endpoint.startFrame_sound inTouch.link polled) oml tells⟩
      · rw [← place] at manages links
        exact ⟨_, _, inTouch.standsBy manages links (Part.startFrame_standsBy manages links began)⟩

theorem Attuned.frame {stop : Bool} (runs : stack.frame now = .ok (stop, stack')) (attuned : Attuned config stack) :
    Attuned config stack' := by
  refine frame_keeps ?_ ?_ ?_ runs attuned
  · rintro stack stack' entity started ⟨_, _, inTouch⟩
    exact inTouch.startPart started
  · rintro stack stack' delivered ⟨_, _, inTouch⟩
    exact inTouch.deliver delivered
  · rintro stack ⟨_, _, inTouch⟩
    exact ⟨_, _, inTouch.oml, inTouch.abis, inTouch.objects, inTouch.shaped, inTouch.link, inTouch.told⟩

/-- A stack with a manager and an endpoint on one configuration, and any other parts. Between frames it may be
given messages, other than news of the links to the BSC, anything may happen to the transport, and the other parts
and the clock may be exchanged. -/
inductive Signals (config : SiteConfig) : Stack τ → Prop
  | fresh {stack : Stack τ} {transport : τ} {endpoint : Abis.Endpoint τ} (hardware : Hardware) (tracing : Bool)
      (made : Abis.Endpoint.ofConfig config transport = .ok endpoint)
      (oml : stack.part? .oml = some (.ofComponent config
        (.manager { Manager.ofConfig config hardware with tracing := tracing })))
      (abis : stack.part? .abis = some (.ofComponent config (.endpoint endpoint)))
      (idle : stack.queue = .empty) (down : stack.flags.omlLinkUp = false) : Signals config stack
  | submit {stack : Stack τ} (message : Message)
      (plain : ∀ control, message.primitive = .link control →
        ∃ trx, control = .phyLinkUp trx ∨ control = .phyLinkDown trx)
      (before : Signals config stack) : Signals config (stack.submit message)
  | stir {stack : Stack τ} (transport : τ) (before : Signals config stack) : Signals config (stack.stir transport)
  | exchange {stack stack' : Stack τ} (before : Signals config stack)
      (oml : stack'.part? .oml = stack.part? .oml) (abis : stack'.part? .abis = stack.part? .abis)
      (queue : stack'.queue = stack.queue) (flags : stack'.flags.omlLinkUp = stack.flags.omlLinkUp) :
      Signals config stack'
  | deliver {stack stack' : Stack τ} (before : Signals config stack) (delivered : stack.deliver = .ok stack') :
      Signals config stack'
  | frame {stack stack' : Stack τ} {stop : Bool} (now : Nat) (before : Signals config stack)
      (runs : stack.frame now = .ok (stop, stack')) : Signals config stack'

omit [Abis.Transport τ] in
theorem InTouch.fresh {transport : τ} (hardware : Hardware) (tracing : Bool)
    (made : Abis.Endpoint.ofConfig config transport = .ok endpoint)
    (oml : stack.part? .oml = some (.ofComponent config
      (.manager { Manager.ofConfig config hardware with tracing := tracing })))
    (abis : stack.part? .abis = some (.ofComponent config (.endpoint endpoint)))
    (idle : stack.queue = .empty) (down : stack.flags.omlLinkUp = false) :
    InTouch config { Manager.ofConfig config hardware with tracing := tracing } endpoint stack := by
  obtain ⟨sound, _⟩ := Abis.Endpoint.Sound.ofConfig made
  refine ⟨oml, abis, .fresh _ _ _, .fresh _ _ _, sound, ?_⟩
  rw [idle, Abis.Endpoint.signalling_ofConfig made, Manager.signalling, down]
  show Signalling.mk false false (Tree.fresh _ _ _).rslUp = _
  rw [Tree.rslUp_fresh]

omit [Abis.Transport τ] in
theorem InTouch.submit (inTouch : InTouch config manager endpoint stack)
    (plain : ∀ control, message.primitive = .link control →
      ∃ trx, control = .phyLinkUp trx ∨ control = .phyLinkDown trx) :
    InTouch config manager endpoint (stack.submit message) := by
  have beside : message.IsBeside := by
    intro _ seen
    cases told : message.primitive with
    | link control => obtain ⟨trx, rfl | rfl⟩ := plain control told <;> rfl
    | _ => rfl
  refine ⟨inTouch.oml, inTouch.abis, inTouch.objects, inTouch.shaped, inTouch.link, ?_⟩
  show (manager.signalling stack.flags).after (stack.queue.messages ++ [message]) = _
  rw [Signalling.after_append, inTouch.told]
  exact Signalling.after_of_beside (List.forall_mem_singleton.mpr beside) _

omit [Abis.Transport τ] in
theorem InTouch.stir (inTouch : InTouch config manager endpoint stack) (transport : τ) :
    InTouch config manager { endpoint with transport := transport } (stack.stir transport) := by
  obtain ⟨f, stirs, keeps, changes⟩ : ∃ f : Part τ → Part τ,
      stack.stir transport = stack.modifyPart .abis f ∧
      (∀ part : Part τ, part.entity = .abis → (f part).entity = .abis) ∧
      f (.ofComponent config (.endpoint endpoint)) =
        .ofComponent config (.endpoint { endpoint with transport := transport }) := by
    refine ⟨_, rfl, fun part own => ?_, rfl⟩
    split
    · rfl
    · exact own
  have link := inTouch.link
  refine ⟨?_, ?_, inTouch.objects, inTouch.shaped, ⟨link.link, link.fresh, link.failed⟩, inTouch.told⟩
  · rw [stirs, part?_modifyPart keeps, inTouch.oml]
    rfl
  · rw [stirs, part?_modifyPart keeps, inTouch.abis, ← changes]
    rfl

theorem Signals.attuned (signals : Signals config stack) : Attuned config stack := by
  induction signals with
  | fresh hardware tracing made oml abis idle down =>
    exact ⟨_, _, .fresh hardware tracing made oml abis idle down⟩
  | submit message plain _ ih =>
    obtain ⟨_, _, inTouch⟩ := ih
    exact ⟨_, _, inTouch.submit plain⟩
  | stir transport _ ih =>
    obtain ⟨_, _, inTouch⟩ := ih
    exact ⟨_, _, inTouch.stir transport⟩
  | exchange _ oml abis queue flags ih =>
    obtain ⟨manager, endpoint, inTouch⟩ := ih
    refine ⟨manager, endpoint, oml.trans inTouch.oml, abis.trans inTouch.abis, inTouch.objects, inTouch.shaped,
      inTouch.link, ?_⟩
    rw [queue, Manager.signalling, flags]
    exact inTouch.told
  | deliver _ delivered ih =>
    obtain ⟨_, _, inTouch⟩ := ih
    exact inTouch.deliver delivered
  | frame now _ runs ih => exact ih.frame runs

structure LinksAgree (manager : Manager) (flags : LinkFlags) (link : Abis.Link) : Prop where
  rsl : ∀ trx t, manager.tree.transceiver? 0 trx = some t → t.rslUp = link.isRslUp trx
  beyond : ∀ trx, manager.tree.transceiver? 0 trx = none → link.isRslUp trx = false
  oml : flags.omlLinkUp = link.omlUp
  installed : manager.tree.siteManager.phase ≠ .notInstalled ↔ link.omlUp = true

omit [Abis.Transport τ] in
theorem linksAgree_of_signalling {flags : LinkFlags} {link : Abis.Link}
    (same : manager.signalling flags = link.signalling) : LinksAgree manager flags link := by
  have oml : flags.omlLinkUp = link.omlUp := congrArg Signalling.oml same
  have installed : manager.tree.isInstalled = link.omlUp := congrArg Signalling.installed same
  have rsl : manager.tree.rslUp = link.rslUp := congrArg Signalling.rsl same
  have up (trx : Nat) : link.isRslUp trx = ((manager.tree.transceiver? 0 trx).map (·.rslUp)).getD false := by
    rw [Abis.Link.isRslUp, ← rsl, Tree.rslUp, List.getD_eq_getElem?_getD, List.getElem?_map]
    rfl
  refine ⟨?_, ?_, oml, ?_⟩
  · intro trx t found
    rw [up, found]
    rfl
  · intro trx absent
    rw [up, absent]
    rfl
  · rw [← installed]
    exact bne_iff_ne.symm

/-- Whenever nothing waits, manager and endpoint agree on the links: of each transceiver, of the site, and the
site manager is installed exactly while the link of the site is up. -/
theorem Signals.links_agree (config : SiteConfig) (stack : Stack τ) (signals : Signals config stack)
    (settled : stack.queue.isEmpty = true) :
    ∃ manager endpoint, stack.part? .oml = some (.ofComponent config (.manager manager)) ∧
      stack.part? .abis = some (.ofComponent config (.endpoint endpoint)) ∧
      LinksAgree manager stack.flags endpoint.link := by
  obtain ⟨manager, endpoint, inTouch⟩ := signals.attuned
  refine ⟨manager, endpoint, inTouch.oml, inTouch.abis, linksAgree_of_signalling ?_⟩
  have told := inTouch.told
  rw [List.isEmpty_iff.mp settled] at told
  exact told

section Up

open Abis (ScriptedTransport Session)

def answered : Abis.Endpoint ScriptedTransport where
  link := ⟨["main"], 3002, 1000, .connecting, some 0, 0, none, false, [false]⟩
  transport := ⟨[.up], false, [], 0⟩
  started := false
  waiting := []
  reportsSent := 0
  resultsSent := 0
  resultsDropped := 0
  failed := false

def attached : Abis.Endpoint ScriptedTransport :=
  { answered with
    link := ⟨["main"], 3002, 1000, .connected, none, 1, none, true, [true]⟩
    transport := ⟨[], false, [("main", 3002)], 0⟩
    started := true }

def signallingStack (endpoint : Abis.Endpoint ScriptedTransport) (messages : List Message) :
    Stack ScriptedTransport :=
  ⟨[.ofComponent (.ofHosts ["main"]) (.manager (.ofConfig (.ofHosts ["main"]) (.fresh 1))),
    .ofComponent (.ofHosts ["main"]) (.endpoint endpoint)], ⟨messages⟩, ⟨0⟩, .initial⟩

def upNews : List Message :=
  [.ofPrimitive ⟨0⟩ (.link .omlLinkUp), .ofPrimitive ⟨0⟩ (.link (.rslLinkUp 0))]

theorem signallingStack_starts :
    (signallingStack answered []).startFrame 0 = .ok (signallingStack attached upNews) := by
  have polled : Session.poll 0 (answered.link.start 0) answered.transport =
      .ok ⟨attached.link, attached.transport, [.up]⟩ :=
    (Session.poll_due _ rfl rfl).trans ((Session.hear_up 0 rfl rfl).trans (Session.hear_idle 0 rfl rfl))
  have began : answered.startFrame (.ofHosts ["main"]) .initial ⟨0⟩ 0 = .ok ⟨attached, .initial, upNews⟩ := by
    show (Session.poll 0 (answered.link.start 0) answered.transport >>= _) = _
    rw [polled]
    rfl
  have oml : startPart 0 (signallingStack answered []) .oml = .ok (signallingStack answered []) := rfl
  have abis : startPart 0 (signallingStack answered []) .abis = .ok (signallingStack attached upNews) := by
    show ((answered.startFrame (.ofHosts ["main"]) .initial ⟨0⟩ 0 >>= _) >>= _) = _
    rw [began]
    rfl
  show (startPart 0 (signallingStack answered []) .oml >>= fun stack =>
    startPart 0 stack .abis >>= fun stack => .ok stack) = _
  rw [oml, ok_bind, abis]
  rfl

theorem signallingStack_settles :
    ∃ stack, (signallingStack attached upNews).deliverAll >>= endFrame = .ok (false, stack) ∧
      stack.queue.isEmpty = true ∧ stack.flags.omlLinkUp = true := by
  have settles : ((signallingStack attached upNews).deliverAll >>= endFrame).toOption.map
      (fun ended => (ended.1, ended.2.queue.isEmpty, ended.2.flags.omlLinkUp)) = some (false, true, true) := by
    decide +kernel
  cases ends : (signallingStack attached upNews).deliverAll >>= endFrame with
  | error fault =>
    rw [ends] at settles
    cases settles
  | ok ended =>
    obtain ⟨stop, stack⟩ := ended
    rw [ends] at settles
    obtain ⟨rfl, settled, up⟩ : stop = false ∧ stack.queue.isEmpty = true ∧ stack.flags.omlLinkUp = true := by
      simpa [Except.toOption] using settles
    exact ⟨stack, rfl, settled, up⟩

theorem Signals.links_agree_up : ∃ (stack stack' : Stack ScriptedTransport),
    Signals (.ofHosts ["main"]) stack ∧ stack.frame 0 = .ok (false, stack') ∧
      stack'.queue.isEmpty = true ∧ stack'.flags.omlLinkUp = true ∧
      ∃ manager endpoint, stack'.part? .oml = some (.ofComponent (.ofHosts ["main"]) (.manager manager)) ∧
        stack'.part? .abis = some (.ofComponent (.ofHosts ["main"]) (.endpoint endpoint)) ∧
        LinksAgree manager stack'.flags endpoint.link := by
  have made : Abis.Endpoint.ofConfig (.ofHosts ["main"]) answered.transport = .ok answered := rfl
  have signals : Signals (.ofHosts ["main"]) (signallingStack answered []) :=
    .fresh (.fresh 1) false made rfl rfl rfl rfl
  obtain ⟨stack', ends, settled, up⟩ := signallingStack_settles
  have framed : (signallingStack answered []).frame 0 = .ok (false, stack') := by
    show (startFrame 0 _ >>= _) = _
    rw [signallingStack_starts]
    exact ends
  exact ⟨_, stack', signals, framed, settled, up, (signals.frame 0 framed).links_agree _ stack' settled⟩

end Up

end Stack

end BaseStation
