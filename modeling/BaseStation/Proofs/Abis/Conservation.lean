import BaseStation.Proofs.Abis.LinkNews

namespace BaseStation

open Abis (Notice)

namespace Primitive

def report? : Primitive → Option Report
  | .report said => some said
  | _ => none

def result? : Primitive → Option Lchan.MeasurementResult
  | .measurementResult measured => some measured
  | _ => none

end Primitive

def reportsIn (given : List Primitive) : List Report := given.filterMap Primitive.report?

def resultsIn (given : List Primitive) : List Lchan.MeasurementResult := given.filterMap Primitive.result?

theorem reportsIn_append (given given' : List Primitive) :
    reportsIn (given ++ given') = reportsIn given ++ reportsIn given' := List.filterMap_append

theorem resultsIn_append (given given' : List Primitive) :
    resultsIn (given ++ given') = resultsIn given ++ resultsIn given' := List.filterMap_append

theorem Signalling.oml_of_learn {notices : List Notice} {seen : Signalling}
    (up : (notices.foldl Signalling.learn seen).oml = true) : .up ∈ notices ∨ seen.oml = true := by
  induction notices generalizing seen with
  | nil => exact .inr up
  | cons notice rest ih =>
    rcases ih up with told | learnt
    · exact .inl (List.mem_cons_of_mem _ told)
    · cases notice with
      | up => exact .inl List.mem_cons_self
      | failed => cases learnt

namespace Abis.Endpoint

variable {τ : Type} {config : SiteConfig} {numTrx results : Nat} {reports : List Report}
  {endpoint : Endpoint τ}

structure Accounts (config : SiteConfig) (reports : List Report) (results : Nat) (endpoint : Endpoint τ) :
    Prop where
  counted : reports.length = endpoint.reportsSent + endpoint.waiting.length
  waiting : endpoint.waiting = reports.drop endpoint.reportsSent
  flushed : endpoint.link.omlUp = true → endpoint.waiting = []
  tallied : results = endpoint.resultsSent + endpoint.resultsDropped
  dummy : config.bts.dummyLinks = true → endpoint.resultsSent = 0

theorem Accounts.ofConfig {transport : τ} (made : Endpoint.ofConfig config transport = .ok endpoint) :
    endpoint.Accounts config [] 0 := by
  obtain ⟨link, _, made⟩ := bind_eq_ok made
  cases made
  exact ⟨rfl, rfl, fun _ => rfl, rfl, fun _ => rfl⟩

theorem Accounts.sendReport (accounts : endpoint.Accounts config reports results) (report : Report) :
    (endpoint.sendReport report).Accounts config (reports ++ [report]) results := by
  have counted := accounts.counted
  unfold Endpoint.sendReport
  split
  · rename_i up
    have empty := accounts.flushed up
    rw [empty, List.length_nil, Nat.add_zero] at counted
    refine ⟨?_, ?_, accounts.flushed, accounts.tallied, accounts.dummy⟩
    · simp [empty, counted]
    · simp [empty, counted]
  · rename_i down
    have bound : endpoint.reportsSent ≤ reports.length := by omega
    refine ⟨?_, ?_, fun up => absurd up down, accounts.tallied, accounts.dummy⟩
    · rw [List.length_append, counted, List.length_append, Nat.add_assoc]
    · rw [List.drop_append_of_le_length bound, ← accounts.waiting]

theorem Accounts.sendResult (accounts : endpoint.Accounts config reports results)
    (result : Lchan.MeasurementResult) :
    (endpoint.sendResult config result).Accounts config reports (results + 1) := by
  have counted := accounts.tallied
  unfold Endpoint.sendResult
  split
  · rename_i links
    refine ⟨accounts.counted, accounts.waiting, accounts.flushed, ?_, fun dummy => ?_⟩
    · rw [counted, Nat.add_right_comm]
    · simp [dummy] at links
  · exact ⟨accounts.counted, accounts.waiting, accounts.flushed, congrArg (· + 1) counted, accounts.dummy⟩

theorem Accounts.receive {given : List Primitive}
    (accounts : endpoint.Accounts config (reportsIn given) (resultsIn given).length) (message : Message) :
    (endpoint.receive config message).Accounts config (reportsIn (given ++ [message.primitive]))
      (resultsIn (given ++ [message.primitive])).length := by
  rw [reportsIn_append, resultsIn_append, List.length_append]
  unfold Endpoint.receive
  cases told : message.primitive with
  | report report => exact accounts.sendReport report
  | measurementResult result =>
    rw [show reportsIn [_] = [] from rfl, List.append_nil]
    exact accounts.sendResult result
  | _ =>
    rw [show reportsIn [_] = [] from rfl, List.append_nil]
    exact accounts

inductive Settles (notices : List Notice) (endpoint endpoint' : Endpoint τ) : Prop
  | flushes (waiting : endpoint'.waiting = [])
      (sent : endpoint'.reportsSent = endpoint.reportsSent + endpoint.waiting.length)
  | keeps (silent : .up ∉ notices) (waiting : endpoint'.waiting = endpoint.waiting)
      (sent : endpoint'.reportsSent = endpoint.reportsSent)

theorem foldl_heed_settles (config : SiteConfig) (time : FrameTime) (notices : List Notice)
    (effect : Effect (Endpoint τ)) :
    Settles notices effect.state (notices.foldl (heed config time) effect).state ∧
      (notices.foldl (heed config time) effect).state.resultsSent = effect.state.resultsSent ∧
      (notices.foldl (heed config time) effect).state.resultsDropped = effect.state.resultsDropped := by
  induction notices generalizing effect with
  | nil => exact ⟨.keeps List.not_mem_nil rfl rfl, rfl, rfl⟩
  | cons notice rest ih =>
    obtain ⟨settles, sent, dropped⟩ := ih (heed config time effect notice)
    cases notice with
    | failed =>
      refine ⟨?_, sent, dropped⟩
      cases settles with
      | flushes waiting sent => exact .flushes waiting sent
      | keeps silent waiting sent => exact .keeps (by simpa using silent) waiting sent
    | up =>
      refine ⟨?_, sent, dropped⟩
      -- whatever the other notices are, nothing waits any more
      cases settles with
      | flushes waiting sent => exact .flushes waiting sent
      | keeps silent waiting sent => exact .flushes waiting sent

theorem Accounts.settles {endpoint' : Endpoint τ} {notices : List Notice}
    (accounts : endpoint.Accounts config reports results) (settles : Settles notices endpoint endpoint')
    (sent : endpoint'.resultsSent = endpoint.resultsSent)
    (dropped : endpoint'.resultsDropped = endpoint.resultsDropped)
    (up : endpoint'.link.omlUp = true → .up ∈ notices ∨ endpoint.link.omlUp = true) :
    endpoint'.Accounts config reports results := by
  have counted : results = endpoint'.resultsSent + endpoint'.resultsDropped := by
    rw [sent, dropped, accounts.tallied]
  have unsent (dummy : config.bts.dummyLinks = true) : endpoint'.resultsSent = 0 := by
    rw [sent, accounts.dummy dummy]
  cases settles with
  | flushes empty more =>
    refine ⟨?_, ?_, fun _ => empty, counted, unsent⟩
    · rw [empty, more, accounts.counted]
      rfl
    · rw [empty, more, ← accounts.counted, List.drop_length]
  | keeps silent same less =>
    refine ⟨?_, ?_, fun isUp => ?_, counted, unsent⟩
    · rw [same, less, accounts.counted]
    · rw [same, less, accounts.waiting]
    · rw [same]
      exact accounts.flushed ((up isUp).resolve_left silent)

theorem Sound.onTransport (sound : endpoint.Sound numTrx) (transport : τ) :
    Sound numTrx { endpoint with transport := transport } :=
  ⟨sound.link, sound.fresh, sound.failed⟩

variable [Transport τ]

theorem Accounts.startFrame {transport : τ} {flags : LinkFlags} {time : FrameTime} {now : Nat}
    {effect : Effect (Endpoint τ)} (accounts : endpoint.Accounts config reports results)
    (sound : endpoint.Sound numTrx)
    (started : { endpoint with transport := transport }.startFrame config flags time now = .ok effect) :
    effect.state.Accounts config reports results := by
  have sound' := sound.onTransport transport
  obtain ⟨session, acts, polls, rfl⟩ := startFrame_polls sound' started
  let begun : Endpoint τ :=
    { endpoint with link := session.link, transport := session.transport, started := true }
  obtain ⟨settles, sent, dropped⟩ :=
    foldl_heed_settles config time session.notices (.silent begun flags)
  obtain ⟨link, _, _⟩ := foldl_heed_news config time session.notices (.silent begun flags)
  have told := polls.signalling (sound'.linkAt now)
  rw [signalling_linkAt] at told
  have settled : Settles session.notices endpoint
      (session.notices.foldl (heed config time) (.silent begun flags)).state := by
    cases settles with
    | flushes waiting sent => exact .flushes waiting sent
    | keeps silent waiting sent => exact .keeps silent waiting sent
  refine accounts.settles settled sent dropped fun up => ?_
  rw [link] at up
  have isUp : (session.notices.foldl Signalling.learn endpoint.link.signalling).oml = true := by
    rw [told]
    exact up
  exact Signalling.oml_of_learn isUp

/-- What an endpoint goes through from when it is made: it is given primitives and starts frames, in any
order, and its transport may be in any state as a frame starts. -/
inductive Serves (config : SiteConfig) : List Primitive → Endpoint τ → Prop
  | made {endpoint : Endpoint τ} {transport : τ} (made : Endpoint.ofConfig config transport = .ok endpoint) :
      Serves config [] endpoint
  | receives {given : List Primitive} {endpoint : Endpoint τ} (message : Message)
      (serves : Serves config given endpoint) :
      Serves config (given ++ [message.primitive]) (endpoint.receive config message)
  | frame {given : List Primitive} {endpoint : Endpoint τ} (transport : τ) (flags : LinkFlags)
      (time : FrameTime) (now : Nat) {effect : Effect (Endpoint τ)} (serves : Serves config given endpoint)
      (started : { endpoint with transport := transport }.startFrame config flags time now = .ok effect) :
      Serves config given effect.state

variable {given : List Primitive}

theorem Serves.sound (serves : Serves config given endpoint) :
    endpoint.Sound config.bts.numTrx.toNat := by
  induction serves with
  | made made => exact (Sound.ofConfig made).1
  | receives message _ ih => exact ih.receive config message
  | frame transport _ _ _ _ started ih => exact startFrame_sound (ih.onTransport transport) started

theorem Serves.accounts (serves : Serves config given endpoint) :
    endpoint.Accounts config (reportsIn given) (resultsIn given).length := by
  induction serves with
  | made made => exact .ofConfig made
  | receives message _ ih => exact ih.receive message
  | frame transport flags time now serves started ih => exact ih.startFrame serves.sound started

/-- At all times the reports that were received were sent, but for those that wait, which are the latest, and
none waits while signalling is up. The measurement results that were received were sent or dropped, and none
was sent on a site that takes its links as always up. Whatever the transport, frames start without a fault,
but for one in which the link would have to try its next host at a time that the clock cannot tell. -/
theorem Serves.conserves (serves : Serves config given endpoint) :
    (reportsIn given).length = endpoint.reportsSent + endpoint.waiting.length ∧
      endpoint.waiting = (reportsIn given).drop endpoint.reportsSent ∧
      (endpoint.link.omlUp = true → endpoint.waiting = []) ∧
      (resultsIn given).length = endpoint.resultsSent + endpoint.resultsDropped ∧
      (config.bts.dummyLinks = true → endpoint.resultsSent = 0) ∧
      ∀ (transport : τ) flags time now fault,
        { endpoint with transport := transport }.startFrame config flags time now = .error fault ↔
          fault = .timeOverflow ∧ Link.timeLimit ≤ now + endpoint.link.reconnectDelay ∧
            Retries now (endpoint.linkAt now) transport := by
  obtain ⟨reports, waiting, flushed, results, dummy⟩ := serves.accounts
  refine ⟨reports, waiting, flushed, results, dummy, fun transport flags time now fault => ?_⟩
  exact startFrame_eq_error_iff (serves.sound.onTransport transport)

def unattached : Endpoint ScriptedTransport where
  link := ⟨["main"], 3002, 1000, .connecting, some 0, 0, none, false, [false]⟩
  transport := .fresh
  started := false
  waiting := []
  reportsSent := 0
  resultsSent := 0
  resultsDropped := 0
  failed := false

theorem Serves.conserves_attached : ∃ endpoint : Endpoint ScriptedTransport,
    Serves (.ofHosts ["main"])
      [.report (.softwareActivated .siteManager), .report (.softwareActivated .gprsNse)] endpoint ∧
      endpoint.link.omlUp = true ∧ endpoint.waiting = [] ∧ endpoint.reportsSent = 2 := by
  let early : Message := .ofPrimitive ⟨0⟩ (.report (.softwareActivated .siteManager))
  let late : Message := .ofPrimitive ⟨0⟩ (.report (.softwareActivated .gprsNse))
  let asked := unattached.receive (.ofHosts ["main"]) early
  have polled : ∃ session, Session.poll 0 (unattached.link.start 0) (ScriptedTransport.fresh.tell .up) =
      .ok session ∧ session.link.omlUp = true ∧ session.notices = [.up] :=
    ⟨_, (Session.poll_due _ rfl rfl).trans ((Session.hear_up 0 rfl rfl).trans (Session.hear_idle 0 rfl rfl)),
      rfl, rfl⟩
  have begun : ∃ effect, { asked with transport := ScriptedTransport.fresh.tell .up }.startFrame
      (.ofHosts ["main"]) .initial ⟨0⟩ 0 = .ok effect ∧ effect.state.link.omlUp = true := by
    obtain ⟨session, polled, up, told⟩ := polled
    let attached : Endpoint ScriptedTransport :=
      { asked with link := session.link, transport := session.transport, started := true }
    refine ⟨heed (.ofHosts ["main"]) ⟨0⟩ (.silent attached .initial) .up, ?_, up⟩
    show (Session.poll 0 (unattached.link.start 0) (ScriptedTransport.fresh.tell .up) >>= _) = _
    rw [polled, ok_bind, told]
    rfl
  obtain ⟨effect, started, up⟩ := begun
  have made : Endpoint.ofConfig (.ofHosts ["main"]) ScriptedTransport.fresh = .ok unattached := rfl
  have serves := (((Serves.made made).receives early).frame _ _ _ _ started).receives late
  have stillUp : (effect.state.receive (.ofHosts ["main"]) late).link.omlUp = true := by
    rw [(receive_link ..).1]
    exact up
  obtain ⟨counted, _, flushed, _⟩ := serves.conserves
  have flushedAll := flushed stillUp
  rw [flushedAll] at counted
  exact ⟨_, serves, stillUp, flushedAll, counted.symm⟩

end Abis.Endpoint

end BaseStation
