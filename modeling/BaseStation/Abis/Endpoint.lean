import BaseStation.Abis.Session
import BaseStation.Effect

namespace BaseStation.Abis

structure Endpoint (τ : Type) where
  link : Link
  transport : τ
  started : Bool
  waiting : List Report
  reportsSent : Nat
  resultsSent : Nat
  resultsDropped : Nat
  failed : Bool

namespace Endpoint

variable {τ : Type} [Transport τ]

def ofConfig (config : SiteConfig) (transport : τ) : Except SetupError (Endpoint τ) := do
  return ⟨← Link.ofConfig config.abis config.bts.numTrx.toNat, transport, false, [], 0, 0, 0, false⟩

def sendReport (endpoint : Endpoint τ) (report : Report) : Endpoint τ :=
  if endpoint.link.omlUp then { endpoint with reportsSent := endpoint.reportsSent + 1 }
  else { endpoint with waiting := endpoint.waiting ++ [report] }

def flush (endpoint : Endpoint τ) : Endpoint τ :=
  { endpoint with
    waiting := []
    reportsSent := endpoint.reportsSent + endpoint.waiting.length }

/-- A site that takes its links as always up has no links for results. -/
def sendResult (endpoint : Endpoint τ) (config : SiteConfig) (result : Lchan.MeasurementResult) :
    Endpoint τ :=
  if !config.bts.dummyLinks && endpoint.link.isRslUp result.chan.trx then
    { endpoint with resultsSent := endpoint.resultsSent + 1 }
  else { endpoint with resultsDropped := endpoint.resultsDropped + 1 }

def receive (endpoint : Endpoint τ) (config : SiteConfig) (message : Message) : Endpoint τ :=
  match message.primitive with
  | .report report => endpoint.sendReport report
  | .measurementResult result => endpoint.sendResult config result
  | _ => endpoint

def heed (config : SiteConfig) (time : FrameTime) (effect : Effect (Endpoint τ)) (notice : Notice) :
    Effect (Endpoint τ) :=
  match notice with
  | .up =>
    { effect with
      state := effect.state.flush
      sent := effect.sent ++ .ofPrimitive time (.link .omlLinkUp) ::
        (List.range config.bts.numTrx.toNat).map fun trx =>
          .ofPrimitive time (.link (.rslLinkUp trx)) }
  | .failed =>
    { state := { effect.state with failed := true }
      flags := { effect.flags with linkFailed := true }
      sent := effect.sent ++ [.ofPrimitive time (.link .abisLinkFailed)] }

/-- Starts the link on the first frame, and polls it on every frame. -/
def startFrame (endpoint : Endpoint τ) (config : SiteConfig) (flags : LinkFlags) (time : FrameTime)
    (now : Nat) : Except Fault (Effect (Endpoint τ)) := do
  let link := if endpoint.started then endpoint.link else endpoint.link.start now
  let session ← Session.poll now link endpoint.transport
  let endpoint := { endpoint with
    link := session.link, transport := session.transport, started := true }
  return session.notices.foldl (heed config time) (.silent endpoint flags)

end Endpoint

end BaseStation.Abis
