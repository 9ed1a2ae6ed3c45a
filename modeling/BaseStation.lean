import BaseStation.Frame.Scan
import BaseStation.Log.Line
import BaseStation.Main
import BaseStation.Stack.View
import BaseStation.Text.Hex
import BaseStation.Proofs.Abis.Attempts
import BaseStation.Proofs.Abis.HandOver
import BaseStation.Proofs.Lchan.PeriodEnds
import BaseStation.Proofs.Lchan.Reporting
import BaseStation.Proofs.Lchan.TransmitRange
import BaseStation.Proofs.Management.Answers
import BaseStation.Proofs.Management.Deeds
import BaseStation.Proofs.Management.LinkOrder
import BaseStation.Proofs.Management.Published
import BaseStation.Proofs.Management.ReadyChannels
import BaseStation.Proofs.Management.Safety
import BaseStation.Proofs.Management.TransceiverLinks
import BaseStation.Proofs.Management.Uninstalled
import BaseStation.Proofs.Stack.LinkAgreement
import BaseStation.Proofs.Stack.Releases
import BaseStation.Proofs.Management.Dealings
import BaseStation.Proofs.Management.Isolation
import BaseStation.Proofs.Management.InService
import BaseStation.Proofs.Frame.Ring
import BaseStation.Proofs.Lchan.AdvanceStride
import BaseStation.Proofs.Lchan.Decisions
import BaseStation.Proofs.Lchan.Deviation
import BaseStation.Proofs.Lchan.PowerSteps
import BaseStation.Proofs.Lchan.Settling
import BaseStation.Proofs.Log.Lines
import BaseStation.Proofs.Abis.Removal
import BaseStation.Proofs.Lchan.LostBlocks
import BaseStation.Proofs.Lchan.Unmeasured
import BaseStation.Proofs.Management.Combinations
import BaseStation.Proofs.Sacch.Grammar
import BaseStation.Proofs.Stack.Draining
import BaseStation.Proofs.Stack.Frames
import BaseStation.Proofs.Config.Loading
import BaseStation.Proofs.Management.Termination
