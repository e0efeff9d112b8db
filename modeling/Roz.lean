import Roz.Core.FrameTreeShape
import Roz.Embodiment.Groupoid
import Roz.Embodiment.Digest
import Roz.Embodiment.ChecksAgree
import Roz.Core.JsonBalance
import Roz.Core.Frechet
import Roz.Copper.LifecycleRetirement
import Roz.Copper.Task
import Roz.Copper.InterfaceLimits
import Roz.Copper.StageAgreement
import Roz.Copper.SafeStop
import Roz.Copper.Tracking
import Roz.Agent.Bt.Certified
import Roz.Core.Bt.Grammar
import Roz.Agent.Bt.Quiescence
import Roz.Agent.Bt.Restore
import Roz.Agent.ContextSplit
import Roz.Agent.ContextShrink
import Roz.Agent.SummaryClamp
import Roz.Agent.RateGuard
import Roz.Agent.Metering
import Roz.Agent.TurnEmitter
import Roz.Agent.Streaming
import Roz.Agent.RemoteCalls
import Roz.Agent.WatchTeam
import Roz.Worker.AdaptiveBitrate
import Roz.Worker.Approvals
import Roz.Worker.EdgeTurn
import Roz.Worker.ExecuteTask
import Roz.Worker.Idempotency
import Roz.OpenAi.ToolCalls
import Roz.OpenAi.ChatRequest
import Roz.OpenAi.OAuth
import Roz.Safety.StopsOnce
import Roz.Zenoh.Envelope
import Roz.Zenoh.Coordination
import Roz.Server.Leases
import Roz.Server.DeviceAuthSpent
import Roz.Server.DispatchReports
import Roz.Server.ScheduleReplay
import Roz.Server.ScheduleEdits
