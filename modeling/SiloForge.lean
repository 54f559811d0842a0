import SiloForge.Openclaw.WakeCount
import SiloForge.Openclaw.StaleTasks
import SiloForge.Openclaw.WakeTasks
import SiloForge.Organizations.LastOwner
import SiloForge.System.TerminalRuns
import SiloForge.System.ApprovalFreeze
import SiloForge.System.AllOrNothing
import SiloForge.System.ReviewGates
import SiloForge.System.OnePending
import SiloForge.System.Progress
import SiloForge.System.Dispatches
import SiloForge.Queue.DelayedOnce
import SiloForge.Queue.OtherWork
import SiloForge.Queue.FlushEnds
import SiloForge.Queue.RoundTrip
import SiloForge.Queue.RetryLimit
import SiloForge.Agents.Names
import SiloForge.Agents.SpawnLimit
import SiloForge.Activity.Scope
import SiloForge.Tenancy.Isolation
import SiloForge.Silos.Updates
import SiloForge.Silos.SpawnRequests
import SiloForge.Silos.Runtime
import SiloForge.Activity.TaskStream
import SiloForge.Cascades.Tasks
import SiloForge.Cascades.Agents
import SiloForge.Cascades.Boards
import SiloForge.Cascades.Organizations
import SiloForge.Boards.Snapshot
import SiloForge.Approvals.Stream
import SiloForge.Webhooks.Ingest
import SiloForge.Boards.Conversations
import SiloForge.Organizations.JoinsOnce
import SiloForge.System.Repeats
import SiloForge.System.ResolutionTimes
import SiloForge.System.History
import SiloForge.System.FieldReads
import SiloForge.System.CallbackFrame
import SiloForge.Contracts.Conformance
import SiloForge.Organizations.Grants
import SiloForge.Core.RateLimit
import SiloForge.Core.ClientIp
import SiloForge.Webhooks.Preview
import SiloForge.Openclaw.Rpc
import SiloForge.Openclaw.Heartbeats
import SiloForge.Openclaw.FileUpdates
import SiloForge.Openclaw.Workspaces
import SiloForge.Openclaw.TemplateSync
import SiloForge.Openclaw.Broadcast
import SiloForge.Skills.Counts
import SiloForge.Skills.Sync
import SiloForge.Skills.Instructions
import SiloForge.Dashboard.Buckets
import SiloForge.Frontend.ListDelete
import SiloForge.Frontend.CustomFieldPatch
import SiloForge.Frontend.ActivityEvents
