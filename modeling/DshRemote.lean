import DshRemote.Core.MuxGrouping
import DshRemote.Core.MuxSafety
import DshRemote.Core.PeerSafety
import DshRemote.Core.SharedStream
import DshRemote.Backend.LeaseSafety
import DshRemote.Backend.PromptOrder
import DshRemote.Backend.WaitingFlag
import DshRemote.Backend.ReplayExactness
import DshRemote.Backend.Fanout
import DshRemote.Backend.ConnectionSafety
import DshRemote.Backend.Answerers
import DshRemote.Backend.StandDown
import DshRemote.Backend.ApprovalSafety
import DshRemote.Backend.QuestionSettling
import DshRemote.Proxy.QuestionAnswers
import DshRemote.Backend.TransferSafety
import DshRemote.Backend.TransferRaces
import DshRemote.Client.ReattachLoop
import DshRemote.Client.RegistrySafety
import DshRemote.Client.HandleFeed
import DshRemote.Subprocess.StdinDelivery
import DshRemote.Subprocess.FrameStream
import DshRemote.Subprocess.TerminalSafety
import DshRemote.Subprocess.Quiescence
import DshRemote.Subprocess.TailReads
import DshRemote.Subprocess.BootstrapOutput
import DshRemote.Subprocess.PipedOutput
import DshRemote.Proxy.Persistence
import DshRemote.Proxy.MirrorGuard
import DshRemote.Proxy.MirrorBootstrap
import DshRemote.Proxy.MirrorSetSafety
import DshRemote.Proxy.AgentFacade
import DshRemote.RemoteSsh.HubEvents
import DshRemote.RemoteSsh.WriteStream
import DshRemote.FsSsh.KeyedMutex
import DshRemote.FsSsh.Reading
import DshRemote.FsSsh.Freshness
import DshRemote.FsSsh.Permissions
import DshRemote.Frontend.CpuRatio
import DshRemote.Frontend.RemoteMonitor
import DshRemote.Frontend.TransferSafety
import DshRemote.RemoteSsh.CommandLine
import DshRemote.FsSsh.LiteralCount
import DshRemote.Client.DaemonNotifications
import DshRemote.QuotingFunctions
