import Driscord.Api.AccessAnswers
import Driscord.Api.AccountAnswers
import Driscord.Api.AccountChecks
import Driscord.Api.AccountRoutes
import Driscord.Api.Accounts
import Driscord.Api.AccountsSafety
import Driscord.Api.Authorisation
import Driscord.Api.Database
import Driscord.Api.Handlers
import Driscord.Api.InviteCodes
import Driscord.Api.Membership
import Driscord.Api.Revocation
import Driscord.Bytes
import Driscord.Client.AccountData
import Driscord.Client.AccountDataSafety
import Driscord.Client.AppState
import Driscord.Client.AppStateSafety
import Driscord.Client.Bindings
import Driscord.Client.ProxyConfig
import Driscord.Client.ScreenPeerSafety
import Driscord.Client.ScreenPeerSession
import Driscord.Client.ScreenSharing
import Driscord.Client.ScreenSharingSafety
import Driscord.Client.ScreenStats
import Driscord.Client.ScreenStatsSafety
import Driscord.Client.StreamWatchingSafety
import Driscord.Client.Transport
import Driscord.Client.TransportSafety
import Driscord.Client.TransportSystem
import Driscord.Client.VoiceLifecycleSafety
import Driscord.Client.VoicePeerSafety
import Driscord.Client.VoiceSettings
import Driscord.Client.VoiceSettingsSafety
import Driscord.Client.VoiceStats
import Driscord.Identity
import Driscord.Library.Announcements
import Driscord.Library.Decimal
import Driscord.Library.FileTree
import Driscord.Library.FirstFit
import Driscord.Library.HoldBack
import Driscord.Library.LatestSlot
import Driscord.Library.Lease
import Driscord.Library.RelativeReference
import Driscord.Library.SerialNumber
import Driscord.Library.SingleServer
import Driscord.Library.Table
import Driscord.Library.ThreadPool
import Driscord.Library.Transactions
import Driscord.Library.TransitionSystem
import Driscord.Server.Admission
import Driscord.Server.Authorization
import Driscord.Server.ChannelAccess
import Driscord.Server.Departure
import Driscord.Server.MediaConnections
import Driscord.Server.MediaRegistration
import Driscord.Server.MediaServer
import Driscord.Server.MediaServerInvariant
import Driscord.Server.QueryString
import Driscord.Server.Registry
import Driscord.Server.RoomInvariant
import Driscord.Server.RoomIsolation
import Driscord.Server.RoomRouters
import Driscord.Server.Rooms
import Driscord.Server.Roster
import Driscord.Server.RouterWatches
import Driscord.Server.Serialisation
import Driscord.Server.Sessions
import Driscord.Server.Shutdown
import Driscord.Server.Upgrade
import Driscord.Server.WriteQueue
import Driscord.Sfu.DelayLine
import Driscord.Sfu.FaultRuns
import Driscord.Sfu.Guarantees
import Driscord.Sfu.HeaderExtension
import Driscord.Sfu.Holdings
import Driscord.Sfu.LinkSchedule
import Driscord.Sfu.MediaUtils
import Driscord.Sfu.MidRemoval
import Driscord.Sfu.Ports
import Driscord.Sfu.QueueAccounting
import Driscord.Sfu.QueueRuns
import Driscord.Sfu.Refusals
import Driscord.Sfu.RouterLaws
import Driscord.Sfu.RouterSystem
import Driscord.Sfu.RtpBounds
import Driscord.Sfu.RtpHeader
import Driscord.Sfu.RtpSlotRewriter
import Driscord.Sfu.ScreenHoldings
import Driscord.Sfu.ScreenInvariant
import Driscord.Sfu.ScreenNotices
import Driscord.Sfu.ScreenOperations
import Driscord.Sfu.ScreenRouter
import Driscord.Sfu.ScreenService
import Driscord.Sfu.ScreenSlots
import Driscord.Sfu.ScreenSystem
import Driscord.Sfu.ScreenWatches
import Driscord.Sfu.SlotTimeline
import Driscord.Sfu.Track
import Driscord.Sfu.VoiceInvariant
import Driscord.Sfu.VoiceNotices
import Driscord.Sfu.VoiceRouter
import Driscord.Sfu.VoiceService
import Driscord.Sfu.VoiceSlots
import Driscord.Sfu.VoiceSystem
import Driscord.Signaling.Codec
import Driscord.Signaling.Json
import Driscord.Signaling.Protocol
import Driscord.Update.InstallSwap
import Driscord.Update.InstallSwapSafety
import Driscord.Update.ManifestPaths
import Driscord.Update.Minisign
import Driscord.Update.MoveLaws
import Driscord.Update.UpdateManager
import Driscord.Update.UpdateManagerSafety
import Driscord.Update.UpdateManifest
