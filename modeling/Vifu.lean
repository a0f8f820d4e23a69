import Vifu.Runtime.Cancellation
import Vifu.Runtime.Headless
import Vifu.Runtime.Core.Cancellation
import Vifu.Runtime.Core.Shared
import Vifu.Runtime.Core.Restore
import Vifu.Runtime.Core.ReleasesKept
import Vifu.Runtime.Bridge.EncodedKept
import Vifu.Runtime.Invocation.Stream
import Vifu.Gateway.Relay.Monitor
import Vifu.Gateway.Relay.Replies
import Vifu.Gateway.Relay.Outcomes
import Vifu.Gateway.Relay.Backlog
import Vifu.Gateway.Relay.RecorderFull
import Vifu.Gateway.Plans.Combinations
import Vifu.Gateway.Sync.MergeKept
import Vifu.Gateway.SessionStore
import Vifu.Server.Socket.Cleanup
import Vifu.Server.Socket.Presence
import Vifu.Server.Socket.Confined
import Vifu.Server.Api.Ownership
import Vifu.Server.Api.Slug
import Vifu.Server.Api.Credentials
import Vifu.Server.Api.RuntimeExtensions
import Vifu.Server.Traces.Idempotence
import Vifu.Server.Traces.Requests
import Vifu.Server.Traces.Closed
import Vifu.Server.Traces.ChatImages
import Vifu.Server.Traces.Scoped
import Vifu.Server.Monitor
import Vifu.Server.CodeSoundness
import Vifu.Server.Keys.RealtimeFollows
import Vifu.Server.Guests.Claims
import Vifu.Server.Guests.Revocations
import Vifu.Server.Endpoints.ProvidersKept
import Vifu.Server.Settings.UpdatesKept
import Vifu.Server.Profiles.Shares
import Vifu.Server.Profiles.Slugs
import Vifu.App.MailboxBooks
import Vifu.App.ModelBooks
import Vifu.App.Contract
import Vifu.App.CaptureBooks
import Vifu.App.ProviderStages
import Vifu.Sdk.FrameAgreement
import Vifu.Sdk.HostKept
import Vifu.Sdk.ResponsesAgree
import Vifu.Sdk.StatusWatcher
import Vifu.Console.ObservationTree
import Vifu.Llama.StructuredValue
