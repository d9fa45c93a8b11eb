import Jmap2Telegram.Bot.Buttons
import Jmap2Telegram.Bot.Caches
import Jmap2Telegram.Bot.ClientChanges
import Jmap2Telegram.Bot.Commands
import Jmap2Telegram.Bot.DoubleTap
import Jmap2Telegram.Bot.Filters
import Jmap2Telegram.Bot.Handlers
import Jmap2Telegram.Bot.Keyboard
import Jmap2Telegram.Bot.Menu
import Jmap2Telegram.Bot.Notified
import Jmap2Telegram.Bot.Pending
import Jmap2Telegram.Bot.Preferences
import Jmap2Telegram.Bot.ReadAll
import Jmap2Telegram.Bot.Search
import Jmap2Telegram.Bot.SearchHits
import Jmap2Telegram.Bot.Sharing
import Jmap2Telegram.Bot.TapClient
import Jmap2Telegram.Bot.Tenants
import Jmap2Telegram.Bot.Triage
import Jmap2Telegram.Bot.Undo
import Jmap2Telegram.Bot.UndoTarget
import Jmap2Telegram.Bot.Updates
import Jmap2Telegram.Bot.Watched
import Jmap2Telegram.ForStd.Float
import Jmap2Telegram.ForStd.Net
import Jmap2Telegram.ForStd.ParseInt
import Jmap2Telegram.ForStd.Runs
import Jmap2Telegram.ForStd.Sections
import Jmap2Telegram.ForStd.Shell
import Jmap2Telegram.ForStd.Str
import Jmap2Telegram.ForStd.TreeMap
import Jmap2Telegram.ForStd.Utf8Lossy
import Jmap2Telegram.Format.Chunks
import Jmap2Telegram.Format.Injection
import Jmap2Telegram.Format.Length
import Jmap2Telegram.Format.LineChunks
import Jmap2Telegram.Format.Notification
import Jmap2Telegram.Health.Connections
import Jmap2Telegram.Health.Counters
import Jmap2Telegram.Health.Gauges
import Jmap2Telegram.Health.Metrics
import Jmap2Telegram.Health.Page
import Jmap2Telegram.Health.Probe
import Jmap2Telegram.Health.Streams
import Jmap2Telegram.Http.Message
import Jmap2Telegram.I18n
import Jmap2Telegram.Jmap.Connect
import Jmap2Telegram.Jmap.FullText
import Jmap2Telegram.Jmap.PublicHost
import Jmap2Telegram.Jmap.Search
import Jmap2Telegram.Json.Text
import Jmap2Telegram.Markdown.Reader
import Jmap2Telegram.Packing.Greedy
import Jmap2Telegram.Prometheus.Text
import Jmap2Telegram.Prune.Candidates
import Jmap2Telegram.Prune.Protected
import Jmap2Telegram.Prune.Script
import Jmap2Telegram.Prune.Settles
import Jmap2Telegram.Release.Checkouts
import Jmap2Telegram.Release.Immutable
import Jmap2Telegram.Release.Notes
import Jmap2Telegram.Release.Retry
import Jmap2Telegram.Release.Workflow
import Jmap2Telegram.Resume.Boot
import Jmap2Telegram.Resume.Commands
import Jmap2Telegram.Resume.Credentials
import Jmap2Telegram.Resume.Drops
import Jmap2Telegram.Resume.Freshness
import Jmap2Telegram.Resume.Migration
import Jmap2Telegram.Resume.OneWatcher
import Jmap2Telegram.Resume.Outdated
import Jmap2Telegram.Resume.Relogin
import Jmap2Telegram.Resume.Spawned
import Jmap2Telegram.Resume.Targets
import Jmap2Telegram.Resume.Tasks
import Jmap2Telegram.Resume.Teardown
import Jmap2Telegram.Search.Frontier
import Jmap2Telegram.Startup.Settings
import Jmap2Telegram.State.AppState
import Jmap2Telegram.State.Clients
import Jmap2Telegram.State.Contents
import Jmap2Telegram.State.Disconnect
import Jmap2Telegram.State.Edits
import Jmap2Telegram.State.LateWrites
import Jmap2Telegram.State.Lifecycle
import Jmap2Telegram.State.Preferences
import Jmap2Telegram.State.Records
import Jmap2Telegram.State.Tracking
import Jmap2Telegram.State.Views
import Jmap2Telegram.Store.Account
import Jmap2Telegram.Store.Codec
import Jmap2Telegram.Store.Durability
import Jmap2Telegram.Store.Erasure
import Jmap2Telegram.Store.Failure
import Jmap2Telegram.Store.Interleave
import Jmap2Telegram.Store.Json
import Jmap2Telegram.Store.MasterKey
import Jmap2Telegram.Store.Operations
import Jmap2Telegram.Store.Overlap
import Jmap2Telegram.Store.RoundTrip
import Jmap2Telegram.Topics.Forum
import Jmap2Telegram.Topics.Orphans
import Jmap2Telegram.Topics.Servers
import Jmap2Telegram.Transition.Brackets
import Jmap2Telegram.Transition.ChangeLog
import Jmap2Telegram.Transition.Execution
import Jmap2Telegram.Transition.Gauge
import Jmap2Telegram.Transition.Handles
import Jmap2Telegram.Transition.Isolation
import Jmap2Telegram.Transition.Locks
import Jmap2Telegram.Transition.Programs
import Jmap2Telegram.Transition.Strategy
import Jmap2Telegram.Watcher.Answers
import Jmap2Telegram.Watcher.Backoff
import Jmap2Telegram.Watcher.CatchUp
import Jmap2Telegram.Watcher.DeadTopic
import Jmap2Telegram.Watcher.Delivery
import Jmap2Telegram.Watcher.Fallback
import Jmap2Telegram.Watcher.Filters
import Jmap2Telegram.Watcher.News
import Jmap2Telegram.Watcher.Notices
import Jmap2Telegram.Watcher.Reconnect
import Jmap2Telegram.Watcher.Sync
import Jmap2Telegram.Watcher.Target
