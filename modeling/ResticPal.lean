import ResticPal.Lib.BTreeMap
import ResticPal.Lib.Runs
import ResticPal.Lib.Checks
import ResticPal.Rust.Time
import ResticPal.Rust.Text
import ResticPal.Rust.Net
import ResticPal.Rust.Path
import ResticPal.Core.Config
import ResticPal.Core.Policy
import ResticPal.Core.Schedule
import ResticPal.Core.Management
import ResticPal.Service.Management
import ResticPal.Core.Restic
import ResticPal.Core.Status
import ResticPal.Protocol
import ResticPal.Service.Executor
import ResticPal.Service.State
import ResticPal.Runtime.Lifecycle
import ResticPal.Runtime.Scheduler
import ResticPal.Runtime.Enrollment
import ResticPal.Runtime.Authorization
import ResticPal.Runtime.Activity
import ResticPal.Runtime.Edits
import ResticPal.Runtime.Effects
import ResticPal.System.Exclusion
import ResticPal.System.Frozen
import ResticPal.System.Verified
import ResticPal.System.Locks
import ResticPal.System.Layers
import ResticPal.System.ManagementWorker
import ResticPal.System.Interleaving
import ResticPal.Core.Protected
import ResticPal.Lib.Lexical
import ResticPal.Runtime.Flags
import ResticPal.Runtime.Ipc
import ResticPal.Runtime.State
import ResticPal.Service.Store
import ResticPal.System.Model
import ResticPal.System.Sections
import ResticPal.System.Steps
import ResticPal.System.Updates
import ResticPal.Runtime.Rejected
import ResticPal.Lib.Journal
import ResticPal.Runtime.Journal
import ResticPal.System.Host
import ResticPal.System.Probed
import ResticPal.Runtime.References
import ResticPal.System.References
import ResticPal.Core.Validity
import ResticPal.System.Standalone
import ResticPal.System.Sources
import ResticPal.Runtime.Revision
import ResticPal.System.Delayed
import ResticPal.Runtime.Status
import ResticPal.System.Reported
import ResticPal.Runtime.Saved
import ResticPal.System.Persisted
import ResticPal.Runtime.Handlers
import ResticPal.Core.Precedence
import ResticPal.Runtime.Decisions
import ResticPal.Core.CommandLine
import ResticPal.Lib.Arguments
import ResticPal.Runtime.Timing
import ResticPal.System.Timing
import ResticPal.System.Wakeups
import ResticPal.System.Corrections
import ResticPal.System.Pacing
import ResticPal.System.EventLoop
import ResticPal.System.Cancellation
import ResticPal.Service.History
import ResticPal.Runtime.Noninterference
import ResticPal.Lib.Lines
import ResticPal.Service.Output
import ResticPal.UI.Synchronization
import ResticPal.UI.Reloads
import ResticPal.Service.Failures
import ResticPal.Lib.Window
import ResticPal.Runtime.Maintenance
import ResticPal.Service.Recording
import ResticPal.Lib.JsonString
import ResticPal.Service.PolicyCache
import ResticPal.Core.Enrollment
import ResticPal.Runtime.Settings
import ResticPal.Rust.PathCase
import ResticPal.Core.Containment
import ResticPal.Lib.Source
import ResticPal.Service.Reading
import ResticPal.Lib.LittleEndian
import ResticPal.Protocol.Frames
import ResticPal.Protocol.Json
import ResticPal.Lib.Tally
import ResticPal.Service.Details
import ResticPal.Runtime.Responses
import ResticPal.System.Pruning
import ResticPal.System.Panics
import ResticPal.Lib.Rotation
import ResticPal.Service.Diagnostics
import ResticPal.Lib.Toml
import ResticPal.Service.ConfigFile
import ResticPal.Runtime.Readable
import ResticPal.Lib.Directory
import ResticPal.Service.AtomicFile
import ResticPal.Service.CredentialFiles
import ResticPal.Lib.Jobs
import ResticPal.Service.Processes
import ResticPal.Service.Installer
import ResticPal.System.Installing
import ResticPal.System.Shutdown
import ResticPal.System.StatusReports
