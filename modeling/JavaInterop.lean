import JavaInterop.Exception.NameSource
import JavaInterop.Startup.Arguments
import JavaInterop.Text.ModifiedUtf8
import JavaInterop.Store
import JavaInterop.Exception.Resolution
import JavaInterop.Bridge.Program
import JavaInterop.Lifecycle.Registration
import JavaInterop.Environment.Objects
import JavaInterop.Callback.Builder
import JavaInterop.Lifecycle.Shutdown
import JavaInterop.Lifecycle.ThreadExit
import JavaInterop.Startup.Library
import JavaInterop.Simulation.Class
import JavaInterop.Simulation.Process
import JavaInterop.Script.Run
import JavaInterop.Proofs.Exception.Checked
import JavaInterop.Proofs.Exception.Matched
import JavaInterop.Proofs.Reference.Settled
import JavaInterop.Proofs.Reference.Ownership
import JavaInterop.Proofs.Lifecycle.Inert
import JavaInterop.Proofs.Lifecycle.History
import JavaInterop.Proofs.Lifecycle.Hooks
import JavaInterop.Proofs.Class.Sharing
import JavaInterop.Proofs.Callback.Environment
import JavaInterop.Proofs.Callback.BuilderHistory
import JavaInterop.Proofs.Presence.Detachment
import JavaInterop.Proofs.Lifecycle.Versions
import JavaInterop.Proofs.Startup.Translation
import JavaInterop.Proofs.Lifecycle.Undone
import JavaInterop.Proofs.Local.Deletion
import JavaInterop.Proofs.Exception.Agreement
import JavaInterop.Proofs.Exception.Enlistment
import JavaInterop.Proofs.Exception.Peak
import JavaInterop.Proofs.Exception.Scan
import JavaInterop.Proofs.Presence.Refusal
import JavaInterop.Proofs.Callback.Escape
import JavaInterop.Proofs.Lifecycle.Nesting
import JavaInterop.Proofs.Callback.Elements
import JavaInterop.Proofs.Environment.Handover
import JavaInterop.Proofs.Text.Carriage
import JavaInterop.Proofs.Callback.Boxes
import JavaInterop.Proofs.Class.Cache
import JavaInterop.Proofs.Class.LoaderHistory
