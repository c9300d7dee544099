import HostBridge.Bridge.Argument
import HostBridge.Bridge.Attachment
import HostBridge.Bridge.Client
import HostBridge.Bridge.Hosts
import HostBridge.Bridge.Interface
import HostBridge.Config.FilePath
import HostBridge.Logging.Console
import HostBridge.Proofs.Action
import HostBridge.Proofs.Asking
import HostBridge.Proofs.BootSettings
import HostBridge.Proofs.Boxing
import HostBridge.Proofs.CallStages
import HostBridge.Proofs.ClasspathNotations
import HostBridge.Proofs.Configuring
import HostBridge.Proofs.Conversions
import HostBridge.Proofs.CoupledRuns
import HostBridge.Proofs.CoupledStrands
import HostBridge.Proofs.Coupling
import HostBridge.Proofs.Course
import HostBridge.Proofs.Crossings
import HostBridge.Proofs.Diagnostics
import HostBridge.Proofs.DirectDetaches
import HostBridge.Proofs.Evaluation
import HostBridge.Proofs.ExactLookups
import HostBridge.Proofs.FailedAttaches
import HostBridge.Proofs.FailedDetaches
import HostBridge.Proofs.FileOrder
import HostBridge.Proofs.Flattening
import HostBridge.Proofs.Following
import HostBridge.Proofs.HeldCallables
import HostBridge.Proofs.HeldHandles
import HostBridge.Proofs.HostFaults
import HostBridge.Proofs.Hosting
import HostBridge.Proofs.Interleaving
import HostBridge.Proofs.Invoking
import HostBridge.Proofs.LastingWorld
import HostBridge.Proofs.LineLayouts
import HostBridge.Proofs.Lookups
import HostBridge.Proofs.LostDiagnostics
import HostBridge.Proofs.MachineFaults
import HostBridge.Proofs.Margins
import HostBridge.Proofs.Marshalling
import HostBridge.Proofs.ObtainedLoggers
import HostBridge.Proofs.OneHandle
import HostBridge.Proofs.OneHandler
import HostBridge.Proofs.OwnedValues
import HostBridge.Proofs.Reentry
import HostBridge.Proofs.Refusals
import HostBridge.Proofs.Releasing
import HostBridge.Proofs.Reloading
import HostBridge.Proofs.Requiring
import HostBridge.Proofs.Rereading
import HostBridge.Proofs.Resolving
import HostBridge.Proofs.Scripts
import HostBridge.Proofs.Sessions
import HostBridge.Proofs.Splitting
import HostBridge.Proofs.Strands
import HostBridge.Proofs.Stretch
import HostBridge.Proofs.ThreadFlags
import HostBridge.Proofs.ThreadParts
import HostBridge.Proofs.Tokens
import HostBridge.Proofs.TransparentColour
import HostBridge.Proofs.UsingValues
import HostBridge.Source.Fragments
