import Breakpoint.Log.Format
import Breakpoint.Main
import Breakpoint.Session
import Breakpoint.Proofs.Contract
import Breakpoint.Proofs.Engine.SweepOutline
import Breakpoint.Proofs.Engine.Journal
import Breakpoint.Proofs.Engine.Requests
import Breakpoint.Proofs.Engine.Unheard
import Breakpoint.Proofs.Engine.Changes
import Breakpoint.Proofs.Query.Evaluation
import Breakpoint.Proofs.Engine.Freshness
import Breakpoint.Proofs.Engine.Agreement
import Breakpoint.Proofs.Engine.Bindings
import Breakpoint.Proofs.Engine.Synchrony
import Breakpoint.Proofs.Engine.Joining
import Breakpoint.Proofs.Query.FeatureText
import Breakpoint.Proofs.Query.Splitting
import Breakpoint.Proofs.Query.Written
import Breakpoint.Proofs.Query.Stages
import Breakpoint.Proofs.Query.Grammar
import Breakpoint.Proofs.Guarantee
import Breakpoint.Proofs.Engine.Finality
import Breakpoint.Proofs.Engine.Destruction
import Breakpoint.Proofs.Text.Trimming
import Breakpoint.Proofs.Query.Prefixes
import Breakpoint.Proofs.Query.Descent
import Breakpoint.Proofs.Query.Nesting
import Breakpoint.Proofs.Query.Commas
import Breakpoint.Proofs.Query.Conjunctions
import Breakpoint.Proofs.Query.Shape
import Breakpoint.Proofs.Overrides
import Breakpoint.Proofs.Loading
import Breakpoint.Proofs.CommandLine.Reference
import Breakpoint.Proofs.CommandLine.Listening
import Breakpoint.Proofs.CommandLine.Replay
import Breakpoint.Proofs.Engine.Stages
import Breakpoint.Proofs.Engine.Suspensions
import Breakpoint.Proofs.Engine.Filing
import Breakpoint.Proofs.Engine.Bearings
import Breakpoint.Proofs.Engine.Bounds
import Breakpoint.Proofs.Engine.Listeners
import Breakpoint.Proofs.Engine.Regularity
import Breakpoint.Proofs.Engine.Revocation
import Breakpoint.Proofs.Engine.Registry
import Breakpoint.Proofs.Engine.Dispatching
import Breakpoint.Proofs.Engine.Isolation
import Breakpoint.Proofs.Query.Chains
import Breakpoint.Proofs.Query.Pieces
import Breakpoint.Proofs.Query.Vocabulary
import Breakpoint.Proofs.Query.Numerals
import Breakpoint.Proofs.Query.Totality
import Breakpoint.Proofs.Query.Dependence
import Breakpoint.Proofs.Query.Interchange
import Breakpoint.Proofs.Query.Drift
import Breakpoint.Proofs.Text.Respelling
import Breakpoint.Proofs.Query.Respelled
import Breakpoint.Proofs.Query.Spacing
import Breakpoint.Proofs.Query.LetterCase
import Breakpoint.Proofs.Coalescer.FrameOrder
import Breakpoint.Proofs.Coalescer.Grants
import Breakpoint.Proofs.Coalescer.Timers
import Breakpoint.Proofs.Coalescer.Pacing
import Breakpoint.Proofs.Engine.Outages
import Breakpoint.Proofs.Engine.Recovery
import Breakpoint.Proofs.Engine.Blindness
import Breakpoint.Proofs.Engine.Bursts
import Breakpoint.Proofs.Coalescer.Whereabouts
import Breakpoint.Proofs.Coalescer.Cancellation
import Breakpoint.Proofs.Coalescer.Signals
import Breakpoint.Proofs.Viewport.Registrations
import Breakpoint.Proofs.Viewport.Rounds
import Breakpoint.Proofs.Query.Diagnostics
import Breakpoint.Proofs.Engine.Layers
import Breakpoint.Proofs.CommandLine.Layers
import Breakpoint.Proofs.Storage.Directories
import Breakpoint.Proofs.Log.Directory
import Breakpoint.Proofs.Log.Rotation
import Breakpoint.Proofs.Log.Limits
import Breakpoint.Proofs.CommandLine.Sizes
import Breakpoint.Proofs.Query.Delimiters
import Breakpoint.Proofs.Query.Negations
