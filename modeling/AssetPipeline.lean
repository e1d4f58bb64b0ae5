import AssetPipeline.Chore
import AssetPipeline.Clock
import AssetPipeline.Config
import AssetPipeline.Config.Assign
import AssetPipeline.Dict
import AssetPipeline.Double
import AssetPipeline.Engine.Action
import AssetPipeline.Engine.Class
import AssetPipeline.Engine.Registry
import AssetPipeline.Evaluator
import AssetPipeline.Event
import AssetPipeline.Extension
import AssetPipeline.Fault
import AssetPipeline.File
import AssetPipeline.Json
import AssetPipeline.Json.Compact
import AssetPipeline.Json.Equality
import AssetPipeline.Json.Inspect
import AssetPipeline.Loader
import AssetPipeline.Module.Import
import AssetPipeline.Module.Missing
import AssetPipeline.Module.Name
import AssetPipeline.Object
import AssetPipeline.Origin
import AssetPipeline.Path
import AssetPipeline.Payload
import AssetPipeline.Session.Conduct
import AssetPipeline.Session.Evaluate
import AssetPipeline.Session.Library
import AssetPipeline.Session.Perform
import AssetPipeline.Session.State
import AssetPipeline.Session.Step
import AssetPipeline.Similarity
import AssetPipeline.SystemError
import AssetPipeline.Template
import AssetPipeline.Text.CaseTable
import AssetPipeline.Text.CodeRange
import AssetPipeline.Text.Cut
import AssetPipeline.Text.Fixed
import AssetPipeline.Text.Hex
import AssetPipeline.Text.LowerCase
import AssetPipeline.Text.Printable
import AssetPipeline.Text.Quoted
import AssetPipeline.Text.Shortest
import AssetPipeline.Text.Split
import AssetPipeline.Proofs.Module.Cause
import AssetPipeline.Proofs.Loader.Report
import AssetPipeline.Proofs.Session.Missing
import AssetPipeline.Proofs.Engine.History
import AssetPipeline.Proofs.Session.Registration
import AssetPipeline.Proofs.Session.Accounting
import AssetPipeline.Proofs.Session.Engines
import AssetPipeline.Proofs.Engine.Soundness
import AssetPipeline.Proofs.Session.Handling
import AssetPipeline.Proofs.Session.Trying
import AssetPipeline.Proofs.Session.Withdrawal
import AssetPipeline.Proofs.Session.Spelling
import AssetPipeline.Proofs.Session.StoreUse
import AssetPipeline.Proofs.Session.SharedStore
import AssetPipeline.Proofs.Session.StoreContent
import AssetPipeline.Proofs.Session.LoadOnce
import AssetPipeline.Proofs.Engine.Alike
import AssetPipeline.Proofs.Session.TwoRuns
import AssetPipeline.Proofs.Session.Alike
import AssetPipeline.Proofs.Session.Commuting
import AssetPipeline.Proofs.Path
import AssetPipeline.Proofs.Text.Letters
import AssetPipeline.Proofs.Engine.Dispatch
import AssetPipeline.Proofs.Session.Dispatch
import AssetPipeline.Proofs.Session.Telling
import AssetPipeline.Proofs.Session.Identity
import AssetPipeline.Proofs.Similarity.Blocks
import AssetPipeline.Proofs.Similarity.Longest
import AssetPipeline.Proofs.Fault.Suggestion
import AssetPipeline.Proofs.Module.Course
import AssetPipeline.Proofs.Module.Clean
import AssetPipeline.Proofs.Session.Ending
import AssetPipeline.Proofs.Session.Acceptance
import AssetPipeline.Proofs.Session.Refusal
import AssetPipeline.Proofs.Session.Hint
import AssetPipeline.Proofs.Session.Rendering
import AssetPipeline.Proofs.Session.Blame
import AssetPipeline.Proofs.Session.Location
