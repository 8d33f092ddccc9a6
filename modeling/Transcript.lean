import Transcript.Cli.Context
import Transcript.Diagnostic.Log
import Transcript.Main
import Transcript.Markup.RawValue
import Transcript.Proofs.Conversion.Findings
import Transcript.Proofs.Markup.Subtree
import Transcript.Proofs.Conversion.Budget
import Transcript.Proofs.Conversion.Conduct
import Transcript.Proofs.Conversion.Plain
import Transcript.Proofs.Conversion.Refinement
import Transcript.Proofs.Platform.Conduct
import Transcript.Proofs.Render.Standard
import Transcript.Proofs.Conversion.AbortLaw
import Transcript.Proofs.Conversion.Boundary
import Transcript.Proofs.Render.ContentModel
import Transcript.Proofs.Render.Yield
import Transcript.Proofs.Render.Conservation
import Transcript.Proofs.Conversion.Machine
import Transcript.Proofs.Conversion.Termination
import Transcript.Proofs.Conversion.Parallel
import Transcript.Proofs.Conversion.Allowance
import Transcript.Proofs.Conversion.Failing
import Transcript.Proofs.Rule.Registration
import Transcript.Proofs.Rule.Order
import Transcript.Proofs.Formula.Escape
import Transcript.Proofs.Platform.Chain
import Transcript.Proofs.Platform.Script
import Transcript.Proofs.Markup.Outlook
import Transcript.Proofs.Platform.Locality
import Transcript.Proofs.Conversion.Messages
import Transcript.Proofs.Render.Nesting
import Transcript.Proofs.Render.Display
import Transcript.Proofs.Text.Lines
import Transcript.Proofs.Text.Pipes
import Transcript.Proofs.Render.PipeTable
import Transcript.Proofs.Render.TableLines
import Transcript.Proofs.Text.Splitting
import Transcript.Proofs.Render.Fence
import Transcript.Proofs.Conversion.Tempered
import Transcript.Proofs.Text.Trimming
import Transcript.Proofs.Render.Outline
import Transcript.Proofs.Conversion.Outline
import Transcript.Proofs.Text.Visible
import Transcript.Proofs.Render.Delimiter
import Transcript.Proofs.Markup.Strings
import Transcript.Proofs.Render.CodeText
import Transcript.Proofs.Render.Wrapper
import Transcript.Proofs.Document.Noise
import Transcript.Proofs.Conversion.Placement
import Transcript.Proofs.Conversion.LooseLists
import Transcript.Proofs.Conversion.Origin
import Transcript.Proofs.Rule.Recall
import Transcript.Proofs.Conversion.Listening
import Transcript.Proofs.Conversion.Overlong
import Transcript.Proofs.Conversion.Detachment
import Transcript.Proofs.Conversion.Unruled
import Transcript.Proofs.Formula.Nesting
import Transcript.Proofs.Platform.DeepFormula
import Transcript.Proofs.Text.Beginning
import Transcript.Proofs.Render.LinkTarget
import Transcript.Proofs.Text.Balance
import Transcript.Proofs.Render.LinkReading
import Transcript.Proofs.Formula.Grouping
import Transcript.Proofs.Formula.Decoding
import Transcript.Proofs.Platform.Placeholder
import Transcript.Proofs.Text.Lowering
import Transcript.Proofs.Platform.Lookup
import Transcript.Proofs.Platform.Detection
import Transcript.Proofs.Platform.CodeWrapper
import Transcript.Proofs.Platform.Spacing
import Transcript.Proofs.Fault.Chain
import Transcript.Proofs.Conversion.Filing
import Transcript.Proofs.Conversion.Respelling
