import JsonTap.Payload
import JsonTap.Web.App
import JsonTap.Log.Logger
import JsonTap.Metrics.Sample
import JsonTap.Main
import JsonTap.Proofs.Json.Completeness
import JsonTap.Proofs.Json.RoundTrip
import JsonTap.Proofs.Net.Ownership
import JsonTap.Proofs.Net.Attempts
import JsonTap.Proofs.Service.Course
import JsonTap.Proofs.Web.Conditions
import JsonTap.Proofs.Web.Isolation
import JsonTap.Proofs.Encoding.RoundTrip
import JsonTap.Proofs.Json.Refusals
import JsonTap.Proofs.Web.Delivered
import JsonTap.Proofs.Web.Rejection
import JsonTap.Proofs.Web.Handling
import JsonTap.Proofs.Web.ReadBack
import JsonTap.Proofs.Web.Chunking
import JsonTap.Proofs.Web.Counts
import JsonTap.Proofs.Named
import JsonTap.Proofs.Config.Document
import JsonTap.Proofs.Config.Settings
import JsonTap.Proofs.Text.Split
import JsonTap.Proofs.Command.Precedence
import JsonTap.Proofs.Command.Startup
import JsonTap.Proofs.Encoding.Decoded
import JsonTap.Proofs.Json.Built
import JsonTap.Proofs.Json.Surrogates
import JsonTap.Proofs.Json.Line
import JsonTap.Proofs.Log.Timestamp
import JsonTap.Proofs.Log.Line
import JsonTap.Proofs.Log.Written
import JsonTap.Proofs.Web.LogLines
import JsonTap.Proofs.Config.Load
import JsonTap.Proofs.Config.Size
import JsonTap.Proofs.Service.Cap
import JsonTap.Proofs.Encoding.Replacement
import JsonTap.Proofs.Web.Reading
import JsonTap.Proofs.Encoding.Chunks
import JsonTap.Proofs.Net.Started
import JsonTap.Proofs.Json.Places
import JsonTap.Proofs.Web.Target
import JsonTap.Proofs.Web.DocumentPath
import JsonTap.Proofs.Net.Binding
import JsonTap.Proofs.Config.Settled
import JsonTap.Proofs.Config.InUse
import JsonTap.Proofs.Net.Ports
import JsonTap.Proofs.Net.Ending
import JsonTap.Proofs.Web.TextLog
import JsonTap.Proofs.Log.Blocks
import JsonTap.Proofs.Log.Calls
import JsonTap.Proofs.Config.Units
