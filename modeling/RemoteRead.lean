import RemoteRead.CommandLine.Command
import RemoteRead.CommandLine.Render
import RemoteRead.Error.Named
import RemoteRead.Http.Startup
import RemoteRead.Log.Censor
import RemoteRead.Log.Event
import RemoteRead.Main
import RemoteRead.Message.Basic
import RemoteRead.Proofs.Compile
import RemoteRead.Proofs.Outcome
import RemoteRead.Proofs.Calendar.Zone
import RemoteRead.Proofs.Series.Admission
import RemoteRead.Proofs.Series.BareTag
import RemoteRead.Proofs.Series.Blob
import RemoteRead.Proofs.Series.Collision
import RemoteRead.Proofs.Series.Contract
import RemoteRead.Proofs.Series.Grouping
import RemoteRead.Proofs.Series.Layout
import RemoteRead.Proofs.Series.Response
import RemoteRead.Proofs.Service
import RemoteRead.Proofs.Sql.Phrase
import RemoteRead.Proofs.Sql.Statement
import RemoteRead.Proofs.Sql.Token
import RemoteRead.Proofs.Sql.Values
import RemoteRead.Proofs.Text.Decimal
import RemoteRead.Proofs.Text.Scalar
import RemoteRead.Proofs.Text.Utf8
import RemoteRead.Proofs.Wire.Body
import RemoteRead.Proofs.Wire.Field
import RemoteRead.Proofs.Wire.Message
import RemoteRead.Proofs.Wire.Snappy
import RemoteRead.Proofs.Json.RoundTrip
import RemoteRead.Proofs.Series.TagMap
import RemoteRead.Proofs.Store.Table
import RemoteRead.Proofs.Store.Contract
import RemoteRead.Proofs.Sql.Columns
import RemoteRead.Proofs.Text.Split
import RemoteRead.Proofs.Metric.Name
import RemoteRead.Proofs.Compile.Refusal
import RemoteRead.Proofs.Compile.Selection
import RemoteRead.Proofs.Identifier
import RemoteRead.Proofs.Compile.Position
import RemoteRead.Proofs.Compile.Discovery
import RemoteRead.Proofs.Sql.Names
import RemoteRead.Proofs.TimeRange
import RemoteRead.Proofs.Json.Complete
import RemoteRead.Proofs.Series.Cap
import RemoteRead.Proofs.Series.BlobLabels
import RemoteRead.Proofs.Series.LabelNames
import RemoteRead.Proofs.Number.Label
import RemoteRead.Proofs.Text.Trim
import RemoteRead.Proofs.Matcher.Expression
import RemoteRead.Proofs.Value.Equality
import RemoteRead.Proofs.TagCatalog.Shape
import RemoteRead.Proofs.Environment
import RemoteRead.Proofs.Settings.Section
import RemoteRead.Proofs.Value.Mapping
import RemoteRead.Proofs.Yaml.Mapping
import RemoteRead.Proofs.Settings.Overlay
import RemoteRead.Proofs.Settings.Checked
import RemoteRead.Proofs.Settings.Priority
import RemoteRead.Proofs.Log.Address
import RemoteRead.Proofs.Log.Censor
import RemoteRead.Proofs.Log.Credentials
import RemoteRead.Proofs.Http.RequestId
import RemoteRead.Proofs.Sql.Namespace
import RemoteRead.Proofs.Sql.Literal
import RemoteRead.Proofs.Series.Run
