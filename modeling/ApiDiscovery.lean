import ApiDiscovery.Activity
import ApiDiscovery.Binary64.Basic
import ApiDiscovery.Binary64.Shortest
import ApiDiscovery.CommandLine.Arguments
import ApiDiscovery.CommandLine.Report
import ApiDiscovery.CommandLine.Run
import ApiDiscovery.Compile
import ApiDiscovery.Document.Basic
import ApiDiscovery.Document.Decode
import ApiDiscovery.Document.Encode
import ApiDiscovery.Document.Stream
import ApiDiscovery.Error
import ApiDiscovery.FanOut
import ApiDiscovery.Fetch
import ApiDiscovery.Files
import ApiDiscovery.Generate
import ApiDiscovery.Http
import ApiDiscovery.Json.Basic
import ApiDiscovery.Json.Fault
import ApiDiscovery.Json.Lexical
import ApiDiscovery.Json.Pretty
import ApiDiscovery.Json.Printer
import ApiDiscovery.Json.Reader
import ApiDiscovery.Json.Shape
import ApiDiscovery.Json.Stream
import ApiDiscovery.Method
import ApiDiscovery.NameTable
import ApiDiscovery.Options.Basic
import ApiDiscovery.Options.Load
import ApiDiscovery.Proofs.Activity
import ApiDiscovery.Proofs.CommandLine.Calls
import ApiDiscovery.Proofs.CommandLine.Items
import ApiDiscovery.Proofs.Compile.AtOnce
import ApiDiscovery.Proofs.Compile.Counts
import ApiDiscovery.Proofs.Compile.InTurn
import ApiDiscovery.Proofs.Compile.Mirror
import ApiDiscovery.Proofs.Compile.Paths
import ApiDiscovery.Proofs.Document.Ordered
import ApiDiscovery.Proofs.Document.Parts
import ApiDiscovery.Proofs.Document.RoundTrip
import ApiDiscovery.Proofs.Document.Shape
import ApiDiscovery.Proofs.Document.Streaming
import ApiDiscovery.Proofs.Document.Unknown
import ApiDiscovery.Proofs.Expand.Attempt
import ApiDiscovery.Proofs.Expand.Directory
import ApiDiscovery.Proofs.Expand.FailFast
import ApiDiscovery.Proofs.Expand.Log
import ApiDiscovery.Proofs.FanOut.Alike
import ApiDiscovery.Proofs.FanOut.InTurn
import ApiDiscovery.Proofs.FanOut.Join
import ApiDiscovery.Proofs.FanOut.Landing
import ApiDiscovery.Proofs.FanOut.Log
import ApiDiscovery.Proofs.FanOut.Rounds
import ApiDiscovery.Proofs.Fetch.Content
import ApiDiscovery.Proofs.Fetch.Fetched
import ApiDiscovery.Proofs.Generate.Faults
import ApiDiscovery.Proofs.Generate.Key
import ApiDiscovery.Proofs.Generate.Ordered
import ApiDiscovery.Proofs.Generate.Requests
import ApiDiscovery.Proofs.Json.Lexical
import ApiDiscovery.Proofs.Json.Ordered
import ApiDiscovery.Proofs.Json.Passing
import ApiDiscovery.Proofs.Json.Record
import ApiDiscovery.Proofs.Json.Streaming
import ApiDiscovery.Proofs.Lookup
import ApiDiscovery.Proofs.Method.Address
import ApiDiscovery.Proofs.Method.Diagnostics
import ApiDiscovery.Proofs.Method.Filling
import ApiDiscovery.Proofs.Method.Order
import ApiDiscovery.Proofs.Method.Query
import ApiDiscovery.Proofs.Method.Segments
import ApiDiscovery.Proofs.Method.Template
import ApiDiscovery.Proofs.NameTable
import ApiDiscovery.Proofs.Options.Layers
import ApiDiscovery.Proofs.ResourceTree
import ApiDiscovery.Proofs.ResourceTree.Alike
import ApiDiscovery.Proofs.ResourceTree.Places
import ApiDiscovery.Proofs.Text.OctetOrder
import ApiDiscovery.Proofs.Text.Percent
import ApiDiscovery.Proofs.Text.Pieces
import ApiDiscovery.Proofs.Text.Utf8
import ApiDiscovery.Proofs.Url.Dots
import ApiDiscovery.ResourceTree
import ApiDiscovery.Routes
import ApiDiscovery.Text.Blank
import ApiDiscovery.Text.Percent
import ApiDiscovery.Text.Pieces
import ApiDiscovery.Text.Printable
import ApiDiscovery.Text.Quoted
import ApiDiscovery.Text.Utf8
import ApiDiscovery.Url.Basic
import ApiDiscovery.Url.Host
import ApiDiscovery.Url.Punycode
import ApiDiscovery.Yaml.Cursor
import ApiDiscovery.Yaml.Node
import ApiDiscovery.Yaml.Scalar
import ApiDiscovery.Yaml.Token
