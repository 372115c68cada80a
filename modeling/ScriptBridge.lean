import ScriptBridge.Binding.Call
import ScriptBridge.Config.Load
import ScriptBridge.Diagnostic.Report
import ScriptBridge.Proofs.Arg.Equality
import ScriptBridge.Proofs.Arg.History
import ScriptBridge.Proofs.Arg.Map
import ScriptBridge.Proofs.Binding.Accounting
import ScriptBridge.Proofs.Binding.Gate
import ScriptBridge.Proofs.Binding.Locality
import ScriptBridge.Proofs.Config.Discovery
import ScriptBridge.Proofs.Config.Layering
import ScriptBridge.Proofs.Config.Load
import ScriptBridge.Proofs.Config.Precedence
import ScriptBridge.Proofs.Config.Rejection
import ScriptBridge.Proofs.Config.Resolution
import ScriptBridge.Proofs.Config.Validity
import ScriptBridge.Proofs.Diagnostic.Printable
import ScriptBridge.Proofs.Dictionary
import ScriptBridge.Proofs.Exception
import ScriptBridge.Proofs.Extraction.Classification
import ScriptBridge.Proofs.Extraction.Diagnostics
import ScriptBridge.Proofs.Extraction.Faults
import ScriptBridge.Proofs.Extraction.Handles
import ScriptBridge.Proofs.Extraction.IntegerKinds
import ScriptBridge.Proofs.Extraction.Locality
import ScriptBridge.Proofs.Extraction.Matching
import ScriptBridge.Proofs.Extraction.Missing
import ScriptBridge.Proofs.Extraction.NumberText
import ScriptBridge.Proofs.Extraction.Reference
import ScriptBridge.Proofs.Extraction.Representation
import ScriptBridge.Proofs.Extraction.Shape
import ScriptBridge.Proofs.Extraction.Soundness
import ScriptBridge.Proofs.Native.Arguments
import ScriptBridge.Proofs.Native.Conversion
import ScriptBridge.Proofs.Native.Marshal
import ScriptBridge.Proofs.Native.Pairs
import ScriptBridge.Proofs.Native.RoundTrip
import ScriptBridge.Proofs.Native.TextKeys
import ScriptBridge.Proofs.Number.Decimal
import ScriptBridge.Proofs.Number.Nearest
import ScriptBridge.Proofs.Number.Numeral
import ScriptBridge.Proofs.Number.Parse
import ScriptBridge.Proofs.Number.Render
import ScriptBridge.Proofs.Number.Rounding
import ScriptBridge.Proofs.Number.Saturation
import ScriptBridge.Proofs.ParamType
import ScriptBridge.Proofs.Registry.Classes
import ScriptBridge.Proofs.Registry.Enums
import ScriptBridge.Proofs.Text.Utf8
