import PluginSandbox.Host.Documents
import PluginSandbox.Host.Schedule
import PluginSandbox.Main
import PluginSandbox.Proofs.Consent.Decisions
import PluginSandbox.Proofs.Consent.StoppedWrites
import PluginSandbox.Proofs.Lowering.AddedAwaits
import PluginSandbox.Proofs.Lowering.Awaits
import PluginSandbox.Proofs.Lowering.DefaultExports
import PluginSandbox.Proofs.Lowering.Imports
import PluginSandbox.Proofs.Lowering.StarExports
import PluginSandbox.Proofs.Resolution.Agreement
import PluginSandbox.Proofs.Resolution.Failures
import PluginSandbox.Proofs.Resolution.Fetches
import PluginSandbox.Proofs.Resolution.Spelling
import PluginSandbox.Proofs.Resolution.Strategies
import PluginSandbox.Proofs.Script.ArrayLengths
import PluginSandbox.Proofs.Script.Bits
import PluginSandbox.Proofs.Script.BoundNames
import PluginSandbox.Proofs.Script.CallDepth
import PluginSandbox.Proofs.Script.Data
import PluginSandbox.Proofs.Script.Globals
import PluginSandbox.Proofs.Script.NumberTexts
import PluginSandbox.Proofs.Script.NumericTexts
import PluginSandbox.Proofs.Script.Rounds
import PluginSandbox.Proofs.Script.Slices
import PluginSandbox.Proofs.Script.Sorting
import PluginSandbox.Proofs.Script.Storage
import PluginSandbox.Proofs.Script.Targets
import PluginSandbox.Proofs.Script.TextSizes
import PluginSandbox.Proofs.Script.Views
import PluginSandbox.Proofs.Syntax.Exponents
import PluginSandbox.Proofs.Syntax.PlainModules
import PluginSandbox.Proofs.Syntax.PropertyKeys
import PluginSandbox.Proofs.Syntax.Recognition
import PluginSandbox.Proofs.Syntax.RoundTrip
import PluginSandbox.Proofs.Syntax.TemplateTexts
import PluginSandbox.Proofs.Syntax.Totality
