import LineLimit.Codec.Element
import LineLimit.Main
import LineLimit.Proofs.Linter.Partition
import LineLimit.Proofs.Rule.LineEndings
import LineLimit.Proofs.Rule.Locality
import LineLimit.Proofs.Rule.Monotone
import LineLimit.Proofs.Discovery.Distinct
import LineLimit.Proofs.Discovery.Filter
import LineLimit.Proofs.Rule.Diagnostics
import LineLimit.Proofs.Rule.FencedCode
import LineLimit.Proofs.Glob.Escaped
import LineLimit.Proofs.Path.Rendered
import LineLimit.Proofs.Discovery.Spelling
import LineLimit.Proofs.Command.ExitStatus
import LineLimit.Proofs.Rule.LinkPattern
import LineLimit.Proofs.Rule.MidLine
import LineLimit.Proofs.Rule.Tables
import LineLimit.Proofs.Element.Location
import LineLimit.Proofs.Rule.Guarded
import LineLimit.Proofs.Config.Settings
import LineLimit.Proofs.Config.RuleOption
import LineLimit.Proofs.Discovery.Monotone
import LineLimit.Proofs.Command.Init
import LineLimit.Proofs.Codec.RoundTrip
import LineLimit.Proofs.Element.Search
