import RuleDigest.Main
import RuleDigest.Proofs.Run.Configuration
import RuleDigest.Proofs.Run.Keys
import RuleDigest.Proofs.Run.Placement
import RuleDigest.Proofs.Run.Table
import RuleDigest.Proofs.Summary.Dependence
import RuleDigest.Session
import RuleDigest.Proofs.RuleSet.Scanning
import RuleDigest.Proofs.CommandLine.Surplus
import RuleDigest.Proofs.Run.Surplus
import RuleDigest.Proofs.Summary.Cutting
import RuleDigest.Proofs.Summary.Header
import RuleDigest.Proofs.Config.Decoding
import RuleDigest.Proofs.ResultText.Records
import RuleDigest.Proofs.Summary.ResultPaths
import RuleDigest.Proofs.Summary.Findable
import RuleDigest.Proofs.Run.Causes
