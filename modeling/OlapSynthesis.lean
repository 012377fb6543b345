import OlapSynthesis.Codec.Settings
import OlapSynthesis.Main
import OlapSynthesis.Proofs.Codec.RoundTrip
import OlapSynthesis.Proofs.Discovery.Listing
import OlapSynthesis.Proofs.Formula.Operands
import OlapSynthesis.Proofs.Formula.Statistics
import OlapSynthesis.Proofs.Generation.Currency
import OlapSynthesis.Proofs.Generation.Identity
import OlapSynthesis.Proofs.Generation.Independence
import OlapSynthesis.Proofs.Generation.Inspection
import OlapSynthesis.Proofs.Generation.Validated
import OlapSynthesis.Proofs.JsonSchema.Published
import OlapSynthesis.Proofs.Registry.Isolation
import OlapSynthesis.Proofs.Registry.Reachable
import OlapSynthesis.Proofs.Settings.Extraction
import OlapSynthesis.Proofs.Settings.Layering
import OlapSynthesis.Proofs.Synthesis.Closure
import OlapSynthesis.Proofs.Synthesis.Coverage
import OlapSynthesis.Proofs.Synthesis.FieldNames
import OlapSynthesis.Proofs.Synthesis.Interleaving
import OlapSynthesis.Proofs.Synthesis.MeasureNames
import OlapSynthesis.Proofs.Synthesis.PartitionKey
import OlapSynthesis.Proofs.Synthesis.Tagged
import OlapSynthesis.Registry.Session
import OlapSynthesis.Proofs.TypeTags
import OlapSynthesis.Proofs.Discovery.FileTree
import OlapSynthesis.Proofs.Synthesis.Folders
import OlapSynthesis.Proofs.Synthesis.Lossless
import OlapSynthesis.Proofs.Discovery.Selection
import OlapSynthesis.Proofs.Generation.Schedule
