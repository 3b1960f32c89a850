import TextVec.Main
import TextVec.Proofs.Centroid.Scopes
import TextVec.Proofs.Centroid.Trained
import TextVec.Proofs.Component.BinaryRoundTrip
import TextVec.Proofs.Component.CutShort
import TextVec.Proofs.Component.Failed
import TextVec.Proofs.Component.Merging
import TextVec.Proofs.Encoder.CachedTable
import TextVec.Proofs.Encoder.NoDrift
import TextVec.Proofs.Encoder.Reports
import TextVec.Proofs.Encoder.StructuredRoundTrip
import TextVec.Proofs.Pipeline.BadLine
import TextVec.Proofs.Pipeline.Batching
import TextVec.Proofs.Pipeline.Command
import TextVec.Proofs.Pipeline.Finite
import TextVec.Proofs.Pipeline.TokenOrder
import TextVec.Proofs.Registry.Caches
import TextVec.Proofs.Registry.Routes
import TextVec.Proofs.Splat.RoundTrip
import TextVec.Proofs.Table.LastRow
import TextVec.Proofs.Tokenizer.Coverage
import TextVec.Proofs.Tokenizer.Keys
import TextVec.Proofs.Tokenizer.Preparing
