import TierOracle.Dump.Statement
import TierOracle.Trace.Decode
import TierOracle.Trace.Expand
import TierOracle.Frame.Json
import TierOracle.Match.Json
import TierOracle.Oracle.Relate
import TierOracle.Main
import TierOracle.Proofs.FrameOrder
import TierOracle.Proofs.Repetition
import TierOracle.Proofs.StoredValues
import TierOracle.Proofs.Statements
import TierOracle.Proofs.Decoding
import TierOracle.Proofs.LastStatement
import TierOracle.Proofs.ExplicitBlock
import TierOracle.Proofs.WrittenLines
import TierOracle.Proofs.Expansion
import TierOracle.Proofs.Expressible
import TierOracle.Proofs.MaskedDumps
import TierOracle.Proofs.StoreGrowth
import TierOracle.Proofs.Restating
import TierOracle.Proofs.Blame
import TierOracle.Proofs.Prefixes
import TierOracle.Proofs.Layout
import TierOracle.Proofs.BlockGrammar
import TierOracle.Proofs.CheckedSteps
import TierOracle.Proofs.JsonRoundTrip
import TierOracle.Proofs.FailureReport
import TierOracle.Proofs.LogFilter
import TierOracle.Proofs.LogConditions
import TierOracle.Proofs.RelateCommand
import TierOracle.Proofs.Certificate
import TierOracle.Proofs.Cutting
import TierOracle.Proofs.SlotCap
import TierOracle.Proofs.Defects
import TierOracle.Proofs.Monotonicity
import TierOracle.Proofs.Stuttering
import TierOracle.Proofs.StoreTranscript
import TierOracle.Proofs.Messages
import TierOracle.Proofs.Reports
import TierOracle.Proofs.Replay
