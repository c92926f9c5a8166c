import FlagDecision.Number.Binary64
import FlagDecision.Number.Decimal
import FlagDecision.Number.Word64
import FlagDecision.Text.CharSet
import FlagDecision.Text.Category
import FlagDecision.Text.Digit
import FlagDecision.Text.Property
import FlagDecision.Text.Script
import FlagDecision.Text.Age
import FlagDecision.Text.Boundary
import FlagDecision.Text.Letter
import FlagDecision.Text.CaseShift
import FlagDecision.Text.Folding
import FlagDecision.Text.Case
import FlagDecision.Text.Blank
import FlagDecision.Pattern.Property
import FlagDecision.Pattern.Basic
import FlagDecision.Pattern.Footprint
import FlagDecision.Pattern.Reader
import FlagDecision.Hash.Murmur
import FlagDecision.Hash.NameId
import FlagDecision.Json.Value
import FlagDecision.Json.Reading
import FlagDecision.Json.Decode
import FlagDecision.Table
import FlagDecision.Version
import FlagDecision.Operand
import FlagDecision.Attribute
import FlagDecision.Context
import FlagDecision.Bucket
import FlagDecision.GroupMember
import FlagDecision.Segment.Basic
import FlagDecision.ListCache
import FlagDecision.Segment.Evaluation
import FlagDecision.Settings.Basic
import FlagDecision.Settings.Decode
import FlagDecision.Settings.Link
import FlagDecision.Allotment
import FlagDecision.GroupWinner
import FlagDecision.Store.Decision
import FlagDecision.Store.Storage
import FlagDecision.Config
import FlagDecision.Evaluation.Rules
import FlagDecision.Evaluation.Flag
import FlagDecision.Proofs.StorageKey
import FlagDecision.Proofs.StoredRecord
import FlagDecision.Proofs.Moves
import FlagDecision.Proofs.RuleMoves
import FlagDecision.Proofs.Decided
import FlagDecision.Proofs.Linking
import FlagDecision.Proofs.Records
import FlagDecision.Proofs.MutualExclusion
import FlagDecision.Proofs.Stickiness
import FlagDecision.Proofs.Meaning
import FlagDecision.Proofs.Targeting
import FlagDecision.Proofs.Outlook
import FlagDecision.Proofs.Faithful
import FlagDecision.Proofs.FaithfulRules
import FlagDecision.Proofs.UnstoredExclusion
import FlagDecision.Proofs.ShownWinner
import FlagDecision.Proofs.Pipeline
import FlagDecision.Proofs.Mirror
import FlagDecision.Proofs.UserIsolation
import FlagDecision.Proofs.Writes
import FlagDecision.Proofs.Coherence
import FlagDecision.Proofs.Impressions
import FlagDecision.Proofs.Nesting
import FlagDecision.Proofs.StorageFailure
import FlagDecision.Proofs.Uncached
import FlagDecision.Proofs.StaleDecision
import FlagDecision.Proofs.StaleWinner
import FlagDecision.Proofs.FeatureHistory
import FlagDecision.Proofs.CheckedData
import FlagDecision.Proofs.Channels
import FlagDecision.Proofs.GatewayNeed
import FlagDecision.Proofs.GroupContest
import FlagDecision.Proofs.Rounding
import FlagDecision.Proofs.BucketSpace
import FlagDecision.Proofs.TrafficRamp
import FlagDecision.Proofs.KeptAnswers
import FlagDecision.Proofs.Normalization
import FlagDecision.Proofs.WholeNumberText
import FlagDecision.Proofs.OperandForms
import FlagDecision.Proofs.Wildcards
import FlagDecision.Proofs.Orderings
import FlagDecision.Proofs.TreeParts
import FlagDecision.Proofs.SegmentGrammar
import FlagDecision.Proofs.AttributeReadings
import FlagDecision.Proofs.LinkedRules
import FlagDecision.Proofs.PercentGate
import FlagDecision.Proofs.RoundingError
import FlagDecision.Proofs.EqualShares
import FlagDecision.Proofs.MemberText
import FlagDecision.Proofs.DecisionRecords
import FlagDecision.Proofs.PatternSearch
import FlagDecision.Proofs.LetterCase
import FlagDecision.Proofs.GlobText
import FlagDecision.Proofs.AgentGlobs
