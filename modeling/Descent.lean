import Descent.Grammar.Builder
import Descent.Proofs.LosslessTrees
import Descent.Proofs.SilentFailures
import Descent.Rule.Branching
import Descent.Run.BuildTree
import Descent.Run.Evaluate
import Descent.Run.Record
import Descent.Run.Validate
import Descent.Tree.Walk
import Descent.Proofs.FollowingLogic
import Descent.Proofs.FollowingMatches
import Descent.Proofs.FollowingLists
import Descent.Proofs.CallProtocol
import Descent.Proofs.Commitment
import Descent.Proofs.ContextDiscipline
import Descent.Proofs.ErrorLimit
import Descent.Proofs.Windows
import Descent.Proofs.ErrorPlaces
import Descent.Proofs.NumberRecovery
import Descent.Proofs.TreeNavigation
import Descent.Proofs.EnclosedRules
import Descent.Proofs.ListTermination
import Descent.Proofs.DelimiterTermination
import Descent.Proofs.Refusals
import Descent.Proofs.IntegerRange
import Descent.Proofs.TrieNodes
import Descent.Proofs.TrieMap
import Descent.Proofs.AlternativeChoice
import Descent.Proofs.QuotedText
import Descent.Proofs.QuotedDecoding
import Descent.Proofs.Declining
import Descent.Proofs.DigitRuns
import Descent.Proofs.Numerals
import Descent.Proofs.RecoveryPoints
import Descent.Proofs.EndingRules
import Descent.Proofs.PatternLoops
import Descent.Proofs.GuardedTermination
import Descent.Proofs.LiteralReading
import Descent.Proofs.PlainLists
import Descent.Proofs.Combinations
import Descent.Proofs.LoopRounds
import Descent.Proofs.Scans
import Descent.Proofs.TargetSkips
import Descent.Proofs.Transcoding
import Descent.Proofs.Declarations
import Descent.Proofs.WellFormedGrammars
import Descent.Proofs.ArenaUse
