import Lanewise.Analysis
import Lanewise.LaneType.Json
import Lanewise.Lanes.Groups
import Lanewise.Lanes.Permute
import Lanewise.Lanes.Reduce
import Lanewise.Lanes.Task
import Lanewise.Mask.Json
import Lanewise.Syntax.Builder
import Lanewise.Target.File
import Lanewise.Proofs.Sites
import Lanewise.Proofs.WalkRecord
import Lanewise.Proofs.Clearing
import Lanewise.Proofs.WalkOutcome
import Lanewise.Proofs.JointActions
import Lanewise.Proofs.CheckRules
import Lanewise.Proofs.TypeResolution
import Lanewise.Proofs.Scopes
import Lanewise.Proofs.MaskPoints
import Lanewise.Proofs.LaneReach
import Lanewise.Proofs.Launching
import Lanewise.Proofs.Occurrences
import Lanewise.Proofs.LauncherReach
import Lanewise.Proofs.Contexts
import Lanewise.Proofs.Declarations
import Lanewise.Proofs.RegionNesting
import Lanewise.Proofs.ArmMasks
import Lanewise.Proofs.LoopConditions
import Lanewise.Proofs.SinglePass
import Lanewise.Proofs.RegionRecords
import Lanewise.Proofs.CallRecords
import Lanewise.Proofs.TypingRules
import Lanewise.Proofs.LaneCounts
import Lanewise.Proofs.OperatorTrees
import Lanewise.Proofs.ScopeInvariants
import Lanewise.Proofs.StatementChecks
import Lanewise.Proofs.LexicalScope
import Lanewise.Proofs.TypeIssues
import Lanewise.Proofs.SharedWrites
import Lanewise.Proofs.WellFormedTypes
import Lanewise.Proofs.RegisterLimit
import Lanewise.Proofs.CheckStructure
import Lanewise.Proofs.PairedRuns
import Lanewise.Proofs.AlikeTables
import Lanewise.Proofs.Findings
import Lanewise.Proofs.Independence
import Lanewise.Proofs.ReportedOnce
import Lanewise.Proofs.ConstantNames
import Lanewise.Proofs.MaskLineage
import Lanewise.Proofs.Portability
import Lanewise.Proofs.RecordedVerdicts
import Lanewise.Proofs.TypedParts
import Lanewise.Proofs.UniformFlow
import Lanewise.Proofs.OpenCounts
import Lanewise.Proofs.ConstantFolding
import Lanewise.Proofs.ActiveLanes
import Lanewise.Proofs.Reductions
import Lanewise.Proofs.BitMasks
import Lanewise.Proofs.Rotation
import Lanewise.Proofs.PermutedReductions
import Lanewise.Proofs.GroupReductions
import Lanewise.Proofs.PublicSignatures
import Lanewise.Proofs.ConstantTables
import Lanewise.Proofs.LibraryChecks
import Lanewise.Proofs.TypeTexts
import Lanewise.Proofs.NodeSpans
import Lanewise.Proofs.Shifts
import Lanewise.Proofs.BuilderSpans
