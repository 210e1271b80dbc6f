import JobMatrix.Main
import JobMatrix.Run.Interleaving
import JobMatrix.Run.ReplyRule
import JobMatrix.Proofs.DeclarationCheck
import JobMatrix.Proofs.MatrixProduct
import JobMatrix.Proofs.RunOutcome
import JobMatrix.Proofs.StepOrder
import JobMatrix.Proofs.Rehearsal
import JobMatrix.Proofs.Replacement
import JobMatrix.Proofs.TokenMask
import JobMatrix.Proofs.MaskedTexts
import JobMatrix.Proofs.SoundBuild
import JobMatrix.Proofs.DeclaredValues
import JobMatrix.Proofs.EventReplay
import JobMatrix.Proofs.LaneEvents
import JobMatrix.Proofs.RunEvents
import JobMatrix.Proofs.ParallelBound
import JobMatrix.Proofs.RunInOrder
import JobMatrix.Proofs.CommandEnds
import JobMatrix.Proofs.ExitCodes
import JobMatrix.Proofs.CommandAppend
import JobMatrix.Proofs.MaskedCommand
import JobMatrix.Proofs.StepEnvironment
import JobMatrix.Proofs.GateCount
import JobMatrix.Proofs.AxisOrder
import JobMatrix.Proofs.RunErrors
import JobMatrix.Proofs.AssignedVariables
import JobMatrix.Proofs.MaskedLines
import JobMatrix.Proofs.CapturedLines
import JobMatrix.Proofs.PinnedToolchain
import JobMatrix.Proofs.JobNames
import JobMatrix.Proofs.JobCount
import JobMatrix.Proofs.GateConditions
import JobMatrix.Proofs.JsonText
import JobMatrix.Proofs.SummaryDocument
import JobMatrix.Proofs.StandardOutput
import JobMatrix.Proofs.OutcomeTexts
