import JobShell.Main
import JobShell.Proofs.History
import JobShell.Proofs.JobTable
import JobShell.Proofs.Access
import JobShell.Proofs.Outputs
import JobShell.Proofs.Quiet
import JobShell.Proofs.Events
import JobShell.Proofs.Execution
import JobShell.Proofs.Lives
import JobShell.Proofs.Loop
import JobShell.Proofs.Lines
import JobShell.Proofs.Reports
import JobShell.Proofs.Admission
import JobShell.Proofs.Leaving
import JobShell.Proofs.Notices
import JobShell.Proofs.Hearing
import JobShell.Proofs.Answers
import JobShell.Proofs.Rounds
import JobShell.Proofs.ModeDisplay
import JobShell.Proofs.LastStatus
import JobShell.Proofs.Failures
import JobShell.Proofs.Background
import JobShell.Proofs.Redirections
import JobShell.Proofs.Streams
import JobShell.Proofs.Refusals
import JobShell.Moments
import JobShell.Proofs.Moments
import JobShell.Proofs.Wakeups
import JobShell.Proofs.Capacity
import JobShell.Proofs.Dispatch
import JobShell.Proofs.StoppedJobs
import JobShell.Course
import JobShell.Proofs.Likeness
import JobShell.Proofs.Course
import JobShell.Proofs.IdleSignals
import JobShell.Proofs.NullDevice
import JobShell.Proofs.Isolation
import JobShell.Proofs.Words
import JobShell.Proofs.Parts
import JobShell.Proofs.Comments
import JobShell.Proofs.Expansion
import JobShell.Proofs.Marker
import JobShell.Proofs.Rendering
import JobShell.Proofs.Pieces
import JobShell.Proofs.ExitLines
import JobShell.Proofs.Progress
import JobShell.Proofs.Exit
import JobShell.Proofs.ExpandedLines
import JobShell.Proofs.MissingTargets
import JobShell.Proofs.HiddenComments
import JobShell.Proofs.Runs
import JobShell.Proofs.TableHistories
import JobShell.SystemCalls
import JobShell.Proofs.Turns
import JobShell.Proofs.ForegroundWaits
import JobShell.Proofs.Farewell
import JobShell.Console
import JobShell.Proofs.Console
import JobShell.Handles
import JobShell.Proofs.Handles
import JobShell.Proofs.HandleHistories
import JobShell.Proofs.Preparation
import JobShell.Proofs.Decimals
import JobShell.Proofs.CommandLines
import JobShell.Proofs.ExitCodes
import JobShell.Proofs.Layers
import JobShell.Proofs.NumberLiterals
import JobShell.Proofs.StringLiterals
import JobShell.Proofs.Values
import JobShell.Proofs.Entries
import JobShell.Proofs.Documents
