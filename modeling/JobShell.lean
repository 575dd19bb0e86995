import JobShell.Main
import JobShell.Proofs.Job.Change
import JobShell.Proofs.Job.Lookup
import JobShell.Proofs.Job.Serial
import JobShell.Proofs.Job.Consistency
import JobShell.Proofs.Line.Compiling
import JobShell.Proofs.Line.Display
import JobShell.Proofs.Line.Continuation
import JobShell.Proofs.Line.Joining
import JobShell.Proofs.Job.Departure
import JobShell.Proofs.Execution.ShortCircuit
import JobShell.Proofs.Line.Acceptance
import JobShell.Proofs.Execution.Background
import JobShell.Proofs.Front.Traceless
import JobShell.Proofs.Front.Groups
import JobShell.Proofs.Execution.JobList
import JobShell.Proofs.History.Persistence
import JobShell.Proofs.Completion.Freshness
import JobShell.Proofs.Job.Marks
import JobShell.Proofs.PrefixIndex.Words
import JobShell.Proofs.Job.Events
import JobShell.Proofs.Line.Forgetting
import JobShell.Proofs.System.Trace
import JobShell.Proofs.Job.Succession
import JobShell.Proofs.Job.Hearing
import JobShell.Proofs.Job.Foreground
import JobShell.Proofs.Execution.Launching
import JobShell.Proofs.Execution.Tracking
import JobShell.Proofs.Execution.Undertaking
import JobShell.Proofs.Front.Status
import JobShell.Proofs.Job.Polling
import JobShell.Proofs.Execution.Repeats
import JobShell.Proofs.Files.Openings
import JobShell.Proofs.Execution.Confinement
import JobShell.Proofs.Execution.Openings
import JobShell.Proofs.Execution.Custody
import JobShell.Proofs.Line.Pipelines
import JobShell.Proofs.Machine.Places
import JobShell.Proofs.Execution.Refusal
import JobShell.Proofs.Files.Standing
import JobShell.Proofs.Execution.Returning
import JobShell.Proofs.PrefixIndex.LongestMatch
import JobShell.Proofs.Completion.Cursor
import JobShell.Proofs.Completion.Candidates
import JobShell.Proofs.Files.Joining
import JobShell.Proofs.Execution.SearchPath
import JobShell.Proofs.History.Browsing
import JobShell.Proofs.Job.Numbering
import JobShell.Proofs.System.Relaying
import JobShell.Proofs.Files.Abbreviation
