import Prosopography.CommandLine.Program
import Prosopography.Csv.Reader
import Prosopography.Json.Reader
import Prosopography.Main
import Prosopography.Pattern.Marking
import Prosopography.Person.Record
import Prosopography.Proofs.Cluster.Agreement
import Prosopography.Proofs.Cluster.Apart
import Prosopography.Proofs.Cluster.Attachment
import Prosopography.Proofs.Cluster.Calls
import Prosopography.Proofs.Cluster.Exact
import Prosopography.Proofs.Cluster.Leaders
import Prosopography.Proofs.Cluster.Logged
import Prosopography.Proofs.Cluster.Refinement
import Prosopography.Proofs.Cluster.Survivors
import Prosopography.Proofs.Cluster.Symmetry
import Prosopography.Proofs.Collection.History
import Prosopography.Proofs.Name.NormalForm
import Prosopography.Proofs.Name.Passes
import Prosopography.Proofs.Name.PerfectScore
import Prosopography.Proofs.Name.Spacing
import Prosopography.Proofs.Pattern.Leftmost
import Prosopography.Proofs.Person.Census
import Prosopography.Proofs.Person.Conflict
import Prosopography.Proofs.Person.Verdict
import Prosopography.Proofs.Resolution.Counts
import Prosopography.Proofs.Resolution.Dependence
import Prosopography.Proofs.Resolution.Enumeration
import Prosopography.Proofs.Resolution.Explanation
import Prosopography.Proofs.Resolution.IdentifierOrder
import Prosopography.Proofs.Resolution.Identifiers
import Prosopography.Proofs.Resolution.Partition
import Prosopography.Proofs.Resolution.Places
import Prosopography.Proofs.Resolution.Records
import Prosopography.Proofs.Resolution.Review
import Prosopography.Proofs.Resolution.SuperWitnesses
import Prosopography.Proofs.Resolution.Transitions
import Prosopography.Proofs.Resolution.TrialOrder
import Prosopography.Proofs.Store.Isolation
import Prosopography.Proofs.Store.Layouts
import Prosopography.Proofs.Store.Save
import Prosopography.Proofs.Store.TransitionTable
import Prosopography.Proofs.Text.Digit
import Prosopography.Proofs.Trial.NamedYear
import Prosopography.Resolution
import Prosopography.Settings.File
import Prosopography.Store.Disk
import Prosopography.Store.Save
