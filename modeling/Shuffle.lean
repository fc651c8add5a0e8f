import Shuffle.Main
import Shuffle.Proofs.Delivery.Missing
import Shuffle.Proofs.Delivery.Refinement
import Shuffle.Proofs.Index.Whole
import Shuffle.Proofs.Plan.Broadcast
import Shuffle.Proofs.Plan.Kinds
import Shuffle.Proofs.Plan.Reports
import Shuffle.Proofs.Plan.Reversal
import Shuffle.Proofs.Plan.Session
import Shuffle.Proofs.Plan.Tiling
import Shuffle.Proofs.Pull.Blocks
import Shuffle.Proofs.Plan.Balance
import Shuffle.Proofs.Plan.TaskCount
import Shuffle.Pull.Service
import Shuffle.Pull.Settings
import Shuffle.Proofs.Store.Names
import Shuffle.Proofs.Fetch.Address
import Shuffle.Proofs.Fetch.Meaning
import Shuffle.Proofs.Fetch.Redirect
import Shuffle.Proofs.Fetch.Rewriting
import Shuffle.Proofs.Pull.Active
import Shuffle.Proofs.Store.Walk
import Shuffle.Proofs.Pull.Places
import Shuffle.Proofs.Pull.Exchange
import Shuffle.Proofs.Pull.Sending
import Shuffle.Proofs.Pull.Complete
import Shuffle.Proofs.Pull.Accounting
import Shuffle.Proofs.Store.Put
import Shuffle.Proofs.Pull.Worker
import Shuffle.Proofs.Pull.Published
import Shuffle.Proofs.Pull.Confined
import Shuffle.Proofs.Text.Base64Url
import Shuffle.Proofs.Plan.Turns
import Shuffle.Proofs.Index.KeyFields
import Shuffle.Proofs.Index.History
import Shuffle.Proofs.Pull.Rows
import Shuffle.Proofs.Pull.Blame
import Shuffle.Proofs.Pull.Reported
import Shuffle.Proofs.Plan.Cardinality
import Shuffle.Proofs.Index.Overlong
