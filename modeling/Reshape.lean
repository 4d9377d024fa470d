import Reshape.FileTree
import Reshape.Main
import Reshape.Proofs.Broadcast
import Reshape.Proofs.Clauses
import Reshape.Proofs.Copying
import Reshape.Proofs.Display
import Reshape.Proofs.Documents
import Reshape.Proofs.EntryPoints
import Reshape.Proofs.Idempotence
import Reshape.Proofs.Integers
import Reshape.Proofs.Leaves
import Reshape.Proofs.LetterCase
import Reshape.Proofs.Ordering
import Reshape.Proofs.Policies
import Reshape.Proofs.Preservation
import Reshape.Proofs.Pruning
import Reshape.Proofs.ReadingBack
import Reshape.Proofs.Refusals
import Reshape.Proofs.Selection
import Reshape.Proofs.Sequences
import Reshape.Proofs.Termination
import Reshape.Proofs.Thinning
import Reshape.Proofs.Undoing
import Reshape.Proofs.Visit
import Reshape.Proofs.Writing
