import Prune.Machine.FileTree
import Prune.Main
import Prune.Proofs.Ambient
import Prune.Proofs.Annotations
import Prune.Proofs.BareTexts
import Prune.Proofs.Bodies
import Prune.Proofs.Clauses
import Prune.Proofs.Collisions
import Prune.Proofs.DeadCode
import Prune.Proofs.Enclosed
import Prune.Proofs.Endings
import Prune.Proofs.ExportWords
import Prune.Proofs.Failures
import Prune.Proofs.FreeNames
import Prune.Proofs.History
import Prune.Proofs.LateNames
import Prune.Proofs.Linked
import Prune.Proofs.Members
import Prune.Proofs.Numbering
import Prune.Proofs.Outline
import Prune.Proofs.PassedOn
import Prune.Proofs.Postorder
import Prune.Proofs.Preorder
import Prune.Proofs.RootList
import Prune.Proofs.ScopeStack
import Prune.Proofs.Surface
import Prune.Proofs.TypeNames
import Prune.Proofs.TypeParameters
import Prune.Proofs.Units
import Prune.Proofs.WrittenNames
