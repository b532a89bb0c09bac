import PipeQuery.Service
import PipeQuery.Proofs.Budget
import PipeQuery.Proofs.CaseBranches
import PipeQuery.Proofs.Duplicates
import PipeQuery.Proofs.Formulas
import PipeQuery.Proofs.Joining
import PipeQuery.Proofs.OrderedMap
import PipeQuery.Proofs.Rejoining
import PipeQuery.Proofs.RowLabels
import PipeQuery.Proofs.Subquery
import PipeQuery.Proofs.TopPipes
