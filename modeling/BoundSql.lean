import BoundSql.Builder.Vocabulary
import BoundSql.Config
import BoundSql.Connection.Pages
import BoundSql.Monitor.TraceHook
import BoundSql.Postgres.Exchange
import BoundSql.Proofs.Conditions
import BoundSql.Proofs.Connection.Paging
import BoundSql.Proofs.Edit.Columns
import BoundSql.Proofs.Edit.DatePart
import BoundSql.Proofs.Edit.Insertion
import BoundSql.Proofs.Edit.Page
import BoundSql.Proofs.Edit.Reordering
import BoundSql.Proofs.Edit.Stepping
import BoundSql.Proofs.Edit.WellFormed
import BoundSql.Proofs.Filling
import BoundSql.Proofs.Monitor.Observed
import BoundSql.Proofs.Monitor.Statistics
import BoundSql.Proofs.Nesting
import BoundSql.Proofs.Normalization
import BoundSql.Proofs.Outline
import BoundSql.Proofs.Placeholders
import BoundSql.Proofs.Postgres.Cell
import BoundSql.Proofs.Qualifier
import BoundSql.Proofs.Reserved
import BoundSql.Proofs.Shortening
import BoundSql.Script.Observer
