import Converge.Unicode
import Converge.Terms
import Converge.Graph
import Converge.VertexSplit
import Converge.Quote
import Converge.Traverse
import Converge.Scope
import Converge.Reflect
import Converge.FieldMap
import Converge.FieldCache
import Converge.Agreement
import Converge.Cycles
import Converge.Determinism
import Converge.Promotion
import Converge.CacheRuns
import Converge.Goroutines
import Converge.Interleaving
import Converge.Work
import Converge.Runtime
import Converge.Progress
import Converge.UserPrepare
