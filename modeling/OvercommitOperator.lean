import OvercommitOperator.Api.Types
import OvercommitOperator.Api.Controllerutil
import OvercommitOperator.Equality.Maps
import OvercommitOperator.Equality.Tolerations
import OvercommitOperator.Equality.Semantic
import OvercommitOperator.Status.Conditions
import OvercommitOperator.Mutate.Shapes
import OvercommitOperator.Mutate.Closures
import OvercommitOperator.Reconcile.Prog
import OvercommitOperator.Reconcile.Class
import OvercommitOperator.Reconcile.ClassRuns
import OvercommitOperator.Reconcile.Status
import OvercommitOperator.Reconcile.Singleton
import OvercommitOperator.Reconcile.Errors
import OvercommitOperator.Reconcile.Ownership
import OvercommitOperator.Reconcile.Logic
import OvercommitOperator.Mutate.Laws
import OvercommitOperator.Cluster.Server
import OvercommitOperator.Cluster.Finalizer
import OvercommitOperator.Cluster.Converge
import OvercommitOperator.Cluster.Store
import OvercommitOperator.Cluster.SingletonServer
import OvercommitOperator.Cluster.SingletonConverge
import OvercommitOperator.Cluster.ConflictTolerance
import OvercommitOperator.Cluster.Recovery
