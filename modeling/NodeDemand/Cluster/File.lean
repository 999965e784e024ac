/-
# The description of a cluster in a file

A file that cannot be read as text fails as reading it does, and its text has to describe a cluster.
-/
import NodeDemand.Gateway

namespace NodeDemand.Cluster

/-- The description in a file. -/
def load (world : World) (path : String) : Except Failure Cluster :=
  (world.readText path).bind fun text => (read text).mapError .cluster

end NodeDemand.Cluster
