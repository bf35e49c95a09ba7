import Preflight.Amundsen
import Preflight.Graph

/-!
# The connector of Amundsen

Amundsen keeps its metadata in a graph, so to connect with it is to connect with
the graph.
-/

namespace Preflight

/-- How to connect with, test and leave an Amundsen catalog. -/
def Amundsen.connector : Connector GraphSettings GraphConnection BoltNet where
  service := service
  connect := GraphConnection.connect
  steps := steps GraphConnection.read
  close := GraphConnection.close

end Preflight
