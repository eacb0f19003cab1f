import CrdbLab.Lib.Fallible
import Mathlib.Data.List.Basic

/-!
The nodes of the testbed.

One of them is declared the gateway, where the leaseholder and the primary are pinned. What asks
for it is refused where no node or more than one is declared so.
-/

namespace CrdbLab.Testbed

structure Node where
  name : String
  host : String
  region : String
  gateway : Bool := false
  deriving DecidableEq, Repr

structure Topology where
  nodes : List Node
  deriving DecidableEq, Repr

inductive TopologyError
  | unknownNode (name : String) (known : List String)
  | gateways (found : ℕ)
  deriving DecidableEq, Repr

def TopologyError.message : TopologyError → String
  | .unknownNode name known =>
    "unknown node '" ++ name ++ "'; known nodes: " ++ ", ".intercalate known
  | .gateways found =>
    "exactly one gateway node must be declared, found " ++ toString found

def names (topo : Topology) : List String := topo.nodes.map Node.name

def get (topo : Topology) (name : String) : Except TopologyError Node :=
  match topo.nodes.find? fun n => n.name = name with
  | some node => .ok node
  | none => .error (.unknownNode name (names topo))

def gateway (topo : Topology) : Except TopologyError Node :=
  match topo.nodes.filter Node.gateway with
  | [node] => .ok node
  | nodes => .error (.gateways nodes.length)

/-- The leaseholder and the primary are pinned here. -/
def gcp1 : Node :=
  { name := "gcp-1", host := "crdb-gcp-1", region := "us-east1", gateway := true }

/-- The cluster of five nodes. -/
def defaultTopology : Topology where
  nodes :=
    [{ name := "linode-1", host := "crdb-linode-1", region := "us-east" },
     { name := "linode-2", host := "crdb-linode-2", region := "us-west" },
     { name := "azure-1", host := "crdb-azure-1", region := "centralindia" },
     { name := "azure-2", host := "crdb-azure-2", region := "eastasia" },
     gcp1]

end CrdbLab.Testbed
