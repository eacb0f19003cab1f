import CrdbLab.Lib.Dictionary
import CrdbLab.Lib.KeySort
import CrdbLab.Testbed
import Mathlib.Data.Rat.Defs
import Mathlib.Data.String.Basic

/-!
The round-trip matrix of the network phase.

Every node probes its links to the others in one session. A link on which nothing came back
has no round trip; a session that failed has no links.
-/

namespace CrdbLab.NetworkProbe

open CrdbLab.Lib.KeySort CrdbLab.Lib.Dictionary CrdbLab.Testbed

structure LinkStats where
  samples : ℕ
  lossPct : ℚ
  rttMinMs : Option ℚ := none
  rttMeanMs : Option ℚ := none
  rttP50Ms : Option ℚ := none
  rttP95Ms : Option ℚ := none
  rttP99Ms : Option ℚ := none
  rttMaxMs : Option ℚ := none
  rttMdevMs : Option ℚ := none
  rttResolutionMs : Option ℚ := none
  deriving DecidableEq, Repr

/-- The links of one source by destination. A failed probe has none. -/
structure NodeProbe where
  node : String
  mtu : Option ℕ := none
  links : Dict String LinkStats := .empty
  error : Option String := none
  unlinked : error ≠ none → links = .empty := by simp
  deriving DecidableEq

/-- `if probe.error`. -/
def NodeProbe.failed (probe : NodeProbe) : Bool := probe.error.any (· ≠ "")

/-- A row of `network.csv`; a blank cell reads as missing. -/
structure NetworkRow where
  tsUtc : String
  source : String
  destination : String
  sourceRegion : String
  destinationRegion : String
  samples : ℕ
  lossPct : ℚ
  rttMinMs : Option ℚ
  rttMeanMs : Option ℚ
  rttP50Ms : Option ℚ
  rttP95Ms : Option ℚ
  rttP99Ms : Option ℚ
  rttMaxMs : Option ℚ
  rttMdevMs : Option ℚ
  rttResolutionMs : Option ℚ
  deriving DecidableEq, Repr

/-- The region of the node with the host, the last one declared so, or blank. -/
def regionOf (topo : Topology) (host : String) : String :=
  ((topo.nodes.reverse.find? fun n => n.host = host).map Node.region).getD ""

def networkRow (topo : Topology) (stamp source destination : String) (stats : LinkStats) :
    NetworkRow where
  tsUtc := stamp
  source := source
  destination := destination
  sourceRegion := regionOf topo source
  destinationRegion := regionOf topo destination
  samples := stats.samples
  lossPct := stats.lossPct
  rttMinMs := stats.rttMinMs
  rttMeanMs := stats.rttMeanMs
  rttP50Ms := stats.rttP50Ms
  rttP95Ms := stats.rttP95Ms
  rttP99Ms := stats.rttP99Ms
  rttMaxMs := stats.rttMaxMs
  rttMdevMs := stats.rttMdevMs
  rttResolutionMs := stats.rttResolutionMs

/-- The rows of one probe, by destination. -/
def probeRows (topo : Topology) (stamp : String) (probe : NodeProbe) : List NetworkRow :=
  if probe.failed then []
  else
    (sortOn Prod.fst probe.links.entries).map fun link =>
      networkRow topo stamp probe.node link.1 link.2

/-- What `run` writes to `network.csv`. -/
def networkCsv (topo : Topology) (stamp : String) (probes : List NodeProbe) : List NetworkRow :=
  probes.flatMap (probeRows topo stamp)

/-- A probe that counts as failed has no rows anyway. -/
lemma probeRows_eq (topo : Topology) (stamp : String) (probe : NodeProbe) :
    probeRows topo stamp probe =
      (sortOn Prod.fst probe.links.entries).map fun link =>
        networkRow topo stamp probe.node link.1 link.2 := by
  unfold probeRows
  split
  · next hfailed =>
    have herror : probe.error ≠ none := by
      intro h
      simp [NodeProbe.failed, h] at hfailed
    rw [probe.unlinked herror]
    rfl
  · rfl

end CrdbLab.NetworkProbe
