import CrdbLab.QuorumFloor

/-!
The summary of the network phase against the matrix it wrote.

The summary takes the quorum floor from the probes in memory, and later phases take it from the
rows of the file. A link that is down has no round trip in the one and a blank cell in the
other.
-/

namespace CrdbLab.NetworkSummary

open CrdbLab.Lib.Dictionary CrdbLab.Lib.Fallible CrdbLab.Lib.KeySort CrdbLab.Lib.OrderStat
open CrdbLab.Lib.Rounding CrdbLab.NetworkProbe CrdbLab.QuorumFloor CrdbLab.Testbed

inductive Raised
  | topology (e : TopologyError)
  | quorum (e : ValueError)
  deriving DecidableEq, Repr

structure Summary where
  gateway : String
  gatewayRttMs : Rtts
  quorumFloorMs : ℚ
  voters : ℕ
  deriving DecidableEq

/-- The mean round trips of a probe, without the links that are down. -/
def probeRtts (probe : NodeProbe) : Rtts := probe.links.filterMap fun _ stats => stats.rttMeanMs

/-- Nothing where the gateway was not probed, or has no link or no round trip. -/
def summarise (probes : List NodeProbe) (topo : Topology) : Except Raised (Option Summary) :=
  match gateway topo with
  | .error e => .error (.topology e)
  | .ok gw =>
    match probes.find? fun p => p.node = gw.host with
    | none => .ok none
    | some probe =>
      if probe.links.entries = [] then .ok none
      else if (probeRtts probe).entries = [] then .ok none
      else
        match quorumFloorMs (probeRtts probe) topo.nodes.length with
        | .error e => .error (.quorum e)
        | .ok floor =>
          .ok (some
            { gateway := gw.host
              gatewayRttMs := probeRtts probe
              quorumFloorMs := roundTo 3 floor
              voters := topo.nodes.length })

/-- The probes of one sweep, at most one from each source. -/
structure Sweep where
  probes : List NodeProbe
  distinct : (probes.map NodeProbe.node).Nodup
  deriving DecidableEq

/-! ### The rows of a source -/

/-- The destinations and round trips that the matrix has for a source. -/
def rowRtts (networkCsv : List NetworkRow) (host : String) : List (String × ℚ) :=
  networkCsv.filterMap fun row =>
    if row.source = host then row.rttMeanMs.map fun x => (row.destination, x) else none

lemma gatewayRtts_eq (networkCsv : List NetworkRow) (host : String) :
    gatewayRtts networkCsv host = .ofList (rowRtts networkCsv host) := rfl

variable {topo : Topology} {stamp host : String}

/-- The rows of a probe are of its source. -/
lemma rowRtts_probeRows (probe : NodeProbe) :
    rowRtts (probeRows topo stamp probe) host =
      if probe.node = host then
        (sortOn Prod.fst probe.links.entries).filterMap fun link =>
          link.2.rttMeanMs.map fun x => (link.1, x)
      else [] := by
  rw [rowRtts, probeRows_eq, List.filterMap_map]
  split
  · next hnode =>
    refine List.filterMap_congr fun link _ => ?_
    simp [networkRow, hnode]
  · next hnode =>
    refine List.filterMap_eq_nil_iff.mpr fun link _ => ?_
    simp [networkRow, hnode]

/-- The matrix of a sweep has for a source the rows of its probe. -/
lemma rowRtts_networkCsv {probes : List NodeProbe} (hdistinct : (probes.map NodeProbe.node).Nodup) :
    rowRtts (networkCsv topo stamp probes) host =
      match probes.find? fun p => p.node = host with
      | none => []
      | some probe => (sortOn Prod.fst probe.links.entries).filterMap fun link =>
          link.2.rttMeanMs.map fun x => (link.1, x) := by
  induction probes with
  | nil => rfl
  | cons probe probes ih =>
    obtain ⟨hnew, hrest⟩ := List.nodup_cons.mp hdistinct
    have hcons : rowRtts (networkCsv topo stamp (probe :: probes)) host =
        rowRtts (probeRows topo stamp probe) host ++
          rowRtts (networkCsv topo stamp probes) host := by
      simp only [rowRtts, networkCsv, List.flatMap_cons, List.filterMap_append]
    rw [hcons, ih hrest, rowRtts_probeRows]
    by_cases hnode : probe.node = host
    · have hnone : probes.find? (fun p => p.node = host) = none := by
        refine List.find?_eq_none.mpr fun p hp hpnode => hnew ?_
        rw [hnode, ← of_decide_eq_true hpnode]
        exact List.mem_map_of_mem hp
      rw [hnone, List.find?_cons_of_pos (by simpa using hnode), if_pos hnode, List.append_nil]
    · rw [List.find?_cons_of_neg (by simpa using hnode), if_neg hnode, List.nil_append]

/-- The round trips of the matrix are those of the probe, by destination. -/
lemma entries_gatewayRtts {probes : List NodeProbe}
    (hdistinct : (probes.map NodeProbe.node).Nodup) {probe : NodeProbe}
    (hprobe : probes.find? (fun p => p.node = host) = some probe) :
    (gatewayRtts (networkCsv topo stamp probes) host).entries.Perm (probeRtts probe).entries := by
  have hrows : rowRtts (networkCsv topo stamp probes) host =
      (sortOn Prod.fst probe.links.entries).filterMap fun link =>
        link.2.rttMeanMs.map fun x => (link.1, x) := by
    rw [rowRtts_networkCsv hdistinct, hprobe]
  have hperm : (rowRtts (networkCsv topo stamp probes) host).Perm (probeRtts probe).entries := by
    rw [hrows]
    exact (sortOn_perm Prod.fst probe.links.entries).filterMap _
  have hkeys : ((rowRtts (networkCsv topo stamp probes) host).map Prod.fst).Nodup :=
    ((hperm.map Prod.fst).nodup_iff).mpr (probeRtts probe).nodup
  rw [gatewayRtts_eq, Dict.entries_ofList hkeys]
  exact hperm

/-- The floor depends on the round trips only, not on the order in which they stand. -/
lemma quorumFloorMs_perm {rtts rtts' : Rtts} (h : rtts.entries.Perm rtts'.entries) (voters : ℕ) :
    quorumFloorMs rtts voters = quorumFloorMs rtts' voters := by
  have hsorted : sorted rtts.values = sorted rtts'.values := by
    have hmap := map_sortOn_perm id (h.map Prod.snd)
    rwa [List.map_id, List.map_id] at hmap
  unfold quorumFloorMs
  simp only [hsorted]

/-! ### The summary -/

/-- How many links of the probe are up. -/
def answered (probe : NodeProbe) : ℕ :=
  probe.links.entries.countP fun link => link.2.rttMeanMs.isSome

lemma size_probeRtts (probe : NodeProbe) : (probeRtts probe).size = answered probe := by
  rw [Dict.size, probeRtts, Dict.filterMap, List.length_filterMap_eq_countP, answered]
  refine List.countP_congr fun link _ => ?_
  simp

/-- **What a summary is**: nothing where no link of the gateway is up, and else the floor of the
links that are. -/
lemma summarise_cases {probes : List NodeProbe} {gw : Node} (hgateway : gateway topo = .ok gw) :
    (∃ probe, probes.find? (fun p => p.node = gw.host) = some probe ∧ answered probe ≠ 0 ∧
      summarise probes topo =
        match quorumFloorMs (probeRtts probe) topo.nodes.length with
        | .error e => .error (.quorum e)
        | .ok floor =>
          .ok (some
            { gateway := gw.host
              gatewayRttMs := probeRtts probe
              quorumFloorMs := roundTo 3 floor
              voters := topo.nodes.length })) ∨
    (∀ probe, probes.find? (fun p => p.node = gw.host) = some probe → answered probe = 0) ∧
      summarise probes topo = .ok none := by
  unfold summarise
  simp only [hgateway]
  cases hprobe : probes.find? fun p => p.node = gw.host with
  | none => exact Or.inr ⟨by simp, rfl⟩
  | some probe =>
    simp only
    by_cases hzero : answered probe = 0
    · have hnil : (probeRtts probe).entries = [] := by
        rw [← List.length_eq_zero_iff, ← Dict.size, size_probeRtts, hzero]
      refine Or.inr ⟨by simpa using hzero, ?_⟩
      simp only [hnil, if_true, ite_self]
    · have hne : (probeRtts probe).entries ≠ [] := by
        rw [ne_eq, ← List.length_eq_zero_iff, ← Dict.size, size_probeRtts]
        exact hzero
      have hlinks : probe.links.entries ≠ [] := by
        intro hnil
        simp [answered, hnil] at hzero
      refine Or.inl ⟨probe, rfl, hzero, ?_⟩
      simp only [hne, hlinks, if_false]

/-- The floor of a summary is the one that the matrix of the same sweep gives. -/
def FloorAgrees (sweep : Sweep) (topo : Topology) (gw : Node) (stamp : String) : Prop :=
  ∀ s, summarise sweep.probes topo = .ok (some s) →
    ∃ floor, quorumFloorMs (gatewayRtts (networkCsv topo stamp sweep.probes) gw.host)
      topo.nodes.length = .ok floor ∧ s.quorumFloorMs = roundTo 3 floor

lemma floorAgrees (sweep : Sweep) {gw : Node} (hgateway : gateway topo = .ok gw)
    (stamp : String) : FloorAgrees sweep topo gw stamp := by
  intro s hs
  rcases @summarise_cases topo sweep.probes gw hgateway with
    ⟨probe, hprobe, -, hsummary⟩ | ⟨-, hsummary⟩
  · rw [hsummary] at hs
    have hperm := @entries_gatewayRtts topo stamp gw.host sweep.probes sweep.distinct probe hprobe
    rw [quorumFloorMs_perm hperm]
    cases hfloor : quorumFloorMs (probeRtts probe) topo.nodes.length with
    | error e =>
      rw [hfloor] at hs
      cases hs
    | ok floor =>
      rw [hfloor] at hs
      cases hs
      exact ⟨floor, rfl, rfl⟩
  · rw [hsummary] at hs
    cases hs

/-- No link of the gateway is up, or enough for a quorum. -/
def NoneOrQuorum (sweep : Sweep) (topo : Topology) (gw : Node) : Prop :=
  ∀ probe ∈ sweep.probes, probe.node = gw.host →
    answered probe = 0 ∨ 3 ≤ topo.nodes.length ∧ topo.nodes.length / 2 ≤ answered probe

instance (sweep : Sweep) (topo : Topology) (gw : Node) : Decidable (NoneOrQuorum sweep topo gw) :=
  inferInstanceAs (Decidable (∀ probe ∈ sweep.probes, _ → _ ∨ _))

lemma find?_node_iff (sweep : Sweep) {probe : NodeProbe} :
    sweep.probes.find? (fun p => p.node = host) = some probe ↔
      probe ∈ sweep.probes ∧ probe.node = host := by
  constructor
  · intro h
    exact ⟨List.mem_of_find?_eq_some h, by simpa using List.find?_some h⟩
  · rintro ⟨hmem, rfl⟩
    have hfound : (sweep.probes.find? fun p => p.node = probe.node).isSome := by
      rw [List.find?_isSome]
      exact ⟨probe, hmem, by simp⟩
    obtain ⟨p, hp⟩ := Option.isSome_iff_exists.mp hfound
    have hnode : p.node = probe.node := by simpa using List.find?_some hp
    rw [hp, List.inj_on_of_nodup_map sweep.distinct (List.mem_of_find?_eq_some hp) hmem hnode]

lemma completes_summarise (sweep : Sweep) {gw : Node} (hgateway : gateway topo = .ok gw) :
    Completes (summarise sweep.probes topo) ↔ NoneOrQuorum sweep topo gw := by
  rcases @summarise_cases topo sweep.probes gw hgateway with
    ⟨probe, hprobe, hup, hsummary⟩ | ⟨hdown, hsummary⟩
  · have hfloor := @completes_quorumFloorMs (probeRtts probe) topo.nodes.length
    rw [size_probeRtts] at hfloor
    have hquorum : NoneOrQuorum sweep topo gw ↔
        3 ≤ topo.nodes.length ∧ topo.nodes.length / 2 ≤ answered probe := by
      obtain ⟨hmem, hnode⟩ := (find?_node_iff sweep).mp hprobe
      constructor
      · intro h
        exact (h probe hmem hnode).resolve_left hup
      · intro h p hp hpnode
        rw [(find?_node_iff sweep).mpr ⟨hp, hpnode⟩] at hprobe
        cases hprobe
        exact Or.inr h
    rw [hquorum, ← hfloor, hsummary]
    cases quorumFloorMs (probeRtts probe) topo.nodes.length <;> simp
  · rw [hsummary]
    refine iff_of_true (completes_ok _) fun probe hmem hnode => Or.inl ?_
    exact hdown probe ((find?_node_iff sweep).mpr ⟨hmem, hnode⟩)

/-- **The summary of a sweep**: it is given, and agrees with the file, exactly where no link of
the gateway is up or enough of them are. -/
theorem summary_iff (sweep : Sweep) {gw : Node} (hgateway : gateway topo = .ok gw)
    (stamp : String) :
    (Completes (summarise sweep.probes topo) ∧ FloorAgrees sweep topo gw stamp) ↔
      NoneOrQuorum sweep topo gw := by
  rw [and_iff_left (floorAgrees sweep hgateway stamp), completes_summarise sweep hgateway]

/-- The statistics of a link with a mean round trip, and of one that is down. -/
def upLink (rttMeanMs : ℚ) : LinkStats :=
  { samples := 100, lossPct := 0, rttMeanMs := some rttMeanMs }

def downLink : LinkStats := { samples := 0, lossPct := 100 }

/-- The gateway's probe where the link to one node is as given. -/
def gatewayProbe (second : LinkStats) : NodeProbe where
  node := "crdb-gcp-1"
  mtu := some 1280
  links :=
    { entries := [("crdb-linode-1", upLink (237 / 10)), ("crdb-linode-2", second),
        ("crdb-azure-1", downLink), ("crdb-azure-2", downLink)]
      nodup := by simp }

def sweepOf (second : LinkStats) : Sweep where
  probes := [gatewayProbe second]
  distinct := by simp

/-- Two links are enough. -/
theorem two_links_agree :
    Completes (summarise (sweepOf (upLink (344 / 5))).probes defaultTopology) ∧
      FloorAgrees (sweepOf (upLink (344 / 5))) defaultTopology gcp1 "2026-09-08T00:00:00Z" :=
  (summary_iff (sweepOf (upLink (344 / 5))) (by decide) _).mpr (by decide +kernel)

/-- With only one link up the summary raises. -/
theorem one_link_raises :
    summarise (sweepOf downLink).probes defaultTopology = .error (.quorum (.tooFewRtts 5 2 1)) := by
  decide +kernel

end CrdbLab.NetworkSummary
