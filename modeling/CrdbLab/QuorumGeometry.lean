import CrdbLab.QuorumFloor
import CrdbLab.RowMatch
import Mathlib.Data.List.MinMax

/-!
How far a fault moves the floor under the latency of a write.

Where a follower is lost, the leader's own floor is taken again without it. Where the leader is
lost, every other node is looked at as the next leader. The floors are set against the one
before the fault, which may be zero.
-/

namespace CrdbLab.QuorumGeometry

open CrdbLab.Lib.Dictionary CrdbLab.Lib.Fallible CrdbLab.Lib.OrderStat CrdbLab.Lib.Rounding
open CrdbLab.NetworkProbe CrdbLab.QuorumFloor CrdbLab.Testbed

inductive Raised
  | zeroDivision
  | typeError
  | topology (e : TopologyError)
  deriving DecidableEq, Repr

/-- What the geometry reads of a run. -/
structure Run where
  target : Option String := none
  engine : String := "cockroachdb"
  deriving DecidableEq, Repr

/-- What is known where the leader survives and loses a follower. -/
structure FollowerLost where
  voters : ℕ
  target : String
  targetRegion : String
  quorumFloorMs : ℚ
  survivingQuorumFloorMs : ℚ
  floorRatioX : Option ℚ
  targetInFastQuorum : Bool
  detail : String
  consequence : String
  deriving DecidableEq, Repr

/-- What is known where the leader itself is the target. -/
structure LeaderDisplaced where
  voters : ℕ
  target : String
  targetRegion : String
  quorumFloorMs : ℚ
  survivingQuorumFloorRangeMs : ℚ × ℚ
  candidateFloorsMs : Dict String ℚ
  bestCaseLeader : String
  worstCaseLeader : String
  floorRatioRangeX : Option ℚ × Option ℚ
  targetInFastQuorum : Bool
  detail : String
  consequence : String
  deriving DecidableEq, Repr

inductive Geometry
  | unavailable (detail : String)
  | followerLost (g : FollowerLost)
  | leaderDisplaced (g : LeaderDisplaced)
  deriving DecidableEq, Repr

/-- The slack within which two floors count as one. -/
def tolerance : ℚ := 1 / 10 ^ 9

/-- `round(after / before, 2) if before else None`. -/
def floorRatio (after before : ℚ) : Option ℚ :=
  if before = 0 then none else some (roundTo 2 (after / before))

/-- `f"{after / before:.2f}"`. -/
def quotientText (after before : ℚ) : Except Raised String :=
  if before = 0 then .error .zeroDivision else .ok (fixed 2 (after / before))

/-- `f"{ratio:.2f}"`. -/
def ratioText : Option ℚ → Except Raised String
  | none => .error .typeError
  | some ratio => .ok (fixed 2 ratio)

/-! ### A follower is lost -/

def followerDetail (target : Node) (before after : ℚ) : Except Raised String :=
  if before < after then do
    let quotient ← quotientText after before
    return "with " ++ target.name ++ " (" ++ target.region ++ ") unavailable, the write path's " ++
      "floor rises from " ++ fixed 1 before ++ " ms to " ++ fixed 1 after ++ " ms, a factor of " ++
      quotient ++ ". Writes continue -- a quorum survives -- so this is a latency change, not an " ++
      "outage"
  else
    .ok (target.name ++ " is not a member of the fast quorum, so its loss leaves the write floor " ++
      "at " ++ fixed 1 before ++ " ms and the write path is unaffected")

def followerConsequence (before after : ℚ) : String :=
  if before < after then
    "whether aggregate throughput regains the recovery threshold depends on how much of the " ++
      "added write latency the offered concurrency can hide, and on the read share, which is " ++
      "unaffected. A performance RTO that comes back undefined for a fault on this member is " ++
      "explained by this geometry; one that comes back defined is not contradicted by it"
  else "a full performance recovery is physically available for a fault on this member"

def followerLost (target : Node) (voters : ℕ) (before after : ℚ) : Except Raised Geometry := do
  let detail ← followerDetail target before after
  return .followerLost
    { voters := voters
      target := target.name
      targetRegion := target.region
      quorumFloorMs := roundTo 2 before
      survivingQuorumFloorMs := roundTo 2 after
      floorRatioX := floorRatio after before
      targetInFastQuorum := before + tolerance < after
      detail := detail
      consequence := followerConsequence before after }

/-! ### The leader is lost -/

/-- The floor of each survivor as the next leader, where it can be told. -/
def candidateFloors (networkCsv : List NetworkRow) (topo : Topology) (target : Node) (voters : ℕ) :
    Dict String ℚ :=
  .ofList (topo.nodes.filterMap fun candidate =>
    if candidate.host = target.host then none
    else
      match quorumFloorMs ((gatewayRtts networkCsv candidate.host).erase target.host) voters with
      | .ok floor => some (candidate.name, floor)
      | .error _ => none)

def noCandidates (target : Node) : String :=
  target.name ++ " is both the chaos target and the gateway, and no surviving node's RTTs could " ++
    "be read from the Phase I matrix to estimate a replacement leaseholder's quorum floor"

def displacedDetail (isPg : Bool) (target : Node) (before afterMin afterMax : ℚ)
    (best worst : String) : Except Raised String := do
  let ratioMin ← ratioText (floorRatio afterMin before)
  let ratioMax ← ratioText (floorRatio afterMax before)
  return target.name ++ " (" ++ target.region ++ ") was the " ++
    (if isPg then "primary" else "leaseholder") ++ ", so its loss displaces it rather than " ++
    "merely removing a follower. Depending on which survivor " ++
    (if isPg then "Patroni" else "CockroachDB's allocator") ++ " promotes, the write path's " ++
    "floor rises from " ++ fixed 1 before ++ " ms to somewhere between " ++ fixed 1 afterMin ++
    " ms (" ++ best ++ ", best case) and " ++ fixed 1 afterMax ++ " ms (" ++ worst ++
    ", worst case) -- " ++ ratioMin ++ "x to " ++ ratioMax ++ "x. Writes continue -- a quorum " ++
    "survives among any three of the four remaining voters -- so this is a latency change, not " ++
    "an outage, in every candidate"

def displacedConsequence (isPg : Bool) (best worst : String) : String :=
  if isPg then
    "whether aggregate throughput regains the recovery threshold depends on far more than the " ++
      "write floor above. The generator reaches PostgreSQL through HAProxy, which follows the " ++
      "primary, so a promotion onto " ++ worst ++ " or " ++ best ++ " moves the READ path as " ++
      "well -- and reads are 80% of this workload. A performance RTO that comes back undefined " ++
      "after the pinned primary was faulted is expected, and is dominated by client-to-primary " ++
      "distance rather than by this quorum geometry: compare the post-fault read p50 against " ++
      "its baseline before attributing any of it to the write path"
  else
    "whether aggregate throughput regains the recovery threshold depends on how much of the " ++
      "added write latency the offered concurrency can hide, and on the read share, which is " ++
      "served by the surviving leaseholder and is unaffected by which candidate takes the " ++
      "lease. A performance RTO that comes back undefined is explained by this geometry at " ++
      "every candidate in the range; one that comes back defined is not contradicted by it"

def leaderDisplaced (isPg : Bool) (target : Node) (voters : ℕ) (before : ℚ)
    (candidates : Dict String ℚ) : Except Raised Geometry :=
  match candidates.entries.argmin Prod.snd, candidates.entries.argmax Prod.snd with
  | some (best, afterMin), some (worst, afterMax) => do
    let detail ← displacedDetail isPg target before afterMin afterMax best worst
    return .leaderDisplaced
      { voters := voters
        target := target.name
        targetRegion := target.region
        quorumFloorMs := roundTo 2 before
        survivingQuorumFloorRangeMs := (roundTo 2 afterMin, roundTo 2 afterMax)
        candidateFloorsMs := candidates.filterMap fun _ floor => some (roundTo 2 floor)
        bestCaseLeader := best
        worstCaseLeader := worst
        floorRatioRangeX := (floorRatio afterMin before, floorRatio afterMax before)
        targetInFastQuorum := before + tolerance < afterMin
        detail := detail
        consequence := displacedConsequence isPg best worst }
  | _, _ => .ok (.unavailable (noCandidates target))

/-! ### The geometry -/

def noMatrix : String := "no Phase I network matrix supplied; run `crdblab net probe`"

/-- The geometry of a target that is known. -/
def geometryOf (run : Run) (networkCsv : List NetworkRow) (topo : Topology) (gw target : Node) :
    Except Raised Geometry :=
  let voters := topo.nodes.length
  let rtts := gatewayRtts networkCsv gw.host
  match quorumFloorMs rtts voters with
  | .error e => .ok (.unavailable e.message)
  | .ok before =>
    if target.host ≠ gw.host then
      match quorumFloorMs (rtts.erase target.host) voters with
      | .error e => .ok (.unavailable e.message)
      | .ok after => followerLost target voters before after
    else
      leaderDisplaced (run.engine = "postgresql") target voters before
        (candidateFloors networkCsv topo target voters)

/-- The geometry of a run; there may be no matrix. -/
def quorumGeometry (run : Run) (network : Option (List NetworkRow)) (topo : Topology) :
    Except Raised Geometry :=
  match network, run.target with
  | some networkCsv, some name =>
    if name = "" then .ok (.unavailable noMatrix)
    else
      match gateway topo with
      | .error e => .error (.topology e)
      | .ok gw =>
        match get topo name with
        | .error _ => .ok (.unavailable ("unknown chaos target " ++ RowMatch.reprStr name))
        | .ok target => geometryOf run networkCsv topo gw target
  | _, _ => .ok (.unavailable noMatrix)

/-! ### What completes -/

section Completes

variable {target gw : Node} {before after : ℚ} {voters : ℕ}

lemma completes_quotientText : Completes (quotientText after before) ↔ before ≠ 0 := by
  unfold quotientText
  split <;> simp_all

lemma completes_ratioText : Completes (ratioText (floorRatio after before)) ↔ before ≠ 0 := by
  unfold floorRatio
  split <;> simp_all [ratioText]

lemma completes_followerLost :
    Completes (followerLost target voters before after) ↔ (before < after → before ≠ 0) := by
  have hdetail : Completes (followerDetail target before after) ↔
      (before < after → before ≠ 0) := by
    unfold followerDetail
    split
    · next hlt =>
      rw [completes_bind_pure, completes_quotientText, forall_prop_of_true hlt]
    · next hle => simp [hle]
  rw [followerLost, completes_bind_pure, hdetail]

lemma completes_displacedDetail {isPg : Bool} {afterMin afterMax : ℚ} {best worst : String} :
    Completes (displacedDetail isPg target before afterMin afterMax best worst) ↔ before ≠ 0 := by
  unfold displacedDetail
  rw [completes_bind, ← @completes_ratioText before afterMin]
  constructor
  · rintro ⟨x, hx, -⟩
    exact ⟨x, hx⟩
  · rintro ⟨x, hx⟩
    refine ⟨x, hx, ?_⟩
    rw [completes_bind_pure, completes_ratioText, ← @completes_ratioText before afterMin]
    exact ⟨x, hx⟩

lemma completes_leaderDisplaced {isPg : Bool} {candidates : Dict String ℚ} :
    Completes (leaderDisplaced isPg target voters before candidates) ↔
      (candidates.entries ≠ [] → before ≠ 0) := by
  unfold leaderDisplaced
  split
  · next best afterMin worst afterMax hmin hmax =>
    have hne : candidates.entries ≠ [] := List.ne_nil_of_mem (List.argmin_mem hmin)
    rw [completes_bind_pure, completes_displacedDetail]
    simp [hne]
  · next hnone =>
    have hnil : candidates.entries = [] := by
      by_contra hne
      obtain ⟨⟨best, afterMin⟩, hmin⟩ := Option.ne_none_iff_exists'.mp
        (mt List.argmin_eq_none.mp hne : candidates.entries.argmin Prod.snd ≠ none)
      obtain ⟨⟨worst, afterMax⟩, hmax⟩ := Option.ne_none_iff_exists'.mp
        (mt List.argmax_eq_none.mp hne : candidates.entries.argmax Prod.snd ≠ none)
      exact hnone best afterMin worst afterMax hmin hmax
    simp [hnil]

end Completes

/-! ### Floors of zero -/

/-- As many round trips are zero as complete a quorum. -/
def Instant (rtts : Rtts) (voters : ℕ) : Prop := voters / 2 ≤ rtts.values.countP (· = 0)

instance (rtts : Rtts) (voters : ℕ) : Decidable (Instant rtts voters) :=
  inferInstanceAs (Decidable (_ ≤ _))

/-- The floor before the fault is zero, and the one after it is not, or that of any next leader
is known. -/
def ZeroFloor (networkCsv : List NetworkRow) (topo : Topology) (gw target : Node) : Prop :=
  Instant (gatewayRtts networkCsv gw.host) topo.nodes.length ∧
    (target.host ≠ gw.host ∧
        topo.nodes.length / 2 ≤ ((gatewayRtts networkCsv gw.host).erase target.host).size ∧
        ¬ Instant ((gatewayRtts networkCsv gw.host).erase target.host) topo.nodes.length ∨
      target.host = gw.host ∧ ∃ candidate ∈ topo.nodes, candidate.host ≠ target.host ∧
        topo.nodes.length / 2 ≤
          ((gatewayRtts networkCsv candidate.host).erase target.host).size)

section Zero

variable {rtts : Rtts} {voters : ℕ} {floor : ℚ}

lemma nonneg_gatewayRtts {networkCsv : List NetworkRow} {host : String}
    (h : ∀ row ∈ networkCsv, ∀ x, row.rttMeanMs = some x → 0 ≤ x) :
    ∀ x ∈ (gatewayRtts networkCsv host).values, 0 ≤ x := by
  intro x hx
  obtain ⟨k, hmem⟩ := Dict.mem_values.mp hx
  obtain ⟨row, hrow, hentry⟩ := List.mem_filterMap.mp (Dict.mem_of_mem_ofList hmem)
  split at hentry
  · obtain ⟨y, hy, heq⟩ := Option.map_eq_some_iff.mp hentry
    obtain ⟨-, rfl⟩ := Prod.mk.inj heq
    exact h row hrow y hy
  · cases hentry

lemma nonneg_erase {host : String} (h : ∀ x ∈ rtts.values, 0 ≤ x) :
    ∀ x ∈ (rtts.erase host).values, 0 ≤ x := by
  intro x hx
  obtain ⟨k, hmem⟩ := Dict.mem_values.mp hx
  exact h x (Dict.mem_values.mpr ⟨k, (Dict.mem_entries_erase.mp hmem).1⟩)

lemma floor_nonneg (hnonneg : ∀ x ∈ rtts.values, 0 ≤ x)
    (h : quorumFloorMs rtts voters = .ok floor) : 0 ≤ floor := by
  obtain ⟨hvoters, -⟩ := completes_quorumFloorMs.mp ⟨floor, h⟩
  by_contra hneg
  have hcount := (quorumFloorMs_le_iff h floor).mp le_rfl
  have hnone : rtts.values.countP (· ≤ floor) = 0 :=
    List.countP_eq_zero.mpr fun x hx => by
      simpa using (not_le.mp hneg).trans_le (hnonneg x hx)
  rw [card_within, hnone] at hcount
  omega

/-- **A floor of zero** means that enough round trips are zero. -/
lemma floor_eq_zero_iff (hnonneg : ∀ x ∈ rtts.values, 0 ≤ x)
    (h : quorumFloorMs rtts voters = .ok floor) : floor = 0 ↔ Instant rtts voters := by
  have hzero : rtts.values.countP (· ≤ 0) = rtts.values.countP (· = 0) :=
    List.countP_congr fun x hx => by simpa using (hnonneg x hx).ge_iff_eq'
  rw [Instant, ← hzero, ← card_within, ← quorumFloorMs_le_iff h 0]
  exact (floor_nonneg hnonneg h).ge_iff_eq'.symm

lemma instant_measured (h : Instant rtts voters) : voters / 2 ≤ rtts.size := by
  rw [← Dict.length_values]
  exact h.trans List.countP_le_length

end Zero

/-- Some candidate's floor is known exactly if enough of its round trips are. -/
lemma candidateFloors_ne_nil {networkCsv : List NetworkRow} {topo : Topology} {target : Node}
    {voters : ℕ} (hvoters : 3 ≤ voters) :
    (candidateFloors networkCsv topo target voters).entries ≠ [] ↔
      ∃ candidate ∈ topo.nodes, candidate.host ≠ target.host ∧
        voters / 2 ≤ ((gatewayRtts networkCsv candidate.host).erase target.host).size := by
  rw [candidateFloors, ne_eq, Dict.entries_ofList_eq_nil_iff, List.filterMap_eq_nil_iff]
  push Not
  refine exists_congr fun candidate => and_congr_right fun _ => ?_
  have hcompletes := @completes_quorumFloorMs
    ((gatewayRtts networkCsv candidate.host).erase target.host) voters
  rw [and_iff_right hvoters] at hcompletes
  rw [← hcompletes]
  by_cases hhost : candidate.host = target.host
  · simp [hhost]
  · simp only [hhost, if_false, not_false_eq_true, true_and, ne_eq]
    cases quorumFloorMs ((gatewayRtts networkCsv candidate.host).erase target.host) voters <;>
      simp

/-- The geometry of a known target is stated unless a floor of zero is divided by. -/
lemma completes_geometryOf {run : Run} {networkCsv : List NetworkRow} {topo : Topology}
    {gw target : Node} (hvoters : 3 ≤ topo.nodes.length)
    (hrtts : ∀ row ∈ networkCsv, ∀ x, row.rttMeanMs = some x → 0 ≤ x) :
    Completes (geometryOf run networkCsv topo gw target) ↔
      ¬ ZeroFloor networkCsv topo gw target := by
  have hnonneg := @nonneg_gatewayRtts networkCsv gw.host hrtts
  unfold geometryOf ZeroFloor
  cases hbefore : quorumFloorMs (gatewayRtts networkCsv gw.host) topo.nodes.length with
  | error e =>
    have hfew : ¬ Instant (gatewayRtts networkCsv gw.host) topo.nodes.length := by
      intro h
      obtain ⟨floor, hfloor⟩ := completes_quorumFloorMs.mpr ⟨hvoters, instant_measured h⟩
      rw [hfloor] at hbefore
      cases hbefore
    simp [hbefore, hfew]
  | ok before =>
    have hzero := floor_eq_zero_iff hnonneg hbefore
    simp only [hbefore]
    by_cases hhost : target.host = gw.host
    · simp only [hhost, ne_eq, not_true_eq_false, if_false, false_and, false_or, true_and]
      rw [completes_leaderDisplaced, candidateFloors_ne_nil hvoters, ← hzero, hhost]
      exact ⟨fun h ⟨hz, hc⟩ => h hc hz, fun h hc hz => h ⟨hz, hc⟩⟩
    · simp only [hhost, ne_eq, not_false_eq_true, if_true, true_and, false_and, or_false]
      cases hafter : quorumFloorMs ((gatewayRtts networkCsv gw.host).erase target.host)
          topo.nodes.length with
      | error e =>
        have hfew : ¬ topo.nodes.length / 2 ≤
            ((gatewayRtts networkCsv gw.host).erase target.host).size := by
          intro h
          obtain ⟨floor, hfloor⟩ := completes_quorumFloorMs.mpr ⟨hvoters, h⟩
          rw [hfloor] at hafter
          cases hafter
        simp [hfew]
      | ok after =>
        have hmeasured := (completes_quorumFloorMs.mp ⟨after, hafter⟩).2
        have hafterZero := floor_eq_zero_iff (nonneg_erase hnonneg) hafter
        have hafterNonneg := floor_nonneg (nonneg_erase hnonneg) hafter
        simp only
        rw [completes_followerLost, ← hzero, ← hafterZero, and_iff_right hmeasured]
        constructor
        · rintro h ⟨rfl, hne⟩
          exact h (lt_of_le_of_ne hafterNonneg (Ne.symm hne)) rfl
        · rintro h hlt rfl
          exact h ⟨rfl, hlt.ne'⟩

/-- **When the geometry of a run is given**: unless a floor of zero is divided by. -/
theorem geometry_completes_iff {run : Run} {network : Option (List NetworkRow)} {topo : Topology}
    {gw : Node} (hgateway : gateway topo = .ok gw) (hvoters : 3 ≤ topo.nodes.length)
    (hrtts : ∀ csv, network = some csv → ∀ row ∈ csv, ∀ x, row.rttMeanMs = some x → 0 ≤ x) :
    Completes (quorumGeometry run network topo) ↔
      ∀ csv name target, network = some csv → run.target = some name → name ≠ "" →
        get topo name = .ok target → ¬ ZeroFloor csv topo gw target := by
  unfold quorumGeometry
  cases hcsv : network with
  | none => simp
  | some csv =>
    cases hname : run.target with
    | none => simp
    | some name =>
      simp only
      by_cases hblank : name = ""
      · rw [if_pos hblank]
        refine iff_of_true (completes_ok _) ?_
        rintro csv' name' target - heq hne -
        cases heq
        exact absurd hblank hne
      · rw [if_neg hblank, hgateway]
        cases htarget : get topo name with
        | error e =>
          refine iff_of_true (completes_ok _) ?_
          rintro csv' name' target - heq - htarget'
          cases heq
          rw [htarget] at htarget'
          cases htarget'
        | ok target =>
          rw [completes_geometryOf hvoters (hrtts csv hcsv)]
          constructor
          · rintro h csv' name' target' heq heq' - htarget'
            cases heq
            cases heq'
            rw [htarget] at htarget'
            cases htarget'
            exact h
          · intro h
            exact h csv name target rfl rfl hblank htarget

/-- The row of a link with the mean round trip. -/
def link (source destination : String) (rttMeanMs : ℚ) : NetworkRow :=
  networkRow defaultTopology "2026-09-08T00:00:00Z" source destination
    { samples := 100, lossPct := 0, rttMeanMs := some rttMeanMs }

/-- Round trips of the testbed, from the gateway and between the two nodes next to it. -/
def testedMatrix : List NetworkRow :=
  [link "crdb-gcp-1" "crdb-linode-1" (249 / 10), link "crdb-gcp-1" "crdb-linode-2" (697 / 10),
   link "crdb-gcp-1" "crdb-azure-2" (1989 / 10), link "crdb-linode-1" "crdb-linode-2" (344 / 5),
   link "crdb-linode-1" "crdb-azure-1" (1791 / 10)]

theorem tested_completes :
    Completes (quorumGeometry { target := some "gcp-1" } (some testedMatrix) defaultTopology) := by
  refine (@geometry_completes_iff _ _ _ gcp1 (by decide) (by decide) ?_).mpr ?_
  · rintro csv heq row hrow x hx
    cases heq
    have hall : testedMatrix.all (fun row => (row.rttMeanMs.getD 0) ≥ 0) = true := by
      decide +kernel
    have := List.all_eq_true.mp hall row hrow
    simpa [hx] using this
  · rintro csv name target heq - - - hzero
    cases heq
    exact absurd hzero.1 (by decide +kernel)

/-- The gateway with two neighbours at no distance. -/
def zeroMatrix : List NetworkRow :=
  [link "crdb-gcp-1" "crdb-linode-1" 0, link "crdb-gcp-1" "crdb-linode-2" 0,
   link "crdb-gcp-1" "crdb-azure-2" (1989 / 10), link "crdb-linode-1" "crdb-linode-2" (344 / 5),
   link "crdb-linode-1" "crdb-azure-1" (1791 / 10)]

/-- Without a neighbour the floor is divided by zero, and without the gateway a ratio that is
not there is formatted. -/
theorem zero_raises :
    quorumGeometry { target := some "linode-1" } (some zeroMatrix) defaultTopology =
        .error .zeroDivision ∧
      quorumGeometry { target := some "gcp-1" } (some zeroMatrix) defaultTopology =
        .error .typeError := by
  constructor
  · decide +kernel
  · decide +kernel

end CrdbLab.QuorumGeometry
