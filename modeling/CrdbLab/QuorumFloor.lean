import CrdbLab.Lib.OrderStat
import CrdbLab.NetworkProbe

/-!
The floor under the latency of a write.

A leader commits once half of the voters besides it, rounded down, have acknowledged. No write is
faster than the round trip to the last of the fastest so many.
-/

namespace CrdbLab.QuorumFloor

open CrdbLab.Lib.Dictionary CrdbLab.Lib.Fallible CrdbLab.Lib.OrderStat
open CrdbLab.NetworkProbe (NetworkRow)

/-- Mean round trips by follower. -/
abbrev Rtts := Dict String ℚ

inductive ValueError
  | tooFewVoters (voters : ℕ)
  | tooFewRtts (voters needed measured : ℕ)
  deriving DecidableEq, Repr

def ValueError.message : ValueError → String
  | .tooFewVoters voters =>
    "a quorum requires at least 3 voters, got " ++ toString voters
  | .tooFewRtts voters needed measured =>
    toString voters ++ " voters need " ++ toString needed ++ " follower RTTs, only " ++
      toString measured ++ " were measured"

def quorumFloorMs (rtts : Rtts) (voters : ℕ) : Except ValueError ℚ :=
  if hvoters : voters < 3 then .error (.tooFewVoters voters)
  else if hfew : (sorted rtts.values).length < voters / 2 then
    .error (.tooFewRtts voters (voters / 2) (sorted rtts.values).length)
  else .ok (sorted rtts.values)[voters / 2 - 1]

/-- The mean round trips from one source, as the matrix records them. -/
def gatewayRtts (networkCsv : List NetworkRow) (gatewayHost : String) : Rtts :=
  .ofList (networkCsv.filterMap fun row =>
    if row.source = gatewayHost then row.rttMeanMs.map fun x => (row.destination, x) else none)

/-! ### Followers within a bound -/

/-- The followers whose round trip keeps the bound. -/
def within (rtts : Rtts) (t : ℚ) : Finset String := (rtts.filter fun _ x => x ≤ t).keys

variable {rtts : Rtts} {voters : ℕ}

lemma mem_within {t : ℚ} {follower : String} :
    follower ∈ within rtts t ↔ ∃ x, rtts.get? follower = some x ∧ x ≤ t := by
  simp [within, Dict.mem_keys, Dict.mem_entries_filter, Dict.get?_eq_some_iff]

lemma card_within (t : ℚ) : (within rtts t).card = rtts.values.countP (· ≤ t) := by
  rw [within, Dict.card_keys, Dict.values, List.countP_map, List.countP_eq_length_filter]
  rfl

/-- Without a follower, at most as many keep a bound. -/
lemma card_within_erase_le (follower : String) (t : ℚ) :
    (within (rtts.erase follower) t).card ≤ (within rtts t).card := by
  refine Finset.card_le_card fun h hh => ?_
  simp only [mem_within, Dict.get?_eq_some_iff, Dict.mem_entries_erase] at hh ⊢
  obtain ⟨x, ⟨hmem, -⟩, hle⟩ := hh
  exact ⟨x, hmem, hle⟩

/-- A follower beyond the bound does not count. -/
lemma within_erase_of_lt {follower : String} {x t : ℚ} (hx : rtts.get? follower = some x)
    (hlt : t < x) : within (rtts.erase follower) t = within rtts t := by
  ext h
  simp only [mem_within, Dict.get?_eq_some_iff, Dict.mem_entries_erase] at hx ⊢
  constructor
  · rintro ⟨y, ⟨hmem, -⟩, hle⟩
    exact ⟨y, hmem, hle⟩
  · rintro ⟨y, hmem, hle⟩
    refine ⟨y, ⟨hmem, ?_⟩, hle⟩
    rintro rfl
    exact absurd (Dict.eq_of_mem hmem hx ▸ hle) (not_le.mpr hlt)

/-! ### The floor -/

/-- **The floor is a threshold**: it keeps a bound exactly if half of the voters do. -/
lemma quorumFloorMs_ok (hvoters : 3 ≤ voters) (hmeasured : voters / 2 ≤ rtts.size) :
    ∃ floor, quorumFloorMs rtts voters = .ok floor ∧
      IsThreshold (fun t => (within rtts t).card) (voters / 2) floor := by
  have hlength : (sorted rtts.values).length = rtts.size := by
    rw [CrdbLab.Lib.KeySort.length_sortOn, Dict.length_values]
  have hlt : voters / 2 - 1 < (sorted rtts.values).length := by omega
  refine ⟨(sorted rtts.values)[voters / 2 - 1], ?_, fun t => ?_⟩
  · rw [quorumFloorMs, dif_neg (by omega), dif_neg (by omega)]
  · have hpos : voters / 2 - 1 + 1 = voters / 2 := by omega
    change _ ↔ voters / 2 ≤ (within rtts t).card
    rw [card_within, isThreshold_sorted hlt t, hpos]

lemma completes_quorumFloorMs :
    Completes (quorumFloorMs rtts voters) ↔ 3 ≤ voters ∧ voters / 2 ≤ rtts.size := by
  constructor
  · rintro ⟨floor, h⟩
    unfold quorumFloorMs at h
    split at h
    · cases h
    · split at h
      · cases h
      · next hvoters hfew =>
        rw [CrdbLab.Lib.KeySort.length_sortOn, Dict.length_values] at hfew
        omega
  · rintro ⟨hvoters, hmeasured⟩
    obtain ⟨floor, hfloor, -⟩ := quorumFloorMs_ok hvoters hmeasured
    exact ⟨floor, hfloor⟩

/-- What is known of a floor that was computed. -/
lemma isThreshold_of_quorumFloorMs {floor : ℚ} (h : quorumFloorMs rtts voters = .ok floor) :
    IsThreshold (fun t => (within rtts t).card) (voters / 2) floor := by
  obtain ⟨hvoters, hmeasured⟩ := completes_quorumFloorMs.mp ⟨floor, h⟩
  obtain ⟨floor', h', hfloor⟩ := quorumFloorMs_ok hvoters hmeasured
  rw [h] at h'
  cases h'
  exact hfloor

lemma quorumFloorMs_le_iff {floor : ℚ} (h : quorumFloorMs rtts voters = .ok floor) (t : ℚ) :
    floor ≤ t ↔ voters / 2 ≤ (within rtts t).card :=
  isThreshold_of_quorumFloorMs h t

/-- Losing a follower never lowers the floor, and does not change it where the follower is
slower. -/
lemma quorumFloorMs_erase {follower : String} {floor floor' : ℚ}
    (h : quorumFloorMs rtts voters = .ok floor)
    (h' : quorumFloorMs (rtts.erase follower) voters = .ok floor') :
    floor ≤ floor' ∧ ∀ x, rtts.get? follower = some x → floor < x → floor' = floor := by
  have hfloor := isThreshold_of_quorumFloorMs h
  have hfloor' := isThreshold_of_quorumFloorMs h'
  refine ⟨hfloor.mono hfloor' (card_within_erase_le follower), fun x hx hlt => ?_⟩
  refine hfloor.eq hfloor' (card_within_erase_le follower) ?_
  rw [within_erase_of_lt hx hlt]

/-! ### The floor as a minimum of maxima -/

/-- The longest round trip to any of the followers. -/
def IsSlowest (rtts : Rtts) (followers : Finset String) (m : ℚ) : Prop :=
  IsGreatest {x | ∃ follower ∈ followers, rtts.get? follower = some x} m

/-- The round trip to a follower. -/
def rttTo (rtts : Rtts) (follower : String) : ℚ := (rtts.get? follower).getD 0

lemma exists_get?_of_mem {follower : String} (h : follower ∈ rtts.keys) :
    rtts.get? follower = some (rttTo rtts follower) := by
  obtain ⟨x, hx⟩ := Dict.mem_keys.mp h
  rw [rttTo, Dict.get?_eq_some_iff.mpr hx, Option.getD_some]

lemma within_eq_filter (t : ℚ) :
    within rtts t = rtts.keys.filter fun follower => rttTo rtts follower ≤ t := by
  ext follower
  simp only [mem_within, Finset.mem_filter]
  constructor
  · rintro ⟨x, hx, hle⟩
    refine ⟨Dict.mem_keys.mpr ⟨x, Dict.get?_eq_some_iff.mp hx⟩, ?_⟩
    rwa [rttTo, hx]
  · rintro ⟨hmem, hle⟩
    exact ⟨_, exists_get?_of_mem hmem, hle⟩

lemma isSlowest_iff {followers : Finset String} (h : followers ⊆ rtts.keys) {m : ℚ} :
    IsSlowest rtts followers m ↔ IsGreatest (rttTo rtts '' followers) m := by
  have hset : {x | ∃ follower ∈ followers, rtts.get? follower = some x} =
      rttTo rtts '' followers := by
    ext x
    simp only [Set.mem_ofPred_eq, Set.mem_image, Finset.mem_coe]
    refine exists_congr fun follower => and_congr_right fun hmem => ?_
    rw [exists_get?_of_mem (h hmem), Option.some.injEq]
  rw [IsSlowest, hset]

/-- **The floor is the commit bound**: the least round trip that half of the voters keep, which
is the least of the longest round trips to so many followers. Losing a follower never lowers
it, and leaves it where it is if that follower is slower. -/
theorem commit_bound (hvoters : 3 ≤ voters) (hmeasured : voters / 2 ≤ rtts.size) :
    ∃ floor, quorumFloorMs rtts voters = .ok floor ∧
      IsLeast {t | voters / 2 ≤ (within rtts t).card} floor ∧
      IsLeast {m | ∃ followers ⊆ rtts.keys, followers.card = voters / 2 ∧
        IsSlowest rtts followers m} floor ∧
      ∀ follower ∈ rtts.keys, voters / 2 ≤ (rtts.erase follower).size →
        ∃ floor', quorumFloorMs (rtts.erase follower) voters = .ok floor' ∧ floor ≤ floor' ∧
          ∀ x, rtts.get? follower = some x → floor < x → floor' = floor := by
  obtain ⟨floor, hok, hfloor⟩ := quorumFloorMs_ok hvoters hmeasured
  refine ⟨floor, hok, hfloor.isLeast, ?_, fun follower _ hleft => ?_⟩
  · have hmax : IsLeast {m | ∃ followers ⊆ rtts.keys, followers.card = voters / 2 ∧
        IsGreatest (rttTo rtts '' followers) m} floor := by
      refine IsThreshold.isLeast_max (by omega) fun t => ?_
      change floor ≤ t ↔ voters / 2 ≤ (rtts.keys.filter fun h => rttTo rtts h ≤ t).card
      rw [← within_eq_filter]
      exact hfloor t
    convert hmax using 5 with m followers
    refine and_congr_right fun hsub => and_congr_right fun _ => isSlowest_iff hsub
  · obtain ⟨floor', hok', -⟩ := quorumFloorMs_ok hvoters hleft
    exact ⟨floor', hok', quorumFloorMs_erase hok hok'⟩

/-- The round trips of the test for five voters. -/
def testedRtts : Rtts where
  entries := [("crdb-linode-1", 237 / 10), ("crdb-linode-2", 344 / 5),
    ("crdb-azure-2", 988 / 5), ("crdb-azure-1", 437 / 2)]
  nodup := by decide

theorem testedRtts_bound : ∃ floor, quorumFloorMs testedRtts 5 = .ok floor ∧ floor = 344 / 5 ∧
    IsLeast {t | 2 ≤ (within testedRtts t).card} floor := by
  obtain ⟨floor, hok, hleast, -⟩ := @commit_bound testedRtts 5 (by decide) (by decide)
  refine ⟨floor, hok, ?_, hleast⟩
  have hvalue : quorumFloorMs testedRtts 5 = .ok (344 / 5) := by decide +kernel
  exact Except.ok.inj (hok.symm.trans hvalue)

end CrdbLab.QuorumFloor
