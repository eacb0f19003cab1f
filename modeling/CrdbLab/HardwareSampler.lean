import CrdbLab.ManifestNotes
import CrdbLab.Testbed
import CrdbLab.Lib.Consecutive
import CrdbLab.Lib.Dictionary

/-!
Polling the utilisation of the nodes.

A scrape gives counters that only grow; a row holds the rates between two scrapes that follow
each other on one node, whatever failed in between.
-/

namespace CrdbLab.HardwareSampler

open CrdbLab.Lib.Extended CrdbLab.Lib.Numeral CrdbLab.Lib.Dictionary CrdbLab.Lib.Rounding
open CrdbLab.Lib.Consecutive CrdbLab.Testbed CrdbLab.ManifestNotes

/-! ### Reading a scrape -/

/-- The only metric families read. -/
def wanted : List String :=
  ["node_cpu_seconds_total", "node_memory_MemTotal_bytes", "node_memory_MemAvailable_bytes",
   "node_disk_read_bytes_total", "node_disk_written_bytes_total",
   "node_disk_io_time_seconds_total", "node_network_receive_bytes_total",
   "node_network_transmit_bytes_total", "node_load1"]

abbrev Labels := Dict String String

/-- The samples of each family, unaggregated. -/
abbrev Families := Dict String (List (Labels × Number))

def isNameChar (c : Char) : Bool := c.isAlphanum || c = '_'

def quote : Char := Char.ofNat 34

def openBrace : Char := Char.ofNat 123

def closeBrace : Char := Char.ofNat 125

/-- The labels in a text, in at most so many steps: each is a key, an equals sign and a quoted
value, and what is none is passed over. -/
def labelPairs : ℕ → List Char → List (String × String)
  | 0, _ => []
  | steps + 1, text =>
    let text := text.dropWhile fun c => !isNameChar c
    let key := text.takeWhile isNameChar
    if key = [] then []
    else
      match text.dropWhile isNameChar with
      | '=' :: c :: rest =>
        if c = quote ∧ quote ∈ rest then
          (String.ofList key, String.ofList (rest.takeWhile (· ≠ quote))) ::
            labelPairs steps ((rest.dropWhile (· ≠ quote)).drop 1)
        else labelPairs steps ('=' :: c :: rest)
      | rest => labelPairs steps rest

def parseLabels (text : List Char) : Labels := Dict.ofList (labelPairs (text.length + 1) text)

/-- The parts of a line of the exposition: the name, the text of the labels and the value. -/
def matchLine (line : List Char) : Option (String × List Char × List Char) :=
  let name := line.takeWhile isNameChar
  let after := line.dropWhile isNameChar
  let (labels, rest) :=
    if after.head? = some openBrace ∧ closeBrace ∈ after then
      ((after.drop 1).takeWhile (· ≠ closeBrace), (after.dropWhile (· ≠ closeBrace)).drop 1)
    else ([], after)
  let value := (rest.dropWhile isSpace).takeWhile fun c => !isSpace c
  let tail := (rest.dropWhile isSpace).dropWhile fun c => !isSpace c
  if "node_".toList.isPrefixOf name ∧ "node_".length < name.length ∧
      (rest.head?.any isSpace) ∧ value ≠ [] ∧ tail.all isSpace then
    some (String.ofList name, labels, value)
  else none

/-- `families.setdefault(name, []).append(...)` for a line that is read. -/
def addLine (families : Families) (line : List Char) : Families :=
  if line.head? = some '#' then families
  else
    match matchLine line with
    | none => families
    | some (name, labels, value) =>
      if name ∉ wanted then families
      else
        match float (String.ofList value) with
        | none => families
        | some x => families.set name ((families.get? name).getD [] ++ [(parseLabels labels, x)])

def parse (body : String) : Families :=
  (pieces isLineBreak body.toList).foldl addLine Dict.empty

/-! ### Counters -/

def samplesOf (families : Families) (name : String) : List (Labels × Number) :=
  (families.get? name).getD []

def sumFamily (families : Families) (name : String) (labelFilter : Labels → Bool) : Number :=
  (((samplesOf families name).filter fun s => labelFilter s.1).map Prod.snd).sum

def gauge (families : Families) (name : String) : Option Number :=
  (samplesOf families name).head?.map Prod.snd

/-- One node's cumulative counters at one scrape, and when it was taken. -/
structure RawCounters where
  ts : ℚ
  cpuIdle : Number
  cpuTotal : Number
  diskRead : Number
  diskWrite : Number
  diskIoTime : Number
  netRx : Number
  netTx : Number
  deriving DecidableEq, Repr

def everyLabel : Labels → Bool := fun _ => true

def notLoopback (labels : Labels) : Bool := labels.get? "device" ≠ some "lo"

def extractCounters (families : Families) (ts : ℚ) : RawCounters where
  ts := ts
  cpuIdle := sumFamily families "node_cpu_seconds_total" fun labels =>
    labels.get? "mode" = some "idle"
  cpuTotal := sumFamily families "node_cpu_seconds_total" everyLabel
  diskRead := sumFamily families "node_disk_read_bytes_total" everyLabel
  diskWrite := sumFamily families "node_disk_written_bytes_total" everyLabel
  diskIoTime := sumFamily families "node_disk_io_time_seconds_total" everyLabel
  netRx := sumFamily families "node_network_receive_bytes_total" notLoopback
  netTx := sumFamily families "node_network_transmit_bytes_total" notLoopback

def rate (curr prev : Number) (dt : ℚ) : Option Number :=
  if 0 < dt then some (Number.div (curr - prev) (.finite dt)) else none

/-! ### The sampler -/

/-- A poll of a node: the body it answered with, unless the scrape failed, the reading of the
clock and the time of day. -/
structure Poll where
  node : Node
  body : Option String
  ts : ℚ
  tsUtc : String
  deriving DecidableEq, Repr

/-- A row; a value that is not known is left empty. -/
structure Row where
  tsUtc : String
  wallOffsetS : ℚ
  node : String
  host : String
  cpuBusyPct : Option Number
  cpuSecondsIdleCum : Number
  cpuSecondsTotalCum : Number
  memTotalBytes : Option Number
  memAvailableBytes : Option Number
  diskReadBytesPerS : Option Number
  diskWriteBytesPerS : Option Number
  diskBusyPct : Option Number
  diskReadBytesCum : Number
  diskWriteBytesCum : Number
  diskIoTimeSecondsCum : Number
  netRxBytesPerS : Option Number
  netTxBytesPerS : Option Number
  netRxBytesCum : Number
  netTxBytesCum : Number
  load1 : Option Number
  deriving DecidableEq, Repr

structure Sampler where
  tZero : ℚ
  prev : Dict String RawCounters := Dict.empty
  rows : List Row := []
  scrapeFailures : Dict String ℕ

def Sampler.start (nodes : List Node) (tZero : ℚ) : Sampler where
  tZero := tZero
  scrapeFailures := Dict.ofList (nodes.map fun n => (n.name, 0))

def cpuBusyPct (counters prev : RawCounters) : Option Number :=
  let totalDelta := counters.cpuTotal - prev.cpuTotal
  if Number.lt 0 totalDelta then
    some (Number.scale 100
      (.finite 1 - Number.div (counters.cpuIdle - prev.cpuIdle) totalDelta))
  else none

/-- The row of a scrape after the node's previous one. -/
def rowOf (tZero : ℚ) (prev : Option RawCounters) (node : Node) (families : Families)
    (counters : RawCounters) (tsUtc : String) : Row where
  tsUtc := tsUtc
  wallOffsetS := roundTo 3 (counters.ts - tZero)
  node := node.name
  host := node.host
  cpuBusyPct := prev.bind fun prev => cpuBusyPct counters prev
  cpuSecondsIdleCum := counters.cpuIdle
  cpuSecondsTotalCum := counters.cpuTotal
  memTotalBytes := gauge families "node_memory_MemTotal_bytes"
  memAvailableBytes := gauge families "node_memory_MemAvailable_bytes"
  diskReadBytesPerS := prev.bind fun prev =>
    rate counters.diskRead prev.diskRead (counters.ts - prev.ts)
  diskWriteBytesPerS := prev.bind fun prev =>
    rate counters.diskWrite prev.diskWrite (counters.ts - prev.ts)
  diskBusyPct := prev.bind fun prev =>
    if 0 < counters.ts - prev.ts then
      some (Number.div (Number.scale 100 (counters.diskIoTime - prev.diskIoTime))
        (.finite (counters.ts - prev.ts)))
    else none
  diskReadBytesCum := counters.diskRead
  diskWriteBytesCum := counters.diskWrite
  diskIoTimeSecondsCum := counters.diskIoTime
  netRxBytesPerS := prev.bind fun prev =>
    rate counters.netRx prev.netRx (counters.ts - prev.ts)
  netTxBytesPerS := prev.bind fun prev =>
    rate counters.netTx prev.netTx (counters.ts - prev.ts)
  netRxBytesCum := counters.netRx
  netTxBytesCum := counters.netTx
  load1 := gauge families "node_load1"

/-- A failed scrape counts against its node and gives no row. -/
def sampleNode (s : Sampler) (p : Poll) : Option Row × Sampler :=
  match p.body with
  | none =>
    (none, { s with
      scrapeFailures := s.scrapeFailures.set p.node.name
        ((s.scrapeFailures.get? p.node.name).getD 0 + 1) })
  | some body =>
    let families := parse body
    let counters := extractCounters families p.ts
    (some (rowOf s.tZero (s.prev.get? p.node.name) p.node families counters p.tsUtc),
      { s with prev := s.prev.set p.node.name counters })

/-- One poll in a tick. -/
def step (s : Sampler) (p : Poll) : Sampler :=
  match sampleNode s p with
  | (none, s) => s
  | (some row, s) => { s with rows := s.rows ++ [row] }

/-- The polls of the ticks in turn, each tick's in the order of the nodes. -/
def run (s : Sampler) (polls : List Poll) : Sampler := polls.foldl step s

/-! ### The rows of one node -/

/-- A scrape that did not fail. -/
structure Scrape where
  node : Node
  families : Families
  counters : RawCounters
  tsUtc : String

/-- The scrapes of a node that did not fail, in order. -/
def scrapes (name : String) (polls : List Poll) : List Scrape :=
  (polls.filter fun p => p.node.name = name).filterMap fun p => p.body.map fun body =>
    ⟨p.node, parse body, extractCounters (parse body) p.ts, p.tsUtc⟩

def rowsOf (name : String) (s : Sampler) : List Row := s.rows.filter fun row => row.node = name

def rowAfter (tZero : ℚ) (prev : Option Scrape) (c : Scrape) : Row :=
  rowOf tZero (prev.map Scrape.counters) c.node c.families c.counters c.tsUtc

/-- A row for each scrape, after the one before it. -/
def rowsFrom (tZero : ℚ) : List Scrape → List Row
  | [] => []
  | c :: l => rowAfter tZero none c ::
      (consecutive (c :: l)).map fun p => rowAfter tZero (some p.1) p.2

lemma rowsFrom_append (tZero : ℚ) (l : List Scrape) (c : Scrape) :
    rowsFrom tZero (l ++ [c]) = rowsFrom tZero l ++ [rowAfter tZero l.getLast? c] := by
  rcases List.eq_nil_or_concat l with rfl | ⟨l, d, rfl⟩
  · rfl
  · have hlast : (l ++ [d]).getLast? = some d := List.getLast?_concat
    rw [List.concat_eq_append, hlast]
    cases l with
    | nil => rfl
    | cons a l =>
      have happ : consecutive (a :: (l ++ [d] ++ [c])) =
          consecutive (a :: (l ++ [d])) ++ [(d, c)] := by
        simpa using consecutive_append (a :: l) d c []
      change rowsFrom tZero (a :: (l ++ [d] ++ [c])) = rowsFrom tZero (a :: (l ++ [d])) ++ _
      rw [rowsFrom, happ, List.map_append]
      rfl

lemma scrapes_append (name : String) (polls : List Poll) (p : Poll) :
    scrapes name (polls ++ [p]) = scrapes name polls ++ scrapes name [p] := by
  rw [scrapes, List.filter_append, List.filterMap_append]
  rfl

/-- The sampler has seen these scrapes of the node: the last one is the previous one to the
next, and the rows of the node are theirs. -/
structure Tracks (tZero : ℚ) (name : String) (s : Sampler) (l : List Scrape) : Prop where
  zero : s.tZero = tZero
  prev : s.prev.get? name = l.getLast?.map Scrape.counters
  rows : rowsOf name s = rowsFrom tZero l

lemma step_failed (s : Sampler) {p : Poll} (hbody : p.body = none) :
    step s p =
      { s with
        scrapeFailures := s.scrapeFailures.set p.node.name
          ((s.scrapeFailures.get? p.node.name).getD 0 + 1) } := by
  simp only [step, sampleNode, hbody]

lemma step_scraped (s : Sampler) {p : Poll} {body : String} (hbody : p.body = some body) :
    step s p =
      { s with
        prev := s.prev.set p.node.name (extractCounters (parse body) p.ts)
        rows := s.rows ++ [rowOf s.tZero (s.prev.get? p.node.name) p.node (parse body)
          (extractCounters (parse body) p.ts) p.tsUtc] } := by
  simp only [step, sampleNode, hbody]

/-- **Step lemma**: a poll adds the scrape it gave, if it is one of the node that did not
fail. -/
lemma Tracks.step {tZero : ℚ} {name : String} {s : Sampler} {l : List Scrape}
    (h : Tracks tZero name s l) (p : Poll) :
    Tracks tZero name (step s p) (l ++ scrapes name [p]) := by
  cases hbody : p.body with
  | none =>
    have hnone : scrapes name [p] = [] := by
      by_cases hname : p.node.name = name <;> simp [scrapes, hname, hbody]
    rw [step_failed s hbody, hnone, List.append_nil]
    exact ⟨h.zero, h.prev, h.rows⟩
  | some body =>
    rw [step_scraped s hbody]
    by_cases hname : p.node.name = name
    · have hone : scrapes name [p] =
          [⟨p.node, parse body, extractCounters (parse body) p.ts, p.tsUtc⟩] := by
        simp [scrapes, hname, hbody]
      rw [hone]
      refine ⟨h.zero, ?_, ?_⟩
      · rw [Dict.get?_set, if_pos hname.symm, List.getLast?_concat]
        rfl
      · have hkept : rowsOf name s = s.rows.filter fun row => row.node = name := rfl
        rw [rowsFrom_append, ← h.rows, rowsOf, List.filter_append, ← hkept, hname, h.prev, h.zero]
        congr 1
        rw [List.filter_singleton]
        simp [rowOf, rowAfter, hname]
    · have hone : scrapes name [p] = [] := by simp [scrapes, hname]
      rw [hone, List.append_nil]
      refine ⟨h.zero, ?_, ?_⟩
      · rw [Dict.get?_set, if_neg fun heq => hname heq.symm]
        exact h.prev
      · rw [← h.rows, rowsOf, List.filter_append, List.filter_singleton]
        simp [rowsOf, rowOf, hname]

/-- **Run lemma**: the sampler tracks every node's scrapes that did not fail. -/
lemma tracks_run (nodes : List Node) (tZero : ℚ) (name : String) (polls : List Poll) :
    Tracks tZero name (run (.start nodes tZero) polls) (scrapes name polls) := by
  induction polls using List.reverseRecOn with
  | nil => exact ⟨rfl, rfl, rfl⟩
  | append_singleton polls p ih =>
    have hstep : run (.start nodes tZero) (polls ++ [p]) =
        step (run (.start nodes tZero) polls) p := by
      rw [run, List.foldl_append]
      rfl
    rw [hstep, scrapes_append]
    exact ih.step p

/-! ### What the rates account for -/

/-- What the rates are given of. -/
inductive Flow
  | diskRead
  | diskWrite
  | netRx
  | netTx
  deriving DecidableEq, Repr

def Flow.counter : Flow → RawCounters → Number
  | .diskRead => RawCounters.diskRead
  | .diskWrite => RawCounters.diskWrite
  | .netRx => RawCounters.netRx
  | .netTx => RawCounters.netTx

def Flow.cum : Flow → Row → Number
  | .diskRead => Row.diskReadBytesCum
  | .diskWrite => Row.diskWriteBytesCum
  | .netRx => Row.netRxBytesCum
  | .netTx => Row.netTxBytesCum

def Flow.rate : Flow → Row → Option Number
  | .diskRead => Row.diskReadBytesPerS
  | .diskWrite => Row.diskWriteBytesPerS
  | .netRx => Row.netRxBytesPerS
  | .netTx => Row.netTxBytesPerS

/-- The rates after the first row, each times the seconds since the scrape before. -/
def Flow.accounted (flow : Flow) (rows : List Row) (times : List ℚ) : Number :=
  (List.zipWith (fun row p => Number.scale (p.2 - p.1) ((flow.rate row).getD 0)) rows.tail
    (consecutive times)).sum

/-- Counts of a counter: finite, and none below one before it. -/
def NeverDecreases (counts : List Number) : Prop :=
  (∀ x ∈ counts, x.isFinite = true) ∧ counts.Pairwise fun x y => Number.le x y = true

/-- The clock goes on between the scrapes, and no counter goes back. -/
structure CountersGrow (l : List RawCounters) : Prop where
  times : (l.map RawCounters.ts).Pairwise (· < ·)
  flows : ∀ flow : Flow, NeverDecreases (l.map flow.counter)
  idle : NeverDecreases (l.map RawCounters.cpuIdle)
  total : NeverDecreases (l.map RawCounters.cpuTotal)

/-- The rates of a node's rows account for all that was counted. -/
structure Accounted (rows : List Row) (times : List ℚ) : Prop where
  total : ∀ (flow : Flow) first last, rows.head? = some first → rows.getLast? = some last →
    flow.accounted rows times = flow.cum last - flow.cum first
  given : ∀ (flow : Flow), (∀ first ∈ rows.head?, flow.rate first = none) ∧
    ∀ row ∈ rows.tail, (flow.rate row).isSome = true
  nonneg : ∀ (flow : Flow), ∀ row ∈ rows, ∀ r, flow.rate row = some r → Number.le 0 r = true
  busy : ∀ p ∈ consecutive rows, ∀ pct, p.2.cpuBusyPct = some pct →
    Number.le (p.2.cpuSecondsIdleCum - p.1.cpuSecondsIdleCum)
      (p.2.cpuSecondsTotalCum - p.1.cpuSecondsTotalCum) = true →
    Number.le 0 pct = true ∧ Number.le pct (.finite 100) = true
  first : ∀ row ∈ rows.head?, row.cpuBusyPct = none

section Rates

variable {tZero : ℚ}

@[simp] lemma cum_rowAfter (flow : Flow) (prev : Option Scrape) (c : Scrape) :
    flow.cum (rowAfter tZero prev c) = flow.counter c.counters := by
  cases flow <;> rfl

lemma rate_rowAfter (flow : Flow) (p c : Scrape) :
    flow.rate (rowAfter tZero (some p) c) =
      rate (flow.counter c.counters) (flow.counter p.counters)
        (c.counters.ts - p.counters.ts) := by
  cases flow <;> rfl

lemma rate_first (flow : Flow) (c : Scrape) : flow.rate (rowAfter tZero none c) = none := by
  cases flow <;> rfl

/-- The last row records the counts of the last scrape. -/
lemma cum_last (flow : Flow) (l : List Scrape) :
    (rowsFrom tZero l).getLast?.map flow.cum = l.getLast?.map fun s => flow.counter s.counters := by
  rcases List.eq_nil_or_concat l with rfl | ⟨l, d, rfl⟩
  · rfl
  · rw [List.concat_eq_append, rowsFrom_append, List.getLast?_concat, List.getLast?_concat,
      Option.map_some, cum_rowAfter, Option.map_some]

/-- Two neighbouring counts. -/
lemma NeverDecreases.neighbours {l : List Scrape} {f : RawCounters → Number}
    (h : NeverDecreases ((l.map Scrape.counters).map f)) {p : Scrape × Scrape}
    (hp : p ∈ consecutive l) :
    ∃ x y : ℚ, f p.1.counters = .finite x ∧ f p.2.counters = .finite y ∧ x ≤ y := by
  rw [List.map_map] at h
  obtain ⟨hfinite, hle⟩ := h
  obtain ⟨u, v, rfl⟩ := mem_consecutive_iff.mp (show (p.1, p.2) ∈ consecutive l from hp)
  have hx := Number.eq_finite (hfinite (f p.1.counters) (by simp))
  have hy := Number.eq_finite (hfinite (f p.2.counters) (by simp))
  rw [List.map_append, List.pairwise_append] at hle
  have hpair := (List.pairwise_cons.mp hle.2.1).1 (f p.2.counters) (by simp)
  rw [Function.comp_apply, hx, hy, Number.le_finite] at hpair
  exact ⟨_, _, hx, hy, hpair⟩

lemma times_increase {l : List Scrape} (h : CountersGrow (l.map Scrape.counters))
    {p : Scrape × Scrape} (hp : p ∈ consecutive l) : 0 < p.2.counters.ts - p.1.counters.ts := by
  have htimes := h.times
  obtain ⟨u, v, rfl⟩ := mem_consecutive_iff.mp (show (p.1, p.2) ∈ consecutive l from hp)
  rw [List.map_map, List.map_append, List.pairwise_append] at htimes
  exact sub_pos.mpr ((List.pairwise_cons.mp htimes.2.1).1 p.2.counters.ts (by simp))

/-- The rate between two scrapes. -/
lemma rate_of_grow {l : List Scrape} (h : CountersGrow (l.map Scrape.counters)) (flow : Flow)
    {p : Scrape × Scrape} (hp : p ∈ consecutive l) :
    ∃ x y : ℚ, flow.counter p.1.counters = .finite x ∧ flow.counter p.2.counters = .finite y ∧
      x ≤ y ∧ flow.rate (rowAfter tZero (some p.1) p.2) =
        some (.finite ((y - x) / (p.2.counters.ts - p.1.counters.ts))) := by
  obtain ⟨x, y, hx, hy, hle⟩ := (h.flows flow).neighbours hp
  refine ⟨x, y, hx, hy, hle, ?_⟩
  rw [rate_rowAfter, rate, if_pos (times_increase h hp), hx, hy, Number.finite_sub]
  rfl

/-- What the rates of all rows add up to. -/
lemma accounted_rowsFrom {c : Scrape} {l : List Scrape}
    (h : CountersGrow ((c :: l).map Scrape.counters)) (flow : Flow) :
    flow.accounted (rowsFrom tZero (c :: l)) ((c :: l).map fun s => s.counters.ts) =
      flow.counter ((c :: l).getLast (by simp)).counters - flow.counter c.counters := by
  have hterm : ∀ p ∈ consecutive (c :: l),
      Number.scale (p.2.counters.ts - p.1.counters.ts)
        ((flow.rate (rowAfter tZero (some p.1) p.2)).getD 0) =
      .finite ((flow.counter p.2.counters).toRat - (flow.counter p.1.counters).toRat) := by
    intro p hp
    obtain ⟨x, y, hx, hy, -, hrate⟩ := rate_of_grow h flow hp
    rw [hrate, hx, hy, Option.getD_some, Number.scale,
      mul_div_cancel₀ _ (times_increase h hp).ne']
    rfl
  have hends : ∀ s ∈ c :: l, flow.counter s.counters =
      .finite (flow.counter s.counters).toRat := by
    intro s hs
    refine Number.eq_finite ((h.flows flow).1 _ ?_)
    rw [List.map_map]
    exact List.mem_map_of_mem hs
  calc flow.accounted (rowsFrom tZero (c :: l)) ((c :: l).map fun s => s.counters.ts)
      = ((consecutive (c :: l)).map fun p => Number.scale (p.2.counters.ts - p.1.counters.ts)
          ((flow.rate (rowAfter tZero (some p.1) p.2)).getD 0)).sum := by
        rw [Flow.accounted, rowsFrom, List.tail_cons, consecutive_map, List.zipWith_map,
          List.zipWith_self]
        rfl
    _ = ((consecutive (c :: l)).map fun p => Number.finite
          ((flow.counter p.2.counters).toRat - (flow.counter p.1.counters).toRat)).sum := by
        rw [List.map_congr_left hterm]
    _ = flow.counter ((c :: l).getLast (by simp)).counters - flow.counter c.counters := by
        rw [Number.sum_map_finite,
          sum_consecutive_sub fun s : Scrape => (flow.counter s.counters).toRat,
          hends c (by simp), hends _ (List.getLast_mem (by simp)), Number.finite_sub]
        rfl

/-- Neighbouring rows are those of neighbouring scrapes. -/
lemma mem_consecutive_rows {first : Row} {c : Scrape} {l : List Scrape}
    (hidle : first.cpuSecondsIdleCum = c.counters.cpuIdle)
    (htotal : first.cpuSecondsTotalCum = c.counters.cpuTotal) {p : Row × Row}
    (hp : p ∈ consecutive (first ::
      (consecutive (c :: l)).map fun q => rowAfter tZero (some q.1) q.2)) :
    ∃ q ∈ consecutive (c :: l), p.2 = rowAfter tZero (some q.1) q.2 ∧
      p.1.cpuSecondsIdleCum = q.1.counters.cpuIdle ∧
      p.1.cpuSecondsTotalCum = q.1.counters.cpuTotal := by
  induction l generalizing first c with
  | nil => simp at hp
  | cons d l ih =>
    rw [consecutive_cons_cons, List.map_cons, consecutive_cons_cons] at hp
    rcases List.mem_cons.mp hp with rfl | hp
    · exact ⟨(c, d), by simp, rfl, hidle, htotal⟩
    · obtain ⟨q, hq, hrow⟩ := ih rfl rfl hp
      exact ⟨q, by simp [hq], hrow⟩

/-- The share of the time that was not idle. -/
lemma busy_of_grow {l : List Scrape} (h : CountersGrow (l.map Scrape.counters))
    {q : Scrape × Scrape} (hq : q ∈ consecutive l) {pct : Number}
    (hpct : cpuBusyPct q.2.counters q.1.counters = some pct)
    (hle : Number.le (q.2.counters.cpuIdle - q.1.counters.cpuIdle)
      (q.2.counters.cpuTotal - q.1.counters.cpuTotal) = true) :
    Number.le 0 pct = true ∧ Number.le pct (.finite 100) = true := by
  obtain ⟨i, j, hi, hj, hij⟩ := h.idle.neighbours hq
  obtain ⟨t, u, ht, hu, -⟩ := h.total.neighbours hq
  rw [hi, hj, ht, hu, Number.finite_sub, Number.finite_sub, Number.le_finite] at hle
  unfold cpuBusyPct at hpct
  simp only [hi, hj, ht, hu, Number.finite_sub] at hpct
  split at hpct
  · next hpos =>
    rw [Number.zero_def, Number.lt_finite] at hpos
    rw [Number.div, Number.finite_sub, Number.scale, Option.some.injEq] at hpct
    subst hpct
    have hlow : 0 ≤ (j - i) / (u - t) := div_nonneg (sub_nonneg.mpr hij) hpos.le
    have hhigh : (j - i) / (u - t) ≤ 1 := (div_le_one hpos).mpr hle
    rw [Number.zero_def, Number.le_finite, Number.le_finite]
    constructor <;> linarith
  · cases hpct

end Rates

/-- **The rates account for every counted byte**, whichever polls fail. -/
theorem rates_account {nodes : List Node} {tZero : ℚ} {name : String} {polls : List Poll}
    (h : CountersGrow ((scrapes name polls).map Scrape.counters)) :
    Accounted (rowsOf name (run (.start nodes tZero) polls))
      ((scrapes name polls).map fun s => s.counters.ts) := by
  rw [(tracks_run nodes tZero name polls).rows]
  generalize scrapes name polls = l at h
  cases l with
  | nil => exact ⟨by simp [rowsFrom], by simp [rowsFrom], by simp [rowsFrom], by simp [rowsFrom],
      by simp [rowsFrom]⟩
  | cons c l =>
    have hmem : ∀ row ∈ (rowsFrom tZero (c :: l)).tail, ∃ q ∈ consecutive (c :: l),
        row = rowAfter tZero (some q.1) q.2 := by
      intro row hrow
      obtain ⟨q, hq, rfl⟩ := List.mem_map.mp hrow
      exact ⟨q, hq, rfl⟩
    refine ⟨fun flow first last hfirst hlast => ?_, fun flow => ⟨?_, fun row hrow => ?_⟩,
      fun flow row hrow r hr => ?_, fun p hp pct hpct hle => ?_, ?_⟩
    · obtain rfl : rowAfter tZero none c = first := Option.some.inj hfirst
      have hcum := @cum_last tZero flow (c :: l)
      rw [hlast, List.getLast?_eq_getLast_of_ne_nil (List.cons_ne_nil c l), Option.map_some,
        Option.map_some, Option.some.injEq] at hcum
      rw [accounted_rowsFrom h, hcum, cum_rowAfter]
    · rintro first hfirst
      obtain rfl : rowAfter tZero none c = first := Option.some.inj hfirst
      exact rate_first flow c
    · obtain ⟨q, hq, rfl⟩ := hmem row hrow
      obtain ⟨x, y, -, -, -, hrate⟩ := rate_of_grow h flow hq
      rw [hrate]
      rfl
    · rcases List.mem_cons.mp hrow with rfl | hrow
      · rw [rate_first] at hr
        cases hr
      · obtain ⟨q, hq, rfl⟩ := hmem row hrow
        obtain ⟨x, y, -, -, hle, hrate⟩ := rate_of_grow h flow hq
        rw [hrate] at hr
        cases hr
        rw [Number.zero_def, Number.le_finite]
        exact div_nonneg (sub_nonneg.mpr hle) (times_increase h hq).le
    · obtain ⟨q, hq, hrow, hidle, htotal⟩ := mem_consecutive_rows rfl rfl hp
      rw [hrow] at hpct hle
      rw [hidle, htotal] at hle
      exact busy_of_grow h hq hpct hle
    · rintro row hrow
      obtain rfl : rowAfter tZero none c = row := Option.some.inj hrow
      rfl

/-- What a node with one core, one disk and one interface answers. -/
def exposition (read received idle user : String) : String :=
  "# HELP node_disk_read_bytes_total The total number of bytes read successfully.\n" ++
  "node_disk_read_bytes_total\x7bdevice=\"sda\"\x7d " ++ read ++
  "\nnode_network_receive_bytes_total\x7bdevice=\"lo\"\x7d 999999\n" ++
  "node_network_receive_bytes_total\x7bdevice=\"eth0\"\x7d " ++ received ++
  "\nnode_cpu_seconds_total\x7bcpu=\"0\",mode=\"idle\"\x7d " ++ idle ++
  "\nnode_cpu_seconds_total\x7bcpu=\"0\",mode=\"user\"\x7d " ++ user ++ "\n"

/-- A body is read part by part: joining the texts first takes long to evaluate. -/
lemma toList_exposition (read received idle user : String) :
    (exposition read received idle user).toList =
      "# HELP node_disk_read_bytes_total The total number of bytes read successfully.\n".toList ++
      "node_disk_read_bytes_total\x7bdevice=\"sda\"\x7d ".toList ++ read.toList ++
      "\nnode_network_receive_bytes_total\x7bdevice=\"lo\"\x7d 999999\n".toList ++
      "node_network_receive_bytes_total\x7bdevice=\"eth0\"\x7d ".toList ++ received.toList ++
      "\nnode_cpu_seconds_total\x7bcpu=\"0\",mode=\"idle\"\x7d ".toList ++ idle.toList ++
      "\nnode_cpu_seconds_total\x7bcpu=\"0\",mode=\"user\"\x7d ".toList ++ user.toList ++
      "\n".toList := by
  have hjoin : ∀ a b c d e f g h i j k : String,
      (a ++ b ++ c ++ d ++ e ++ f ++ g ++ h ++ i ++ j ++ k).toList =
        a.toList ++ b.toList ++ c.toList ++ d.toList ++ e.toList ++ f.toList ++ g.toList ++
          h.toList ++ i.toList ++ j.toList ++ k.toList := by
    intros
    simp only [String.toList_append]
  exact hjoin ..

/-- Scrapes five and ten seconds apart, with one that failed between them. -/
def threeScrapes : List Poll :=
  [⟨gcp1, some (exposition "1000" "500" "100.0" "50.0"), 0, "00:00:00Z"⟩,
   ⟨gcp1, some (exposition "1500" "800" "140.0" "60.0"), 5, "00:00:05Z"⟩,
   ⟨gcp1, none, 10, "00:00:10Z"⟩,
   ⟨gcp1, some (exposition "2500" "800" "220.0" "80.0"), 15, "00:00:15Z"⟩]

theorem threeScrapes_account :
    Accounted (rowsOf "gcp-1" (run (.start [gcp1] 0) threeScrapes))
      ((scrapes "gcp-1" threeScrapes).map fun s => s.counters.ts) := by
  have hcounters : (scrapes "gcp-1" threeScrapes).map Scrape.counters =
      [⟨0, .finite 100, .finite 150, .finite 1000, 0, 0, .finite 500, 0⟩,
       ⟨5, .finite 140, .finite 200, .finite 1500, 0, 0, .finite 800, 0⟩,
       ⟨15, .finite 220, .finite 300, .finite 2500, 0, 0, .finite 800, 0⟩] := by
    have hnode : (threeScrapes.filter fun p => p.node.name = "gcp-1") = threeScrapes := by
      decide +kernel
    rw [scrapes, hnode]
    simp only [threeScrapes, List.filterMap_cons, List.filterMap_nil, Option.map_some,
      Option.map_none, List.map_cons, List.map_nil, parse, toList_exposition]
    decide +kernel
  refine rates_account ?_
  rw [hcounters]
  refine ⟨by decide +kernel, fun flow => ?_, ⟨by decide +kernel, by decide +kernel⟩,
    ⟨by decide +kernel, by decide +kernel⟩⟩
  cases flow <;> exact ⟨by decide +kernel, by decide +kernel⟩

end CrdbLab.HardwareSampler
