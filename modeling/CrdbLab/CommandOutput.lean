import CrdbLab.ConsoleLog
import CrdbLab.Lib.Chunks
import CrdbLab.Lib.Numeral
import Mathlib.Data.Finset.Insert
import Mathlib.Data.List.Induction

/-!
The output of a command of the pipeline.

It is read in chunks, decoded line by line and put into the log. On the way the resources that
Terraform reports complete are counted for each provider, and the headers of the experiment's
script move the stage that is shown as running.
-/

namespace CrdbLab.CommandOutput

open CrdbLab.ConsoleLog CrdbLab.Lib.Chunks
open CrdbLab.Lib.Trimmed (push)

/-! ### What a line says -/

def isTypeChar (c : Char) : Bool := c.isDigit || ('a' ≤ c && c ≤ 'z') || c = '_'

/-- `[a-z0-9]+_[a-z0-9_]+`, of a text that has only these characters. -/
def isResourceType (w : Line) : Bool :=
  let first := w.takeWhile (· ≠ '_')
  first ≠ [] && 1 < (w.drop first.length).length

/-- `[^.:\s]` -/
def isNameChar (c : Char) : Bool := c ≠ '.' && c ≠ ':' && !CrdbLab.Lib.Numeral.isSpace c

inductive Completion | creation | destruction
  deriving DecidableEq, Repr

/-- A completed resource whose address has its type at the start of the text. -/
def doneAt : Line → Option (Line × Completion)
  | '.' :: s =>
    let rtype := s.takeWhile isTypeChar
    match s.drop rtype.length with
    | '.' :: s =>
      let name := s.takeWhile isNameChar
      let rest := s.drop name.length
      if isResourceType rtype ∧ name ≠ [] then
        if ": Creation complete".toList.isPrefixOf rest then some (rtype, .creation)
        else if ": Destruction complete".toList.isPrefixOf rest then some (rtype, .destruction)
        else none
      else none
    | _ => none
  | _ => none

/-- The first resource that the line reports complete. -/
def tfDone (plainText : Line) : Option (Line × Completion) := plainText.tails.findSome? doneAt

def provider (rtype : Line) : String :=
  let family := rtype.takeWhile (· ≠ '_')
  if family = "linode".toList then "Linode"
  else if family = "azurerm".toList then "Azure"
  else if family = "google".toList then "GCP"
  else "?"

/-- The headers of the experiment's script, the most specific first. -/
def substageOf : List (String × String) :=
  [("Checking the workstation", "checks"), ("Resolving topology", "checks"),
    ("Checking the testbed", "testbed"), ("Working set", "load"),
    ("Phase IV", "p4"), ("Phase III", "p3"), ("Phase II", "p2"), ("Phase I", "p1"),
    ("Confirming", "p4"), ("Restoring", "p4"),
    ("Validating", "end"), ("Analysis", "end"), ("Figures", "end"), ("Done", "end")]

/-- The stage whose header the line is. -/
def heading (plainText : Line) : Option String :=
  if "==> ".toList.isPrefixOf plainText then
    (substageOf.find? fun e => e.1.toList.isPrefixOf (plainText.drop 4)).map Prod.snd
  else none

/-! ### The state of the pipeline -/

structure State where
  log : List Line := []
  file : List Line := []
  tfTotals : String → ℕ
  tfCounts : String → ℕ
  subDone : Finset String := ∅
  subActive : String := ""

def emit (s : State) (text : Line) : State :=
  { s with
    log := push logLimit logCut s.log (cleaned text)
    file := s.file ++ [plain (cleaned text)] }

/-- What the runner emits is what it puts into the log and then writes to the file. -/
lemma emit_console {s : State} {c : Console} {thread : ℕ} (hlog : c.log = s.log)
    (hfree : thread ∉ c.pending.map Prod.fst) (text : Line) :
    ∃ c', run c [.emit thread text, .write thread] = some c' ∧ c'.log = (emit s text).log ∧
      c'.file.map Prod.snd = c.file.map Prod.snd ++ [plain (cleaned text)] ∧
      (emit s text).file = s.file ++ [plain (cleaned text)] := by
  have hnone : c.pending.find? (fun e => e.1 = thread) = none := by
    rw [List.find?_eq_none]
    intro e he heq
    exact hfree (List.mem_map.mpr ⟨e, he, of_decide_eq_true heq⟩)
  have hfind : (c.pending ++ [(thread, cleaned text)]).find? (fun e => e.1 = thread) =
      some (thread, cleaned text) := by
    rw [List.find?_append, hnone, Option.none_or, List.find?_cons_of_pos (by simp)]
  refine ⟨{ c with
    log := push logLimit logCut c.log (cleaned text)
    pending := (c.pending ++ [(thread, cleaned text)]).filter fun e => e.1 ≠ thread
    file := c.file ++ [(thread, plain (cleaned text))] }, ?_, ?_, ?_, rfl⟩
  · simp [run, step, hfree, hfind]
  · rw [emit, hlog]
  · simp

/-- One more resource, or one less, but never more than there are. -/
def counted (total count : ℕ) : Completion → ℕ
  | .creation => min total (count + 1)
  | .destruction => min total (count - 1)

def count (s : State) : Option (Line × Completion) → State
  | none => s
  | some (rtype, completion) =>
    let p := provider rtype
    { s with tfCounts := Function.update s.tfCounts p (counted (s.tfTotals p) (s.tfCounts p)
        completion) }

def enter (s : State) : Option String → State
  | none => s
  | some sub =>
    { s with
      subDone := if s.subActive ≠ "" ∧ s.subActive ≠ sub then insert s.subActive s.subDone
        else s.subDone
      subActive := sub }

/-- Takes one line of a command's output. -/
def line (s : State) (text : Line) : State :=
  let plainText := plain text
  enter (count (emit s text) (tfDone plainText)) (heading plainText)

def newline : UInt8 := 10

-- how bytes that are not text are replaced is left open
variable (decode : List UInt8 → Line)

def takeLine (s : State) (bytes : List UInt8) : State := line s (decode bytes)

/-- What the command writes, in the chunks in which it is read; an empty one is the end. -/
def stream (s : State) (chunks : List (List UInt8)) : State :=
  consume newline (takeLine decode) s [] chunks

/-! ### The lines of a command -/

variable {decode} {s : State}

lemma stream_eq {chunks : List (List UInt8)} (h : ∀ chunk ∈ chunks, chunk ≠ []) :
    stream decode s chunks = ((linesOf newline chunks.flatten).map decode).foldl line s := by
  rw [stream, consume_eq s h, List.foldl_map]
  rfl

@[simp] lemma enter_log (h : Option String) : (enter s h).log = s.log := by cases h <;> rfl

@[simp] lemma enter_file (h : Option String) : (enter s h).file = s.file := by cases h <;> rfl

@[simp] lemma enter_tfTotals (h : Option String) : (enter s h).tfTotals = s.tfTotals := by
  cases h <;> rfl

@[simp] lemma enter_tfCounts (h : Option String) : (enter s h).tfCounts = s.tfCounts := by
  cases h <;> rfl

@[simp] lemma count_log (d : Option (Line × Completion)) : (count s d).log = s.log := by
  cases d <;> rfl

@[simp] lemma count_file (d : Option (Line × Completion)) : (count s d).file = s.file := by
  cases d <;> rfl

@[simp] lemma count_tfTotals (d : Option (Line × Completion)) :
    (count s d).tfTotals = s.tfTotals := by
  cases d <;> rfl

@[simp] lemma count_subDone (d : Option (Line × Completion)) :
    (count s d).subDone = s.subDone := by
  cases d <;> rfl

@[simp] lemma count_subActive (d : Option (Line × Completion)) :
    (count s d).subActive = s.subActive := by
  cases d <;> rfl

/-! ### The log and the file -/

lemma line_log (text : Line) : (line s text).log = push logLimit logCut s.log (cleaned text) := by
  simp only [line, enter_log, count_log]
  rfl

lemma line_file (text : Line) : (line s text).file = s.file ++ [plain (cleaned text)] := by
  simp only [line, enter_file, count_file]
  rfl

/-- The lines are in the file, and those that are not gone in the log. -/
lemma lines_kept {before : List Line} (h : s.log = before.drop (dropped before.length))
    (ls : List Line) :
    (ls.foldl line s).file = s.file ++ ls.map (plain ∘ cleaned) ∧
      (ls.foldl line s).log = (before ++ ls.map cleaned).drop (dropped (before.length + ls.length)) := by
  induction ls generalizing s before with
  | nil => simp [h]
  | cons t ls ih =>
    have hnext : (line s t).log = (before ++ [cleaned t]).drop
        (dropped (before ++ [cleaned t]).length) := by
      rw [line_log, h, ← gone_eq_dropped, CrdbLab.Lib.Trimmed.push_drop (by decide),
        gone_eq_dropped, List.length_append, List.length_singleton]
    obtain ⟨hfile, hlog⟩ := ih hnext
    refine ⟨?_, ?_⟩
    · rw [List.foldl_cons, hfile, line_file]
      simp
    · rw [List.foldl_cons, hlog]
      simp only [List.length_append, List.length_cons, List.length_nil, List.append_assoc,
        List.singleton_append, List.map_cons, Nat.add_assoc, Nat.add_comm 1, Nat.zero_add]

/-! ### The counters -/

/-- What the lines report complete of one provider's resources. -/
def completions (p : String) (ls : List Line) : List Completion :=
  ls.filterMap fun t => (tfDone (plain t)).bind fun e =>
    if provider e.1 = p then some e.2 else none

lemma counted_le (total n : ℕ) (c : Completion) : counted total n c ≤ total := by
  cases c with
  | creation => exact Nat.min_le_left _ _
  | destruction => exact Nat.min_le_left _ _

lemma count_tfCounts (p : String) (d : Option (Line × Completion)) :
    (count s d).tfCounts p =
      ((d.bind fun e => if provider e.1 = p then some e.2 else none).map
        (counted (s.tfTotals p) (s.tfCounts p))).getD (s.tfCounts p) := by
  cases d with
  | none => rfl
  | some e =>
    obtain ⟨rtype, completion⟩ := e
    by_cases hp : provider rtype = p
    · subst hp
      simp [count]
    · simp [count, hp, Function.update_of_ne (Ne.symm hp)]

lemma line_tfCounts (p : String) (text : Line) :
    (line s text).tfCounts p =
      ((completions p [text]).foldl (counted (s.tfTotals p)) (s.tfCounts p)) := by
  have hline : (line s text).tfCounts p = (count (emit s text) (tfDone (plain text))).tfCounts p := by
    simp only [line, enter_tfCounts]
  rw [hline, count_tfCounts]
  cases hdone : (tfDone (plain text)).bind fun e => if provider e.1 = p then some e.2 else none with
  | none => simp [completions, hdone, emit]
  | some c => simp [completions, hdone, emit]

/-- A counter goes through what is reported of its provider, whatever is reported of others. -/
lemma lines_counted (p : String) (ls : List Line) :
    (ls.foldl line s).tfCounts p =
      (completions p ls).foldl (counted (s.tfTotals p)) (s.tfCounts p) := by
  induction ls generalizing s with
  | nil => rfl
  | cons t ls ih =>
    have hcons : completions p (t :: ls) = completions p [t] ++ completions p ls := by
      rw [completions, ← List.singleton_append, List.filterMap_append]
      rfl
    rw [List.foldl_cons, ih, hcons, List.foldl_append, line_tfCounts]
    simp only [line, enter_tfTotals, count_tfTotals]
    rfl

lemma foldl_counted_le {total n : ℕ} (h : n ≤ total) (cs : List Completion) :
    cs.foldl (counted total) n ≤ total := by
  induction cs generalizing n with
  | nil => exact h
  | cons c cs ih => exact ih (counted_le total n c)

lemma foldl_created {total n : ℕ} (h : n ≤ total) {cs : List Completion}
    (hcs : ∀ c ∈ cs, c = .creation) : cs.foldl (counted total) n = min total (n + cs.length) := by
  induction cs generalizing n with
  | nil => simp [h]
  | cons c cs ih =>
    obtain rfl := hcs c List.mem_cons_self
    rw [List.foldl_cons, ih (counted_le _ _ _) fun c hc => hcs c (List.mem_cons_of_mem _ hc),
      List.length_cons, counted]
    omega

lemma foldl_destroyed {total n : ℕ} (h : n ≤ total) {cs : List Completion}
    (hcs : ∀ c ∈ cs, c = .destruction) : cs.foldl (counted total) n = n - cs.length := by
  induction cs generalizing n with
  | nil => simp
  | cons c cs ih =>
    obtain rfl := hcs c List.mem_cons_self
    rw [List.foldl_cons, ih (counted_le _ _ _) fun c hc => hcs c (List.mem_cons_of_mem _ hc),
      List.length_cons, counted]
    omega

/-! ### The stages -/

/-- The stages whose headers are among the lines. -/
def headings (ls : List Line) : List String := ls.filterMap (heading ∘ plain)

/-- One stage comes right before another in the list. -/
def Follows (a b : String) (l : List String) : Prop := ∃ u v, l = u ++ a :: b :: v

lemma follows_cons {a b c d : String} {l : List String} :
    Follows a b (c :: d :: l) ↔ (a = c ∧ b = d) ∨ Follows a b (d :: l) := by
  constructor
  · rintro ⟨u, v, h⟩
    cases u with
    | nil =>
      obtain ⟨hc, hrest⟩ := List.cons.inj h
      exact Or.inl ⟨hc.symm, (List.cons.inj hrest).1.symm⟩
    | cons x u => exact Or.inr ⟨u, v, (List.cons.inj h).2⟩
  · rintro (⟨rfl, rfl⟩ | ⟨u, v, h⟩)
    · exact ⟨[], l, rfl⟩
    · exact ⟨c :: u, v, by rw [h, List.cons_append]⟩

lemma not_follows_singleton {a b c : String} : ¬ Follows a b [c] := by
  rintro ⟨u, v, h⟩
  have hlength := congrArg List.length h
  simp only [List.length_cons, List.length_nil, List.length_append] at hlength
  omega

lemma enter_subActive (h : Option String) : (enter s h).subActive = h.getD s.subActive := by
  cases h <;> rfl

lemma mem_enter_subDone (h : Option String) (a : String) :
    a ∈ (enter s h).subDone ↔ a ∈ s.subDone ∨
      a ≠ "" ∧ a = s.subActive ∧ ∃ sub, h = some sub ∧ a ≠ sub := by
  cases h with
  | none => simp [enter]
  | some sub =>
    simp only [enter, Option.some.injEq, exists_eq_left']
    split
    · next h =>
      rw [Finset.mem_insert]
      constructor
      · rintro (rfl | ha)
        · exact Or.inr ⟨h.1, rfl, h.2⟩
        · exact Or.inl ha
      · rintro (ha | ⟨-, rfl, -⟩)
        · exact Or.inr ha
        · exact Or.inl rfl
    · next h =>
      refine ⟨Or.inl, fun ha => ha.elim id fun ⟨hne, heq, hsub⟩ => ?_⟩
      subst heq
      exact absurd ⟨hne, hsub⟩ h

lemma line_subActive (t : Line) :
    (line s t).subActive = (heading (plain t)).getD s.subActive := by
  simp only [line, enter_subActive, count_subActive]
  rfl

lemma mem_line_subDone (t : Line) (a : String) :
    a ∈ (line s t).subDone ↔ a ∈ s.subDone ∨
      a ≠ "" ∧ a = s.subActive ∧ ∃ sub, heading (plain t) = some sub ∧ a ≠ sub := by
  simp only [line, mem_enter_subDone, count_subActive, count_subDone]
  rfl

/-- A stage is done when the header of another one follows its own. -/
lemma lines_entered (ls : List Line) :
    (ls.foldl line s).subActive = (headings ls).getLast?.getD s.subActive ∧
      ∀ a, a ∈ (ls.foldl line s).subDone ↔ a ∈ s.subDone ∨
        a ≠ "" ∧ ∃ b, a ≠ b ∧ Follows a b (s.subActive :: headings ls) := by
  induction ls generalizing s with
  | nil =>
    refine ⟨rfl, fun a => ⟨Or.inl, fun h => h.elim id ?_⟩⟩
    rintro ⟨-, b, -, hfollows⟩
    exact absurd hfollows not_follows_singleton
  | cons t ls ih =>
    obtain ⟨hactive, hdone⟩ := ih (s := line s t)
    rw [List.foldl_cons, hactive, line_subActive]
    cases hheading : heading (plain t) with
    | none =>
      have hheadings : headings (t :: ls) = headings ls := by
        simp [headings, hheading]
      refine ⟨by rw [hheadings, Option.getD_none], fun a => ?_⟩
      rw [hdone, mem_line_subDone, line_subActive, hheading, hheadings]
      simp
    | some sub =>
      have hheadings : headings (t :: ls) = sub :: headings ls := by
        simp [headings, hheading]
      refine ⟨by rw [hheadings, List.getLast?_cons, Option.getD_some, Option.getD_some], fun a => ?_⟩
      rw [hdone, mem_line_subDone, line_subActive, hheading, hheadings, Option.getD_some]
      constructor
      · rintro ((ha | ⟨hne, rfl, sub', hsub, hne'⟩) | ⟨hne, b, hb, hfollows⟩)
        · exact Or.inl ha
        · exact Or.inr ⟨hne, sub, Option.some.inj hsub ▸ hne', follows_cons.mpr (Or.inl ⟨rfl, rfl⟩)⟩
        · exact Or.inr ⟨hne, b, hb, follows_cons.mpr (Or.inr hfollows)⟩
      · rintro (ha | ⟨hne, b, hb, hfollows⟩)
        · exact Or.inl (Or.inl ha)
        · rcases follows_cons.mp hfollows with ⟨rfl, rfl⟩ | hfollows
          · exact Or.inl (Or.inr ⟨hne, rfl, b, rfl, hb⟩)
          · exact Or.inr ⟨hne, b, hb, hfollows⟩

variable (decode s) in
/-- **What a command's output does**, however it is cut into chunks: every line is in the file and
the latest are in the log, the counter of a provider follows what is reported of its resources
and stays within their number, and a stage counts as done when another one has begun after it. -/
theorem stream_spec {chunks : List (List UInt8)} (hchunks : ∀ chunk ∈ chunks, chunk ≠ [])
    {before : List Line} (hlog : s.log = before.drop (dropped before.length))
    (hcounts : ∀ p, s.tfCounts p ≤ s.tfTotals p) :
    let ls := (linesOf newline chunks.flatten).map decode
    let s' := stream decode s chunks
    s'.file = s.file ++ ls.map (plain ∘ cleaned) ∧
    s'.log = (before ++ ls.map cleaned).drop (dropped (before.length + ls.length)) ∧
    (∀ p, s'.tfCounts p ≤ s.tfTotals p ∧
      s'.tfCounts p = (completions p ls).foldl (counted (s.tfTotals p)) (s.tfCounts p) ∧
      ((∀ c ∈ completions p ls, c = .creation) →
        s'.tfCounts p = min (s.tfTotals p) (s.tfCounts p + (completions p ls).length)) ∧
      ((∀ c ∈ completions p ls, c = .destruction) →
        s'.tfCounts p = s.tfCounts p - (completions p ls).length)) ∧
    s'.subActive = (headings ls).getLast?.getD s.subActive ∧
    ∀ a, a ∈ s'.subDone ↔ a ∈ s.subDone ∨
      a ≠ "" ∧ ∃ b, a ≠ b ∧ Follows a b (s.subActive :: headings ls) := by
  intro ls s'
  have hs' : s' = ls.foldl line s := stream_eq hchunks
  obtain ⟨hfile, hkept⟩ := lines_kept hlog ls
  obtain ⟨hactive, hdone⟩ := lines_entered (s := s) ls
  rw [hs']
  refine ⟨hfile, hkept, fun p => ?_, hactive, hdone⟩
  rw [lines_counted]
  exact ⟨foldl_counted_le (hcounts p) _, rfl, foldl_created (hcounts p), foldl_destroyed (hcounts p)⟩

def ascii (bytes : List UInt8) : Line := bytes.map fun b => Char.ofNat b.toNat

def bytesOf (text : String) : List UInt8 := text.toList.map fun c => UInt8.ofNat c.toNat

/-- Read in the middle of a line. -/
def sampleChunks : List (List UInt8) :=
  [bytesOf "==> Phase II\nmodule.gcp[0].google_compute_inst",
    bytesOf "ance.node: Creation complete after 12s\n==> Phase III"]

def sampleState : State where
  tfTotals := fun _ => 2
  tfCounts := fun _ => 0

theorem sampleChunks_counted :
    (stream ascii sampleState sampleChunks).tfCounts "GCP" = 1 ∧
      (stream ascii sampleState sampleChunks).subActive = "p3" ∧
      "p2" ∈ (stream ascii sampleState sampleChunks).subDone :=
  have hchunks : ∀ chunk ∈ sampleChunks, chunk ≠ [] := by decide
  have hlog : sampleState.log = ([] : List Line).drop (dropped ([] : List Line).length) := rfl
  have hspec := stream_spec ascii sampleState hchunks hlog fun _ => Nat.zero_le 2
  have hcreated : ∀ c ∈ completions "GCP" ((linesOf newline sampleChunks.flatten).map ascii),
      c = .creation := by decide
  have hone : (completions "GCP" ((linesOf newline sampleChunks.flatten).map ascii)).length = 1 := by
    decide
  have hheadings : headings ((linesOf newline sampleChunks.flatten).map ascii) = ["p2", "p3"] := by
    decide
  ⟨((hspec.2.2.1 "GCP").2.2.1 hcreated).trans (by rw [hone]; rfl),
    hspec.2.2.2.1.trans (by rw [hheadings]; rfl),
    (hspec.2.2.2.2 "p2").mpr (Or.inr ⟨by decide, "p3", by decide, [""], [], by rw [hheadings]; rfl⟩)⟩

end CrdbLab.CommandOutput
