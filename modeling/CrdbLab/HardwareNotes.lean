import CrdbLab.ManifestNotes

/-!
What is read back of the notes on hosts and memory.

A captured record is written as one line of a note and read back from it by other code. The
counts come back, and so does the model of the processor, which may hold anything, because it
stands last; but a model that was not captured comes back as the word that was written for it,
and a word of the model that looks like one of the counts is taken for it.
-/

namespace CrdbLab.HardwareNotes

open CrdbLab.Lib.Fallible CrdbLab.Lib.Fields CrdbLab.Lib.Numeral
open CrdbLab.ManifestNotes

/-- A character of a time stamp. -/
def isStampChar (c : Char) : Bool := isAsciiDigit c || ['-', ':', '.', 'T', 'Z'].contains c

/-- The time stamp of a note. -/
structure Timestamp where
  text : List Char
  chars : ∀ c ∈ text, isStampChar c = true

lemma Timestamp.absent (ts : Timestamp) {c : Char} (h : isStampChar c = false) : c ∉ ts.text := by
  intro hc
  have hstamp := ts.chars c hc
  rw [h] at hstamp
  cases hstamp

def hostNote (ts : Timestamp) (h : Hardware) : String :=
  String.ofList (ts.text ++ (" host: ".toList ++ formatHardware h))

def pgNote (ts : Timestamp) (memory : PgMemory) : String :=
  String.ofList (ts.text ++ (" pg memory: ".toList ++ formatPgMemory memory))

/-- The only note of the manifest that holds the mark. -/
def OnlyNote (m : Manifest) (mark : String) (note : String) : Prop :=
  (m.notes.getD []).filter (fun n => (after mark.toList n.toList).isSome) = [note]

lemma marked_of_onlyNote {m : Manifest} {mark note : String} {line : List Char}
    (h : OnlyNote m mark note) (hline : after mark.toList note.toList = some line) :
    m.marked mark = some (note.toList, line) := by
  obtain ⟨before, later, hnotes, hbefore, -, -⟩ := List.filter_eq_cons_iff.mp h
  have hnone : (before.findSome? fun n => (after mark.toList n.toList).map fun rest =>
      (n.toList, rest)) = none := by
    refine List.findSome?_eq_none_iff.mpr fun n hn => ?_
    simpa using hbefore n hn
  rw [Manifest.marked, hnotes, List.findSome?_append, hnone]
  simp [hline]

/-! ### Counts -/

/-- A count that is short enough to be read back. -/
def Readable (count : Option ℕ) : Prop := ∀ n, count = some n → n < 10 ^ maxDigits

lemma readable_none : Readable none := by
  rintro n ⟨⟩

lemma not_mem_countText {c : Char} (hdigit : isDigit c = false) (hword : c ∉ "None".toList)
    (count : Option ℕ) : c ∉ countText count := by
  cases count with
  | none => exact hword
  | some n =>
    intro hc
    rw [isDigit_toDigits hc] at hdigit
    cases hdigit

/-- What is written for a count is read as that count. -/
lemma readCount_countText {count : Option ℕ} (h : Readable count) :
    readCount (some (countText count)) = .ok count := by
  cases count with
  | none => decide
  | some n =>
    have hdigits : (Nat.toDigits 10 n).all isDigit = true :=
      List.all_eq_true.mpr fun c hc => isDigit_toDigits hc
    have htext : isDigitText (Nat.toDigits 10 n) = true := by
      simp only [isDigitText, Bool.and_eq_true, decide_eq_true_eq, List.all_eq_true]
      refine ⟨Nat.toDigits_ne_nil, fun c hc => ?_⟩
      simp [isDigit_toDigits hc]
    have hlength : (Nat.toDigits 10 n).length ≤ maxDigits :=
      (Nat.length_toDigits_le_iff (by decide) (by decide)).mpr (h n rfl)
    have hint : intOfDigits (Nat.toDigits 10 n) = .ok n := by
      rw [intOfDigits, if_pos ⟨hdigits, hlength⟩, value_toDigits]
    change (if isDigitText (Nat.toDigits 10 n) = true then
      (intOfDigits (Nat.toDigits 10 n)).map some else .ok none) = _
    rw [if_pos htext, hint]
    rfl

lemma intOfDigits_lt {s : List Char} {n : ℕ} (h : intOfDigits s = .ok n) : n < 10 ^ maxDigits := by
  unfold intOfDigits at h
  split_ifs at h with hint
  cases h
  calc value s < 10 ^ s.length := value_lt s
    _ ≤ 10 ^ maxDigits := Nat.pow_le_pow_right (by decide) hint.2

/-- Both counts of a host are short enough. -/
def ReadableCounts (h : Hardware) : Prop := Readable h.cpus ∧ Readable h.memTotalKb

lemma readable_some {s : List Char} {n : ℕ} (h : intOfDigits s = .ok n) : Readable (some n) := by
  rintro m ⟨⟩
  exact intOfDigits_lt h

/-- A line of the block leaves counts that can be read back. -/
lemma captureLine_readable {h h' : Hardware} {line : List Char} (hr : ReadableCounts h)
    (hcap : captureLine h line = .ok h') : ReadableCounts h' := by
  unfold captureLine at hcap
  split_ifs at hcap with hdigits hmem
  · obtain ⟨n, hn, rfl⟩ := map_eq_ok_iff.mp hcap
    exact ⟨readable_some hn, hr.2⟩
  · by_cases hnone : line.filter isAsciiDigit = []
    · simp only [if_pos hnone, Except.ok.injEq] at hcap
      subst hcap
      exact ⟨hr.1, readable_none⟩
    · simp only [if_neg hnone] at hcap
      obtain ⟨n, hn, rfl⟩ := map_eq_ok_iff.mp hcap
      exact ⟨hr.1, readable_some hn⟩
  · cases hcap
    exact hr

/-- So does the whole block. -/
lemma parseHardware_readable {block : List Char} {h : Hardware}
    (hparse : parseHardware block = .ok h) : ReadableCounts h := by
  have hfold : ∀ (lines : List (List Char)) (h₀ : Hardware), ReadableCounts h₀ →
      lines.foldlM captureLine h₀ = .ok h → ReadableCounts h := by
    intro lines
    induction lines with
    | nil =>
      intro h₀ hr hrun
      cases hrun
      exact hr
    | cons line lines ih =>
      intro h₀ hr hrun
      rw [List.foldlM_cons] at hrun
      obtain ⟨h₁, hcap, hrest⟩ := bind_eq_ok_iff.mp hrun
      exact ih h₁ (captureLine_readable hr hcap) hrest
  exact hfold _ {} ⟨readable_none, readable_none⟩ hparse

lemma capturePgMemoryConfig_readable {returncode : ℤ} {stdout : List Char} {memory : PgMemory}
    (h : capturePgMemoryConfig returncode stdout = .ok (some memory)) :
    Readable memory.sharedBuffersKb ∧ Readable memory.effectiveCacheSizeKb := by
  unfold capturePgMemoryConfig at h
  split_ifs at h with hcode
  · cases h
  split at h
  · rename_i sb ec hparts
    split_ifs at h with hdigits
    · obtain ⟨x, hx, h⟩ := bind_eq_ok_iff.mp h
      obtain ⟨y, hy, h⟩ := bind_eq_ok_iff.mp h
      cases h
      refine ⟨?_, ?_⟩
      · rintro n ⟨⟩
        exact (Nat.div_le_self x 1024).trans_lt (intOfDigits_lt hx)
      · rintro n ⟨⟩
        exact (Nat.div_le_self y 1024).trans_lt (intOfDigits_lt hy)
    · cases h
  · cases h

/-! ### The line of a host -/

lemma blank_not_mem_part {key : String} (hkey : ' ' ∉ key.toList) (count : Option ℕ) :
    ' ' ∉ part key (countText count) := by
  have hcount : ' ' ∉ countText count := not_mem_countText (by decide) (by decide) count
  simp [part, hkey, hcount]

lemma fieldOf_part {key : String} (hkey : '=' ∉ key.toList) (k : String) (v : List Char) :
    fieldOf '=' k.toList (part key v) = if k = key then some v else none := by
  rw [part, fieldOf_entry hkey]
  simp [String.toList_inj]

/-- The value that a later word of the model gives to a key. -/
def strayField (key : String) (h : Hardware) : Option (List Char) :=
  laterField ' ' '=' key.toList (modelText h)

/-- A key other than that of the model is looked for in the later words of the model first. -/
lemma noteField_formatHardware {key : String} (hkey : key ≠ "cpu_model") (h : Hardware) :
    noteField key (formatHardware h) =
      ((strayField key h).or
        (if key = "mem_total_kb" then some (countText h.memTotalKb) else none)).or
        (if key = "cpus" then some (countText h.cpus) else none) := by
  have hne : key.toList ≠ "cpu_model".toList := fun heq => hkey (String.toList_inj.mp heq)
  rw [noteField, formatHardware, field_append_cons (blank_not_mem_part (by decide) h.cpus),
    field_append_cons (blank_not_mem_part (by decide) h.memTotalKb), fieldOf_part (by decide),
    fieldOf_part (by decide), part, field_of_ne hne (by decide) (by decide) (by decide)]
  rfl

lemma noteField_cpus (h : Hardware) : noteField "cpus" (formatHardware h) =
    (strayField "cpus" h).or (some (countText h.cpus)) := by
  rw [noteField_formatHardware (by decide)]
  simp

lemma noteField_memTotalKb (h : Hardware) : noteField "mem_total_kb" (formatHardware h) =
    (strayField "mem_total_kb" h).or (some (countText h.memTotalKb)) := by
  rw [noteField_formatHardware (by decide)]
  simp

lemma noteField_formatPgMemory (key : String) (memory : PgMemory) :
    noteField key (formatPgMemory memory) =
      (if key = "effective_cache_size_kb" then some (countText memory.effectiveCacheSizeKb)
        else none).or
        (if key = "shared_buffers_kb" then some (countText memory.sharedBuffersKb) else none) := by
  rw [noteField, formatPgMemory, field_append_cons (blank_not_mem_part (by decide) _),
    field_of_absent (blank_not_mem_part (by decide) _), fieldOf_part (by decide),
    fieldOf_part (by decide)]

/-! ### The whole note -/

lemma after_hostNote (ts : Timestamp) (h : Hardware) :
    after " host: ".toList (hostNote ts h).toList = some (formatHardware h) := by
  simp only [hostNote, String.toList_ofList]
  exact after_append (ts.absent (by decide)) _ _

lemma after_pgNote (ts : Timestamp) (memory : PgMemory) :
    after " pg memory: ".toList (pgNote ts memory).toList = some (formatPgMemory memory) := by
  simp only [pgNote, String.toList_ofList]
  exact after_append (ts.absent (by decide)) _ _

/-- The model is found behind its key, which occurs nowhere before. -/
lemma after_cpuModel (ts : Timestamp) (h : Hardware) :
    after "cpu_model=".toList (hostNote ts h).toList = some (modelText h) := by
  have hcpus : '_' ∉ part "cpus" (countText h.cpus) := by
    have hcount := not_mem_countText (c := '_') (by decide) (by decide) h.cpus
    simp [part, hcount]
  have hmem : 'p' ∉ part "mem_total_kb" (countText h.memTotalKb) := by
    have hcount := not_mem_countText (c := 'p') (by decide) (by decide) h.memTotalKb
    simp [part, hcount]
  have hnote : (hostNote ts h).toList =
      ts.text ++ ' ' :: ("host:".toList ++ ' ' :: formatHardware h) := by
    simp [hostNote]
  have hkey : part "cpu_model" (modelText h) = "cpu_model=".toList ++ modelText h := by
    simp [part]
  rw [hnote, after_skip (by decide) (d := '=') (by decide) (ts.absent (by decide)),
    after_skip (by decide) (d := '=') (by decide) (by decide), formatHardware,
    after_skip (by decide) (d := '_') (by decide) hcpus,
    after_skip (by decide) (d := 'p') (by decide) hmem, hkey, after_self_append]

/-! ### Reading back -/

/-- Where a later word of the model gives the key a value, that value is read as the count. -/
def StrayAgrees (key : String) (h : Hardware) (count : Option ℕ) : Prop :=
  ∀ v, strayField key h = some v → readCount (some v) = .ok count

/-- No word of a model without an equals sign gives a key a value. -/
lemma strayAgrees_of_plain {key : String} {h : Hardware} {count : Option ℕ}
    (hplain : '=' ∉ modelText h) : StrayAgrees key h count := by
  intro v hv
  have hnone : ((modelText h).splitOn ' ').tail.filterMap (entry '=') = [] := by
    refine List.filterMap_eq_nil_iff.mpr fun w hw => ?_
    have habsent : '=' ∉ w := fun hc => hplain (mem_of_mem_splitOn (List.mem_of_mem_tail hw) hc)
    rw [entry, after_eq_none (List.mem_singleton_self '=') habsent, Option.map_none]
  rw [strayField, laterField, hnone] at hv
  cases hv

lemma readCount_or_iff {stray : Option (List Char)} {count : Option ℕ} (hr : Readable count) :
    readCount (stray.or (some (countText count))) = .ok count ↔
      ∀ v, stray = some v → readCount (some v) = .ok count := by
  cases stray with
  | none => simpa using readCount_countText hr
  | some v => simp

/-- A model that was not captured is not what is read back. -/
lemma model_read_back_iff (h : Hardware) :
    some (String.ofList (modelText h)) = h.cpuModel ↔ h.cpuModel ≠ none := by
  cases hmodel : h.cpuModel with
  | none => simp
  | some s => simp [modelText, hmodel]

/-- **When the note of a host is read back**: where a model was captured and none of its later
words is taken for another count. -/
lemma hostHardware_eq_iff {block : List Char} {h : Hardware} {ts : Timestamp} {m : Manifest}
    (hparse : parseHardware block = .ok h) (hnote : OnlyNote m " host: " (hostNote ts h)) :
    hostHardware m = .ok (some h) ↔ h.cpuModel ≠ none ∧ StrayAgrees "cpus" h h.cpus ∧
      StrayAgrees "mem_total_kb" h h.memTotalKb := by
  obtain ⟨hcpus, hmem⟩ := parseHardware_readable hparse
  have hmarked := marked_of_onlyNote hnote (after_hostNote ts h)
  have hread : hostHardware m = (readCounts "cpus" "mem_total_kb" (formatHardware h)).map
      fun counts => some
        { cpus := counts.1
          memTotalKb := counts.2
          cpuModel := some (String.ofList (modelText h)) } := by
    rw [hostHardware, countsOf, hmarked]
    change Except.map _ (Except.map _ _) = _
    cases readCounts "cpus" "mem_total_kb" (formatHardware h) with
    | error e => rfl
    | ok counts => simp only [Except.map, Option.map_some, after_cpuModel]
  rw [hread, map_eq_ok_iff, ← model_read_back_iff, StrayAgrees, StrayAgrees,
    ← readCount_or_iff hcpus, ← readCount_or_iff hmem, ← noteField_cpus, ← noteField_memTotalKb]
  constructor
  · rintro ⟨counts, hcounts, heq⟩
    obtain ⟨hx, hy⟩ := readCounts_eq_ok_iff.mp hcounts
    have hrecord := Option.some.inj heq
    refine ⟨congrArg Hardware.cpuModel hrecord, ?_, ?_⟩
    · rw [hx]
      exact congrArg (fun r => Except.ok (Hardware.cpus r)) hrecord
    · rw [hy]
      exact congrArg (fun r => Except.ok (Hardware.memTotalKb r)) hrecord
  · rintro ⟨hmodel, hx, hy⟩
    refine ⟨(h.cpus, h.memTotalKb), readCounts_eq_ok_iff.mpr ⟨hx, hy⟩, ?_⟩
    rw [hmodel]

/-- **What was captured of PostgreSQL's memory is read back.** -/
lemma pgCacheConfig_eq {returncode : ℤ} {stdout : List Char} {memory : PgMemory} {ts : Timestamp}
    {m : Manifest} (hcapture : capturePgMemoryConfig returncode stdout = .ok (some memory))
    (hnote : OnlyNote m " pg memory: " (pgNote ts memory)) :
    pgCacheConfig m = .ok (some memory) := by
  obtain ⟨hsb, hec⟩ := capturePgMemoryConfig_readable hcapture
  have hmarked := marked_of_onlyNote hnote (after_pgNote ts memory)
  have hcounts : readCounts "shared_buffers_kb" "effective_cache_size_kb"
      (formatPgMemory memory) = .ok (memory.sharedBuffersKb, memory.effectiveCacheSizeKb) := by
    refine readCounts_eq_ok_iff.mpr ⟨?_, ?_⟩
    · rw [noteField_formatPgMemory]
      simpa using readCount_countText hsb
    · rw [noteField_formatPgMemory]
      simpa using readCount_countText hec
  rw [pgCacheConfig, countsOf, hmarked]
  simp only [hcounts]
  rfl

/-- **What the notes are read back as**: the record of a host comes back exactly where a model was
captured and no later word of it is taken for another count; that of PostgreSQL's memory always
does. -/
theorem notes_read_back (ts : Timestamp) (m : Manifest) :
    (∀ (block : List Char) (h : Hardware), parseHardware block = .ok h →
      OnlyNote m " host: " (hostNote ts h) →
        (hostHardware m = .ok (some h) ↔ h.cpuModel ≠ none ∧ StrayAgrees "cpus" h h.cpus ∧
          StrayAgrees "mem_total_kb" h h.memTotalKb)) ∧
    ∀ (returncode : ℤ) (stdout : List Char) (memory : PgMemory),
      capturePgMemoryConfig returncode stdout = .ok (some memory) →
        OnlyNote m " pg memory: " (pgNote ts memory) → pgCacheConfig m = .ok (some memory) :=
  ⟨fun _ _ hparse hnote => hostHardware_eq_iff hparse hnote,
    fun _ _ _ hcapture hnote => pgCacheConfig_eq hcapture hnote⟩

def stamp : Timestamp where
  text := "2026-09-03T00:00:00Z".toList
  chars := List.all_eq_true.mp (by decide +kernel)

/-- The block of a host whose processor has a name. -/
def namedBlock : List Char :=
  ("2" ++ String.singleton (Char.ofNat 10) ++ "Intel(R) Xeon(R) CPU @ 2.80GHz" ++
    String.singleton (Char.ofNat 10) ++ "MemTotal: 4007012 kB").toList

def named : Hardware where
  cpus := some 2
  cpuModel := some "Intel(R) Xeon(R) CPU @ 2.80GHz"
  memTotalKb := some 4007012

def captured : PgMemory where
  sharedBuffersKb := some 1001472
  effectiveCacheSizeKb := some 3004416

theorem named_read_back :
    hostHardware { notes := some [hostNote stamp named] } = .ok (some named) ∧
    pgCacheConfig { notes := some [pgNote stamp captured] } = .ok (some captured) := by
  refine ⟨?_, ?_⟩
  · have hplain : '=' ∉ modelText named := by decide +kernel
    refine ((notes_read_back stamp _).1 namedBlock named (by decide +kernel) ?_).mpr
      ⟨by decide, strayAgrees_of_plain hplain, strayAgrees_of_plain hplain⟩
    unfold OnlyNote
    decide +kernel
  · refine (notes_read_back stamp _).2 0 "1025507328,3076521984".toList captured
      (by decide +kernel) ?_
    unfold OnlyNote
    decide +kernel

/-- A host whose processor has no name is read back as one with the name `None`. -/
theorem unnamed_read_back :
    parseHardware ("2" ++ String.singleton (Char.ofNat 10) ++ "MemTotal: 4007012 kB").toList =
      .ok { cpus := some 2, memTotalKb := some 4007012 } ∧
    hostHardware
      { notes := some [hostNote stamp { cpus := some 2, memTotalKb := some 4007012 }] } =
      .ok (some { cpus := some 2, cpuModel := some "None", memTotalKb := some 4007012 }) := by
  decide +kernel

end CrdbLab.HardwareNotes
