import CrdbLab.Lib.Trimmed
import Mathlib.Data.List.Induction
import Mathlib.Data.List.Nodup

/-!
The log that the pipeline shows and writes to a file.

The runner and the thread that stops a command put lines into one log, each under the lock, and
write them to the file behind it. Where the pipeline has no screen, what is new in the log is
printed: a thread takes it under the lock and prints it line by line outside. The main thread does
so now and then, and the runner before it asks a question, each in the middle of the other's lines.
Ctrl-C reaches the main thread alone, which then drops what it has taken and not printed.
-/

namespace CrdbLab.ConsoleLog

open CrdbLab.Lib.Trimmed

abbrev Line := List Char

/-! ### Escape sequences -/

def esc : Char := Char.ofNat 27

def bell : Char := Char.ofNat 7

/-- The text without the parts that match. `length` tells how long what matches at the start of a
text is, and is zero where nothing does. -/
def erase (length : Line → ℕ) : ℕ → Line → Line
  | _, [] => []
  | 0, c :: s =>
    match length (c :: s) with
    | 0 => c :: erase length 0 s
    | n + 1 => erase length n s
  | k + 1, _ :: s => erase length k s

def isParameter (c : Char) : Bool := c.isDigit || c = ';' || c = '?'

/-- `\x1b\[[0-9;?]*` and a final letter of the given kind. -/
def controlLength (isFinal : Char → Bool) : Line → ℕ
  | e :: '[' :: s =>
    let parameters := s.takeWhile isParameter
    match s.drop parameters.length with
    | f :: _ => if e = esc ∧ isFinal f then parameters.length + 3 else 0
    | [] => 0
  | _ => 0

/-- The letters that end a sequence which is not a colour, as far as they are listed. -/
def isMotion (c : Char) : Bool :=
  ('A' ≤ c && c ≤ 'L') || ('a' ≤ c && c ≤ 'l') || ('n' ≤ c && c ≤ 'z')

/-- How long a sequence that is not a colour is at the start of the text. -/
def nonSgrLength : Line → ℕ
  | e :: '[' :: s => controlLength isMotion (e :: '[' :: s)
  | e :: ']' :: s => if e = esc ∧ bell ∈ s then (s.takeWhile (· ≠ bell)).length + 3 else 0
  | e :: b :: a :: _ =>
    if e = esc ∧ (b = '(' ∨ b = ')') ∧ (a.isUpper ∨ a.isDigit) then 3 else 0
  | _ => 0

/-- The text without control sequences. -/
def plain (text : Line) : Line := erase (controlLength Char.isAlpha) 0 text

/-- What is behind the last carriage return, the line breaks at the end left out. -/
def lastPart (text : Line) : Line :=
  ((text.reverse.dropWhile (· = '\n')).takeWhile (· ≠ '\r')).reverse

/-- The line as it is kept. -/
def cleaned (text : Line) : Line := erase nonSgrLength 0 (lastPart text)

/-! ### The log -/

def logLimit : ℕ := 50000

def logCut : ℕ := 10000

/-- The threads that print. -/
inductive Printer | main | runner
  deriving DecidableEq, Repr

structure Console where
  log : List Line := []
  /-- The lines in the file, each with the thread that wrote it. -/
  file : List (ℕ × Line) := []
  /-- The lines that are in the log and not yet in the file. -/
  pending : List (ℕ × Line) := []
  shown : ℕ := 0
  /-- The lines that were taken from the log to be printed, in that order. -/
  taken : List (Printer × Line) := []
  /-- Those that are still to be printed. -/
  held : List (Printer × Line) := []
  printed : List (Printer × Line) := []
  /-- Those that were dropped. The first of them can be on the screen in part. -/
  lost : List (Printer × Line) := []
  deriving DecidableEq, Repr

inductive Act
  | emit (thread : ℕ) (text : Line)
  | write (thread : ℕ)
  | take (printer : Printer)
  | print (printer : Printer)
  | interrupt
  deriving DecidableEq, Repr

/-- What is printed of a line. -/
def view (colour : Bool) (line : Line) : Line := if colour then line else plain line

/-- The lines of one thread. -/
def of (p : Printer) (l : List (Printer × Line)) : List (Printer × Line) :=
  l.filter fun e => e.1 = p

/-- What the thread has put on the screen. -/
def screen (colour : Bool) (p : Printer) (c : Console) : List Line :=
  (of p c.printed).map (view colour ∘ Prod.snd)

/-- One act, if it is possible: a thread writes a line before it emits the next one, and prints
what it has taken before it takes more. -/
def step (c : Console) : Act → Option Console
  | .emit thread text =>
    if thread ∈ c.pending.map Prod.fst then none
    else some { c with
      log := push logLimit logCut c.log (cleaned text)
      pending := c.pending ++ [(thread, cleaned text)] }
  | .write thread =>
    match c.pending.find? fun e => e.1 = thread with
    | none => none
    | some e => some { c with
        file := c.file ++ [(thread, plain e.2)]
        pending := c.pending.filter fun e => e.1 ≠ thread }
  | .take printer =>
    if of printer c.held ≠ [] then none
    else
      let lines := (c.log.drop c.shown).map (Prod.mk printer)
      some { c with
        shown := c.log.length
        taken := c.taken ++ lines
        held := c.held ++ lines }
  | .print printer =>
    match c.held.find? fun e => e.1 = printer with
    | none => none
    | some e => some { c with
        held := c.held.erase e
        printed := c.printed ++ [e] }
  | .interrupt => some { c with
      held := of .runner c.held
      lost := c.lost ++ of .main c.held }

def run (c : Console) (acts : List Act) : Option Console := acts.foldlM step c

/-! ### What a run emits -/

def Act.line? : Act → Option (ℕ × Line)
  | .emit thread text => some (thread, cleaned text)
  | _ => none

/-- The lines in the order in which they entered the log, each with its thread. -/
def emitted (acts : List Act) : List (ℕ × Line) := acts.filterMap Act.line?

def lines (acts : List Act) : List Line := (emitted acts).map Prod.snd

def Act.isTake : Act → Bool
  | .take _ => true
  | _ => false

/-- How many lines had been emitted when lines were last taken. -/
def mark (acts : List Act) : ℕ :=
  (lines (acts.reverse.dropWhile fun a => !a.isTake).reverse).length

/-- How many of the first `n` lines are no longer in the log. -/
def dropped (n : ℕ) : ℕ := logCut * ((n - (logLimit - logCut) - 1) / logCut)

lemma gone_eq_dropped (n : ℕ) : gone logLimit logCut n = dropped n := by
  induction n with
  | zero => rfl
  | succ n ih =>
    rw [gone, ih]
    unfold dropped logLimit logCut
    split
    · omega
    · omega

lemma dropped_of_le {n : ℕ} (h : n ≤ logLimit) : dropped n = 0 := by
  unfold dropped logLimit logCut at *
  omega

lemma lines_append (acts acts' : List Act) : lines (acts ++ acts') = lines acts ++ lines acts' := by
  simp [lines, emitted]

lemma mark_take (acts : List Act) (p : Printer) :
    mark (acts ++ [.take p]) = (lines acts).length := by
  simp [mark, lines, emitted, Act.line?, Act.isTake]

lemma mark_of_not_take {a : Act} (ha : a.isTake = false) (acts : List Act) :
    mark (acts ++ [a]) = mark acts := by
  simp [mark, ha]

/-- An act that emits nothing and takes nothing. -/
structure Act.Quiet (a : Act) : Prop where
  line : a.line? = none
  isTake : a.isTake = false

lemma Act.Quiet.emitted {a : Act} (h : a.Quiet) (acts : List Act) :
    emitted (acts ++ [a]) = emitted acts := by
  simp [ConsoleLog.emitted, h.line]

lemma Act.Quiet.lines {a : Act} (h : a.Quiet) (acts : List Act) :
    lines (acts ++ [a]) = lines acts := by
  rw [ConsoleLog.lines, h.emitted, ConsoleLog.lines]

/-- What the log, the file and the takes say of the acts so far. -/
structure Shows (acts : List Act) (c : Console) : Prop where
  log : c.log = (lines acts).drop (dropped (lines acts).length)
  marked : mark acts ≤ (lines acts).length
  shown : c.shown = mark acts - dropped (mark acts)
  taken : (c.taken.map Prod.snd).Sublist ((lines acts).take (mark acts))
  whole : (lines acts).length ≤ logLimit → c.taken.map Prod.snd = (lines acts).take (mark acts)
  distinct : (c.pending.map Prod.fst).Nodup
  file : ∀ t, (c.file.filter fun e => e.1 = t).map Prod.snd ++
      (c.pending.filter fun e => e.1 = t).map (plain ∘ Prod.snd) =
    ((emitted acts).filter fun e => e.1 = t).map (plain ∘ Prod.snd)

variable {c : Console} {acts : List Act}

lemma shows_init : Shows [] {} where
  log := by simp [lines, emitted]
  marked := le_refl 0
  shown := by simp [mark, lines, emitted]
  taken := by simp
  whole _ := by simp [lines, emitted]
  distinct := List.nodup_nil
  file _ := rfl

/-- What is behind an act that emits and takes nothing, where the log and the takes are as before. -/
lemma Shows.quiet (h : Shows acts c) {a : Act} (ha : a.Quiet) {c' : Console}
    (hlog : c'.log = c.log) (hshown : c'.shown = c.shown) (htaken : c'.taken = c.taken)
    (hdistinct : (c'.pending.map Prod.fst).Nodup)
    (hfile : ∀ t, (c'.file.filter fun e => e.1 = t).map Prod.snd ++
        (c'.pending.filter fun e => e.1 = t).map (plain ∘ Prod.snd) =
      (c.file.filter fun e => e.1 = t).map Prod.snd ++
        (c.pending.filter fun e => e.1 = t).map (plain ∘ Prod.snd)) :
    Shows (acts ++ [a]) c' := by
  have hlines := ha.lines acts
  have hmark := mark_of_not_take ha.isTake acts
  refine ⟨?_, ?_, ?_, ?_, ?_, hdistinct, fun t => ?_⟩
  · rw [hlog, hlines]
    exact h.log
  · rw [hmark, hlines]
    exact h.marked
  · rw [hshown, hmark]
    exact h.shown
  · rw [htaken, hmark, hlines]
    exact h.taken
  · rw [htaken, hmark, hlines]
    exact h.whole
  · rw [hfile, ha.emitted]
    exact h.file t

/-- **What is taken**: the lines that are new, but for as many of the first of these as the log has
lost since. -/
lemma Shows.new_lines (h : Shows acts c) :
    c.log.drop c.shown = (lines acts).drop
      (mark acts + (dropped (lines acts).length - dropped (mark acts))) := by
  have hread := drop_read (by decide : logCut ≤ logLimit) (lines acts) h.marked
  simp only [gone_eq_dropped] at hread
  rw [h.log, h.shown, hread]

lemma Shows.take (h : Shows acts c) (p : Printer) :
    Shows (acts ++ [.take p]) { c with
      shown := c.log.length
      taken := c.taken ++ (c.log.drop c.shown).map (Prod.mk p)
      held := c.held ++ (c.log.drop c.shown).map (Prod.mk p) } := by
  have hlines : lines (acts ++ [.take p]) = lines acts := by
    rw [lines_append]
    exact List.append_nil _
  have hemitted : emitted (acts ++ [.take p]) = emitted acts := by
    simp [emitted, Act.line?]
  have htexts : ∀ l : List Line, (l.map (Prod.mk p)).map Prod.snd = l := fun l => by
    rw [List.map_map]
    exact List.map_id l
  refine ⟨?_, ?_, ?_, ?_, ?_, h.distinct, ?_⟩
  · rw [hlines]
    exact h.log
  · rw [mark_take, hlines]
  · change c.log.length = _
    rw [mark_take, h.log, List.length_drop]
  · rw [mark_take, hlines, List.take_length, List.map_append, htexts, h.new_lines]
    have hnew : ((lines acts).drop (mark acts + (dropped (lines acts).length -
        dropped (mark acts)))).Sublist ((lines acts).drop (mark acts)) := by
      rw [← List.drop_drop]
      exact List.drop_sublist _ _
    simpa only [List.take_append_drop] using h.taken.append hnew
  · intro hle
    rw [hlines] at hle
    have hmark : mark acts ≤ logLimit := h.marked.trans hle
    rw [mark_take, hlines, List.take_length, List.map_append, htexts, h.new_lines,
      dropped_of_le hle, dropped_of_le hmark, h.whole hle, Nat.sub_zero, Nat.add_zero,
      List.take_append_drop]
  · intro t
    rw [hemitted]
    exact h.file t

lemma Shows.emit (h : Shows acts c) {thread : ℕ} {text : Line}
    (hfree : thread ∉ c.pending.map Prod.fst) :
    Shows (acts ++ [.emit thread text]) { c with
      log := push logLimit logCut c.log (cleaned text)
      pending := c.pending ++ [(thread, cleaned text)] } := by
  have hemitted : emitted (acts ++ [.emit thread text]) =
      emitted acts ++ [(thread, cleaned text)] := by
    simp [emitted, Act.line?]
  have hlines : lines (acts ++ [.emit thread text]) = lines acts ++ [cleaned text] := by
    rw [lines, hemitted, List.map_append]
    rfl
  have hmark : mark (acts ++ [.emit thread text]) = mark acts := mark_of_not_take rfl acts
  have htake : (lines acts ++ [cleaned text]).take (mark acts) = (lines acts).take (mark acts) :=
    List.take_append_of_le_length h.marked
  have hlength : (lines acts ++ [cleaned text]).length = (lines acts).length + 1 := by simp
  refine ⟨?_, ?_, ?_, ?_, ?_, ?_, ?_⟩
  · change push _ _ c.log _ = _
    rw [h.log, ← gone_eq_dropped, push_drop (by decide), hlines, hlength, gone_eq_dropped]
  · rw [hmark, hlines, hlength]
    exact h.marked.trans (Nat.le_succ _)
  · rw [hmark]
    exact h.shown
  · rw [hmark, hlines, htake]
    exact h.taken
  · intro hle
    rw [hlines, hlength] at hle
    rw [hmark, hlines, htake]
    exact h.whole (Nat.le_of_succ_le hle)
  · change ((c.pending ++ [(thread, cleaned text)]).map Prod.fst).Nodup
    rw [List.map_append]
    refine List.nodup_append.mpr ⟨h.distinct, List.nodup_singleton _, ?_⟩
    rintro t ht _ hthread rfl
    rw [List.mem_singleton.mp hthread] at ht
    exact hfree ht
  · intro t
    change (c.file.filter _).map _ ++ ((c.pending ++ [(thread, cleaned text)]).filter _).map _ = _
    rw [hemitted, List.filter_append, List.filter_append, List.map_append, List.map_append,
      ← List.append_assoc, h.file t]

/-- Where no key stands twice, one entry has the key of an entry. -/
lemma filter_key {l : List (ℕ × Line)} (h : (l.map Prod.fst).Nodup) {e : ℕ × Line} (he : e ∈ l) :
    l.filter (fun x => x.1 = e.1) = [e] := by
  induction l with
  | nil => cases he
  | cons x l ih =>
    rw [List.map_cons, List.nodup_cons] at h
    rcases List.mem_cons.mp he with rfl | he
    · rw [List.filter_cons_of_pos (by simp), List.filter_eq_nil_iff.mpr]
      intro y hy
      have hne : y.1 ≠ e.1 := fun heq => h.1 (heq ▸ List.mem_map_of_mem hy)
      simpa using hne
    · have hne : x.1 ≠ e.1 := fun heq => h.1 (heq ▸ List.mem_map_of_mem he)
      rw [List.filter_cons_of_neg (by simpa using hne), ih h.2 he]

lemma Shows.write (h : Shows acts c) {thread : ℕ} {e : ℕ × Line}
    (hfind : c.pending.find? (fun e => e.1 = thread) = some e) :
    Shows (acts ++ [.write thread]) { c with
      file := c.file ++ [(thread, plain e.2)]
      pending := c.pending.filter fun e => e.1 ≠ thread } := by
  have hmem := List.mem_of_find?_eq_some hfind
  have hthread : e.1 = thread := by simpa using List.find?_some hfind
  refine h.quiet ⟨rfl, rfl⟩ rfl rfl rfl (h.distinct.sublist (List.filter_sublist.map _)) fun t => ?_
  change ((c.file ++ [(thread, plain e.2)]).filter _).map _ ++ _ = _
  rw [List.filter_append, List.map_append, List.append_assoc]
  refine congrArg _ ?_
  by_cases ht : thread = t
  · subst ht
    have hpending := filter_key h.distinct hmem
    rw [hthread] at hpending
    simp [hpending, List.filter_filter]
  · have hsame : (c.pending.filter fun e => e.1 ≠ thread).filter (fun e => e.1 = t) =
        c.pending.filter fun e => e.1 = t := by
      rw [List.filter_filter]
      refine List.filter_congr fun x _ => ?_
      by_cases hx : x.1 = t
      · simp [hx, Ne.symm ht]
      · simp [hx]
    rw [hsame]
    simp [ht]

/-! ### What is printed -/

/-- What was taken is printed, held or lost, each line once, and each thread prints in order. -/
structure Accounts (c : Console) : Prop where
  all : (c.printed ++ c.held ++ c.lost).Perm c.taken
  order : ∀ p, (of p (c.printed ++ c.held)).Sublist (of p c.taken)
  kept : of .runner c.lost = []

@[simp] lemma of_append (p : Printer) (l l' : List (Printer × Line)) :
    of p (l ++ l') = of p l ++ of p l' := List.filter_append ..

lemma of_of_ne {p q : Printer} (h : q ≠ p) (l : List (Printer × Line)) : of p (of q l) = [] := by
  rw [of, of, List.filter_filter, List.filter_eq_nil_iff]
  intro e _
  by_cases he : e.1 = p
  · simp [he, Ne.symm h]
  · simp [he]

/-- The lines of the two threads. -/
lemma perm_of (l : List (Printer × Line)) : (of .runner l ++ of .main l).Perm l := by
  have hmain : of .main l = l.filter fun e => !decide (e.1 = .runner) := by
    refine List.filter_congr fun e _ => ?_
    cases e.1 <;> rfl
  rw [hmain]
  exact List.filter_append_perm _ l

lemma accounts_init : Accounts {} where
  all := .nil
  order _ := List.Sublist.refl _
  kept := rfl

lemma Accounts.take (h : Accounts c) (new : List (Printer × Line)) :
    Accounts { c with taken := c.taken ++ new, held := c.held ++ new } where
  all := by
    have hmove : (c.printed ++ (c.held ++ new) ++ c.lost).Perm
        (c.printed ++ c.held ++ c.lost ++ new) := by
      rw [List.append_assoc c.printed, List.append_assoc c.held, List.append_assoc c.printed c.held,
        List.append_assoc c.printed, List.append_assoc c.held]
      exact ((List.perm_append_comm).append_left c.held).append_left c.printed
    exact hmove.trans (h.all.append_right new)
  order p := by
    rw [← List.append_assoc, of_append, of_append p c.taken]
    exact (h.order p).append (List.Sublist.refl _)
  kept := h.kept

lemma Accounts.print (h : Accounts c) {p : Printer} {e : Printer × Line}
    (hfind : c.held.find? (fun e => e.1 = p) = some e) :
    Accounts { c with held := c.held.erase e, printed := c.printed ++ [e] } where
  all := by
    have hmem := List.mem_of_find?_eq_some hfind
    have hmove : (c.printed ++ [e] ++ c.held.erase e).Perm (c.printed ++ c.held) := by
      rw [List.append_assoc]
      exact (List.perm_cons_erase hmem).symm.append_left c.printed
    exact (hmove.append_right c.lost).trans h.all
  order q := by
    -- the line that is printed is the first that its thread holds
    have hsame : of q (c.printed ++ [e] ++ c.held.erase e) = of q (c.printed ++ c.held) := by
      obtain ⟨hp, before, after, hheld, hfirst⟩ := List.find?_eq_some_iff_append.mp hfind
      have hp : e.1 = p := by simpa using hp
      have hnotin : e ∉ before := fun hmem => by simpa [hp] using hfirst e hmem
      rw [hheld, List.erase_append_right _ hnotin, List.erase_cons_head]
      by_cases hq : p = q
      · have hnone : of q before = [] := by
          rw [of, List.filter_eq_nil_iff]
          intro x hx
          simpa [← hq] using hfirst x hx
        have hcons : ∀ l, of q (e :: l) = e :: of q l := fun l =>
          List.filter_cons_of_pos (by simpa [hp] using hq)
        simp only [of_append, hnone, hcons, List.nil_append, List.append_assoc]
        simp [of]
      · simp [of, hp, hq]
    rw [hsame]
    exact h.order q
  kept := h.kept

lemma Accounts.interrupt (h : Accounts c) :
    Accounts { c with held := of .runner c.held, lost := c.lost ++ of .main c.held } where
  all := by
    have hmove : (c.printed ++ of .runner c.held ++ (c.lost ++ of .main c.held)).Perm
        (c.printed ++ c.held ++ c.lost) := by
      rw [List.append_assoc, List.append_assoc]
      refine List.Perm.append_left _ ?_
      have hcomm : (c.lost ++ of .main c.held).Perm (of .main c.held ++ c.lost) :=
        List.perm_append_comm
      refine (hcomm.append_left _).trans ?_
      rw [← List.append_assoc]
      exact (perm_of c.held).append_right _
    exact hmove.trans h.all
  order p := by
    refine List.Sublist.trans ?_ (h.order p)
    rw [of_append, of_append]
    refine (List.Sublist.refl _).append ?_
    rw [of, of, List.filter_filter]
    refine (List.monotone_filter_right c.held fun e he => ?_)
    simp only [Bool.and_eq_true] at he
    exact he.1
  kept := by
    rw [of_append, h.kept, of_of_ne (by decide)]
    rfl

/-- **Every run** leaves a console that shows what its acts say and accounts for what was taken. -/
lemma shows_of_run (h : run {} acts = some c) : Shows acts c ∧ Accounts c := by
  induction acts using List.reverseRecOn generalizing c with
  | nil =>
    obtain rfl := Option.some.inj h
    exact ⟨shows_init, accounts_init⟩
  | append_singleton acts a ih =>
    rw [run, List.foldlM_append] at h
    obtain ⟨before, hbefore, hlast⟩ := Option.bind_eq_some_iff.mp h
    have hstep : step before a = some c := by simpa using hlast
    obtain ⟨hshows, haccounts⟩ := ih hbefore
    cases a with
    | emit thread text =>
      rw [step] at hstep
      split at hstep
      · cases hstep
      · next hfree =>
        obtain rfl := Option.some.inj hstep
        exact ⟨hshows.emit hfree, haccounts.all, haccounts.order, haccounts.kept⟩
    | write thread =>
      rw [step] at hstep
      split at hstep
      · cases hstep
      · next e hfind =>
        obtain rfl := Option.some.inj hstep
        exact ⟨hshows.write hfind, haccounts.all, haccounts.order, haccounts.kept⟩
    | take p =>
      rw [step] at hstep
      split at hstep
      · cases hstep
      · obtain rfl := Option.some.inj hstep
        have htaken := haccounts.take ((before.log.drop before.shown).map (Prod.mk p))
        exact ⟨hshows.take p, htaken.all, htaken.order, htaken.kept⟩
    | print p =>
      rw [step] at hstep
      split at hstep
      · cases hstep
      · next e hfind =>
        obtain rfl := Option.some.inj hstep
        exact ⟨hshows.quiet ⟨rfl, rfl⟩ rfl rfl rfl hshows.distinct fun _ => rfl,
          haccounts.print hfind⟩
    | interrupt =>
      obtain rfl := Option.some.inj hstep
      exact ⟨hshows.quiet ⟨rfl, rfl⟩ rfl rfl rfl hshows.distinct fun _ => rfl,
        haccounts.interrupt⟩

/-- Where a thread has lost nothing it has printed, or holds, all that it took. -/
lemma Accounts.eq_of_kept (h : Accounts c) {p : Printer} (hkept : of p c.lost = []) :
    of p (c.printed ++ c.held) = of p c.taken := by
  refine (h.order p).eq_of_length ?_
  have hlength := (h.all.filter fun e => e.1 = p).length_eq
  rw [List.filter_append, List.length_append] at hlength
  change (of p (c.printed ++ c.held)).length + (of p c.lost).length = _ at hlength
  rw [hkept] at hlength
  exact hlength

/-- **What becomes of the lines**, however the threads interleave: each thread's lines are in the
file in their order, or it is about to write the last of them. What is taken to be printed are
emitted lines in their order, all of them while no more than the limit were emitted; a take leaves
out of the new lines the first, as many as the log has lost since the take before, or all. Of what
was taken each line is printed once, held or lost, in the order in which its thread took it, and so
in the order in which the lines were emitted; the runner loses none. -/
theorem lines_of_run (h : run {} acts = some c) :
    (∀ t, (c.file.filter fun e => e.1 = t).map Prod.snd ++
        (c.pending.filter fun e => e.1 = t).map (plain ∘ Prod.snd) =
      ((emitted acts).filter fun e => e.1 = t).map (plain ∘ Prod.snd)) ∧
    c.log = (lines acts).drop (dropped (lines acts).length) ∧ c.log.length ≤ logLimit ∧
    (c.taken.map Prod.snd).Sublist (lines acts) ∧
    ((lines acts).length ≤ logLimit → c.taken.map Prod.snd = (lines acts).take (mark acts)) ∧
    c.log.drop c.shown = (lines acts).drop
      (mark acts + (dropped (lines acts).length - dropped (mark acts))) ∧
    (c.printed ++ c.held ++ c.lost).Perm c.taken ∧
    (∀ p, (of p (c.printed ++ c.held)).Sublist (of p c.taken)) ∧
    (∀ p, of p c.lost = [] → of p (c.printed ++ c.held) = of p c.taken) ∧
    of .runner c.lost = [] ∧
    ∀ colour p, (screen colour p c).Sublist ((lines acts).map (view colour)) := by
  obtain ⟨hshows, haccounts⟩ := shows_of_run h
  have htaken : (c.taken.map Prod.snd).Sublist (lines acts) :=
    hshows.taken.trans (List.take_sublist _ _)
  refine ⟨hshows.file, hshows.log, ?_, htaken, hshows.whole, hshows.new_lines, haccounts.all,
    haccounts.order, fun p => haccounts.eq_of_kept, haccounts.kept, fun colour p => ?_⟩
  · rw [hshows.log, List.length_drop, ← gone_eq_dropped]
    exact length_drop_gone_le (by decide) (by decide) _
  · have horder := haccounts.order p
    rw [of_append] at horder
    have hprinted : (of p c.printed).Sublist c.taken :=
      ((List.sublist_append_left _ _).trans horder).trans List.filter_sublist
    rw [screen, ← List.map_map]
    exact ((hprinted.map Prod.snd).trans htaken).map (view colour)

/-- Two threads that emit, of which one is still to write its line. The runner prints its line
before the main thread, interrupted, has printed an earlier one. -/
def sampleRun : List Act :=
  [.emit 0 "==> Phase I\r==> Phase II\n".toList, .emit 1 "  !!  interrupt sent".toList, .write 1,
    .take .main, .write 0, .emit 0 [esc, '[', '2', 'K', 'o', 'k'], .print .main, .take .runner,
    .print .runner, .interrupt]

def sampleConsole : Console := (run {} sampleRun).getD {}

theorem sampleRun_lines :
    (sampleConsole.file.filter fun e => e.1 = 0).map Prod.snd ++
        (sampleConsole.pending.filter fun e => e.1 = 0).map (plain ∘ Prod.snd) =
      ((emitted sampleRun).filter fun e => e.1 = 0).map (plain ∘ Prod.snd) ∧
    sampleConsole.taken.map Prod.snd = (lines sampleRun).take (mark sampleRun) ∧
    sampleConsole.printed.map Prod.snd = ["==> Phase II".toList, "ok".toList] ∧
    (sampleConsole.printed ++ sampleConsole.held ++ sampleConsole.lost).Perm
      sampleConsole.taken :=
  have hrun : run {} sampleRun = some sampleConsole := by decide +kernel
  have hlines := lines_of_run hrun
  ⟨hlines.1 0, hlines.2.2.2.2.1 (by decide +kernel), by decide +kernel,
    hlines.2.2.2.2.2.2.1⟩

end CrdbLab.ConsoleLog
