import CrdbLab.Comparability
import CrdbLab.ConnectionStrings
import CrdbLab.Lib.ShellWords

/-!
The commands that are run on the nodes of the testbed.

A command is one text that the login shell of the node takes apart into words, and a generator's
command is taken apart again, by the shell that the pseudo-terminal starts. The connection string
is one of the words, and is read by the client library. The shells, `script` and the library are
outside; what is asked of them is what they document.
-/

namespace CrdbLab.RemoteCommands

open CrdbLab.Comparability (Value.reprFinite)
open CrdbLab.ConnectionStrings CrdbLab.Lib.Connection CrdbLab.Lib.ShellWords CrdbLab.Testbed
open CrdbLab.Lib.Rounding (padded fixed shortest)

-- each node's own SQL port
variable (sqlPort : Node → ℕ)

/-! ### Generator commands -/

/-- The parameters of the workload that its command names. -/
structure WorkloadSpec where
  generator : List Char
  ycsbWorkload : List Char
  seed : ℕ
  insertCount : ℕ
  requestDistribution : List Char
  readFreq : ℚ
  updateFreq : ℚ
  durationS : ℕ
  displayEveryS : ℕ

/-- An option of a command with its value. -/
def option (name : String) (value : List Char) : List Char := name.toList ++ '=' :: value

def floatText (x : ℚ) : List Char := (Value.reprFinite x).toList

/-- Between single quotes, as it is. -/
def inQuotes (s : List Char) : List Char := singleQuote :: (s ++ [singleQuote])

/-- The words the commands of a sweep and of a chaos run begin with. -/
def commonWords (spec : WorkloadSpec) : List (List Char) :=
  ["cockroach".toList, "workload".toList, "run".toList, spec.generator,
    option "--workload" spec.ycsbWorkload, option "--seed" (digits spec.seed),
    option "--insert-count" (digits spec.insertCount),
    option "--request-distribution" spec.requestDistribution,
    option "--read-freq" (floatText spec.readFreq),
    option "--update-freq" (floatText spec.updateFreq)]

def tierWords (spec : WorkloadSpec) (concurrency : ℕ) : List (List Char) :=
  commonWords spec ++
    [option "--concurrency" (digits concurrency),
      option "--duration" (digits spec.durationS ++ ['s']),
      option "--display-every" (digits spec.displayEveryS ++ ['s'])]

/-- Without `--tolerate-errors` the generator exits at the fault. -/
def chaosWords (spec : WorkloadSpec) (concurrency runDurationS : ℕ) : List (List Char) :=
  commonWords spec ++
    [option "--concurrency" (digits concurrency),
      option "--duration" (digits runDurationS ++ ['s']), "--tolerate-errors".toList,
      option "--display-every" (digits spec.displayEveryS ++ ['s'])]

def tierGenerator (spec : WorkloadSpec) (target : Target) (concurrency : ℕ) : List Char :=
  spaced (tierWords spec concurrency ++ [inQuotes (target.dbUri sqlPort)])

def chaosGenerator (spec : WorkloadSpec) (concurrency runDurationS : ℕ) (uri : List Char) :
    List Char :=
  spaced (chaosWords spec concurrency runDurationS ++ [inQuotes uri])

/-- A single quote that ends the quotes, stands quoted and opens them again. -/
def reopen : List Char := [singleQuote, backslash, singleQuote, singleQuote]

/-- The command under a pseudo-terminal: without one the generator prints no intervals. -/
def forceTty (remote : List Char) : List Char :=
  "script -qefc ".toList ++ inQuotes (replaceQuotes reopen remote) ++ " /dev/null".toList

/-! ### Outside programs -/

/-- What a command and a connection string meet outside. -/
structure Outside where
  loginShell : List Char → Option (List Token)
  /-- What `script` gives its shell, by the words it is started with. -/
  script : List (List Char) → Option (List Char)
  startedShell : List Char → Option (List Token)
  readUri : List Char → Option Address

/-- What is documented of them: the shells keep to the rules of quoting, `script -qefc` runs its
command, and an address that has all its parts and known options is read from its text. -/
structure Outside.Documented (o : Outside) : Prop where
  loginShell : Splits o.loginShell
  script : ∀ command, nul ∉ command →
    o.script ["script".toList, "-qefc".toList, command, "/dev/null".toList] = some command
  startedShell : Splits o.startedShell
  readUri : ∀ {a}, WellFormed a → (∀ e ∈ a.options, e ∈ directOptions) →
    o.readUri (text a) = some a

/-- The words a command ends in that is run under a pseudo-terminal. -/
def Outside.ttyWords (o : Outside) (command : List Char) : Option (List (List Char)) :=
  ((words o.loginShell command).bind o.script).bind (words o.startedShell)

/-! ### The probe's agent, and statistics -/

def agentRoot : List Char := "/tmp/crdblab-probe-agent".toList

/-- What the agent is started with. -/
structure AgentArgs where
  dsn : List Char
  table : List Char
  intervalS : ℚ
  workers : ℕ
  statementTimeoutMs : ℕ
  connectTimeoutS : ℚ
  durationS : ℚ

/-- The words behind the connection string. -/
def agentOptions (args : AgentArgs) : List (List Char) :=
  ["--table".toList, args.table, "--interval-s".toList, floatText args.intervalS,
    "--workers".toList, digits args.workers,
    "--statement-timeout-ms".toList, digits args.statementTimeoutMs,
    "--connect-timeout-s".toList, floatText args.connectTimeoutS,
    "--duration-s".toList, (fixed 3 args.durationS).toList]

/-- The words in front of it. -/
def agentProgram : List (List Char) :=
  ["PYTHONUNBUFFERED=1".toList, "python3".toList, "-m".toList, "crdblab.core.rto_probe".toList,
    "--dsn".toList]

def remoteCommand (args : AgentArgs) : List Char :=
  spaced ["cd".toList, agentRoot] ++ " && ".toList ++
    spaced (agentProgram ++ [inQuotes (replaceQuotes reopen args.dsn)] ++ agentOptions args)

def pgStatsQuery (table : List Char) : List Char :=
  ("SELECT coalesce(idx_scan, 0), coalesce(idx_tup_fetch, 0), coalesce(seq_scan, 0) " ++
    "FROM pg_stat_user_tables WHERE relname = '").toList ++ table ++ [singleQuote]

/-- The command that reads the counters of a table. -/
def sampleCommand (password dsn table : List Char) : List Char :=
  "PGPASSWORD=".toList ++ quoteWord password ++ " psql ".toList ++ quoteWord dsn ++
    " -tAF, -c ".toList ++ quoteWord (pgStatsQuery table)

/-! ### Words that are taken as they are -/

/-- The characters of a text stand for themselves in a command. -/
def Bare (s : List Char) : Prop := ∀ c ∈ s, isOrdinary c = true

instance (s : List Char) : Decidable (Bare s) :=
  decidable_of_iff (s.all isOrdinary = true) List.all_eq_true

lemma Bare.append {a b : List Char} (ha : Bare a) (hb : Bare b) : Bare (a ++ b) := fun c hc =>
  (List.mem_append.mp hc).elim (ha c) (hb c)

lemma spells_of_bare {w : List Char} (h : Bare w) (hne : w ≠ []) : Spells w w := spells_bare hne h

lemma bare_digits (n : ℕ) : Bare (digits n) := fun c hc => by
  have hdigit : ∀ d < 10, isOrdinary (Nat.digitChar d) = true := by decide
  obtain ⟨d, hd, rfl⟩ := CrdbLab.Lib.Numeral.exists_of_mem_toDigits hc
  exact hdigit d hd

lemma digits_ne_nil (n : ℕ) : digits n ≠ [] := Nat.toDigits_ne_nil

lemma toString_eq_digits (n : ℕ) : (toString n).toList = digits n := by
  rw [digits, ← String.toList_ofList (l := Nat.toDigits 10 n)]
  rfl

lemma bare_toString (n : ℕ) : Bare (toString n).toList := by
  rw [toString_eq_digits]
  exact bare_digits n

lemma bare_padded (n k : ℕ) : Bare (padded n k).toList := by
  rw [padded, String.toList_append, String.toList_ofList]
  refine Bare.append (fun c hc => ?_) (bare_toString k)
  rw [List.eq_of_mem_replicate hc]
  decide

lemma bare_sign {b : Prop} [Decidable b] : Bare (if b then "-" else "").toList := by
  split
  · decide
  · decide

lemma bare_fixed (n : ℕ) (x : ℚ) : Bare (fixed n x).toList := by
  rw [fixed, String.toList_append, String.toList_append]
  refine (bare_sign.append (bare_toString _)).append ?_
  split
  · decide
  · rw [String.toList_append]
    exact Bare.append (by decide) (bare_padded _ _)

lemma fixed_ne_nil (n : ℕ) (x : ℚ) : (fixed n x).toList ≠ [] := by
  rw [fixed, String.toList_append, String.toList_append]
  simp

lemma bare_shortest (n : ℕ) (x : ℚ) : Bare (shortest n x).toList := by
  rw [shortest, String.toList_append, String.toList_append, String.toList_append]
  refine ((bare_sign.append (bare_toString _)).append (by decide)).append ?_
  split
  · decide
  · rw [String.toList_ofList]
    intro c hc
    rw [List.mem_reverse] at hc
    have hmem := (List.dropWhile_sublist _).subset hc
    exact bare_padded _ _ c (List.mem_reverse.mp hmem)

lemma shortest_ne_nil (n : ℕ) (x : ℚ) : (shortest n x).toList ≠ [] := by
  rw [shortest, String.toList_append, String.toList_append]
  simp

lemma bare_floatText (x : ℚ) : Bare (floatText x) := by
  rw [floatText, Value.reprFinite]
  split
  · exact bare_shortest 21 x
  · have hmantissa := bare_shortest 16 (x / 10 ^ Int.log 10 |x|)
    rw [String.toList_append, String.toList_append, String.toList_append]
    refine ((Bare.append ?_ (by decide)).append ?_).append (bare_padded _ _)
    · rw [String.toList_ofList]
      split
      · exact fun c hc => hmantissa c (List.mem_of_mem_take hc)
      · exact hmantissa
    · split
      · decide
      · decide

lemma floatText_ne_nil (x : ℚ) : floatText x ≠ [] := by
  rw [floatText, Value.reprFinite]
  split
  · exact shortest_ne_nil 21 x
  · rw [String.toList_append, String.toList_append]
    simp

lemma bare_option {name : String} {value : List Char} (hname : Bare name.toList)
    (hvalue : Bare value) : Bare (option name value) :=
  hname.append fun c hc => by
    rcases List.mem_cons.mp hc with rfl | hc
    · decide
    · exact hvalue c hc

lemma option_ne_nil (name : String) (value : List Char) : option name value ≠ [] := by
  simp [option]

/-! ### The words of the commands -/

lemma spells_same {ws : List (List Char)} (h : ∀ w ∈ ws, w ≠ [] ∧ Bare w) : SpellsAll ws ws :=
  List.forall₂_same.mpr fun w hw => spells_of_bare (h w hw).2 (h w hw).1

/-- A command whose words stand for themselves, but for the last, which is in quotes. -/
lemma spells_quoted_last {ws : List (List Char)} (h : ∀ w ∈ ws, w ≠ [] ∧ Bare w)
    {uri : List Char} (huri : singleQuote ∉ uri ∧ nul ∉ uri) :
    SpellsAll (ws ++ [inQuotes uri]) (ws ++ [uri]) :=
  List.rel_append (spells_same h) (.cons (.single huri) .nil)

/-- A text between single quotes, each single quote in it replaced. -/
lemma spells_inQuotes {w : List Char} (hw : nul ∉ w) :
    Spells (inQuotes (replaceQuotes reopen w)) w :=
  spells_enclose (.escaped (by decide)) hw

lemma nul_not_mem_bare {s : List Char} (h : Bare s) : nul ∉ s := fun hmem => by
  have := h nul hmem
  revert this
  decide

lemma nul_not_mem_spaced {ts : List (List Char)} (h : ∀ t ∈ ts, nul ∉ t) : nul ∉ spaced ts := by
  induction ts with
  | nil => exact List.not_mem_nil
  | cons t ts ih =>
    have hrest := ih fun t' ht' => h t' (List.mem_cons_of_mem t ht')
    cases ts with
    | nil =>
      rw [spaced_singleton]
      exact h t List.mem_cons_self
    | cons t' ts =>
      rw [spaced_cons_cons, List.mem_append, List.mem_cons, not_or, not_or]
      exact ⟨h t List.mem_cons_self, by decide, hrest⟩

lemma spaced_four (a b c d : List Char) :
    (a ++ ' ' :: (b ++ [' '])) ++ c ++ ' ' :: d = spaced [a, b, c, d] := by
  rw [spaced_cons_cons, spaced_cons_cons, spaced_cons_cons, spaced_singleton]
  simp only [List.append_assoc, List.cons_append, List.nil_append]

lemma forceTty_eq (remote : List Char) :
    forceTty remote = spaced ["script".toList, "-qefc".toList,
      inQuotes (replaceQuotes reopen remote), "/dev/null".toList] := by
  have hhead : "script -qefc ".toList = "script".toList ++ ' ' :: ("-qefc".toList ++ [' ']) := by
    decide
  have htail : " /dev/null".toList = ' ' :: "/dev/null".toList := by decide
  calc forceTty remote
      = ("script".toList ++ ' ' :: ("-qefc".toList ++ [' '])) ++
          inQuotes (replaceQuotes reopen remote) ++ ' ' :: "/dev/null".toList :=
        congrArg₂ (fun head tail => head ++ inQuotes (replaceQuotes reopen remote) ++ tail)
          hhead htail
    _ = _ := spaced_four _ _ _ _

/-- **What runs under the pseudo-terminal** are the words of the command that was wrapped. -/
lemma Outside.Documented.ttyWords_forceTty {o : Outside} (h : o.Documented)
    {texts ws : List (List Char)} (hspells : SpellsAll texts ws) (hnul : ∀ t ∈ texts, nul ∉ t) :
    o.ttyWords (forceTty (spaced texts)) = some ws := by
  have hremote := nul_not_mem_spaced hnul
  have houter : SpellsAll
      ["script".toList, "-qefc".toList, inQuotes (replaceQuotes reopen (spaced texts)),
        "/dev/null".toList]
      ["script".toList, "-qefc".toList, spaced texts, "/dev/null".toList] :=
    .cons (spells_of_bare (by decide) (by decide))
      (.cons (spells_of_bare (by decide) (by decide))
        (.cons (spells_inQuotes hremote)
          (.cons (spells_of_bare (by decide) (by decide)) .nil)))
  rw [ttyWords, forceTty_eq, h.loginShell.words_spaced houter, Option.bind_some,
    h.script _ hremote, Option.bind_some, h.startedShell.words_spaced hspells]

/-- A generator's command, with the connection string behind words that stand for themselves. -/
lemma Outside.Documented.generator_words {o : Outside} (h : o.Documented)
    {ws : List (List Char)} (hws : ∀ w ∈ ws, w ≠ [] ∧ RemoteCommands.Bare w) {a : Address}
    (ha : WellFormed a) :
    o.ttyWords (forceTty (spaced (ws ++ [inQuotes (text a)]))) = some (ws ++ [text a]) := by
  have hquote : singleQuote ∉ text a := absent_text ha (.inl rfl)
  have hnul : nul ∉ text a := absent_text ha (.inr rfl)
  refine h.ttyWords_forceTty (spells_quoted_last hws ⟨hquote, hnul⟩) fun t ht => ?_
  rcases List.mem_append.mp ht with ht | ht
  · exact nul_not_mem_bare (hws t ht).2
  · rw [List.mem_singleton.mp ht, inQuotes]
    simp only [List.mem_cons, List.mem_append, List.not_mem_nil, or_false, not_or]
    exact ⟨by decide, hnul, by decide⟩

/-- The texts of a workload that a command takes as they are. -/
structure WorkloadSpec.Bare (spec : WorkloadSpec) : Prop where
  generator : spec.generator ≠ [] ∧ RemoteCommands.Bare spec.generator
  workload : RemoteCommands.Bare spec.ycsbWorkload
  distribution : RemoteCommands.Bare spec.requestDistribution

lemma bare_commonWords {spec : WorkloadSpec} (h : spec.Bare) :
    ∀ w ∈ commonWords spec, w ≠ [] ∧ Bare w := by
  intro w hw
  simp only [commonWords, List.mem_cons, List.not_mem_nil, or_false] at hw
  rcases hw with rfl | rfl | rfl | rfl | rfl | rfl | rfl | rfl | rfl | rfl
  · decide
  · decide
  · decide
  · exact h.generator
  · exact ⟨option_ne_nil _ _, bare_option (by decide) h.workload⟩
  · exact ⟨option_ne_nil _ _, bare_option (by decide) (bare_digits _)⟩
  · exact ⟨option_ne_nil _ _, bare_option (by decide) (bare_digits _)⟩
  · exact ⟨option_ne_nil _ _, bare_option (by decide) h.distribution⟩
  · exact ⟨option_ne_nil _ _, bare_option (by decide) (bare_floatText _)⟩
  · exact ⟨option_ne_nil _ _, bare_option (by decide) (bare_floatText _)⟩

lemma bare_seconds {name : String} (hname : Bare name.toList) (n : ℕ) :
    option name (digits n ++ ['s']) ≠ [] ∧ Bare (option name (digits n ++ ['s'])) :=
  ⟨option_ne_nil _ _, bare_option hname ((bare_digits n).append (by decide))⟩

lemma bare_tierWords {spec : WorkloadSpec} (h : spec.Bare) (concurrency : ℕ) :
    ∀ w ∈ tierWords spec concurrency, w ≠ [] ∧ Bare w := by
  intro w hw
  rcases List.mem_append.mp hw with hw | hw
  · exact bare_commonWords h w hw
  · simp only [List.mem_cons, List.not_mem_nil, or_false] at hw
    rcases hw with rfl | rfl | rfl
    · exact ⟨option_ne_nil _ _, bare_option (by decide) (bare_digits _)⟩
    · exact bare_seconds (by decide) _
    · exact bare_seconds (by decide) _

lemma bare_chaosWords {spec : WorkloadSpec} (h : spec.Bare) (concurrency runDurationS : ℕ) :
    ∀ w ∈ chaosWords spec concurrency runDurationS, w ≠ [] ∧ Bare w := by
  intro w hw
  rcases List.mem_append.mp hw with hw | hw
  · exact bare_commonWords h w hw
  · simp only [List.mem_cons, List.not_mem_nil, or_false] at hw
    rcases hw with rfl | rfl | rfl | rfl
    · exact ⟨option_ne_nil _ _, bare_option (by decide) (bare_digits _)⟩
    · exact bare_seconds (by decide) _
    · decide
    · exact bare_seconds (by decide) _

/-- **The generator gets its connection string**: whatever the password, the shell that the
pseudo-terminal starts takes the words of the command with the connection string as the last, and
it says which user, password, host and database are meant. -/
theorem tierGenerator_reaches {o : Outside} (ho : o.Documented) {spec : WorkloadSpec}
    (hspec : spec.Bare) {target : Target} (htarget : target.Plain sqlPort) (concurrency : ℕ) :
    o.ttyWords (forceTty (tierGenerator sqlPort spec target concurrency)) =
        some (tierWords spec concurrency ++ [target.dbUri sqlPort]) ∧
      o.readUri (target.dbUri sqlPort) = some (target.address sqlPort) := by
  obtain ⟨huri, hwell⟩ := dbUri_eq sqlPort htarget
  rw [tierGenerator, huri]
  refine ⟨ho.generator_words (bare_tierWords hspec concurrency) hwell, ho.readUri hwell ?_⟩
  exact options_address sqlPort target

/-! ### The agent and the statistics -/

lemma bare_agentOptions {args : AgentArgs} (hbare : Bare args.table) (hne : args.table ≠ []) :
    ∀ w ∈ agentOptions args, w ≠ [] ∧ Bare w := by
  intro w hw
  simp only [agentOptions, List.mem_cons, List.not_mem_nil, or_false] at hw
  rcases hw with rfl | rfl | rfl | rfl | rfl | rfl | rfl | rfl | rfl | rfl | rfl | rfl
  · decide
  · exact ⟨hne, hbare⟩
  · decide
  · exact ⟨floatText_ne_nil _, bare_floatText _⟩
  · decide
  · exact ⟨digits_ne_nil _, bare_digits _⟩
  · decide
  · exact ⟨digits_ne_nil _, bare_digits _⟩
  · decide
  · exact ⟨floatText_ne_nil _, bare_floatText _⟩
  · decide
  · exact ⟨fixed_ne_nil 3 _, bare_fixed 3 _⟩

/-- The agent is started with the connection string as it is, whatever characters it has. -/
lemma tokens_remoteCommand {shell : List Char → Option (List Token)} (hshell : Splits shell)
    {args : AgentArgs} (hbare : Bare args.table) (hne : args.table ≠ []) (hdsn : nul ∉ args.dsn) :
    shell (remoteCommand args) =
      some (["cd".toList, agentRoot].map Token.word ++ .op ['&', '&'] ::
        (agentProgram ++ [args.dsn] ++ agentOptions args).map Token.word) := by
  have hcd : SpellsAll ["cd".toList, agentRoot] ["cd".toList, agentRoot] :=
    spells_same (by decide)
  have hprogram : SpellsAll agentProgram agentProgram := spells_same (by decide)
  have hall : SpellsAll
      (agentProgram ++ [inQuotes (replaceQuotes reopen args.dsn)] ++ agentOptions args)
      (agentProgram ++ [args.dsn] ++ agentOptions args) :=
    List.rel_append (List.rel_append hprogram (.cons (spells_inQuotes hdsn) .nil))
      (spells_same (bare_agentOptions hbare hne))
  have hand : " && ".toList = [' ', '&', '&', ' '] := by decide
  have htokens := hshell.both hcd (List.cons_ne_nil _ _) hall (by simp [agentProgram])
  calc shell (remoteCommand args)
      = shell (spaced ["cd".toList, agentRoot] ++ [' ', '&', '&', ' '] ++
          spaced (agentProgram ++ [inQuotes (replaceQuotes reopen args.dsn)] ++
            agentOptions args)) :=
        congrArg (fun mark => shell (spaced ["cd".toList, agentRoot] ++ mark ++
          spaced (agentProgram ++ [inQuotes (replaceQuotes reopen args.dsn)] ++
            agentOptions args))) hand
    _ = _ := by rw [List.append_assoc]; exact htokens

/-- The counters are read with the password, the connection string and the query as they are. -/
lemma words_sampleCommand {shell : List Char → Option (List Token)} (hshell : Splits shell)
    {password dsn table : List Char} (hpassword : nul ∉ password) (hdsn : nul ∉ dsn)
    (htable : nul ∉ table) :
    words shell (sampleCommand password dsn table) =
      some ["PGPASSWORD=".toList ++ password, "psql".toList, dsn, "-tAF,".toList, "-c".toList,
        pgStatsQuery table] := by
  have hparts : ∀ a b c : List Char, nul ∉ a → nul ∉ b → nul ∉ c → nul ∉ a ++ b ++ c := by
    intro a b c ha hb hc
    simp [ha, hb, hc]
  have hquery : nul ∉ pgStatsQuery table :=
    hparts _ _ _ (by decide +kernel) htable (by decide)
  have hassign : Spells ("PGPASSWORD=".toList ++ quoteWord password)
      ("PGPASSWORD=".toList ++ password) :=
    (spells_of_bare (by decide) (by decide)).append (spells_quoteWord hpassword)
  have hspells : SpellsAll
      ["PGPASSWORD=".toList ++ quoteWord password, "psql".toList, quoteWord dsn, "-tAF,".toList,
        "-c".toList, quoteWord (pgStatsQuery table)]
      ["PGPASSWORD=".toList ++ password, "psql".toList, dsn, "-tAF,".toList, "-c".toList,
        pgStatsQuery table] :=
    .cons hassign (.cons (spells_of_bare (by decide) (by decide))
      (.cons (spells_quoteWord hdsn) (.cons (spells_of_bare (by decide) (by decide))
        (.cons (spells_of_bare (by decide) (by decide))
          (.cons (spells_quoteWord hquery) .nil)))))
  have hpsql : " psql ".toList = ' ' :: ("psql".toList ++ [' ']) := by decide
  have hflags : " -tAF, -c ".toList =
      ' ' :: ("-tAF,".toList ++ ' ' :: ("-c".toList ++ [' '])) := by decide
  have hsix : ∀ a b c d e f : List Char,
      a ++ ' ' :: (b ++ [' ']) ++ c ++ ' ' :: (d ++ ' ' :: (e ++ [' '])) ++ f =
        spaced [a, b, c, d, e, f] := by
    intro a b c d e f
    simp only [spaced_cons_cons, spaced_singleton, List.append_assoc, List.cons_append,
      List.nil_append]
  rw [← hshell.words_spaced hspells, ← hsix]
  exact congrArg₂ (fun psql flags => words shell ("PGPASSWORD=".toList ++ quoteWord password ++
    psql ++ quoteWord dsn ++ flags ++ quoteWord (pgStatsQuery table))) hpsql hflags

/-! ### A chaos run -/

/-- **The commands of a chaos run**: the generator is driven through a node that is not the one at
fault, and the agent gets a connection string that names every node once, with the password as it
is, whatever characters it has. -/
theorem chaosCommands_reach {o : Outside} (ho : o.Documented) {spec : WorkloadSpec}
    (hspec : spec.Bare) {topology : Topology} (htopology : PlainTopology sqlPort topology)
    {database auditDatabase : List Char} (hdatabase : IsName database)
    (hauditDatabase : IsName auditDatabase) {args : AgentArgs}
    (htable : args.table ≠ [] ∧ Bare args.table) {engine pgPassword : String}
    (hpassword : engine = "postgresql" → IsPassword pgPassword.toUTF8.toList)
    {faultTarget : Node} {uri : List Char}
    (huri : workloadUri sqlPort engine topology faultTarget database pgPassword = .ok uri)
    (hdsn : auditDsn sqlPort engine topology auditDatabase pgPassword = .ok args.dsn)
    (concurrency runDurationS : ℕ) :
    (o.ttyWords (forceTty (chaosGenerator spec concurrency runDurationS uri)) =
        some (chaosWords spec concurrency runDurationS ++ [uri]) ∧
      (engine = "postgresql" → o.readUri uri = some (generatorAddress database pgPassword)) ∧
      (engine ≠ "postgresql" → ∃ n ∈ topology.nodes,
        o.readUri uri = some (nodeAddress n.host.toList (sqlPort n) database) ∧
        ((∃ m ∈ topology.nodes, m.name ≠ faultTarget.name) → n.name ≠ faultTarget.name))) ∧
    (o.loginShell (remoteCommand args) =
        some (["cd".toList, agentRoot].map Token.word ++ .op ['&', '&'] ::
          (agentProgram ++ [args.dsn] ++ agentOptions args).map Token.word) ∧
      ∃ address, o.readUri args.dsn = some address ∧
        (address.hosts.map Prod.fst).Perm (topology.nodes.map fun n => n.host.toList) ∧
        (engine = "postgresql" → address.password = some pgPassword.toUTF8.toList ∧
          ∃ g, gateway topology = .ok g ∧
            address.hosts.head? = some (g.host.toList, digits pgSqlPort))) := by
  constructor
  · rcases workloadUri_spec sqlPort huri with ⟨hengine, rfl⟩ | ⟨hengine, n, hn, rfl, htarget⟩
    · have hwell := wellFormed_generatorAddress hdatabase (hpassword hengine)
      rw [pgGeneratorDsn_eq]
      exact ⟨ho.generator_words (bare_chaosWords hspec concurrency runDurationS) hwell,
        fun _ => ho.readUri hwell options_sslmode, fun h => absurd hengine h⟩
    · obtain ⟨hhost, hport⟩ := htopology.nodes n hn
      have hwell := wellFormed_nodeAddress hhost hdatabase hport
      exact ⟨ho.generator_words (bare_chaosWords hspec concurrency runDurationS) hwell,
        fun h => absurd h hengine, fun _ => ⟨n, hn, ho.readUri hwell options_sslmode, htarget⟩⟩
  · rw [auditDsn_eq] at hdsn
    obtain ⟨address, haddress, htext⟩ := CrdbLab.Lib.Fallible.map_eq_ok_iff.mp hdsn
    obtain ⟨hwell, hoptions, hhosts, hgiven⟩ :=
      auditAddress_spec sqlPort htopology hauditDatabase hpassword haddress
    have hnul : nul ∉ args.dsn := htext ▸ absent_text hwell (.inr rfl)
    exact ⟨tokens_remoteCommand ho.loginShell htable.2 htable.1 hnul, address,
      by rw [← htext, ho.readUri hwell hoptions], hhosts, hgiven⟩

/-! ### Runs of the testbed -/

/-- What `script` does with the words it is started with here. -/
def scriptCommand : List (List Char) → Option (List Char)
  | [script, flags, command, file] =>
    if script = "script".toList ∧ flags = "-qefc".toList ∧ file = "/dev/null".toList then
      some command
    else none
  | _ => none

/-- Programs that do what is documented. -/
def testbed : Outside where
  loginShell := tokens
  script := scriptCommand
  startedShell := tokens
  readUri := read

lemma documented_testbed : testbed.Documented where
  loginShell := splits_tokens
  script _ _ := by simp [testbed, scriptCommand]
  startedShell := splits_tokens
  readUri h _ := read_text h

/-- The workload of the default profile. -/
def ycsb : WorkloadSpec where
  generator := "ycsb".toList
  ycsbWorkload := "CUSTOM".toList
  seed := 42
  insertCount := 125000
  requestDistribution := "uniform".toList
  readFreq := 4 / 5
  updateFreq := 1 / 5
  durationS := 60
  displayEveryS := 1

lemma bare_ycsb : ycsb.Bare where
  generator := (by decide : "ycsb".toList ≠ [] ∧ Bare "ycsb".toList)
  workload := (by decide : Bare "CUSTOM".toList)
  distribution := (by decide : Bare "uniform".toList)

def defaultPort : Node → ℕ := fun _ => 26257

/-- A password with signs that mean something to a shell and in an address. -/
def awkward : String := "it's $1@a:b/c 100%"

def pgTarget : Target where
  database := "ycsb".toList
  engine := "postgresql"
  nodes := defaultTopology.nodes
  password := some awkward

/-- Neither empty nor with a zero byte. -/
lemma isPassword_awkward : IsPassword awkward.toUTF8.toList := by decide +kernel

lemma plain_pgTarget : pgTarget.Plain defaultPort where
  database := (by decide : IsName "ycsb".toList)
  nodes := (by decide : ∀ n ∈ defaultTopology.nodes,
    IsName n.host.toList ∧ PortNumber (defaultPort n))
  password := fun _ => isPassword_awkward

theorem pgTarget_reached :
    testbed.ttyWords (forceTty (tierGenerator defaultPort ycsb pgTarget 50)) =
        some (tierWords ycsb 50 ++ [pgTarget.dbUri defaultPort]) ∧
      testbed.readUri (pgTarget.dbUri defaultPort) = some (pgTarget.address defaultPort) :=
  tierGenerator_reaches defaultPort documented_testbed bare_ycsb plain_pgTarget 50

lemma plain_defaultTopology : PlainTopology defaultPort defaultTopology where
  nodes := plain_pgTarget.nodes
  distinct := by decide
  someNode := List.cons_ne_nil _ _

/-- The nodes of the testbed with the gateway first. -/
def orderedNodes : List Node :=
  gcp1 :: defaultTopology.nodes.filter fun n => n.host ≠ gcp1.host

def sampleArgs : AgentArgs where
  dsn := text (directAddress orderedNodes "bench".toList awkward)
  table := "rto_canary".toList
  intervalS := 1 / 500
  workers := 8
  statementTimeoutMs := 5000
  connectTimeoutS := 2
  durationS := 780

theorem sampleArgs_reach :
    testbed.loginShell (remoteCommand sampleArgs) =
        some (["cd".toList, agentRoot].map Token.word ++ .op ['&', '&'] ::
          (agentProgram ++ [sampleArgs.dsn] ++ agentOptions sampleArgs).map Token.word) ∧
      ∃ address, testbed.readUri sampleArgs.dsn = some address ∧
        (address.hosts.map Prod.fst).Perm (defaultTopology.nodes.map fun n => n.host.toList) ∧
        ("postgresql" = "postgresql" → address.password = some awkward.toUTF8.toList ∧
          ∃ g, gateway defaultTopology = .ok g ∧
            address.hosts.head? = some (g.host.toList, digits pgSqlPort)) :=
  have hordered : ordered defaultTopology = .ok orderedNodes := by decide
  have hdsn : auditDsn defaultPort "postgresql" defaultTopology "bench".toList awkward =
      .ok sampleArgs.dsn := by
    rw [auditDsn_eq, auditAddress, if_pos rfl, hordered]
    rfl
  have huri : workloadUri defaultPort "postgresql" defaultTopology gcp1 "ycsb".toList awkward =
      .ok (pgGeneratorDsn "ycsb".toList awkward) := if_pos rfl
  (chaosCommands_reach defaultPort documented_testbed bare_ycsb plain_defaultTopology
    (by decide : IsName "ycsb".toList) (by decide : IsName "bench".toList)
    ⟨by decide, by decide⟩ (fun _ => isPassword_awkward) huri hdsn 100 180).2

end CrdbLab.RemoteCommands
