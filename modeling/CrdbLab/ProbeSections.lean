import CrdbLab.Lib.Fallible
import CrdbLab.Lib.Lines
import CrdbLab.ParsePing
import CrdbLab.Preflight
import Mathlib.Data.Bool.AllAny

/-!
One session that probes all links of a node, and how its output is taken apart.

The remote script prints a line before each answer that names the section. What is read is kept
until the next such line, and only then attributed to the destination it was read for. An answer
that does not end its last line takes the line that follows it away.
-/

namespace CrdbLab.ProbeSections

open CrdbLab.Lib.Dictionary CrdbLab.Lib.Fallible CrdbLab.Lib.Lines CrdbLab.Lib.Numeral
open CrdbLab.ManifestNotes CrdbLab.NetworkProbe CrdbLab.ParsePing CrdbLab.Preflight
open CrdbLab.Testbed

/-! ### The script -/

def pingCount : ℕ := 100

def pingIntervalS : String := "0.1"

def mtuMarker : String := "==MTU=="

def pingMarker (host : String) : String := "==PING:" ++ host ++ "=="

def echo (text : String) : String := "echo '" ++ text ++ "'"

def mtuCommand : String := "cat /sys/class/net/tailscale0/mtu 2>/dev/null || echo UNKNOWN"

def pingCommand (host : String) : String :=
  "ping -c " ++ toString pingCount ++ " -i " ++ pingIntervalS ++ " -W 1 " ++ host ++
    " 2>/dev/null || true"

/-- The commands of the script, one a line. -/
def remoteScript (destinations : List Node) : List String :=
  [echo mtuMarker, mtuCommand] ++
    destinations.flatMap fun dest => [echo (pingMarker dest.host), pingCommand dest.host]

/-- What the commands print, one after the other. -/
def transcript (shell : String → List Char) (script : List String) : List Char :=
  script.flatMap shell

/-! ### Sections -/

/-- The name in a section line of a destination: `^==PING:(?P<dest>[^=]+)==$`. -/
def sectionRe (stripped : List Char) : Option (List Char) :=
  if "==PING:".toList.isPrefixOf stripped then
    let body := stripped.drop "==PING:".length
    let dest := body.takeWhile (· ≠ '=')
    if dest ≠ [] ∧ body.dropWhile (· ≠ '=') = ['=', '='] then some dest else none
  else none

inductive Section | mtu | ping
  deriving DecidableEq, Repr

/-- The state of the reader. -/
structure Scan where
  reading : Option Section := none
  dest : Option String := none
  buffer : List (List Char) := []
  mtu : Option ℕ := none
  links : Dict String LinkStats := .empty

/-- `"\n".join` -/
def joinLines (lines : List (List Char)) : List Char := [Char.ofNat 10].intercalate lines

def Scan.flush (s : Scan) : Except PyError Scan :=
  match s.reading, s.dest with
  | some .ping, some dest => do
    let stats ← parsePing (joinLines s.buffer)
    return { s with links := s.links.set dest stats }
  | _, _ => .ok s

def Scan.readLine (s : Scan) (line : List Char) : Except PyError Scan :=
  let stripped := strip isSpace line
  match sectionRe stripped with
  | some dest => do
    let s ← s.flush
    return { s with
      reading := some .ping, dest := some (String.ofList (strip isSpace dest)), buffer := [] }
  | none =>
    if stripped = mtuMarker.toList then do
      let s ← s.flush
      return { s with reading := some .mtu, dest := none, buffer := [] }
    else if s.reading = some .mtu ∧ isDigitText stripped then do
      let mtu ← intOfDigits stripped
      return { s with mtu := some mtu }
    else if s.reading = some .ping then .ok { s with buffer := s.buffer ++ [stripped] }
    else .ok s

/-- `str.splitlines` -/
def lines (text : List Char) : List (List Char) :=
  splitLines isLineBreak (Char.ofNat 13) (Char.ofNat 10) text

def readOutput (stdout : List Char) : Except PyError Scan := do
  let s ← (lines stdout).foldlM Scan.readLine {}
  s.flush

/-- `(proc.stderr or proc.stdout).strip()[:300]` -/
def failureText (proc : RemoteResult) : String :=
  let text := if proc.stderr ≠ "" then proc.stderr else proc.stdout
  String.ofList ((strip isSpace text.toList).take 300)

/-- Probes all destinations from one source; without a result the session timed out. -/
def probeNode (source : Node) (proc : Option RemoteResult) : Except PyError NodeProbe :=
  match proc with
  | none => .ok { node := source.host, error := some "probe timed out" }
  | some proc =>
    if proc.returncode ≠ 0 then .ok { node := source.host, error := some (failureText proc) }
    else do
      let s ← readOutput proc.stdout.toList
      return { node := source.host, mtu := s.mtu, links := s.links }

/-! ### Section lines -/

/-- The line starts a section. -/
def Marker (line : List Char) : Prop :=
  sectionRe (strip isSpace line) ≠ none ∨ strip isSpace line = mtuMarker.toList

instance (line : List Char) : Decidable (Marker line) := inferInstanceAs (Decidable (_ ∨ _))

/-- A name that stands in a section line. -/
structure Name (host : String) : Prop where
  nonempty : host ≠ ""
  plain : '=' ∉ host.toList
  stripped : strip isSpace host.toList = host.toList

instance (host : String) : Decidable (Name host) :=
  decidable_of_iff (host ≠ "" ∧ '=' ∉ host.toList ∧ strip isSpace host.toList = host.toList)
    ⟨fun ⟨h, h', h''⟩ => ⟨h, h', h''⟩, fun ⟨h, h', h''⟩ => ⟨h, h', h''⟩⟩

lemma toList_pingMarker (host : String) :
    (pingMarker host).toList = "==PING:".toList ++ (host.toList ++ ['=', '=']) := by
  simp [pingMarker]

lemma sectionRe_pingMarker {host : String} (h : Name host) :
    sectionRe (pingMarker host).toList = some host.toList := by
  have hpre : "==PING:".toList.isPrefixOf (pingMarker host).toList = true := by
    rw [List.isPrefixOf_iff_prefix, toList_pingMarker]
    exact List.prefix_append _ _
  have hdrop : (pingMarker host).toList.drop "==PING:".length = host.toList ++ ['=', '='] := by
    rw [toList_pingMarker]
    rfl
  have hname : ∀ c ∈ host.toList, decide (c ≠ '=') = true := fun c hc =>
    decide_eq_true fun heq => h.plain (heq ▸ hc)
  have htake : (host.toList ++ ['=', '=']).takeWhile (· ≠ '=') = host.toList := by
    rw [List.takeWhile_append_of_pos hname]
    simp
  have hrest : (host.toList ++ ['=', '=']).dropWhile (· ≠ '=') = ['=', '='] := by
    rw [List.dropWhile_append_of_pos hname]
    rfl
  have hne : host.toList ≠ [] := fun hnil => h.nonempty (String.toList_eq_nil_iff.mp hnil)
  rw [sectionRe, if_pos hpre, hdrop]
  dsimp only
  rw [htake, hrest, if_pos ⟨hne, rfl⟩]

lemma strip_pingMarker (host : String) :
    strip isSpace (pingMarker host).toList = (pingMarker host).toList := by
  refine strip_of_ends (fun c hc => ?_) fun c hc => ?_
  · rw [toList_pingMarker] at hc
    obtain rfl : '=' = c := Option.some.inj hc
    decide
  · rw [toList_pingMarker, ← List.append_assoc, List.getLast?_append_of_ne_nil _ (by simp)] at hc
    obtain rfl : '=' = c := Option.some.inj hc
    decide

/-! ### Reading -/

/-- Behind the section line of a destination. -/
def Scan.enter (s : Scan) (host : String) : Scan :=
  { s with reading := some .ping, dest := some host, buffer := [] }

lemma readLine_pingMarker {host : String} (h : Name host) (s : Scan) :
    s.readLine (pingMarker host).toList = s.flush.map fun s' => s'.enter host := by
  unfold Scan.readLine
  simp only [strip_pingMarker, sectionRe_pingMarker h, h.stripped, String.ofList_toList]
  cases s.flush <;> rfl

lemma readLine_mtuMarker :
    ({} : Scan).readLine mtuMarker.toList = .ok { reading := some .mtu } := by
  have hstrip : strip isSpace mtuMarker.toList = mtuMarker.toList := by decide +kernel
  have hsection : sectionRe mtuMarker.toList = none := by decide +kernel
  unfold Scan.readLine
  simp only [hstrip, hsection, if_true]
  rfl

/-- A number in the section of the MTU. -/
def readMtu (mtu : Option ℕ) (line : List Char) : Except PyError (Option ℕ) :=
  if isDigitText (strip isSpace line) then (intOfDigits (strip isSpace line)).map some else .ok mtu

/-- Lines of the first section only tell the MTU. -/
lemma foldlM_readLine_mtu {s : Scan} (hs : s.reading = some .mtu) {body : List (List Char)}
    (hbody : ∀ line ∈ body, ¬ Marker line) :
    body.foldlM Scan.readLine s =
      (body.foldlM readMtu s.mtu).map fun mtu => { s with mtu := mtu } := by
  induction body generalizing s with
  | nil => rfl
  | cons line body ih =>
    obtain ⟨hsection, hmtu⟩ := not_or.mp (hbody line List.mem_cons_self)
    have hrest := fun l hl => hbody l (List.mem_cons_of_mem line hl)
    have hline : s.readLine line = (readMtu s.mtu line).map fun mtu => { s with mtu := mtu } := by
      unfold Scan.readLine readMtu
      dsimp only
      rw [not_not.mp hsection]
      dsimp only
      rw [if_neg hmtu]
      by_cases hdigits : isDigitText (strip isSpace line) = true
      · rw [if_pos ⟨hs, hdigits⟩, if_pos hdigits]
        cases intOfDigits (strip isSpace line) <;> rfl
      · rw [if_neg fun h => hdigits h.2, if_neg (by simp [hs]), if_neg hdigits]
        rfl
    rw [List.foldlM_cons, List.foldlM_cons, hline]
    cases readMtu s.mtu line with
    | error e => rfl
    | ok mtu => exact ih hs hrest

/-- Lines of a destination's section are kept. -/
lemma foldlM_readLine_ping {s : Scan} (hs : s.reading = some .ping) {body : List (List Char)}
    (hbody : ∀ line ∈ body, ¬ Marker line) :
    body.foldlM Scan.readLine s =
      .ok { s with buffer := s.buffer ++ body.map (strip isSpace) } := by
  induction body generalizing s with
  | nil => simp [pure, Except.pure]
  | cons line body ih =>
    obtain ⟨hsection, hmtu⟩ := not_or.mp (hbody line List.mem_cons_self)
    have hrest := fun l hl => hbody l (List.mem_cons_of_mem line hl)
    have hline : s.readLine line = .ok { s with buffer := s.buffer ++ [strip isSpace line] } := by
      unfold Scan.readLine
      dsimp only
      rw [not_not.mp hsection]
      dsimp only
      rw [if_neg hmtu, if_neg (by simp [hs]), if_pos hs]
    rw [List.foldlM_cons, hline]
    have hs' : ({ s with buffer := s.buffer ++ [strip isSpace line] } : Scan).reading =
        some .ping := hs
    refine (ih hs' hrest).trans ?_
    rw [List.append_assoc, List.singleton_append, List.map_cons]

/-! ### Sections in turn -/

/-- The answer of a destination, each line without the white space around it. -/
def strippedAnswer (answer : List Char) : List Char :=
  joinLines ((lines answer).map (strip isSpace))

/-- The links after the answer of one more destination. -/
def addLink (answer : Node → List Char) (links : Dict String LinkStats) (d : Node) :
    Except PyError (Dict String LinkStats) :=
  (parsePing (strippedAnswer (answer d))).map fun stats => links.set d.host stats

/-- Each section is attributed to its own destination, whatever was being read before it. -/
lemma foldlM_sections {answer : Node → List Char} {destinations : List Node}
    (hnames : ∀ d ∈ destinations, Name d.host)
    (hplain : ∀ d ∈ destinations, ∀ line ∈ lines (answer d), ¬ Marker line) (s : Scan) :
    (((destinations.flatMap fun d => (pingMarker d.host).toList :: lines (answer d)).foldlM
        Scan.readLine s) >>= Scan.flush).map (fun s' => (s'.mtu, s'.links)) =
      s.flush >>= fun s' => (destinations.foldlM (addLink answer) s'.links).map fun links =>
        (s'.mtu, links) := by
  induction destinations generalizing s with
  | nil =>
    show s.flush.map _ = s.flush >>= _
    cases s.flush <;> rfl
  | cons d destinations ih =>
    have hd := hnames d List.mem_cons_self
    have hrest := ih (fun d' h => hnames d' (List.mem_cons_of_mem d h))
      fun d' h => hplain d' (List.mem_cons_of_mem d h)
    rw [List.flatMap_cons, List.cons_append, List.foldlM_cons, readLine_pingMarker hd]
    cases hflush : s.flush with
    | error e => rfl
    | ok s₁ =>
      let t : Scan := { s₁.enter d.host with buffer := (lines (answer d)).map (strip isSpace) }
      have hbody : (lines (answer d)).foldlM Scan.readLine (s₁.enter d.host) = .ok t :=
        foldlM_readLine_ping rfl (hplain d List.mem_cons_self)
      have hflush' : t.flush = (parsePing (strippedAnswer (answer d))).map fun stats =>
          { t with links := s₁.links.set d.host stats } := by
        show (parsePing (strippedAnswer (answer d)) >>= fun stats => _) = _
        cases parsePing (strippedAnswer (answer d)) <;> rfl
      show (((lines (answer d) ++ _).foldlM Scan.readLine (s₁.enter d.host)) >>=
        Scan.flush).map _ = _
      rw [List.foldlM_append, hbody]
      refine (hrest t).trans ?_
      rw [hflush']
      show _ = ((d :: destinations).foldlM (addLink answer) s₁.links).map _
      rw [List.foldlM_cons, addLink]
      cases parsePing (strippedAnswer (answer d)) <;> rfl

/-! ### The links -/

section Links

variable {answer : Node → List Char}

lemma addLink_eq_ok_iff {links links' : Dict String LinkStats} {d : Node} :
    addLink answer links d = .ok links' ↔ ∃ stats,
      parsePing (strippedAnswer (answer d)) = .ok stats ∧ links.set d.host stats = links' :=
  map_eq_ok_iff

/-- Every destination of other names gets a link of its own, in turn. -/
lemma foldlM_addLink {destinations : List Node} {links links' : Dict String LinkStats}
    (hnodup : (links.entries.map Prod.fst ++ destinations.map Node.host).Nodup)
    (h : destinations.foldlM (addLink answer) links = .ok links') :
    ∃ added, links'.entries = links.entries ++ added ∧
      List.Forall₂ (fun d e => e.1 = d.host ∧ parsePing (strippedAnswer (answer d)) = .ok e.2)
        destinations added := by
  induction destinations generalizing links with
  | nil =>
    obtain rfl : links = links' := Except.ok.inj h
    exact ⟨[], (List.append_nil _).symm, List.Forall₂.nil⟩
  | cons d destinations ih =>
    rw [List.foldlM_cons] at h
    obtain ⟨links₁, hlinks₁, hrest⟩ := bind_eq_ok_iff.mp h
    obtain ⟨stats, hstats, rfl⟩ := addLink_eq_ok_iff.mp hlinks₁
    have hnew : d.host ∉ links.entries.map Prod.fst := fun hmem =>
      List.disjoint_of_nodup_append hnodup hmem (by simp)
    have hentries : (links.set d.host stats).entries = links.entries ++ [(d.host, stats)] :=
      if_neg hnew
    have hnodup' : ((links.set d.host stats).entries.map Prod.fst ++
        destinations.map Node.host).Nodup := by
      simpa [hentries] using hnodup
    obtain ⟨added, hadded, hall⟩ := ih hnodup' hrest
    refine ⟨(d.host, stats) :: added, ?_, List.Forall₂.cons ⟨rfl, hstats⟩ hall⟩
    rw [hadded, hentries, List.append_assoc, List.singleton_append]

lemma completes_foldlM_addLink {destinations : List Node} (links : Dict String LinkStats) :
    Completes (destinations.foldlM (addLink answer) links) ↔
      ∀ d ∈ destinations, Completes (parsePing (strippedAnswer (answer d))) := by
  induction destinations generalizing links with
  | nil => simp
  | cons d destinations ih =>
    rw [List.foldlM_cons, completes_bind, List.forall_mem_cons]
    constructor
    · rintro ⟨links₁, hlinks₁, hrest⟩
      obtain ⟨stats, hstats, -⟩ := addLink_eq_ok_iff.mp hlinks₁
      exact ⟨⟨stats, hstats⟩, (ih links₁).mp hrest⟩
    · rintro ⟨⟨stats, hstats⟩, hrest⟩
      exact ⟨_, addLink_eq_ok_iff.mpr ⟨stats, hstats, rfl⟩, (ih _).mpr hrest⟩

end Links

/-- `int` reads each line of digits of the answer. -/
def MtuReadable (answer : List Char) : Prop :=
  ∀ line ∈ lines answer, isDigitText (strip isSpace line) = true →
    Completes (intOfDigits (strip isSpace line))

lemma completes_foldlM_readMtu {body : List (List Char)} (mtu : Option ℕ) :
    Completes (body.foldlM readMtu mtu) ↔ ∀ line ∈ body, isDigitText (strip isSpace line) = true →
      Completes (intOfDigits (strip isSpace line)) := by
  induction body generalizing mtu with
  | nil => simp
  | cons line body ih =>
    rw [List.foldlM_cons, completes_bind, List.forall_mem_cons]
    simp only [ih]
    have hline : (∃ x, readMtu mtu line = .ok x) ↔ (isDigitText (strip isSpace line) = true →
        Completes (intOfDigits (strip isSpace line))) := by
      unfold readMtu
      split_ifs with hdigits
      · rw [forall_prop_of_true hdigits]
        exact completes_map
      · simp [hdigits]
    rw [exists_and_right, hline]

/-! ### The whole session -/

/-- What the session prints in answer to the commands of the sections. -/
def answers (shell : String → List Char) (destinations : List Node) : List (List Char) :=
  shell mtuCommand :: destinations.map fun d => shell (pingCommand d.host)

/-- The shell prints the section lines it is told to echo. -/
def Echoes (shell : String → List Char) (destinations : List Node) : Prop :=
  ∀ text ∈ mtuMarker :: destinations.map fun d => pingMarker d.host,
    '\'' ∉ text.toList → shell (echo text) = text.toList ++ [newline]

/-- Destinations of different names, none of whose answers holds a section line. -/
structure Sweep (shell : String → List Char) (destinations : List Node) : Prop where
  echoes : Echoes shell destinations
  distinct : (destinations.map Node.host).Nodup
  names : ∀ d ∈ destinations, Name d.host
  plain : ∀ d ∈ destinations, ∀ line ∈ lines (shell (pingCommand d.host)), ¬ Marker line

/-- What keeps the section lines whole: no quote and no line break in a name, and every answer but
the last ends its last line. -/
structure Whole (shell : String → List Char) (destinations : List Node) : Prop where
  unquoted : ∀ d ∈ destinations, '\'' ∉ d.host.toList
  unbroken : ∀ d ∈ destinations, ∀ c ∈ d.host.toList, isLineBreak c = false
  complete : ∀ answer ∈ (answers shell destinations).dropLast, Complete isLineBreak answer

section Session

variable {shell : String → List Char} {destinations : List Node}

/-- The section lines with the answers behind them. -/
def sections (shell : String → List Char) (destinations : List Node) :
    List (List Char × List Char) :=
  (mtuMarker.toList, shell mtuCommand) ::
    destinations.map fun d => ((pingMarker d.host).toList, shell (pingCommand d.host))

lemma transcript_eq (hecho : Echoes shell destinations)
    (hquote : ∀ d ∈ destinations, '\'' ∉ d.host.toList) :
    transcript shell (remoteScript destinations) =
      (sections shell destinations).flatMap fun s => s.1 ++ newline :: s.2 := by
  have hmtu : shell (echo mtuMarker) = mtuMarker.toList ++ [newline] :=
    hecho mtuMarker List.mem_cons_self (by decide +kernel)
  have hping : ∀ d ∈ destinations,
      shell (echo (pingMarker d.host)) = (pingMarker d.host).toList ++ [newline] := by
    intro d hd
    refine hecho _ (List.mem_cons_of_mem _ (List.mem_map_of_mem hd)) ?_
    rw [toList_pingMarker]
    simp [hquote d hd]
  rw [transcript, remoteScript, sections, List.flatMap_append, List.flatMap_cons, List.flatMap_cons,
    List.flatMap_cons, List.flatMap_nil, List.append_nil, hmtu, List.flatMap_assoc,
    List.flatMap_map]
  rw [List.append_assoc, List.append_assoc, List.append_assoc, List.singleton_append]
  refine congrArg _ (congrArg _ (congrArg _ (List.flatMap_congr fun d hd => ?_)))
  rw [List.flatMap_cons, List.flatMap_cons, List.flatMap_nil, List.append_nil, hping d hd,
    List.append_assoc, List.singleton_append]

lemma lines_transcript (h : Sweep shell destinations) (hwhole : Whole shell destinations) :
    lines (transcript shell (remoteScript destinations)) =
      mtuMarker.toList :: (lines (shell mtuCommand) ++ destinations.flatMap fun d =>
        (pingMarker d.host).toList :: lines (shell (pingCommand d.host))) := by
  have hheader : ∀ s ∈ sections shell destinations,
      s.1 ≠ [] ∧ ∀ c ∈ s.1, isLineBreak c = false := by
    intro s hs
    rcases List.mem_cons.mp hs with rfl | hs
    · have hne : mtuMarker.toList ≠ [] := by decide +kernel
      have hunbroken : ∀ c ∈ mtuMarker.toList, isLineBreak c = false :=
        List.all_iff_forall_prop.mp (by decide +kernel)
      exact ⟨hne, hunbroken⟩
    · obtain ⟨d, hd, rfl⟩ := List.mem_map.mp hs
      dsimp only
      rw [toList_pingMarker]
      refine ⟨List.append_ne_nil_of_left_ne_nil (by decide) _, fun c hc => ?_⟩
      have hfixed : ∀ c ∈ "==PING:".toList ++ ['=', '='], isLineBreak c = false :=
        List.all_iff_forall_prop.mp (by decide +kernel)
      rcases List.mem_append.mp hc with hc | hc
      · exact hfixed c (List.mem_append_left _ hc)
      · rcases List.mem_append.mp hc with hc | hc
        · exact hwhole.unbroken d hd c hc
        · exact hfixed c (List.mem_append_right _ hc)
  have hcomplete : ∀ s ∈ (sections shell destinations).dropLast, Complete isLineBreak s.2 := by
    intro s hs
    refine hwhole.complete s.2 ?_
    have hanswers : answers shell destinations = (sections shell destinations).map Prod.snd := by
      simp [answers, sections]
    rw [hanswers, ← List.map_dropLast]
    exact List.mem_map_of_mem hs
  rw [transcript_eq h.echoes hwhole.unquoted, lines,
    splitLines_sections (by decide) (by decide) (by decide) hheader hcomplete, sections,
    List.flatMap_cons, List.flatMap_map]
  rfl

/-- The MTU and the links that a session leaves. -/
lemma readOutput_transcript (h : Sweep shell destinations) (hwhole : Whole shell destinations)
    (hmtu : ∀ line ∈ lines (shell mtuCommand), ¬ Marker line) :
    (readOutput (transcript shell (remoteScript destinations))).map (fun s => (s.mtu, s.links)) =
      (lines (shell mtuCommand)).foldlM readMtu none >>= fun mtu =>
        (destinations.foldlM (addLink fun d => shell (pingCommand d.host)) .empty).map
          fun links => (mtu, links) := by
  rw [readOutput, lines_transcript h hwhole, List.foldlM_cons, readLine_mtuMarker]
  show (((lines (shell mtuCommand) ++ _).foldlM Scan.readLine { reading := some .mtu }) >>=
    Scan.flush).map _ = _
  rw [List.foldlM_append, foldlM_readLine_mtu rfl hmtu]
  cases (lines (shell mtuCommand)).foldlM readMtu none with
  | error e => rfl
  | ok mtu => exact foldlM_sections h.names h.plain _

end Session

/-- The stripped answer of a destination. -/
def ownAnswer (shell : String → List Char) (d : Node) : List Char :=
  strippedAnswer (shell (pingCommand d.host))

/-- The links are those of the destinations, each with what ping's own answer says. -/
def Attributed (shell : String → List Char) (destinations : List Node) (probe : NodeProbe) : Prop :=
  probe.error = none ∧ probe.links.entries.map Prod.fst = destinations.map Node.host ∧
    ∀ d ∈ destinations, ∃ stats, parsePing (ownAnswer shell d) = .ok stats ∧
      probe.links.get? d.host = some stats

/-- A session of the script that succeeded. -/
def session (shell : String → List Char) (destinations : List Node) (stderr : String) :
    RemoteResult :=
  ⟨0, String.ofList (transcript shell (remoteScript destinations)), stderr⟩

section Session

variable {shell : String → List Char} {destinations : List Node}

lemma probeNode_session (h : Sweep shell destinations) (hwhole : Whole shell destinations)
    (hmtu : ∀ line ∈ lines (shell mtuCommand), ¬ Marker line) (source : Node) (stderr : String) :
    probeNode source (some (session shell destinations stderr)) =
      ((lines (shell mtuCommand)).foldlM readMtu none >>= fun mtu =>
        (destinations.foldlM (addLink fun d => shell (pingCommand d.host)) .empty).map
          fun links => (mtu, links)).map
        fun p => { node := source.host, mtu := p.1, links := p.2 } := by
  rw [← readOutput_transcript h hwhole hmtu, probeNode, session]
  dsimp only
  rw [if_neg (by decide), String.toList_ofList]
  cases readOutput (transcript shell (remoteScript destinations)) <;> rfl

lemma attributed_of_links {source : Node} {mtu : Option ℕ} {links : Dict String LinkStats}
    (hdistinct : (destinations.map Node.host).Nodup)
    (h : destinations.foldlM (addLink fun d => shell (pingCommand d.host)) .empty = .ok links) :
    Attributed shell destinations { node := source.host, mtu := mtu, links := links } := by
  obtain ⟨added, hadded, hall⟩ := foldlM_addLink (by simpa using hdistinct) h
  have hentries : links.entries = added := hadded
  refine ⟨rfl, ?_, fun d hd => ?_⟩
  · show links.entries.map Prod.fst = _
    rw [hentries]
    clear hadded hentries h hdistinct
    induction hall with
    | nil => rfl
    | cons hhead _ ih => rw [List.map_cons, List.map_cons, ih, hhead.1]
  · obtain ⟨e, he, hhost, hstats⟩ : ∃ e ∈ added, e.1 = d.host ∧
        parsePing (ownAnswer shell d) = .ok e.2 := by
      clear hadded hentries h hdistinct
      induction hall with
      | nil => cases hd
      | cons hhead _ ih =>
        rcases List.mem_cons.mp hd with rfl | hd
        · exact ⟨_, List.mem_cons_self, hhead⟩
        · obtain ⟨e, he, hspec⟩ := ih hd
          exact ⟨e, List.mem_cons_of_mem _ he, hspec⟩
    refine ⟨e.2, hstats, Dict.get?_eq_some_iff.mpr ?_⟩
    show (d.host, e.2) ∈ links.entries
    rw [hentries, ← hhost]
    exact he

lemma completes_probeNode (h : Sweep shell destinations) (hwhole : Whole shell destinations)
    (hmtu : ∀ line ∈ lines (shell mtuCommand), ¬ Marker line) (source : Node) (stderr : String) :
    Completes (probeNode source (some (session shell destinations stderr))) ↔
      MtuReadable (shell mtuCommand) ∧
        ∀ d ∈ destinations, Completes (parsePing (ownAnswer shell d)) := by
  rw [probeNode_session h hwhole hmtu, completes_map, completes_bind]
  simp only [completes_map, completes_foldlM_addLink, exists_and_right]
  exact and_congr (completes_foldlM_readMtu none) Iff.rfl

lemma attributed_of_probeNode (h : Sweep shell destinations) (hwhole : Whole shell destinations)
    (hmtu : ∀ line ∈ lines (shell mtuCommand), ¬ Marker line) {source : Node} {stderr : String}
    {probe : NodeProbe}
    (hprobe : probeNode source (some (session shell destinations stderr)) = .ok probe) :
    Attributed shell destinations probe := by
  rw [probeNode_session h hwhole hmtu] at hprobe
  obtain ⟨⟨mtu, links⟩, hsession, rfl⟩ := map_eq_ok_iff.mp hprobe
  obtain ⟨mtu', -, hlinks⟩ := bind_eq_ok_iff.mp hsession
  obtain ⟨links', hfold, hpair⟩ := map_eq_ok_iff.mp hlinks
  cases hpair
  exact attributed_of_links h.distinct hfold

/-- **Every answer is attributed to its own destination.** The session gives its links unless
reading the answer of a destination by itself ends with an exception. -/
theorem sections_attributed (h : Sweep shell destinations) (hwhole : Whole shell destinations)
    (hmtu : ∀ line ∈ lines (shell mtuCommand), ¬ Marker line)
    (hread : MtuReadable (shell mtuCommand)) (source : Node) (stderr : String) :
    (Completes (probeNode source (some (session shell destinations stderr))) ↔
      ∀ d ∈ destinations, Completes (parsePing (ownAnswer shell d))) ∧
    ∀ probe, probeNode source (some (session shell destinations stderr)) = .ok probe →
      Attributed shell destinations probe := by
  refine ⟨?_, fun probe hprobe => attributed_of_probeNode h hwhole hmtu hprobe⟩
  rw [completes_probeNode h hwhole hmtu, and_iff_right hread]

end Session

/-! ### Sessions with a given shell -/

/-- A shell that answers from a table and echoes a quoted text without its quotes. -/
def shellOf (mtu : String) (pings : List (String × String)) (command : String) : List Char :=
  if command = mtuCommand then mtu.toList
  else
    match pings.find? fun p => command = pingCommand p.1 with
    | some p => p.2.toList
    | none => ((command.toList.drop 6).dropLast.filter (· ≠ '\'')) ++ [newline]

lemma toList_echo (text : String) :
    (echo text).toList = "echo '".toList ++ (text.toList ++ ['\'']) := by
  simp [echo]

lemma echoes_shellOf (mtu : String) (pings : List (String × String)) (destinations : List Node) :
    Echoes (shellOf mtu pings) destinations := by
  intro text _ hquote
  have hfirst : (echo text).toList.head? = some 'e' := by
    rw [toList_echo]
    rfl
  have hmtu : echo text ≠ mtuCommand := by
    intro h
    rw [h] at hfirst
    exact absurd hfirst (by decide +kernel)
  have hping : ∀ host, echo text ≠ pingCommand host := by
    intro host h
    rw [h, pingCommand] at hfirst
    simp only [String.toList_append, List.append_assoc] at hfirst
    cases Option.some.inj hfirst
  have hnone : pings.find? (fun p => echo text = pingCommand p.1) = none :=
    List.find?_eq_none.mpr fun p _ => by simpa using hping p.1
  rw [shellOf, if_neg hmtu, hnone]
  dsimp only
  rw [toList_echo, List.drop_left' (by rfl), List.dropLast_concat]
  refine congrArg (· ++ [newline]) (List.filter_eq_self.mpr fun c hc => ?_)
  exact decide_eq_true fun h => hquote (h ▸ hc)

def gateway : Node := ⟨"crdb-gcp-1", "crdb-gcp-1", "gcp", true⟩

/-- The destinations that a table has answers for. -/
def destinationsOf (pings : List (String × String)) : List Node :=
  pings.map fun p => ⟨p.1, p.1, "aws", false⟩

lemma sweep_shellOf (mtu : String) {pings : List (String × String)}
    (hdistinct : ((destinationsOf pings).map Node.host).Nodup)
    (hnames : ∀ d ∈ destinationsOf pings, Name d.host)
    (hplain : ∀ d ∈ destinationsOf pings,
      ∀ line ∈ lines (shellOf mtu pings (pingCommand d.host)), ¬ Marker line) :
    Sweep (shellOf mtu pings) (destinationsOf pings) :=
  ⟨echoes_shellOf mtu pings _, hdistinct, hnames, hplain⟩

/-- A session with one answer and an empty one. -/
def halfAnswered : List (String × String) :=
  [("crdb-aws-1", "64 bytes: time=25.5 ms\n"), ("crdb-aws-2", "")]

lemma halfAnswered_whole :
    Whole (shellOf "1280\n" halfAnswered) (destinationsOf halfAnswered) where
  unquoted := by decide +kernel
  unbroken := by
    have hall : ∀ d ∈ destinationsOf halfAnswered, d.host.toList.all fun c => !isLineBreak c := by
      decide +kernel
    intro d hd c hc
    simpa using List.all_eq_true.mp (hall d hd) c hc
  complete := by decide +kernel

theorem halfAnswered_attributed :
    (Completes (probeNode gateway (some
        (session (shellOf "1280\n" halfAnswered) (destinationsOf halfAnswered) ""))) ↔
      ∀ d ∈ destinationsOf halfAnswered,
        Completes (parsePing (ownAnswer (shellOf "1280\n" halfAnswered) d))) ∧
    ∀ probe, probeNode gateway (some
        (session (shellOf "1280\n" halfAnswered) (destinationsOf halfAnswered) "")) = .ok probe →
      Attributed (shellOf "1280\n" halfAnswered) (destinationsOf halfAnswered) probe :=
  sections_attributed
    (sweep_shellOf "1280\n" (by decide +kernel) (by decide +kernel) (by decide +kernel))
    halfAnswered_whole (by decide +kernel)
    (by
      intro line hline _
      have hlines : lines (shellOf "1280\n" halfAnswered mtuCommand) = ["1280".toList] := by
        decide +kernel
      rw [hlines, List.mem_singleton] at hline
      exact ⟨1280, by rw [hline]; decide +kernel⟩)
    gateway ""

/-- The names that links were recorded for. -/
def linked (result : Except PyError NodeProbe) : Option (List String) :=
  match result with
  | .ok probe => some (probe.links.entries.map Prod.fst)
  | .error _ => none

/-- The destinations are as they should be, and the session does not give their links. -/
def Misread (mtu : String) (pings : List (String × String)) : Prop :=
  Sweep (shellOf mtu pings) (destinationsOf pings) ∧
    ¬ ∃ probe, probeNode gateway
        (some (session (shellOf mtu pings) (destinationsOf pings) "")) = .ok probe ∧
      Attributed (shellOf mtu pings) (destinationsOf pings) probe

lemma misread_of_linked {mtu : String} {pings : List (String × String)}
    (h : Sweep (shellOf mtu pings) (destinationsOf pings))
    (hlinked : linked (probeNode gateway
      (some (session (shellOf mtu pings) (destinationsOf pings) ""))) ≠
        some ((destinationsOf pings).map Node.host)) : Misread mtu pings := by
  refine ⟨h, ?_⟩
  rintro ⟨probe, hprobe, -, hkeys, -⟩
  rw [hprobe] at hlinked
  exact hlinked (congrArg some hkeys)

/-- What goes wrong: a section line or a digit that is no decimal digit as the MTU, an answer that
does not end its line, a line break or quotes in a name, and a time with two points. -/
theorem misread_sessions :
    Misread "==PING:ghost==\n" [("crdb-aws-1", "")] ∧
    Misread "²\n" [("crdb-aws-1", "")] ∧
    Misread "1280\n" [("crdb-aws-1", "lost"), ("crdb-aws-2", "")] ∧
    Misread "1280\n" [("crdb\naws", "")] ∧
    Misread "1280\n" [("'crdb'", "")] ∧
    Misread "1280\n" [("crdb-aws-1", "time=1.2.3 ms\n")] := by
  refine ⟨?_, ?_, ?_, ?_, ?_, ?_⟩ <;>
    exact misread_of_linked
      (sweep_shellOf _ (by decide +kernel) (by decide +kernel) (by decide +kernel))
      (by decide +kernel)

end CrdbLab.ProbeSections
