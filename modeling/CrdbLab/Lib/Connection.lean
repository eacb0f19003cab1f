import CrdbLab.Lib.Fields
import CrdbLab.Lib.Numeral
import CrdbLab.Lib.Percent

/-!
Connection addresses.

An address names a user and perhaps a password, the hosts in the order they are tried, a database
and its options. `read` reads the text of an address back, whatever bytes the password has. What
is asked of an address for that is what the readers of such texts document, too.
-/

namespace CrdbLab.Lib.Connection

open CrdbLab.Lib.Fields CrdbLab.Lib.Percent

structure Address where
  user : List Char
  password : Option (List UInt8)
  /-- The hosts, each with its port. -/
  hosts : List (List Char × List Char)
  database : List Char
  options : List (List Char × List Char)
  deriving DecidableEq, Repr

def scheme : List Char := "postgresql://".toList

/-- Two parts with a sign between them. -/
def joined (c : Char) (e : List Char × List Char) : List Char := e.1 ++ c :: e.2

def userText (a : Address) : List Char :=
  match a.password with
  | none => a.user
  | some bytes => joined ':' (a.user, quote bytes)

def authority (a : Address) : List Char :=
  joined '@' (userText a, [','].intercalate (a.hosts.map (joined ':')))

def text (a : Address) : List Char :=
  scheme ++ joined '/' (authority a,
    joined '?' (a.database, ['&'].intercalate (a.options.map (joined '='))))

lemma text_of_password {a : Address} {bytes : List UInt8} (h : a.password = some bytes) :
    (scheme ++ (a.user ++ [':'])) ++ quote bytes ++
        '@' :: [','].intercalate (a.hosts.map (joined ':')) ++ '/' :: a.database ++
        '?' :: ['&'].intercalate (a.options.map (joined '=')) = text a := by
  simp only [text, authority, userText, h, joined, List.append_assoc, List.cons_append,
    List.nil_append]

lemma text_of_no_password {a : Address} (h : a.password = none) :
    (scheme ++ (a.user ++ ['@'])) ++ [','].intercalate (a.hosts.map (joined ':')) ++
        '/' :: a.database ++ '?' :: ['&'].intercalate (a.options.map (joined '=')) = text a := by
  simp only [text, authority, userText, h, joined, List.append_assoc, List.cons_append,
    List.nil_append]

/-! ### Reading -/

def readUser (s : List Char) : Option (List Char × Option (List UInt8)) :=
  match entry ':' s with
  | none => some (s, none)
  | some (user, password) => (unquote password).map fun bytes => (user, some bytes)

/-- The address of a text that has all its parts. -/
def read (s : List Char) : Option Address := do
  let rest ← s.dropPrefix? scheme
  let (authority, path) ← entry '/' rest
  let (userText, hostsText) ← entry '@' authority
  let (user, password) ← readUser userText
  let hosts ← (hostsText.splitOn ',').mapM (entry ':')
  let (database, optionsText) ← entry '?' path
  let options ← (optionsText.splitOn '&').mapM (entry '=')
  pure { user, password, hosts, database, options }

/-! ### Round trip -/

/-- A letter, a digit or one of three marks: never a sign between two parts. -/
def isPlain (c : Char) : Bool := c.isAlphanum || c = '_' || c = '-' || c = '.'

def Plain (s : List Char) : Prop := ∀ c ∈ s, isPlain c = true

instance (s : List Char) : Decidable (Plain s) :=
  decidable_of_iff (s.all isPlain = true) List.all_eq_true

/-- A plain text that is not empty. -/
def IsName (s : List Char) : Prop := Plain s ∧ s ≠ []

instance (s : List Char) : Decidable (IsName s) := inferInstanceAs (Decidable (_ ∧ _))

/-- The number of a port, as a text. -/
def IsPort (s : List Char) : Prop := ∃ n, 1 ≤ n ∧ n ≤ 65535 ∧ s = Nat.toDigits 10 n

/-- A password that can be given: some bytes, none of them zero. -/
def IsPassword (bytes : List UInt8) : Prop := bytes ≠ [] ∧ 0 ∉ bytes

instance (bytes : List UInt8) : Decidable (IsPassword bytes) := inferInstanceAs (Decidable (_ ∧ _))

/-- The signs between the parts, and what no text can have in quotes. -/
def signs : List Char :=
  [':', '@', ',', '/', '?', '&', '=', '%', Char.ofNat 39, Char.ofNat 0]

lemma Plain.absent {s : List Char} (h : Plain s) {c : Char} (hc : c ∈ signs) : c ∉ s := by
  have hsigns : signs.any isPlain = false := by decide
  exact fun hs => List.any_eq_false.mp hsigns c hc (h c hs)

lemma plain_toDigits (n : ℕ) : Plain (Nat.toDigits 10 n) := fun c hc => by
  have hdigit : ∀ d < 10, isPlain (Nat.digitChar d) = true := by decide
  obtain ⟨d, hd, rfl⟩ := CrdbLab.Lib.Numeral.exists_of_mem_toDigits hc
  exact hdigit d hd

/-- All parts but the password are plain, and none is missing or given twice. -/
structure WellFormed (a : Address) : Prop where
  user : IsName a.user
  password : ∀ bytes ∈ a.password, IsPassword bytes
  hosts : ∀ e ∈ a.hosts, IsName e.1 ∧ IsPort e.2
  someHost : a.hosts ≠ []
  database : IsName a.database
  options : ∀ e ∈ a.options, IsName e.1 ∧ IsName e.2
  distinct : (a.options.map Prod.fst).Nodup
  someOption : a.options ≠ []

lemma WellFormed.plain_hosts {a : Address} (h : WellFormed a) :
    ∀ e ∈ a.hosts, Plain e.1 ∧ Plain e.2 := by
  intro e he
  obtain ⟨hhost, n, -, -, hport⟩ := h.hosts e he
  exact ⟨hhost.1, hport ▸ plain_toDigits n⟩

lemma WellFormed.plain_options {a : Address} (h : WellFormed a) :
    ∀ e ∈ a.options, Plain e.1 ∧ Plain e.2 := fun e he =>
  ⟨(h.options e he).1.1, (h.options e he).2.1⟩

variable {a : Address}

lemma not_mem_joined {c d : Char} (hne : c ≠ d) {e : List Char × List Char} (h : c ∉ e.1)
    (h' : c ∉ e.2) : c ∉ joined d e := by
  simp [joined, h, h', hne]

/-- Written signs are read: no sign but the percent stands in what is quoted. -/
lemma absent_quote {bytes : List UInt8} {c : Char} (hc : isWritten c = false) : c ∉ quote bytes :=
  fun h => by
    rw [isWritten_of_mem_quote h] at hc
    cases hc

lemma entry_joined {c : Char} {k : List Char} (hk : c ∉ k) (v : List Char) :
    entry c (joined c (k, v)) = some (k, v) :=
  entry_append hk v

lemma mapM_entry {c : Char} {l : List (List Char × List Char)} (h : ∀ e ∈ l, c ∉ e.1) :
    (l.map (joined c)).mapM (entry c) = some l := by
  induction l with
  | nil => rfl
  | cons e l ih =>
    rw [List.map_cons, List.mapM_cons, entry_joined (h e List.mem_cons_self),
      ih fun e' he' => h e' (List.mem_cons_of_mem e he')]
    rfl

lemma not_mem_intercalate {c d : Char} (hne : c ≠ d) {l : List (List Char)}
    (h : ∀ s ∈ l, c ∉ s) : c ∉ [d].intercalate l := by
  induction l with
  | nil => exact List.not_mem_nil
  | cons s l ih =>
    have hs := h s List.mem_cons_self
    have hl := ih fun s' hs' => h s' (List.mem_cons_of_mem s hs')
    cases l with
    | nil => rwa [List.intercalate_singleton]
    | cons s' l =>
      rw [List.intercalate_cons_cons]
      simp [hs, hl, hne]

/-- A list of pairs between signs is read back. -/
lemma read_pairs {c d : Char} (hne : c ≠ d) (hc : c ∈ signs) (hd : d ∈ signs)
    {l : List (List Char × List Char)} (h : ∀ e ∈ l, Plain e.1 ∧ Plain e.2) (hl : l ≠ []) :
    (([d].intercalate (l.map (joined c))).splitOn d).mapM (entry c) = some l := by
  rw [List.splitOn_intercalate d ?_ (by simpa using hl), mapM_entry fun e he => (h e he).1.absent hc]
  intro s hs
  obtain ⟨e, he, rfl⟩ := List.mem_map.mp hs
  exact not_mem_joined hne.symm ((h e he).1.absent hd) ((h e he).2.absent hd)

lemma entry_of_absent {c : Char} {s : List Char} (h : c ∉ s) : entry c s = none := by
  rw [entry, after_eq_none (List.mem_singleton_self c) h, Option.map_none]

lemma readUser_userText (h : WellFormed a) : readUser (userText a) = some (a.user, a.password) := by
  have hcolon : ':' ∉ a.user := h.user.1.absent (by decide)
  unfold readUser userText
  cases a.password with
  | none => rw [entry_of_absent hcolon]
  | some bytes =>
    rw [entry_joined hcolon]
    dsimp only
    rw [unquote_quote, Option.map_some]

/-- A sign that is neither the colon nor in what is quoted is not in the part of the user. -/
lemma absent_userText (h : WellFormed a) {c : Char} (hc : c ∈ signs) (hne : c ≠ ':')
    (hw : isWritten c = false) : c ∉ userText a := by
  unfold userText
  cases a.password with
  | none => exact h.user.1.absent hc
  | some bytes => exact not_mem_joined hne (h.user.1.absent hc) (absent_quote hw)

lemma absent_pairs {c d s : Char} {l : List (List Char × List Char)}
    (h : ∀ e ∈ l, Plain e.1 ∧ Plain e.2) (hs : s ∈ signs) (hc : s ≠ c) (hd : s ≠ d) :
    s ∉ [d].intercalate (l.map (joined c)) := by
  refine not_mem_intercalate hd fun t ht => ?_
  obtain ⟨e, he, rfl⟩ := List.mem_map.mp ht
  exact not_mem_joined hc ((h e he).1.absent hs) ((h e he).2.absent hs)

lemma absent_authority (h : WellFormed a) {c : Char} (hc : c ∈ signs) (hcolon : c ≠ ':')
    (hat : c ≠ '@') (hcomma : c ≠ ',') (hw : isWritten c = false) : c ∉ authority a :=
  not_mem_joined hat (absent_userText h hc hcolon hw) (absent_pairs h.plain_hosts hc hcolon hcomma)

/-- **Round trip**: the text of an address is read as the address. -/
theorem read_text (h : WellFormed a) : read (text a) = some a := by
  have hslash : '/' ∉ authority a := absent_authority h (by decide) (by decide) (by decide)
    (by decide) (by decide)
  have hat : '@' ∉ userText a := absent_userText h (by decide) (by decide) (by decide)
  have hquery : '?' ∉ a.database := h.database.1.absent (by decide)
  have hhosts := read_pairs (c := ':') (d := ',') (by decide) (by decide) (by decide)
    h.plain_hosts h.someHost
  have hoptions := read_pairs (c := '=') (d := '&') (by decide) (by decide) (by decide)
    h.plain_options h.someOption
  have hprefix : (text a).dropPrefix? scheme = some (joined '/' (authority a,
      joined '?' (a.database, ['&'].intercalate (a.options.map (joined '='))))) :=
    List.dropPrefix?_append_of_beq _ (BEq.refl _)
  rw [read, hprefix]
  simp only [Option.bind_eq_bind, Option.bind_some, entry_joined hslash, entry_joined hquery]
  rw [authority, entry_joined hat]
  simp only [Option.bind_some, readUser_userText h, hhosts, hoptions]
  rfl

/-- Neither a single quote nor a zero character is in the text of an address. -/
lemma absent_text (h : WellFormed a) {c : Char} (hc : c = Char.ofNat 39 ∨ c = Char.ofNat 0) :
    c ∉ text a := by
  have hsign : c ∈ signs := by rcases hc with rfl | rfl <;> decide
  have hapart : c ∉ scheme ++ [':', '@', ',', '/', '?', '&', '='] ∧ isWritten c = false := by
    rcases hc with rfl | rfl <;> decide +kernel
  obtain ⟨hmarks, hwritten⟩ := hapart
  simp only [List.mem_append, List.mem_cons, List.not_mem_nil, or_false, not_or] at hmarks
  obtain ⟨hscheme, hcolon, hat, hcomma, hslash, hquery, hand, hequals⟩ := hmarks
  have hauthority := absent_authority h hsign hcolon hat hcomma hwritten
  have hoptions := absent_pairs (c := '=') (d := '&') h.plain_options hsign hequals hand
  rw [text, List.mem_append, not_or]
  exact ⟨hscheme, not_mem_joined hslash hauthority
    (not_mem_joined hquery (h.database.1.absent hsign) hoptions)⟩

end CrdbLab.Lib.Connection
