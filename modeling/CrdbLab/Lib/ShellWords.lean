import Mathlib.Data.List.Basic
import Mathlib.Tactic.Use

/-!
The words of a shell command.

`Spells` are the rules of quoting by which a text stands for a word, and `Splits` says of a shell
that it takes commands apart by them. A lexer that does so is given too: it takes a text apart into
words and operators, and has nothing to say of one with anything that the shell would expand or
redirect.
-/

namespace CrdbLab.Lib.ShellWords

inductive Quoting | bare | backslash | single | double | doubleBackslash
  deriving DecidableEq, Repr

inductive Token
  | word (w : List Char)
  | op (o : List Char)
  deriving DecidableEq, Repr

structure Lexer where
  quoting : Quoting := .bare
  /-- The token in progress. -/
  token : Option Token := none
  tokens : List Token := []
  deriving DecidableEq, Repr

def singleQuote : Char := Char.ofNat 39
def doubleQuote : Char := Char.ofNat 34
def backslash : Char := Char.ofNat 92
def backtick : Char := Char.ofNat 96

/-- No argument of a program can have it. -/
def nul : Char := Char.ofNat 0

def isBlank (c : Char) : Bool := c = ' ' || c = '\t'

def isOperator (c : Char) : Bool := c = '&' || c = ';' || c = '|'

def operators : List (List Char) :=
  [['&'], ['&', '&'], [';'], [';', ';'], ['|'], ['|', '|']]

/-- What the shell expands, redirects or groups by where it is not quoted. -/
def isActive (c : Char) : Bool :=
  c ∈ ['$', '<', '>', '(', ')', '*', '?', '[', ']', '~', '#', '!', '\n', backtick, nul,
    Char.ofNat 123, Char.ofNat 125]

/-- What a backslash quotes between double quotes. -/
def isEscapable (c : Char) : Bool :=
  c ∈ ['$', backtick, doubleQuote, backslash]

/-- A character of a word that means itself. -/
def isOrdinary (c : Char) : Bool :=
  c ≠ singleQuote && c ≠ doubleQuote && c ≠ backslash && !isBlank c && !isOperator c &&
    !isActive c

/-- The token in progress ends. -/
def flush (l : Lexer) : Option Lexer :=
  match l.token with
  | none => some l
  | some (.word w) => some { l with token := none, tokens := l.tokens ++ [.word w] }
  | some (.op o) =>
    if operators.contains o then some { l with token := none, tokens := l.tokens ++ [.op o] }
    else none

/-- More of a word, or the first of one. -/
def extend (l : Lexer) (w : List Char) : Option Lexer :=
  match l.token with
  | some (.word v) => some { l with token := some (.word (v ++ w)) }
  | _ => (flush l).map fun l => { l with token := some (.word w) }

/-- More of an operator, or the first of one. -/
def operate (l : Lexer) (c : Char) : Option Lexer :=
  match l.token with
  | some (.op o) => some { l with token := some (.op (o ++ [c])) }
  | _ => (flush l).map fun l => { l with token := some (.op [c]) }

def step (l : Lexer) (c : Char) : Option Lexer :=
  match l.quoting with
  | .bare =>
    if c = singleQuote then (extend l []).map fun l => { l with quoting := .single }
    else if c = doubleQuote then (extend l []).map fun l => { l with quoting := .double }
    else if c = backslash then some { l with quoting := .backslash }
    else if isBlank c then flush l
    else if isOperator c then operate l c
    else if isActive c then none
    else extend l [c]
  | .backslash =>
    if c = '\n' then some { l with quoting := .bare }
    else (extend l [c]).map fun l => { l with quoting := .bare }
  | .single =>
    if c = singleQuote then some { l with quoting := .bare } else extend l [c]
  | .double =>
    if c = doubleQuote then some { l with quoting := .bare }
    else if c = backslash then some { l with quoting := .doubleBackslash }
    else if c = '$' ∨ c = backtick then none
    else extend l [c]
  | .doubleBackslash =>
    if c = '\n' then some { l with quoting := .double }
    else (extend l (if isEscapable c then [c] else [backslash, c])).map
      fun l => { l with quoting := .double }

def feed (l : Lexer) : List Char → Option Lexer
  | [] => some l
  | c :: text => (step l c).bind fun l => feed l text

/-- The tokens of the text, if it is one that is treated here. -/
def tokens (text : List Char) : Option (List Token) :=
  (feed {} text).bind fun l =>
    if l.quoting = .bare then (flush l).map Lexer.tokens else none

/-- The words of a text that the shell takes for one simple command. -/
def words (shell : List Char → Option (List Token)) (text : List Char) :
    Option (List (List Char)) :=
  (shell text).bind fun ts => ts.mapM fun
    | .word w => some w
    | .op _ => none

/-! ### Spelling a word -/

/-- A character that means itself between double quotes. -/
def isInert (c : Char) : Bool :=
  c ≠ doubleQuote && c ≠ backslash && c ≠ '$' && c ≠ backtick && c ≠ nul

/-- How a text spells a word. -/
inductive Spells : List Char → List Char → Prop
  | ordinary {c : Char} (h : isOrdinary c = true) : Spells [c] [c]
  | escaped {c : Char} (h : c ≠ '\n' ∧ c ≠ nul) : Spells [backslash, c] [c]
  | single {w : List Char} (h : singleQuote ∉ w ∧ nul ∉ w) :
      Spells (singleQuote :: (w ++ [singleQuote])) w
  | double {w : List Char} (h : ∀ c ∈ w, isInert c = true) :
      Spells (doubleQuote :: (w ++ [doubleQuote])) w
  | append {a b v w : List Char} (ha : Spells a v) (hb : Spells b w) : Spells (a ++ b) (v ++ w)

/-! ### The lexer spells so -/

lemma feed_append (l : Lexer) (a b : List Char) :
    feed l (a ++ b) = (feed l a).bind fun l => feed l b := by
  induction a generalizing l with
  | nil => rfl
  | cons c a ih =>
    rw [List.cons_append, feed, feed, Option.bind_assoc]
    exact congrArg _ (funext fun l => ih l)

lemma extend_quoting {l m : Lexer} {w : List Char} (h : extend l w = some m) :
    m.quoting = l.quoting := by
  obtain ⟨quoting, token, ts⟩ := l
  rcases token with _ | v | o
  · simp only [extend, flush, Option.map_some, Option.some.injEq] at h
    rw [← h]
  · simp only [extend, Option.some.injEq] at h
    rw [← h]
  · simp only [extend, flush] at h
    split at h
    · simp only [Option.map_some, Option.some.injEq] at h
      rw [← h]
    · cases h

lemma extend_token {l m : Lexer} {w : List Char} (h : extend l w = some m) :
    ∃ v, m.token = some (.word v) := by
  obtain ⟨quoting, token, ts⟩ := l
  rcases token with _ | v | o
  · simp only [extend, flush, Option.map_some, Option.some.injEq] at h
    exact ⟨w, by rw [← h]⟩
  · simp only [extend, Option.some.injEq] at h
    exact ⟨v ++ w, by rw [← h]⟩
  · simp only [extend, flush] at h
    split at h
    · simp only [Option.map_some, Option.some.injEq] at h
      exact ⟨w, by rw [← h]⟩
    · cases h

lemma extend_extend (l : Lexer) (v w : List Char) :
    (extend l v).bind (fun l => extend l w) = extend l (v ++ w) := by
  obtain ⟨quoting, token, ts⟩ := l
  rcases token with _ | u | o
  · simp [extend, flush]
  · simp [extend]
  · simp only [extend, flush]
    split <;> simp

lemma extend_with (l : Lexer) (q : Quoting) (w : List Char) :
    extend { l with quoting := q } w = (extend l w).map fun m => { m with quoting := q } := by
  obtain ⟨quoting, token, ts⟩ := l
  rcases token with _ | u | o
  · simp [extend, flush]
  · simp [extend]
  · simp only [extend, flush]
    split <;> simp

/-- Wherever the text begins outside quotes, the lexer is outside quotes behind it and has added
the word to the one in progress. -/
def Adds (text w : List Char) : Prop :=
  ∀ l : Lexer, l.quoting = .bare → feed l text = extend l w

lemma Adds.append {a b v w : List Char} (ha : Adds a v) (hb : Adds b w) :
    Adds (a ++ b) (v ++ w) := by
  intro l hl
  rw [feed_append, ha l hl, ← extend_extend]
  cases hext : extend l v with
  | none => rfl
  | some m => exact hb m ((extend_quoting hext).trans hl)

lemma adds_ordinary {c : Char} (hc : isOrdinary c = true) : Adds [c] [c] := by
  intro l hl
  simp only [isOrdinary, Bool.and_eq_true, Bool.not_eq_true', decide_eq_true_eq] at hc
  obtain ⟨⟨⟨⟨⟨hsingle, hdouble⟩, hback⟩, hblank⟩, hop⟩, hactive⟩ := hc
  simp [feed, step, hl, hsingle, hdouble, hback, hblank, hop, hactive]

/-- Between quotes a text of characters that mean themselves there is added. -/
lemma feed_quoted {q : Quoting} {p : Char → Prop}
    (hstep : ∀ (l : Lexer) (c : Char), l.quoting = q → p c → step l c = extend l [c])
    {l : Lexer} {w : List Char} (hl : l.quoting = q) (hw : ∀ c ∈ w, p c)
    (hword : ∃ v, l.token = some (.word v)) : feed l w = extend l w := by
  induction w generalizing l with
  | nil =>
    obtain ⟨v, hv⟩ := hword
    obtain ⟨quoting, token, ts⟩ := l
    simp only at hv
    subst hv
    simp [feed, extend]
  | cons c w ih =>
    obtain ⟨v, hv⟩ := hword
    have hext : extend l [c] = some { l with token := some (.word (v ++ [c])) } := by
      rw [extend, hv]
    have hcons : c :: w = [c] ++ w := rfl
    rw [feed, hstep l c hl (hw c List.mem_cons_self), hcons, ← extend_extend, hext,
      Option.bind_some, Option.bind_some]
    exact ih hl (fun d hd => hw d (List.mem_cons_of_mem c hd)) ⟨v ++ [c], rfl⟩

/-- **Quotes**: what means itself between them is added. -/
lemma adds_quoted {q : Quoting} {mark : Char} {p : Char → Prop}
    (hstep : ∀ (l : Lexer) (c : Char), l.quoting = q → p c → step l c = extend l [c])
    (hopen : ∀ l : Lexer, l.quoting = .bare →
      step l mark = (extend l []).map fun m => { m with quoting := q })
    (hclose : ∀ l : Lexer, l.quoting = q → step l mark = some { l with quoting := .bare })
    {w : List Char} (hw : ∀ c ∈ w, p c) : Adds (mark :: (w ++ [mark])) w := by
  intro l hl
  rw [feed, hopen l hl, ← List.nil_append w, ← extend_extend, List.nil_append]
  cases hext : extend l [] with
  | none => rfl
  | some m =>
    have hbare : m.quoting = .bare := (extend_quoting hext).trans hl
    obtain ⟨v, hv⟩ := extend_token hext
    rw [Option.map_some, Option.bind_some, Option.bind_some, feed_append,
      feed_quoted (l := { m with quoting := q }) hstep rfl hw ⟨v, hv⟩, extend_with]
    have hmw : extend m w = some { m with token := some (.word (v ++ w)) } := by
      rw [extend, hv]
    rw [hmw, Option.map_some, Option.bind_some, feed, hclose _ rfl, Option.bind_some, feed, hbare]

lemma adds_single {w : List Char} (hw : singleQuote ∉ w) :
    Adds (singleQuote :: (w ++ [singleQuote])) w := by
  refine adds_quoted (q := .single) (p := fun c => c ≠ singleQuote) (fun l c hl hc => ?_)
    (fun l hl => ?_) (fun l hl => ?_) fun c hc h => hw (h ▸ hc)
  · rw [step, hl]
    simp [hc]
  · rw [step, hl]
    simp
  · rw [step, hl]
    simp

lemma adds_double {w : List Char} (hw : ∀ c ∈ w, isInert c = true) :
    Adds (doubleQuote :: (w ++ [doubleQuote])) w := by
  refine adds_quoted (q := .double) (p := fun c => isInert c = true) (fun l c hl hc => ?_)
    (fun l hl => ?_) (fun l hl => ?_) hw
  · simp only [isInert, Bool.and_eq_true, decide_eq_true_eq] at hc
    obtain ⟨⟨⟨⟨hdouble, hback⟩, hdollar⟩, htick⟩, -⟩ := hc
    rw [step, hl]
    simp [hdouble, hback, hdollar, htick]
  · rw [step, hl]
    simp [singleQuote, doubleQuote]
  · rw [step, hl]
    simp

/-- A backslash quotes what follows it, unless it is the end of a line. -/
lemma adds_escaped {c : Char} (hc : c ≠ '\n') : Adds [backslash, c] [c] := by
  intro l hl
  have hback : step l backslash = some { l with quoting := .backslash } := by
    rw [step, hl]
    simp [singleQuote, doubleQuote, backslash]
  rw [feed, hback, Option.bind_some, feed, step]
  dsimp only
  rw [if_neg hc, extend_with]
  cases hext : extend l [c] with
  | none => rfl
  | some m =>
    have hbare : m.quoting = .bare := (extend_quoting hext).trans hl
    simp only [Option.map_some, Option.bind_some, feed]
    rw [← hbare]

/-- **The lexer adds what a text spells.** -/
lemma Spells.adds {text w : List Char} (h : Spells text w) : Adds text w := by
  induction h with
  | ordinary h => exact adds_ordinary h
  | escaped h => exact adds_escaped h.1
  | single h => exact adds_single h.1
  | double h => exact adds_double h
  | append _ _ iha ihb => exact iha.append ihb

/-! ### Ways of quoting -/

/-- **Bare**: ordinary characters spell themselves. -/
lemma spells_bare {w : List Char} (hne : w ≠ []) (hw : ∀ c ∈ w, isOrdinary c = true) :
    Spells w w := by
  induction w with
  | nil => exact absurd rfl hne
  | cons c w ih =>
    have hc : Spells [c] [c] := .ordinary (hw c List.mem_cons_self)
    rcases eq_or_ne w [] with rfl | hw'
    · exact hc
    · exact hc.append (ih hw' fun d hd => hw d (List.mem_cons_of_mem c hd))

/-- Every single quote replaced. -/
def replaceQuotes (replacement w : List Char) : List Char :=
  w.flatMap fun c => if c = singleQuote then replacement else [c]

/-- Between single quotes, with each single quote written so that it closes them, stands quoted
and opens them again. -/
def enclose (quoted w : List Char) : List Char :=
  singleQuote :: (replaceQuotes (singleQuote :: (quoted ++ [singleQuote])) w ++ [singleQuote])

/-- **Any text can be enclosed**, in any way in which a single quote can be spelled. -/
theorem spells_enclose {quoted : List Char} (hquoted : Spells quoted [singleQuote])
    {w : List Char} (hw : nul ∉ w) : Spells (enclose quoted w) w := by
  -- what stands before the next quote is enclosed alone, and the rest begins anew
  have hsplit : ∀ u : List Char, singleQuote ∉ u → nul ∉ u →
      Spells (singleQuote :: (u ++
        (replaceQuotes (singleQuote :: (quoted ++ [singleQuote])) w ++ [singleQuote])))
        (u ++ w) := by
    induction w with
    | nil =>
      intro u hu hnul
      have h := Spells.single ⟨hu, hnul⟩
      simpa [replaceQuotes] using h
    | cons c w ih =>
      intro u hu hnul
      have hrest : nul ∉ w := fun h => hw (List.mem_cons_of_mem c h)
      by_cases hc : c = singleQuote
      · subst hc
        have h := ((Spells.single ⟨hu, hnul⟩).append hquoted).append
          (ih hrest [] List.not_mem_nil List.not_mem_nil)
        simpa [replaceQuotes] using h
      · have hu' : singleQuote ∉ u ++ [c] := by
          simp only [List.mem_append, List.mem_singleton, not_or]
          exact ⟨hu, fun h => hc h.symm⟩
        have hnul' : nul ∉ u ++ [c] := by
          simp only [List.mem_append, List.mem_singleton, not_or]
          exact ⟨hnul, fun h => hw (h ▸ List.mem_cons_self)⟩
        have h := ih hrest (u ++ [c]) hu' hnul'
        simpa [replaceQuotes, hc] using h
  simpa [enclose] using hsplit [] List.not_mem_nil List.not_mem_nil

/-- A character that needs no quoting. -/
def isSafe (c : Char) : Bool :=
  c.isAlphanum || c ∈ ['_', '@', '%', '+', '=', ':', ',', '.', '/', '-']

/-- A word quoted only if it needs to be. -/
def quoteWord (w : List Char) : List Char :=
  if w = [] then [singleQuote, singleQuote]
  else if w.all isSafe then w
  else enclose [doubleQuote, singleQuote, doubleQuote] w

/-- What is not ordinary. -/
def notOrdinary : List Char :=
  [singleQuote, doubleQuote, backslash, ' ', '\t', '&', ';', '|', '$', '<', '>', '(', ')', '*', '?',
    '[', ']', '~', '#', '!', '\n', backtick, nul, Char.ofNat 123, Char.ofNat 125]

lemma isOrdinary_of_not_mem {c : Char} (h : c ∉ notOrdinary) : isOrdinary c = true := by
  simpa [isOrdinary, isBlank, isOperator, isActive, notOrdinary, and_assoc] using h

/-- Characters told apart from those that are not ordinary are ordinary. -/
lemma isOrdinary_of {p : Char → Bool} (hp : notOrdinary.any p = false) {c : Char}
    (hc : p c = true) : isOrdinary c = true :=
  isOrdinary_of_not_mem fun h => List.any_eq_false.mp hp c h hc

/-- **Any word can be quoted.** -/
theorem spells_quoteWord {w : List Char} (hw : nul ∉ w) : Spells (quoteWord w) w := by
  unfold quoteWord
  split
  · next h =>
    subst h
    exact .single ⟨List.not_mem_nil, List.not_mem_nil⟩
  · next hne =>
    split
    · next hsafe =>
      rw [List.all_eq_true] at hsafe
      have hnone : notOrdinary.any isSafe = false := by decide
      exact spells_bare hne fun c hc => isOrdinary_of hnone (hsafe c hc)
    · have hinert : isInert singleQuote = true := by decide
      exact spells_enclose (.double (List.forall_mem_singleton.mpr hinert)) hw

/-! ### Texts of many words -/

/-- The texts one after another, a blank between them. -/
def spaced (texts : List (List Char)) : List Char := [' '].intercalate texts

@[simp] lemma spaced_nil : spaced [] = [] := rfl

@[simp] lemma spaced_singleton (t : List Char) : spaced [t] = t := List.intercalate_singleton

lemma spaced_cons_cons (t t' : List Char) (ts : List (List Char)) :
    spaced (t :: t' :: ts) = t ++ ' ' :: spaced (t' :: ts) := by
  rw [spaced, List.intercalate_cons_cons, List.append_assoc]
  rfl

/-- The texts spell the words, one each. -/
def SpellsAll (texts ws : List (List Char)) : Prop := List.Forall₂ Spells texts ws

lemma flush_extend_none {q : Quoting} {ts : List Token} (w : List Char) :
    extend ⟨q, none, ts⟩ w = some ⟨q, some (.word w), ts⟩ := by
  simp [extend, flush]

/-- The last word is still in progress behind the texts. -/
lemma feed_spaced {texts ws : List (List Char)} (h : SpellsAll texts ws) (hne : texts ≠ [])
    (ts : List Token) :
    ∃ init last, ws = init ++ [last] ∧
      feed ⟨.bare, none, ts⟩ (spaced texts) =
        some ⟨.bare, some (.word last), ts ++ init.map Token.word⟩ := by
  induction h generalizing ts with
  | nil => exact absurd rfl hne
  | @cons t w texts ws ht hrest ih =>
    cases texts with
    | nil =>
      cases hrest
      refine ⟨[], w, rfl, ?_⟩
      rw [spaced_singleton, ht.adds _ rfl, flush_extend_none, List.map_nil, List.append_nil]
    | cons t' texts =>
      obtain ⟨init, last, hws, hfeed⟩ := ih (List.cons_ne_nil _ _) (ts ++ [.word w])
      refine ⟨w :: init, last, by rw [hws, List.cons_append], ?_⟩
      have hblank : step ⟨.bare, some (.word w), ts⟩ ' ' =
          some ⟨.bare, none, ts ++ [.word w]⟩ := by
        simp [step, isBlank, flush, singleQuote, doubleQuote, backslash]
      rw [spaced_cons_cons, feed_append, ht.adds _ rfl, flush_extend_none, Option.bind_some, feed,
        hblank, Option.bind_some, hfeed, List.append_assoc, List.map_cons, List.singleton_append]

/-- The tokens of a text that goes on behind its first command. -/
def followed (ts : List Token) (text : List Char) : Option (List Token) :=
  (feed ⟨.bare, none, ts⟩ text).bind fun l =>
    if l.quoting = .bare then (flush l).map Lexer.tokens else none

lemma tokens_eq_followed (text : List Char) : tokens text = followed [] text := rfl

lemma followed_spaced {texts ws : List (List Char)} (h : SpellsAll texts ws) (ts : List Token) :
    followed ts (spaced texts) = some (ts ++ ws.map Token.word) := by
  rcases eq_or_ne texts [] with rfl | hne
  · cases h
    simp [followed, feed, flush]
  · obtain ⟨init, last, rfl, hfeed⟩ := feed_spaced h hne ts
    rw [followed, hfeed]
    simp [flush]

/-- The rules of quoting, as a shell keeps them: of texts that spell words, with blanks between
them, it takes exactly these words, and two such commands with `&&` between them apart. -/
structure Splits (shell : List Char → Option (List Token)) : Prop where
  command : ∀ {texts ws}, SpellsAll texts ws → shell (spaced texts) = some (ws.map Token.word)
  both : ∀ {a b v w}, SpellsAll a v → a ≠ [] → SpellsAll b w → b ≠ [] →
    shell (spaced a ++ ' ' :: '&' :: '&' :: ' ' :: spaced b) =
      some (v.map Token.word ++ .op ['&', '&'] :: w.map Token.word)

/-- **The words of a command** are those its texts spell. -/
lemma Splits.words_spaced {shell : List Char → Option (List Token)} (h : Splits shell)
    {texts ws : List (List Char)} (hspells : SpellsAll texts ws) :
    words shell (spaced texts) = some ws := by
  rw [words, h.command hspells, Option.bind_some]
  clear hspells
  induction ws with
  | nil => rfl
  | cons w ws ih => simp [List.map_cons, List.mapM_cons, ih]

/-- **The lexer keeps to the rules.** -/
theorem splits_tokens : Splits tokens where
  command h := by
    rw [tokens_eq_followed, followed_spaced h, List.nil_append]
  both := by
    intro a b v w ha hne hb _
    obtain ⟨init, last, rfl, hfeed⟩ := feed_spaced ha hne []
    have hand : feed ⟨.bare, some (.word last), [] ++ init.map Token.word⟩
        (' ' :: '&' :: '&' :: ' ' :: spaced b) =
        feed ⟨.bare, none, (init ++ [last]).map Token.word ++ [.op ['&', '&']]⟩ (spaced b) := by
      simp [feed, step, isBlank, isOperator, operate, flush, operators, singleQuote, doubleQuote,
        backslash]
    have hlast := followed_spaced hb ((init ++ [last]).map Token.word ++ [.op ['&', '&']])
    rw [followed] at hlast
    rw [tokens, feed_append]
    have hstart : ({} : Lexer) = ⟨.bare, none, []⟩ := rfl
    rw [hstart, hfeed, Option.bind_some, hand, hlast, List.append_assoc, List.singleton_append]

end CrdbLab.Lib.ShellWords
