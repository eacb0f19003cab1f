import CrdbLab.Lib.Runs
import Mathlib.Data.List.Forall2

/-!
The question on the pipeline's screen.

The runner asks from its own thread and waits for the reply; the main thread reads the keys and
answers. They share three attributes and an event without a lock, so each read and each write of
one is a step of its own here, and any step of the one thread may come between two of the other.
Ctrl-C is raised in the main thread wherever that stands: inside the loop's `try` it drops the key
that was read, in the handler or between two turns it ends the loop.
-/

namespace CrdbLab.QuestionKeys

open CrdbLab.Lib.Runs

/-- What is asked: a title, some lines, and the keys with what each stands for. -/
structure Question where
  title : String
  lines : List String
  options : List (Char × String)
  deriving DecidableEq

/-- The small letter of a key code below 256. -/
def lower (k : ℕ) : Char :=
  if (65 ≤ k ∧ k ≤ 90) ∨ (192 ≤ k ∧ k ≤ 222 ∧ k ≠ 215) then Char.ofNat (k + 32) else Char.ofNat k

/-- The letter of a key; the keys from 256 on have none. -/
def letter (k : ℕ) : Option Char := if k < 256 then some (lower k) else none

/-- Where the runner stands in `ask`. -/
inductive Runner
  | working
  | cleared (q : Question)
  | waiting (q : Question)
  | woken (q : Question)
  | forgotten (q : Question)
  deriving DecidableEq

/-- Where the main thread stands: in `keys`, in `interrupt`, or out of the loop. -/
inductive Screen
  | polling
  | got (k page : ℕ)
  | asked (k : ℕ)
  | found (ch : Char)
  | stored (q : Question) (ch : Char)
  | raised
  | interrupted
  | unasked
  | left
  deriving DecidableEq

structure State where
  reply : Bool := false
  replyValue : String := ""
  pending : Option Question := none
  runner : Runner := .working
  screen : Screen := .polling
  scroll : ℕ := 0
  abort : Bool := false
  cleaning : Bool := false
  /-- The questions asked, the keys that set the reply, and what `ask` returned. -/
  questions : List Question := []
  keys : List (Question × Char) := []
  answers : List (Question × String) := []

inductive Act
  | ask (q : Question)
  | display
  | wake
  | forget
  | answer
  | clean (b : Bool)
  | press (k page : ℕ)
  | read
  | look
  | store
  | set
  | interrupt
  /-- Ctrl-C between two turns of the loop. -/
  | escape
  | check
  | abort

/-- A key while nothing is asked: scrolling, and the request to abort. -/
def navigate (s : State) (k page : ℕ) : State :=
  if k = 259 ∨ k = 107 then { s with scroll := s.scroll + 1 }
  else if k = 258 ∨ k = 106 then { s with scroll := s.scroll - 1 }
  else if k = 339 then { s with scroll := s.scroll + page }
  else if k = 338 then { s with scroll := s.scroll - page }
  else if k = 360 ∨ k = 71 then { s with scroll := 0 }
  else if (k = 113 ∨ k = 81) ∧ s.cleaning = false then { s with abort := true }
  else s

/-- `ch in self.pending[2]`; there is no `[2]` of `None`. -/
def lookUp (s : State) (k : ℕ) : Screen :=
  match s.pending with
  | none => .raised
  | some q =>
    match letter k with
    | none => .polling
    | some ch => if (q.options.lookup ch).isSome then .found ch else .polling

/-- `self.reply_value = self.pending[2][ch]`; the question is read anew. -/
def storeReply (s : State) (ch : Char) : State :=
  match s.pending with
  | none => { s with screen := .raised }
  | some q =>
    match q.options.lookup ch with
    | none => { s with screen := .raised }
    | some v => { s with replyValue := v, screen := .stored q ch }

/-- One step of one of the threads, if it is at it. -/
def step (s : State) : Act → Option State
  | .ask q =>
    if s.runner = .working then
      some { s with reply := false, runner := .cleared q, questions := s.questions ++ [q] }
    else none
  | .display =>
    match s.runner with
    | .cleared q => some { s with pending := some q, runner := .waiting q }
    | _ => none
  | .wake =>
    match s.runner with
    | .waiting q => if s.reply then some { s with runner := .woken q } else none
    | _ => none
  | .forget =>
    match s.runner with
    | .woken q => some { s with pending := none, runner := .forgotten q }
    | _ => none
  | .answer =>
    match s.runner with
    | .forgotten q =>
      some { s with runner := .working, answers := s.answers ++ [(q, s.replyValue)] }
    | _ => none
  | .clean b => if s.runner = .working then some { s with cleaning := b } else none
  | .press k page => if s.screen = .polling then some { s with screen := .got k page } else none
  | .read =>
    match s.screen with
    | .got k page =>
      match s.pending with
      | some _ => some { s with screen := .asked k }
      | none => some { navigate s k page with screen := .polling }
    | _ => none
  | .look =>
    match s.screen with
    | .asked k => some { s with screen := lookUp s k }
    | _ => none
  | .store =>
    match s.screen with
    | .found ch => some (storeReply s ch)
    | _ => none
  | .set =>
    match s.screen with
    | .stored q ch =>
      some { s with reply := true, keys := s.keys ++ [(q, ch)], screen := .polling }
    | _ => none
  | .interrupt =>
    match s.screen with
    | .raised | .left => none
    | .interrupted | .unasked => some { s with screen := .left }
    | _ => some { s with screen := .interrupted }
  | .escape => if s.screen = .polling then some { s with screen := .left } else none
  | .check =>
    if s.screen = .interrupted then
      some { s with screen := if s.pending.isSome then .polling else .unasked }
    else none
  | .abort =>
    if s.screen = .unasked then
      some { s with abort := s.abort || !s.cleaning, screen := .polling }
    else none

def init : State := {}

lemma navigate_frame (s : State) (k page : ℕ) :
    ∃ scroll abort, navigate s k page = { s with scroll := scroll, abort := abort } := by
  unfold navigate
  split_ifs <;> exact ⟨_, _, rfl⟩

/-- All that a step can do. -/
inductive Step (s : State) : Act → State → Prop
  | ask (q : Question) (hrunner : s.runner = .working) : Step s (.ask q)
      { s with reply := false, runner := .cleared q, questions := s.questions ++ [q] }
  | display (q : Question) (hrunner : s.runner = .cleared q) : Step s .display
      { s with pending := some q, runner := .waiting q }
  | wake (q : Question) (hrunner : s.runner = .waiting q) (hreply : s.reply = true) :
      Step s .wake { s with runner := .woken q }
  | forget (q : Question) (hrunner : s.runner = .woken q) : Step s .forget
      { s with pending := none, runner := .forgotten q }
  | answer (q : Question) (hrunner : s.runner = .forgotten q) : Step s .answer
      { s with runner := .working, answers := s.answers ++ [(q, s.replyValue)] }
  | clean (b : Bool) : Step s (.clean b) { s with cleaning := b }
  | press (k page : ℕ) : Step s (.press k page) { s with screen := .got k page }
  | navigated (k page scroll : ℕ) (abort : Bool) (hscreen : s.screen = .got k page)
      (hpending : s.pending = none) :
      Step s .read { s with scroll := scroll, abort := abort, screen := .polling }
  | read (k page : ℕ) (q : Question) (hscreen : s.screen = .got k page)
      (hpending : s.pending = some q) : Step s .read { s with screen := .asked k }
  | look (k : ℕ) (hscreen : s.screen = .asked k) : Step s .look { s with screen := lookUp s k }
  | store (ch : Char) (hscreen : s.screen = .found ch) : Step s .store (storeReply s ch)
  | set (q : Question) (ch : Char) (hscreen : s.screen = .stored q ch) : Step s .set
      { s with reply := true, keys := s.keys ++ [(q, ch)], screen := .polling }
  | interrupt (screen : Screen) (hscreen : screen = .interrupted ∨ screen = .left) :
      Step s .interrupt { s with screen := screen }
  | escape : Step s .escape { s with screen := .left }
  | check (screen : Screen) (hscreen : screen = .polling ∨ screen = .unasked) :
      Step s .check { s with screen := screen }
  | abort (abort : Bool) : Step s .abort { s with abort := abort, screen := .polling }

lemma step_cases {s : State} {a : Act} {t : State} (h : step s a = some t) : Step s a t := by
  cases a with
  | read =>
    simp only [step] at h
    split at h
    case h_2 => exact absurd h (by simp)
    case h_1 k page hscreen =>
      split at h
      case h_1 q hpending => cases h; exact .read k page q hscreen hpending
      case h_2 hpending =>
        obtain ⟨scroll, abort, hnavigate⟩ := navigate_frame s k page
        rw [hnavigate] at h
        cases h
        exact .navigated k page scroll abort hscreen hpending
  | wake =>
    simp only [step] at h
    split at h
    case h_2 => exact absurd h (by simp)
    case h_1 q hrunner =>
      split at h
      case isFalse => exact absurd h (by simp)
      case isTrue hreply => cases h; exact .wake q hrunner hreply
  | ask q =>
    simp only [step] at h
    split at h
    case isFalse => exact absurd h (by simp)
    case isTrue hrunner => cases h; exact .ask q hrunner
  | clean b =>
    simp only [step] at h
    split at h
    case isFalse => exact absurd h (by simp)
    case isTrue => cases h; exact .clean b
  | press k page =>
    simp only [step] at h
    split at h
    case isFalse => exact absurd h (by simp)
    case isTrue => cases h; exact .press k page
  | interrupt =>
    simp only [step] at h
    split at h
    case h_1 => exact absurd h (by simp)
    case h_2 => exact absurd h (by simp)
    case h_5 => cases h; exact .interrupt _ (.inl rfl)
    all_goals cases h; exact .interrupt _ (.inr rfl)
  | escape =>
    simp only [step] at h
    split at h
    case isFalse => exact absurd h (by simp)
    case isTrue => cases h; exact .escape
  | check =>
    simp only [step] at h
    split at h
    case isFalse => exact absurd h (by simp)
    case isTrue =>
      cases h
      refine .check _ ?_
      split
      · exact .inl rfl
      · exact .inr rfl
  | abort =>
    simp only [step] at h
    split at h
    case isFalse => exact absurd h (by simp)
    case isTrue => cases h; exact .abort _
  -- the other actions look at where their thread stands and at nothing else
  | display =>
    simp only [step] at h
    split at h
    case h_2 => exact absurd h (by simp)
    case h_1 q hrunner => cases h; exact .display q hrunner
  | forget =>
    simp only [step] at h
    split at h
    case h_2 => exact absurd h (by simp)
    case h_1 q hrunner => cases h; exact .forget q hrunner
  | answer =>
    simp only [step] at h
    split at h
    case h_2 => exact absurd h (by simp)
    case h_1 q hrunner => cases h; exact .answer q hrunner
  | look =>
    simp only [step] at h
    split at h
    case h_2 => exact absurd h (by simp)
    case h_1 k hscreen => cases h; exact .look k hscreen
  | store =>
    simp only [step] at h
    split at h
    case h_2 => exact absurd h (by simp)
    case h_1 ch hscreen => cases h; exact .store ch hscreen
  | set =>
    simp only [step] at h
    split at h
    case h_2 => exact absurd h (by simp)
    case h_1 q ch hscreen => cases h; exact .set q ch hscreen

/-! ### What an answer may be -/

/-- What the options of a question stand for. -/
def Question.values (q : Question) : List String := q.options.map Prod.snd

/-- The text stands for an option of a question that was asked. -/
def Offered (s : State) (v : String) : Prop := ∃ q ∈ s.questions, v ∈ q.values

/-- The question that the runner has asked and not returned from. -/
def Runner.question : Runner → List Question
  | .working => []
  | .cleared q | .waiting q | .woken q | .forgotten q => [q]

lemma mem_values {q : Question} {ch : Char} {v : String} (h : q.options.lookup ch = some v) :
    v ∈ q.values := by
  obtain ⟨l, r, heq, -⟩ := List.lookup_eq_some_iff.mp h
  exact List.mem_map.mpr ⟨(ch, v), heq ▸ by simp, rfl⟩

/-- Every reply that is set, or about to be, was an option, and so were the answers. -/
structure Sound (s : State) : Prop where
  asked : ∀ q ∈ s.pending.toList ++ s.runner.question, q ∈ s.questions
  set : s.reply = true → Offered s s.replyValue
  stored : ∀ q ch, s.screen = .stored q ch → Offered s s.replyValue
  woken : ∀ q, s.runner = .woken q ∨ s.runner = .forgotten q → s.reply = true
  answers : ∀ a ∈ s.answers, Offered s a.2

lemma Sound.mono {s t : State} (hs : Sound s) (hpending : t.pending = s.pending)
    (hrunner : t.runner = s.runner) (hquestions : t.questions = s.questions)
    (hanswers : t.answers = s.answers) (hvalue : t.replyValue = s.replyValue)
    (hreply : t.reply = s.reply) (hscreen : ∀ q ch, t.screen ≠ .stored q ch) : Sound t where
  asked := by rw [hpending, hrunner, hquestions]; exact hs.asked
  set := by rw [Offered, hquestions, hvalue, hreply]; exact hs.set
  stored := fun q ch h => absurd h (hscreen q ch)
  woken := by rw [hrunner, hreply]; exact hs.woken
  answers := by
    intro a ha
    rw [hanswers] at ha
    rw [Offered, hquestions]
    exact hs.answers a ha

lemma sound_init : Sound init where
  asked := fun _ h => h
  set := fun h => absurd h (by decide)
  stored := fun _ _ h => absurd h (by simp [init])
  woken := fun _ h => absurd h (by simp [init])
  answers := fun _ h => absurd h List.not_mem_nil

lemma sound_step {s : State} {a : Act} {t : State} (h : step s a = some t) (hs : Sound s) :
    Sound t := by
  cases step_cases h with
  | ask q hrunner =>
    have hmore : ∀ v, Offered s v → ∃ p ∈ s.questions ++ [q], v ∈ p.values :=
      fun v ⟨p, hp, hv⟩ => ⟨p, List.mem_append_left _ hp, hv⟩
    refine ⟨fun p hp => ?_, fun h => absurd h (by simp), fun p ch h => hmore _ (hs.stored p ch h),
      fun p h => absurd h (by simp), fun a ha => hmore _ (hs.answers a ha)⟩
    rcases List.mem_append.mp hp with hp | hp
    · exact List.mem_append_left _ (hs.asked p (List.mem_append_left _ hp))
    · exact List.mem_append_right _ hp
  | display q hrunner =>
    have hq : q ∈ s.questions := hs.asked q (by simp [hrunner, Runner.question])
    refine ⟨fun p hp => ?_, hs.set, hs.stored, fun p h => absurd h (by simp), hs.answers⟩
    have hp : p = q := by simpa [Runner.question] using hp
    exact hp ▸ hq
  | wake q hrunner hreply =>
    have hasked := hs.asked
    rw [hrunner] at hasked
    exact ⟨hasked, hs.set, hs.stored, fun _ _ => hreply, hs.answers⟩
  | forget q hrunner =>
    have hq : q ∈ s.questions := hs.asked q (by simp [hrunner, Runner.question])
    refine ⟨fun p hp => ?_, hs.set, hs.stored, fun _ _ => hs.woken q (.inl hrunner), hs.answers⟩
    have hp : p = q := by simpa [Runner.question] using hp
    exact hp ▸ hq
  | answer q hrunner =>
    refine ⟨fun p hp => hs.asked p ?_, hs.set, hs.stored, fun p h => absurd h (by simp),
      fun a ha => ?_⟩
    · exact List.mem_append_left _ (by simpa [Runner.question] using hp)
    · rcases List.mem_append.mp ha with ha | ha
      · exact hs.answers a ha
      · rw [List.mem_singleton.mp ha]
        exact hs.set (hs.woken q (.inr hrunner))
  | clean b => exact ⟨hs.asked, hs.set, hs.stored, hs.woken, hs.answers⟩
  | press k page => exact hs.mono rfl rfl rfl rfl rfl rfl (by simp)
  | navigated k page scroll abort hscreen hpending =>
    exact hs.mono rfl rfl rfl rfl rfl rfl (by simp)
  | read k page q hscreen hpending => exact hs.mono rfl rfl rfl rfl rfl rfl (by simp)
  | look k hscreen =>
    refine hs.mono rfl rfl rfl rfl rfl rfl fun q ch => ?_
    show lookUp s k ≠ .stored q ch
    unfold lookUp
    split
    · simp
    · split
      · simp
      · split <;> simp
  | store ch hscreen =>
    unfold storeReply
    split
    case h_1 => exact hs.mono rfl rfl rfl rfl rfl rfl (by simp)
    case h_2 q hpending =>
      split
      case h_1 => exact hs.mono rfl rfl rfl rfl rfl rfl (by simp)
      case h_2 v hlookup =>
        have hoffered : ∃ p ∈ s.questions, v ∈ p.values :=
          ⟨q, hs.asked q (by simp [hpending]), mem_values hlookup⟩
        exact ⟨hs.asked, fun _ => hoffered, fun _ _ _ => hoffered, hs.woken, hs.answers⟩
  | set q ch hscreen =>
    exact ⟨hs.asked, fun _ => hs.stored q ch hscreen, fun _ _ h => absurd h (by simp),
      fun _ _ => rfl, hs.answers⟩
  | interrupt screen hscreen =>
    refine hs.mono rfl rfl rfl rfl rfl rfl fun q ch h => ?_
    rcases hscreen with rfl | rfl <;> cases h
  | escape => exact hs.mono rfl rfl rfl rfl rfl rfl (by simp)
  | check screen hscreen =>
    refine hs.mono rfl rfl rfl rfl rfl rfl fun q ch h => ?_
    rcases hscreen with rfl | rfl <;> cases h
  | abort abort => exact hs.mono rfl rfl rfl rfl rfl rfl (by simp)

/-! ### One key for each question -/

/-- No key is taken from the terminal while the question on the screen is answered already. -/
def Unhurried (s : State) : Act → Prop
  | .press _ _ => s.reply = true → s.pending = none
  | _ => True

instance : ∀ s a, Decidable (Unhurried s a)
  | s, .press _ _ => inferInstanceAs (Decidable (s.reply = true → s.pending = none))
  | _, .ask _ | _, .display | _, .wake | _, .forget | _, .answer | _, .clean _ | _, .read
  | _, .look | _, .store | _, .set | _, .interrupt | _, .escape | _, .check | _, .abort =>
    .isTrue trivial

/-- The answer is what the key stands for in the question. -/
def Given (key : Question × Char) (answer : Question × String) : Prop :=
  key.1 = answer.1 ∧ key.1.options.lookup key.2 = some answer.2

/-- The reply that is set and not yet returned. -/
def State.due (s : State) : List (Question × String) :=
  match s.runner with
  | .waiting q => if s.reply then [(q, s.replyValue)] else []
  | .woken q | .forgotten q => [(q, s.replyValue)]
  | .working | .cleared _ => []

/-- What the runner has shared, where it stands. -/
def Shared (s : State) : Prop :=
  match s.runner with
  | .working => s.pending = none
  | .cleared _ => s.pending = none ∧ s.reply = false
  | .waiting q => s.pending = some q
  | .woken q => s.pending = some q ∧ s.reply = true
  | .forgotten _ => s.pending = none

/-- A key is looked up only in a question that waits for its first one. -/
def Alone (s : State) : Prop :=
  match s.screen with
  | .polling | .interrupted | .unasked | .left => True
  | .got _ _ => s.reply = true → s.pending = none
  | .asked _ => ∃ q, s.runner = .waiting q ∧ s.reply = false
  | .found ch => ∃ q, s.runner = .waiting q ∧ s.reply = false ∧ (q.options.lookup ch).isSome
  | .stored q ch =>
    s.runner = .waiting q ∧ s.reply = false ∧ q.options.lookup ch = some s.replyValue
  | .raised => False

structure Tidy (s : State) : Prop where
  shared : Shared s
  alone : Alone s
  questions : s.questions = s.answers.map Prod.fst ++ s.runner.question
  keys : List.Forall₂ Given s.keys (s.answers ++ s.due)

lemma tidy_init : Tidy init := ⟨rfl, trivial, rfl, .nil⟩

/-- The main thread is not at a key. -/
def Screen.free : Screen → Bool
  | .polling | .interrupted | .unasked | .left => true
  | _ => false

lemma Alone.of_free {s : State} (h : s.screen.free = true) : Alone s := by
  unfold Alone
  cases hscreen : s.screen <;> simp [hscreen, Screen.free] at h ⊢

/-- While the runner does not wait the main thread is between two keys. -/
lemma Alone.of_not_waiting {s : State} (h : Alone s) (hrunner : ∀ q, s.runner ≠ .waiting q) :
    s.screen.free = true ∨
      ∃ k page, s.screen = .got k page ∧ (s.reply = true → s.pending = none) := by
  unfold Alone at h
  cases hscreen : s.screen with
  | polling => exact .inl rfl
  | interrupted => exact .inl rfl
  | unasked => exact .inl rfl
  | left => exact .inl rfl
  | got k page => rw [hscreen] at h; exact .inr ⟨k, page, rfl, h⟩
  | asked k => rw [hscreen] at h; obtain ⟨q, hq, -⟩ := h; exact absurd hq (hrunner q)
  | found ch => rw [hscreen] at h; obtain ⟨q, hq, -⟩ := h; exact absurd hq (hrunner q)
  | stored q ch => rw [hscreen] at h; exact absurd h.1 (hrunner q)
  | raised => rw [hscreen] at h; exact h.elim

/-- A step of the runner's that starts or ends away from waiting leaves the screen alone. -/
lemma Alone.of_moved {s t : State} (h : Alone s) (hrunner : ∀ q, s.runner ≠ .waiting q)
    (hscreen : t.screen = s.screen)
    (hgot : (s.reply = true → s.pending = none) → t.reply = true → t.pending = none) :
    Alone t := by
  rcases h.of_not_waiting hrunner with hs | ⟨k, page, hs, hfree⟩
  · exact Alone.of_free (hscreen ▸ hs)
  · rw [Alone, hscreen, hs]
    exact hgot hfree

lemma tidy_step {s : State} {a : Act} {t : State} (h : step s a = some t) (hcalm : Unhurried s a)
    (hs : Tidy s) : Tidy t := by
  obtain ⟨hshared, halone, hquestions, hkeys⟩ := hs
  cases step_cases h with
  | ask q hrunner =>
    rw [Shared, hrunner] at hshared
    rw [State.due, hrunner] at hkeys
    refine ⟨⟨hshared, rfl⟩, ?_, ?_, hkeys⟩
    · exact halone.of_moved (by simp [hrunner]) rfl fun _ h => absurd h (by simp)
    · rw [hquestions, hrunner]
      simp [Runner.question]
  | display q hrunner =>
    rw [Shared, hrunner] at hshared
    rw [State.due, hrunner] at hkeys
    refine ⟨rfl, ?_, ?_, by simpa [State.due, hshared.2] using hkeys⟩
    · refine halone.of_moved (by simp [hrunner]) rfl fun _ h => ?_
      exact absurd h (by simp [hshared.2])
    · rw [hquestions, hrunner]
      rfl
  | wake q hrunner hreply =>
    rw [Shared, hrunner] at hshared
    rw [State.due, hrunner] at hkeys
    refine ⟨⟨hshared, hreply⟩, ?_, ?_, by simpa [State.due, hreply] using hkeys⟩
    · -- an answered question has no key under way
      unfold Alone at halone ⊢
      cases hscreen : s.screen with
      | polling => trivial
      | interrupted => trivial
      | unasked => trivial
      | left => trivial
      | got k page => simpa [hscreen] using halone
      | asked k => simp [hscreen, hreply] at halone
      | found ch => simp [hscreen, hreply] at halone
      | stored p ch => simp [hscreen, hreply] at halone
      | raised => simp [hscreen] at halone
    · rw [hquestions, hrunner]
      rfl
  | forget q hrunner =>
    rw [State.due, hrunner] at hkeys
    refine ⟨rfl, ?_, ?_, hkeys⟩
    · exact halone.of_moved (by simp [hrunner]) rfl fun _ _ => rfl
    · rw [hquestions, hrunner]
      rfl
  | answer q hrunner =>
    rw [Shared, hrunner] at hshared
    rw [State.due, hrunner] at hkeys
    refine ⟨hshared, ?_, ?_, by simpa [State.due] using hkeys⟩
    · exact halone.of_moved (by simp [hrunner]) rfl fun _ _ => hshared
    · rw [hquestions, hrunner]
      simp [Runner.question]
  | clean b => exact ⟨hshared, halone, hquestions, hkeys⟩
  | press k page => exact ⟨hshared, hcalm, hquestions, hkeys⟩
  | navigated k page scroll abort hscreen hpending => exact ⟨hshared, trivial, hquestions, hkeys⟩
  | read k page q hscreen hpending =>
    rw [Alone, hscreen] at halone
    have hreply : s.reply = false := by
      by_contra hreply
      simp [halone (by simpa using hreply)] at hpending
    refine ⟨hshared, ?_, hquestions, hkeys⟩
    unfold Shared at hshared
    split at hshared
    case h_3 p hrunner => exact ⟨p, hrunner, hreply⟩
    case h_4 => simp [hreply] at hshared
    all_goals simp [hpending] at hshared
  | look k hscreen =>
    rw [Alone, hscreen] at halone
    obtain ⟨q, hrunner, hreply⟩ := halone
    have hpending : s.pending = some q := by simpa [Shared, hrunner] using hshared
    refine ⟨hshared, ?_, hquestions, hkeys⟩
    unfold lookUp
    rw [hpending]
    cases letter k with
    | none => trivial
    | some ch =>
      by_cases hlookup : (q.options.lookup ch).isSome
      · simp only [hlookup, if_true]
        exact ⟨q, hrunner, hreply, hlookup⟩
      · simp only [hlookup]
        trivial
  | store ch hscreen =>
    rw [Alone, hscreen] at halone
    obtain ⟨q, hrunner, hreply, hlookup⟩ := halone
    obtain ⟨v, hv⟩ := Option.isSome_iff_exists.mp hlookup
    have hpending : s.pending = some q := by simpa [Shared, hrunner] using hshared
    have hstored : storeReply s ch = { s with replyValue := v, screen := .stored q ch } := by
      simp [storeReply, hpending, hv]
    rw [hstored]
    refine ⟨hshared, ⟨hrunner, hreply, hv⟩, hquestions, ?_⟩
    simpa [State.due, hrunner, hreply] using hkeys
  | set q ch hscreen =>
    rw [Alone, hscreen] at halone
    obtain ⟨hrunner, hreply, hlookup⟩ := halone
    have hpaired : List.Forall₂ Given s.keys s.answers := by
      simpa [State.due, hrunner, hreply] using hkeys
    have hlast : List.Forall₂ Given [(q, ch)] [(q, s.replyValue)] := .cons ⟨rfl, hlookup⟩ .nil
    have hshared : s.pending = some q := by simpa [Shared, hrunner] using hshared
    refine ⟨by simpa [Shared, hrunner] using hshared, trivial, hquestions, ?_⟩
    simpa [State.due, hrunner] using List.rel_append hpaired hlast
  | interrupt screen hscreen =>
    refine ⟨hshared, Alone.of_free ?_, hquestions, hkeys⟩
    rcases hscreen with rfl | rfl <;> rfl
  | escape => exact ⟨hshared, trivial, hquestions, hkeys⟩
  | check screen hscreen =>
    refine ⟨hshared, Alone.of_free ?_, hquestions, hkeys⟩
    rcases hscreen with rfl | rfl <;> rfl
  | abort abort => exact ⟨hshared, trivial, hquestions, hkeys⟩

/-! ### Runs -/

/-- Ctrl-C does not fall here, and no key is taken while an answered question is on the screen. -/
def Undisturbed (s : State) (a : Act) : Prop :=
  match a with
  | .interrupt | .escape => False
  | a => Unhurried s a

/-- How far a key that answers a question has come: the main thread is at it, or the reply is set
and the runner has still to return it. -/
inductive Heading (q : Question) (ch : Char) (v : String) (s : State) : Prop
  | got (k page : ℕ) (hletter : letter k = some ch) (hrunner : s.runner = .waiting q)
      (hreply : s.reply = false) (hpending : s.pending = some q) (hscreen : s.screen = .got k page)
  | asked (k : ℕ) (hletter : letter k = some ch) (hrunner : s.runner = .waiting q)
      (hreply : s.reply = false) (hpending : s.pending = some q) (hscreen : s.screen = .asked k)
  | found (hrunner : s.runner = .waiting q) (hreply : s.reply = false)
      (hpending : s.pending = some q) (hscreen : s.screen = .found ch)
  | stored (hrunner : s.runner = .waiting q) (hreply : s.reply = false)
      (hpending : s.pending = some q) (hscreen : s.screen = .stored q ch) (hvalue : s.replyValue = v)
  | set (hrunner : s.runner = .waiting q) (hreply : s.reply = true) (hpending : s.pending = some q)
      (hscreen : s.screen = .polling) (hvalue : s.replyValue = v)
  | woken (hrunner : s.runner = .woken q) (hreply : s.reply = true) (hpending : s.pending = some q)
      (hscreen : s.screen = .polling) (hvalue : s.replyValue = v)
  | forgotten (hrunner : s.runner = .forgotten q) (hpending : s.pending = none)
      (hscreen : s.screen = .polling ∨ ∃ k page, s.screen = .got k page) (hvalue : s.replyValue = v)

section Heading

variable {q : Question} {ch : Char} {v : String} {s : State}

/-- A step takes the key further, or returns what it stands for. -/
lemma heading_step {a : Act} {t : State} (hlookup : q.options.lookup ch = some v)
    (hs : Heading q ch v s) (h : step s a = some t) (hcalm : Undisturbed s a) :
    t.answers = s.answers ∧ Heading q ch v t ∨ t.answers = s.answers ++ [(q, v)] := by
  cases hs with
  | got k page hletter hrunner hreply hpending hscreen =>
    cases a with
    | interrupt | escape => exact hcalm.elim
    | read =>
      simp only [step, hscreen, hpending, Option.some.injEq] at h
      subst h
      exact .inl ⟨rfl, .asked k hletter hrunner hreply rfl rfl⟩
    | _ => simp [step, hrunner, hreply, hscreen] at h
  | asked k hletter hrunner hreply hpending hscreen =>
    cases a with
    | interrupt | escape => exact hcalm.elim
    | look =>
      simp only [step, hscreen, lookUp, hpending, hletter, hlookup, Option.isSome_some,
        if_true, Option.some.injEq] at h
      subst h
      exact .inl ⟨rfl, .found hrunner hreply rfl rfl⟩
    | _ => simp [step, hrunner, hreply, hscreen] at h
  | found hrunner hreply hpending hscreen =>
    cases a with
    | interrupt | escape => exact hcalm.elim
    | store =>
      simp only [step, hscreen, storeReply, hpending, hlookup, Option.some.injEq] at h
      subst h
      exact .inl ⟨rfl, .stored hrunner hreply rfl rfl rfl⟩
    | _ => simp [step, hrunner, hreply, hscreen] at h
  | stored hrunner hreply hpending hscreen hvalue =>
    cases a with
    | interrupt | escape => exact hcalm.elim
    | set =>
      simp only [step, hscreen, Option.some.injEq] at h
      subst h
      exact .inl ⟨rfl, .set hrunner rfl hpending rfl hvalue⟩
    | _ => simp [step, hrunner, hreply, hscreen] at h
  | set hrunner hreply hpending hscreen hvalue =>
    cases a with
    | interrupt | escape => exact hcalm.elim
    | press k page => exact absurd (hcalm hreply) (by simp [hpending])
    | wake =>
      simp only [step, hrunner, hreply, if_true, Option.some.injEq] at h
      subst h
      exact .inl ⟨rfl, .woken rfl rfl hpending hscreen hvalue⟩
    | _ => simp [step, hrunner, hscreen] at h
  | woken hrunner hreply hpending hscreen hvalue =>
    cases a with
    | interrupt | escape => exact hcalm.elim
    | press k page => exact absurd (hcalm hreply) (by simp [hpending])
    | forget =>
      simp only [step, hrunner, Option.some.injEq] at h
      subst h
      exact .inl ⟨rfl, .forgotten rfl rfl (.inl hscreen) hvalue⟩
    | _ => simp [step, hrunner, hscreen] at h
  | forgotten hrunner hpending hscreen hvalue =>
    cases a with
    | interrupt | escape => exact hcalm.elim
    | answer =>
      simp only [step, hrunner, Option.some.injEq] at h
      subst h
      exact .inr (by rw [hvalue])
    | press k page =>
      cases step_cases h
      exact .inl ⟨rfl, .forgotten hrunner hpending (.inr ⟨k, page, rfl⟩) hvalue⟩
    | read =>
      cases step_cases h with
      | navigated k page scroll abort _ _ =>
        exact .inl ⟨rfl, .forgotten hrunner hpending (.inl rfl) hvalue⟩
      | read k page p _ hsome => exact absurd hsome (by simp [hpending])
    | _ => rcases hscreen with hscreen | ⟨k, page, hscreen⟩ <;>
        simp [step, hrunner, hscreen] at h

/-- The acts of the two threads that take a key to the answer. -/
def onward : List Act := [.read, .look, .store, .set, .wake, .forget, .answer]

/-- One of the threads can always go on with it. -/
lemma Heading.exists_onward (hs : Heading q ch v s) : ∃ a ∈ onward, (step s a).isSome := by
  cases hs with
  | got k page _ _ _ hpending hscreen =>
    exact ⟨.read, by simp [onward], by simp [step, hscreen, hpending]⟩
  | asked k _ _ _ _ hscreen =>
    exact ⟨.look, by simp [onward], by simp [step, hscreen]⟩
  | found _ _ _ hscreen => exact ⟨.store, by simp [onward], by simp [step, hscreen]⟩
  | stored _ _ _ hscreen _ => exact ⟨.set, by simp [onward], by simp [step, hscreen]⟩
  | set hrunner hreply _ _ _ =>
    exact ⟨.wake, by simp [onward], by simp [step, hrunner, hreply]⟩
  | woken hrunner _ _ _ _ =>
    exact ⟨.forget, by simp [onward], by simp [step, hrunner]⟩
  | forgotten hrunner _ _ _ =>
    exact ⟨.answer, by simp [onward], by simp [step, hrunner]⟩

/-- Answers are only added. -/
lemma answers_step {a : Act} {t : State} (h : step s a = some t) :
    ∃ more, t.answers = s.answers ++ more := by
  cases step_cases h with
  | answer p _ => exact ⟨_, rfl⟩
  | store c _ =>
    refine ⟨[], ?_⟩
    unfold storeReply
    split
    · simp
    · split <;> simp
  | _ => exact ⟨[], (List.append_nil _).symm⟩

/-- However an undisturbed run goes on, the key is on its way or has answered the question. -/
lemma heading_run (hlookup : q.options.lookup ch = some v) (hs : Heading q ch v s) {as : List Act}
    {t : State} (h : run step s as = some t)
    (hcalm : Along step Undisturbed s as) :
    t.answers = s.answers ∧ Heading q ch v t ∨ ∃ later, t.answers = s.answers ++ (q, v) :: later := by
  refine run_preserves_along (I := fun t => t.answers = s.answers ∧ Heading q ch v t ∨
    ∃ later, t.answers = s.answers ++ (q, v) :: later) (fun t a u hstep hundisturbed ht => ?_) h
    hcalm (.inl ⟨rfl, hs⟩)
  rcases ht with ⟨hanswers, hheading⟩ | ⟨later, hlater⟩
  · rcases heading_step hlookup hheading hstep hundisturbed with ⟨hu, hheading'⟩ | hu
    · exact .inl ⟨hu.trans hanswers, hheading'⟩
    · exact .inr ⟨[], hanswers ▸ hu⟩
  · obtain ⟨more, hmore⟩ := answers_step hstep
    exact .inr ⟨later ++ more, by rw [hmore, hlater]; simp⟩

end Heading

/-- Whatever the threads' order and wherever Ctrl-C falls, what `ask` returns is an option of a
question that was asked. If no key is taken while an answered question is still on the screen, no
lookup fails in the main thread, and the questions are answered in turn, each by one key and with
what that key stands for in it. A key of one of its options, taken while a question waits, answers
it in every run on which Ctrl-C does not fall: until it has, one of the threads can go on. -/
theorem answers_of_run {as : List Act} {s : State} (h : run step init as = some s) :
    (∀ a ∈ s.answers, ∃ q ∈ s.questions, a.2 ∈ q.values) ∧
    (Along step Unhurried init as →
      s.screen ≠ .raised ∧
      (∃ waiting, s.questions = s.answers.map Prod.fst ++ waiting ∧ waiting.length ≤ 1) ∧
      (∃ due, List.Forall₂ Given s.keys (s.answers ++ due) ∧ due.length ≤ 1) ∧
      ∀ q, s.runner = .waiting q → s.reply = false → s.screen = .polling → ∀ k page ch v,
        letter k = some ch → q.options.lookup ch = some v →
        ∀ more t, run step s (.press k page :: more) = some t →
          Along step Undisturbed s (.press k page :: more) →
          (t.answers = s.answers ∧ ∃ a ∈ onward, (step t a).isSome) ∨
            ∃ later, t.answers = s.answers ++ (q, v) :: later) := by
  have hsound : Sound s := run_preserves (fun _ _ _ => sound_step) h sound_init
  refine ⟨hsound.answers, fun hcalm => ?_⟩
  have htidy : Tidy s := run_preserves_along (fun _ _ _ => tidy_step) h hcalm tidy_init
  refine ⟨fun hraised => ?_, ⟨_, htidy.questions, ?_⟩, ⟨_, htidy.keys, ?_⟩, ?_⟩
  · have halone := htidy.alone
    rw [Alone, hraised] at halone
    exact halone
  · cases s.runner <;> simp [Runner.question]
  · unfold State.due
    split
    · split <;> simp
    all_goals simp
  · intro q hrunner hreply hscreen k page ch v hletter hlookup more t hrun hundisturbed
    have hpending : s.pending = some q := by simpa [Shared, hrunner] using htidy.shared
    obtain ⟨u, hu, hmore⟩ := run_cons.mp hrun
    have hpress : u = { s with screen := .got k page } := by
      cases step_cases hu
      rfl
    have hheading : Heading q ch v u := by
      rw [hpress]
      exact .got k page hletter hrunner hreply hpending rfl
    have hsame : u.answers = s.answers := by rw [hpress]
    rw [← hsame]
    rcases heading_run hlookup hheading hmore ((along_cons hu).mp hundisturbed).2 with ⟨ht, hway⟩ | ht
    · exact .inl ⟨ht, hway.exists_onward⟩
    · exact .inr ht

/-- What the pipeline asks when it stops with machines running. -/
def leftRunning : Question where
  title := "Stopped with VMs possibly still running"
  lines := ["d  destroy them now and free their Tailscale names", "l  leave them up for debugging"]
  options := [('d', "destroy"), ('l', "leave")]

/-- A key that stands for nothing, Ctrl-C at the letter D, and the letter L, with the runner in
between. -/
def calmRun : List Act :=
  [.press 106 10, .ask leftRunning, .read, .press 120 10, .display, .read, .look, .press 68 10,
    .read, .look, .store, .interrupt, .check, .press 76 10,
    .read, .look, .store, .set, .wake, .forget, .press 108 10, .answer, .read]

theorem calmRun_answered : ∃ s, run step init calmRun = some s ∧
    s.answers = [(leftRunning, "leave")] ∧ s.abort = false ∧ s.screen ≠ .raised := by
  have hrun : run step init calmRun = some
      { reply := true, replyValue := "leave", questions := [leftRunning],
        keys := [(leftRunning, 'l')], answers := [(leftRunning, "leave")] } := rfl
  exact ⟨_, hrun, rfl, rfl, ((answers_of_run hrun).2 (by decide)).1⟩

/-- A second key that is looked up while the runner takes the question back. -/
example : (run step init [.ask leftRunning, .display, .press 108 10, .read, .look, .store, .set,
    .press 108 10, .read, .wake, .forget, .look]).map State.screen = some .raised := rfl

end CrdbLab.QuestionKeys
