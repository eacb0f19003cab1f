import CrdbLab.Workload

/-!
The pattern for numeric tokens against the reading of numbers.

The pattern covers the numerals that are written plainly: digits first, a digit after the
point, and no underscore. The reading of numbers accepts more.
-/

namespace CrdbLab.NumericToken

open CrdbLab.Lib.Extended CrdbLab.Lib.Numeral CrdbLab.Workload RegularExpression

/-- Written with digits first after the sign, a digit after each point, and neither an
underscore nor white space. -/
structure Plain (s : List Char) : Prop where
  chars : ∀ c ∈ s, c ≠ '_' ∧ isSpace c = false
  first : ∃ c t, (sign s).2 = c :: t ∧ isDigit c = true
  points : ∀ t u, s = t ++ '.' :: u → ∃ c v, u = c :: v ∧ isDigit c = true

/-! ### The languages of the patterns -/

lemma sym_digit {c : Char} (h : isDigit c = true) : sym c = .digit := by
  simp [sym, h]

lemma map_sym_digits {ds : List Char} (h : ∀ c ∈ ds, isDigit c = true) :
    ds.map sym = ds.map fun _ => Sym.digit :=
  List.map_congr_left fun c hc => sym_digit (h c hc)

lemma mem_digitsRe {ds : List Char} (hne : ds ≠ []) (h : ∀ c ∈ ds, isDigit c = true) :
    ds.map sym ∈ digitsRe.matches' := by
  rw [map_sym_digits h]
  cases ds with
  | nil => exact absurd rfl hne
  | cons c t =>
    refine Language.mem_mul.mpr ⟨[.digit], rfl, t.map fun _ => .digit, ?_, rfl⟩
    refine Language.mem_kstar.mpr ⟨t.map fun _ => [Sym.digit], ?_, ?_⟩
    · simp
    · intro y hy
      obtain ⟨-, -, rfl⟩ := List.mem_map.mp hy
      rfl

lemma nil_mem_optionalRe (r : RegularExpression Sym) : [] ∈ (optionalRe r).matches' :=
  Or.inl rfl

lemma mem_optionalRe {r : RegularExpression Sym} {x : List Sym} (h : x ∈ r.matches') :
    x ∈ (optionalRe r).matches' :=
  Or.inr h

lemma mem_mul {r r' : RegularExpression Sym} {x y : List Sym} (hx : x ∈ r.matches')
    (hy : y ∈ r'.matches') : x ++ y ∈ (r * r').matches' :=
  Language.append_mem_mul hx hy

/-! ### The parts of a numeral -/

/-- A leading sign is one character at most. -/
lemma sign_spec (s : List Char) :
    ∃ mark, s = mark ++ (sign s).2 ∧ mark.map sym ∈ (optionalRe (char Sym.sign)).matches' := by
  unfold sign
  split
  · exact ⟨['-'], rfl, mem_optionalRe (by decide +kernel)⟩
  · exact ⟨['+'], rfl, mem_optionalRe (by decide +kernel)⟩
  · exact ⟨[], rfl, nil_mem_optionalRe _⟩

lemma sym_exponentMark {c : Char} (h : isExponentMark c = true) : sym c = .exponent := by
  rcases (by simpa [isExponentMark] using h : c = 'e' ∨ c = 'E') with rfl | rfl <;> decide +kernel

/-- What is read as an exponent matches the part of the pattern for it. -/
lemma exponent_matches {s : List Char} (h : (exponent s).isSome) :
    s.map sym ∈ (optionalRe (char Sym.exponent *
      (optionalRe (char Sym.sign) * digitsRe))).matches' := by
  cases s with
  | nil => exact nil_mem_optionalRe _
  | cons c t =>
    obtain ⟨mark, ht, hmark⟩ := sign_spec t
    simp only [exponent] at h
    split at h
    · rename_i hcond
      simp only [Bool.and_eq_true, decide_eq_true_eq, List.all_eq_true] at hcond
      refine mem_optionalRe ?_
      have hsplit : (c :: t).map sym = [Sym.exponent] ++ (mark.map sym ++ (sign t).2.map sym) := by
        rw [List.map_cons, sym_exponentMark hcond.1.1, ← List.map_append, ← ht]
        rfl
      rw [hsplit]
      exact mem_mul rfl (mem_mul hmark (mem_digitsRe hcond.1.2 hcond.2))
    · simp at h

/-- A digit has no other case. -/
lemma toLower_of_isDigit {c : Char} (h : isDigit c = true) : c.toLower = c := by
  unfold Char.toLower
  split
  · rename_i hupper
    have hlo : 65 ≤ c.toNat := UInt32.le_iff_toNat_le.mp hupper.1
    have hhi : c.toNat ≤ 90 := UInt32.le_iff_toNat_le.mp hupper.2
    -- no range of digits meets that of the upper-case letters
    have hnone : digit? c = none := by
      unfold digit?
      rw [Option.map_eq_none_iff, List.find?_eq_none]
      simp only [digitZeros, List.forall_mem_cons, Bool.and_eq_true, decide_eq_true_eq]
      refine ⟨?_, ?_⟩ <;> simp <;> omega
    simp [isDigit, hnone] at h
  · rfl

/-- What begins with a digit is none of the words. -/
lemma not_word {c : Char} {t : List Char} (h : isDigit c = true) :
    (c :: t).map Char.toLower ∉ infinityWords ∧ (c :: t).map Char.toLower ≠ nanWord := by
  have hi : c ≠ 'i' := by
    rintro rfl
    exact absurd h (by decide +kernel)
  have hn : c ≠ 'n' := by
    rintro rfl
    exact absurd h (by decide +kernel)
  simp [infinityWords, nanWord, toLower_of_isDigit h, hi, hn]

/-- What is read as an unsigned decimal matches the part of the pattern for it, if its first
character is a digit and one follows the point. -/
lemma decimal_matches {s : List Char} (h : (decimal s).isSome)
    (hfirst : ∃ c t, s = c :: t ∧ isDigit c = true)
    (hpoint : ∀ t u, s = t ++ '.' :: u → ∃ c v, u = c :: v ∧ isDigit c = true) :
    s.map sym ∈ (digitsRe * (optionalRe (char Sym.point * digitsRe) *
      optionalRe (char Sym.exponent * (optionalRe (char Sym.sign) * digitsRe)))).matches' := by
  have hwhole : s.takeWhile isDigit ++ s.dropWhile isDigit = s := List.takeWhile_append_dropWhile
  have hwholeDigits : s.takeWhile isDigit ≠ [] := by
    obtain ⟨c, t, rfl, hc⟩ := hfirst
    simp [hc]
  have hleft := mem_digitsRe hwholeDigits fun c hc => List.mem_takeWhile_imp hc
  have hrest : ∃ mid tail, s.dropWhile isDigit = mid ++ tail ∧
      mid.map sym ∈ (optionalRe (char Sym.point * digitsRe)).matches' ∧
      (exponent tail).isSome := by
    simp only [decimal] at h
    split at h
    · simp at h
    · cases hdrop : s.dropWhile isDigit with
      | nil => exact ⟨[], [], rfl, nil_mem_optionalRe _, rfl⟩
      | cons c t =>
        by_cases hc : c = '.'
        · subst hc
          rw [hdrop] at h hwhole
          refine ⟨'.' :: t.takeWhile isDigit, t.dropWhile isDigit, ?_, mem_optionalRe ?_, ?_⟩
          · simp [List.takeWhile_append_dropWhile]
          · obtain ⟨d, v, rfl, hd⟩ := hpoint _ _ hwhole.symm
            have hfrac : (d :: v).takeWhile isDigit ≠ [] := by simp [hd]
            have hpt : sym '.' = .point := by decide +kernel
            rw [List.map_cons, hpt]
            exact mem_mul (x := [Sym.point]) rfl
              (mem_digitsRe hfrac fun c hc => List.mem_takeWhile_imp hc)
          · simpa [fraction] using h
        · refine ⟨[], c :: t, rfl, nil_mem_optionalRe _, ?_⟩
          rw [hdrop] at h
          simpa [fraction, hc] using h
  obtain ⟨mid, tail, hsplit, hmid, hexp⟩ := hrest
  have hall : s.map sym = (s.takeWhile isDigit).map sym ++ (mid.map sym ++ tail.map sym) := by
    rw [← List.map_append, ← List.map_append, ← hsplit, hwhole]
  rw [hall]
  exact mem_mul hleft (mem_mul hmid (exponent_matches hexp))

/-- **The pattern covers the plainly written numerals.** -/
lemma fullMatch_of_plain {op : String} (hfloat : (float op).isSome) (hplain : Plain op.toList) :
    fullMatch numericTokenRe op = true := by
  obtain ⟨hchars, ⟨c, t, hbody, hc⟩, hpoints⟩ := hplain
  have hstrip : strip isNumberSpace op.toList = op.toList :=
    strip_eq_self fun x hx => isNumberSpace_of_not_space (hchars x hx).2
  have hfilter : op.toList.filter (· ≠ '_') = op.toList :=
    List.filter_eq_self.mpr fun x hx => by simpa using (hchars x hx).1
  obtain ⟨mark, hmark, hsign⟩ := sign_spec op.toList
  have hdecimal : (decimal (sign op.toList).2).isSome := by
    obtain ⟨hinf, hnan⟩ := not_word (t := t) hc
    simp only [float, hstrip] at hfloat
    split at hfloat
    · rw [hfilter] at hfloat
      simp only [number, hbody, hinf, hnan, if_false, Option.isSome_map] at hfloat
      rwa [hbody]
    · simp at hfloat
  have hbodyPoints : ∀ v u, (sign op.toList).2 = v ++ '.' :: u →
      ∃ d w, u = d :: w ∧ isDigit d = true := by
    intro v u hv
    refine hpoints (mark ++ v) u ?_
    rw [hmark, hv, List.append_assoc]
  have hmatches := mem_mul hsign (decimal_matches hdecimal ⟨c, t, hbody, hc⟩ hbodyPoints)
  rw [← List.map_append, ← hmark] at hmatches
  exact (rmatch_iff_matches' _ _).mpr hmatches

end CrdbLab.NumericToken
