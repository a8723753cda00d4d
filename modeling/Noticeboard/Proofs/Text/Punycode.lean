import Mathlib.Data.List.Basic
import Mathlib.Tactic.Ring
import Noticeboard.Text.Punycode

/-!
Punycode is read back. The spelling visits states, each a code point with a place, and a number
says how many states were passed over since the last character was put in. The reading holds the
characters that were put in so far, so that it comes to the same state with the same number.
-/

namespace Noticeboard.Text.Punycode

/-! ## Digits -/

theorem threshold_le (bias k : Nat) : threshold bias k ≤ 26 := Nat.min_le_left _ _

theorem digit?_digit {n : Nat} (h : n < 36) : digit? (digit n) = some n := by
  have hall : ∀ n < 36, digit? (digit n) = some n := by decide
  exact hall n h

def IsDigit (c : Char) : Prop := ∃ d < 36, c = digit d

theorem IsDigit.isBasic {c : Char} (h : IsDigit c) : isBasic c := by
  have hall : ∀ d < 36, Punycode.isBasic (digit d) := by decide
  obtain ⟨d, hd, rfl⟩ := h
  exact hall d hd

theorem IsDigit.ne_hyphen {c : Char} (h : IsDigit c) : c ≠ '-' := by
  have hall : ∀ d < 36, digit d ≠ '-' := by decide
  obtain ⟨d, hd, rfl⟩ := h
  exact hall d hd

theorem IsDigit.ne_point {c : Char} (h : IsDigit c) : c ≠ '.' := by
  have hall : ∀ d < 36, digit d ≠ '.' := by decide
  obtain ⟨d, hd, rfl⟩ := h
  exact hall d hd

theorem isDigit_of_digits {bias k n : Nat} {c : Char} (h : c ∈ digits bias k n) : IsDigit c := by
  have hpos := threshold_pos bias k
  have hle := threshold_le bias k
  fun_induction digits bias k n with
  | case1 k n t hlast =>
      obtain rfl := List.mem_singleton.mp h
      exact ⟨n, by omega, rfl⟩
  | case2 k n t hmore ih =>
      rcases List.mem_cons.mp h with rfl | h
      · have hrest : (n - t) % (36 - t) < 36 - t := Nat.mod_lt _ (by omega)
        exact ⟨_, by omega, rfl⟩
      · exact ih h (threshold_pos _ _) (threshold_le _ _)

/-- A number that is spelled is read as it is, in the weight of the place where it begins. -/
theorem readFrom_digits (bias k n : Nat) (rest : List Char) :
    ∀ r : Reading, r.bias = bias → r.k = k →
      readFrom r (digits bias k n ++ rest) =
        (r.insert? (r.sum + n * r.weight)).bind (readFrom · rest) := by
  fun_induction digits bias k n with
  | case1 k n t hlast =>
      intro r hbias hk
      have hle := threshold_le bias k
      rw [List.cons_append, List.nil_append, readFrom, digit?_digit (by omega)]
      simp only [hbias, hk]
      rw [if_pos hlast]
      cases r.insert? (r.sum + n * r.weight) <;> rfl
  | case2 k n t hmore ih =>
      intro r hbias hk
      have hpos := threshold_pos bias k
      have hle := threshold_le bias k
      have hrest : (n - t) % (36 - t) < 36 - t := Nat.mod_lt _ (by omega)
      rw [List.cons_append, readFrom, digit?_digit (by omega)]
      simp only [hbias, hk]
      rw [if_neg (by omega), ih _ rfl rfl]
      have hwhole : t + (n - t) % (36 - t) + (36 - t) * ((n - t) / (36 - t)) = n := by
        rw [Nat.add_assoc, Nat.mod_add_div]
        omega
      have hsum : r.sum + (t + (n - t) % (36 - t)) * r.weight +
          (n - t) / (36 - t) * (r.weight * (36 - t)) = r.sum + n * r.weight := by
        calc _ = r.sum + (t + (n - t) % (36 - t) + (36 - t) * ((n - t) / (36 - t))) * r.weight := by
              ring
          _ = _ := by rw [hwhole]
      exact congrArg (fun sum => (r.insert? sum).bind (readFrom · rest)) hsum

/-! ## Characters put in -/

theorem character_toNat (c : Char) : character c.toNat = c := by
  have hvalid : c.toNat < 0xd800 ∨ 0xdfff < c.toNat ∧ c.toNat < 0x110000 := c.valid
  rw [character, if_neg (by omega), Char.ofNat_toNat]

theorem toNat_lt (c : Char) : c.toNat < 0x110000 := by
  have hvalid : c.toNat < 0xd800 ∨ 0xdfff < c.toNat ∧ c.toNat < 0x110000 := c.valid
  omega

/-- A number leads to the state that is as many states on: to place `i` in the round of `m`. -/
theorem insert?_eq {r : Reading} {m i passed : Nat}
    (hstate : r.code * (r.text.length + 1) + r.place + passed = m * (r.text.length + 1) + i)
    (hcode : r.code ≤ m) (hi : i ≤ r.text.length) (hm : m < 0x110000) :
    r.insert? passed = some
      { text := r.text.take i ++ character m :: r.text.drop i
        code := m, place := i + 1, bias := adapted r.isFirst (r.text.length + 1) passed
        isFirst := false, k := 36, weight := 1, sum := 0 } := by
  obtain ⟨j, rfl⟩ := Nat.exists_eq_add_of_le hcode
  have hstates : r.place + passed = (r.text.length + 1) * j + i := by
    rw [Nat.add_mul, Nat.mul_comm j] at hstate
    omega
  have hplace : i < r.text.length + 1 := by omega
  have hrounds : ((r.text.length + 1) * j + i) / (r.text.length + 1) = j := by
    rw [Nat.mul_add_div (by omega), Nat.div_eq_of_lt hplace, Nat.add_zero]
  have hrest : ((r.text.length + 1) * j + i) % (r.text.length + 1) = i := by
    rw [Nat.mul_add_mod, Nat.mod_eq_of_lt hplace]
  simp only [Reading.insert?, hstates, hrounds, hrest]
  rw [if_pos hm]

/-! ## The spelling and the reading in step -/

/-- Whether a reading that began as `start` goes on from `r` once what is written has been read, in
step with the spelling: it holds the characters of `text`, and the states that the spelling has
passed since lead to place `i` in the round of `m`. -/
structure InStep (start : Reading) (basics : Nat) (text : List Char) (m i : Nat) (p : Progress)
    (r : Reading) : Prop where
  reads : ∀ rest, readFrom start (p.written ++ rest) = readFrom r rest
  holds : r.text = text
  count_eq : p.count = text.length
  state : r.code * (text.length + 1) + r.place + p.passed = m * (text.length + 1) + i
  code_le : r.code ≤ m
  bias_eq : r.bias = p.bias
  first : r.isFirst = decide (p.count = basics)
  least : basics ≤ p.count
  fresh : r.k = 36 ∧ r.weight = 1 ∧ r.sum = 0

variable {start r : Reading} {basics m i : Nat} {text : List Char} {p : Progress}

/-- States that are passed over need no number. -/
theorem InStep.pass (h : InStep start basics text m i p r) {m' i' j : Nat}
    (hstate : m' * (text.length + 1) + i' = m * (text.length + 1) + i + j) (hm : m ≤ m') :
    InStep start basics text m' i' { p with passed := p.passed + j } r :=
  { h with
    state := by
      rw [hstate, ← h.state]
      exact (Nat.add_assoc _ _ _).symm
    code_le := h.code_le.trans hm }

/-- A character is put in where the spelling has come to. -/
theorem InStep.insert (h : InStep start basics text m i p r) (hi : i ≤ text.length) {c : Char}
    (hc : c.toNat = m) :
    ∃ r', InStep start basics (text.take i ++ c :: text.drop i) m (i + 1)
      (p.step basics m c) r' := by
  obtain ⟨hk, hweight, hsum⟩ := h.fresh
  obtain rfl := h.holds
  have hinsert := insert?_eq h.state h.code_le hi (hc ▸ toNat_lt c)
  have hlength : (r.text.take i ++ c :: r.text.drop i).length = r.text.length + 1 := by
    simp
    omega
  have hstep : p.step basics m c =
      { written := p.written ++ digits p.bias 36 p.passed, passed := 0
        bias := adapted (p.count = basics) (p.count + 1) p.passed, count := p.count + 1 } := by
    rw [Progress.step, if_neg (by omega), if_pos hc]
  rw [hstep]
  refine ⟨{
      text := r.text.take i ++ character m :: r.text.drop i
      code := m, place := i + 1, bias := adapted r.isFirst (r.text.length + 1) p.passed
      isFirst := false, k := 36, weight := 1, sum := 0 },
    fun rest => ?_, by rw [← hc, character_toNat], ?_, ?_, Nat.le_refl m, ?_, ?_, ?_, rfl, rfl, rfl⟩
  · have hdigits := readFrom_digits p.bias 36 p.passed rest r h.bias_eq hk
    rw [hsum, hweight, Nat.zero_add, Nat.mul_one, hinsert] at hdigits
    rw [List.append_assoc, h.reads]
    exact hdigits
  · rw [hlength]
    exact congrArg (· + 1) h.count_eq
  · rw [hlength]
    dsimp only
    omega
  · rw [h.first, h.count_eq]
  · have hmore : p.count + 1 ≠ basics := by
      have := h.least
      omega
    exact (decide_eq_false hmore).symm
  · exact h.least.trans (Nat.le_succ _)

/-! ## Rounds -/

/-- The characters of a text that are put in before the round of `m`. -/
def below (m : Nat) (cs : List Char) : List Char := cs.filter (·.toNat < m)

theorem below_nil (m : Nat) : below m [] = [] := rfl

theorem below_cons_of_lt {c : Char} (h : c.toNat < m) (cs : List Char) :
    below m (c :: cs) = c :: below m cs := by
  simp [below, h]

theorem below_cons_of_le {c : Char} (h : m ≤ c.toNat) (cs : List Char) :
    below m (c :: cs) = below m cs := by
  simp [below, h]

theorem below_concat_of_lt {c : Char} (h : c.toNat < m) (cs : List Char) :
    below m (cs ++ [c]) = below m cs ++ [c] := by
  simp [below, h]

theorem below_concat_of_le {c : Char} (h : m ≤ c.toNat) (cs : List Char) :
    below m (cs ++ [c]) = below m cs := by
  simp [below, h]

/-- In the round of `m` its characters are put in from the front of the text to its end, among those
of the rounds before. -/
theorem inStep_round (seen todo : List Char)
    (h : InStep start basics (below (m + 1) seen ++ below m todo) m (below (m + 1) seen).length
      p r) :
    ∃ r', InStep start basics (below (m + 1) (seen ++ todo)) m
      (below (m + 1) (seen ++ todo)).length (todo.foldl (Progress.step basics m) p) r' := by
  induction todo generalizing seen p r with
  | nil =>
      rw [below_nil, List.append_nil] at h
      exact ⟨r, by rwa [List.append_nil]⟩
  | cons c todo ih =>
      rw [List.append_cons, List.foldl_cons]
      rcases Nat.lt_trichotomy c.toNat m with hc | hc | hc
      · have hstep : p.step basics m c = { p with passed := p.passed + 1 } := by
          rw [Progress.step, if_pos hc]
        rw [below_cons_of_lt hc, List.append_cons] at h
        apply ih (seen ++ [c])
        rw [hstep, below_concat_of_lt (by omega)]
        refine h.pass ?_ (Nat.le_refl m)
        have hlength : (below (m + 1) seen ++ [c]).length = (below (m + 1) seen).length + 1 :=
          List.length_append
        omega
      · rw [below_cons_of_le (by omega)] at h
        obtain ⟨r', hr'⟩ := h.insert (by simp) hc
        apply ih (seen ++ [c])
        rw [below_concat_of_lt (by omega)]
        simpa using hr'
      · have hstep : p.step basics m c = p := by
          rw [Progress.step, if_neg (by omega), if_neg (by omega)]
        rw [below_cons_of_le (by omega)] at h
        apply ih (seen ++ [c])
        rwa [hstep, below_concat_of_le hc]

/-- After the rounds of all code points that are left the whole text is put in. -/
theorem inStep_rounds {cs : List Char} {n : Nat} {codes : List Nat}
    (hsorted : codes.Pairwise (· < ·)) (hleast : ∀ m ∈ codes, n ≤ m)
    (hall : ∀ c ∈ cs, n ≤ c.toNat → c.toNat ∈ codes)
    (h : InStep start basics (below n cs) n 0 p r) :
    ∃ r' m', InStep start basics cs m' 0 (rounds cs basics n p codes) r' := by
  induction codes generalizing n p r with
  | nil =>
      have htext : below n cs = cs := by
        rw [below, List.filter_eq_self]
        intro c hc
        exact decide_eq_true (Nat.lt_of_not_le fun hn => nomatch hall c hc hn)
      exact ⟨r, n, htext ▸ h⟩
  | cons m codes ih =>
      obtain ⟨hfirst, hsorted⟩ := List.pairwise_cons.mp hsorted
      have hn : n ≤ m := hleast m List.mem_cons_self
      -- No character lies between the last round and this one.
      have htext : below n cs = below m cs := by
        refine List.filter_congr fun c hc => decide_eq_decide.mpr ?_
        by_cases hle : n ≤ c.toNat
        · rcases List.mem_cons.mp (hall c hc hle) with hm | hlater
          · omega
          · have := hfirst _ hlater
            omega
        · omega
      have hround : InStep start basics (below m cs) m 0
          { p with passed := p.passed + (m - n) * (p.count + 1) } r := by
        rw [htext] at h
        refine h.pass ?_ hn
        obtain ⟨j, rfl⟩ := Nat.exists_eq_add_of_le hn
        rw [h.count_eq, Nat.add_sub_cancel_left, Nat.add_mul]
        omega
      obtain ⟨r', hr'⟩ := inStep_round [] cs hround
      refine ih (r := r') hsorted (fun m' hm' => hfirst m' hm') (fun c hc hle => ?_) ?_
      · rcases List.mem_cons.mp (hall c hc (by omega)) with hm | hlater
        · omega
        · exact hlater
      · refine hr'.pass ?_ (Nat.le_succ m)
        rw [List.nil_append, Nat.add_mul]
        omega

/-! ## Spelling and reading -/

theorem pairwise_eraseDups {codes : List Nat} (h : codes.Pairwise (· ≤ ·)) :
    codes.eraseDups.Pairwise (· < ·) := by
  induction hlength : codes.length using Nat.strong_induction_on generalizing codes with
  | h length ih =>
      cases codes with
      | nil => exact List.Pairwise.nil
      | cons m rest =>
          obtain ⟨hfirst, hrest⟩ := List.pairwise_cons.mp h
          have hshorter : (rest.filter fun k => !k == m).length < length := by
            rw [← hlength, List.length_cons]
            exact Nat.lt_succ_of_le (List.length_filter_le _ _)
          rw [List.eraseDups_cons]
          refine List.pairwise_cons.mpr ⟨fun k hk => ?_, ih _ hshorter (hrest.filter _) rfl⟩
          obtain ⟨hk, hother⟩ := List.mem_filter.mp (List.mem_eraseDups.mp hk)
          have hne : k ≠ m := by simpa using hother
          exact Nat.lt_of_le_of_ne (hfirst k hk) hne.symm

/-- The code points that are not basic, in order. -/
def codes (cs : List Char) : List Nat :=
  ((cs.filter (!isBasic ·)).map Char.toNat).mergeSort.eraseDups

theorem mem_codes {cs : List Char} {m : Nat} :
    m ∈ codes cs ↔ ∃ c ∈ cs, isBasic c = false ∧ c.toNat = m := by
  simp [codes, List.mem_eraseDups, and_assoc]

theorem pairwise_codes (cs : List Char) : (codes cs).Pairwise (· < ·) := by
  apply pairwise_eraseDups
  have htrans : ∀ a b c : Nat, decide (a ≤ b) → decide (b ≤ c) → decide (a ≤ c) := by
    intro a b c hab hbc
    exact decide_eq_true ((of_decide_eq_true hab).trans (of_decide_eq_true hbc))
  have htotal : ∀ a b : Nat, decide (a ≤ b) || decide (b ≤ a) := by
    intro a b
    simpa using Nat.le_total a b
  simpa using List.pairwise_mergeSort htrans htotal ((cs.filter (!isBasic ·)).map Char.toNat)

/-- The numbers that a text is spelled with, after what it has in ASCII. -/
def numbers (cs : List Char) : List Char :=
  (rounds cs (cs.filter isBasic).length 0x80 ⟨[], 0, 72, (cs.filter isBasic).length⟩
    (codes cs)).written

theorem encode_eq (cs : List Char) :
    encode cs = cs.filter isBasic ++ (if (cs.filter isBasic).isEmpty then [] else ['-']) ++
      numbers cs := rfl

/-- The numbers are read as the text. -/
theorem readFrom_numbers (cs : List Char) :
    readFrom
      { text := cs.filter isBasic, code := 0x80, place := 0, bias := 72, isFirst := true, k := 36
        weight := 1, sum := 0 } (numbers cs) = some cs := by
  let start : Reading :=
    { text := cs.filter isBasic, code := 0x80, place := 0, bias := 72, isFirst := true, k := 36
      weight := 1, sum := 0 }
  have hstart : InStep start (cs.filter isBasic).length (below 0x80 cs) 0x80 0
      ⟨[], 0, 72, (cs.filter isBasic).length⟩ start :=
    { reads := fun _ => rfl
      holds := rfl
      count_eq := rfl
      state := rfl
      code_le := Nat.le_refl _
      bias_eq := rfl
      first := (decide_eq_true rfl).symm
      least := Nat.le_refl _
      fresh := ⟨rfl, rfl, rfl⟩ }
  obtain ⟨r, m, hr⟩ := inStep_rounds (pairwise_codes cs)
    (fun m hm => by
      obtain ⟨c, _, hc, rfl⟩ := mem_codes.mp hm
      simpa [isBasic] using hc)
    (fun c hc hle => mem_codes.mpr ⟨c, hc, by simpa [isBasic] using hle, rfl⟩) hstart
  have hreads := hr.reads []
  rw [List.append_nil] at hreads
  rw [numbers, hreads, readFrom, if_pos hr.fresh.1, hr.holds]

/-- Whether only digits are written. -/
def Progress.Plain (p : Progress) : Prop := ∀ c ∈ p.written, IsDigit c

theorem Progress.Plain.step (h : p.Plain) (basics m : Nat) (c : Char) :
    (p.step basics m c).Plain := by
  rw [Progress.step]
  split
  · exact h
  · split
    · intro x hx
      rcases List.mem_append.mp hx with hx | hx
      · exact h x hx
      · exact isDigit_of_digits hx
    · exact h

theorem Progress.Plain.round (h : p.Plain) (basics m : Nat) (cs : List Char) :
    (cs.foldl (Progress.step basics m) p).Plain := by
  induction cs generalizing p with
  | nil => exact h
  | cons c cs ih => exact ih (h.step basics m c)

theorem Progress.Plain.rounds (h : p.Plain) (cs : List Char) (basics n : Nat) (codes : List Nat) :
    (rounds cs basics n p codes).Plain := by
  induction codes generalizing n p with
  | nil => exact h
  | cons m codes ih =>
      have hfirst : { p with passed := p.passed + (m - n) * (p.count + 1) }.Plain := h
      rw [Punycode.rounds]
      refine ih ?_ (m + 1)
      exact hfirst.round basics m cs

theorem isDigit_of_numbers {cs : List Char} {c : Char} (h : c ∈ numbers cs) : IsDigit c :=
  Progress.Plain.rounds (p := ⟨[], 0, 72, _⟩) (fun _ hx => absurd hx List.not_mem_nil) _ _ _ _ c h

theorem mem_encode {cs : List Char} {c : Char} (h : c ∈ encode cs) :
    c ∈ cs ∧ isBasic c ∨ c = '-' ∨ IsDigit c := by
  rw [encode_eq, List.mem_append, List.mem_append] at h
  rcases h with (h | h) | h
  · exact .inl (List.mem_filter.mp h)
  · split at h
    · cases h
    · exact .inr (.inl (List.mem_singleton.mp h))
  · exact .inr (.inr (isDigit_of_numbers h))

theorem cutBasic_of_not_mem {back : List Char} (h : '-' ∉ back) : cutBasic back = (none, back) := by
  induction back with
  | nil => rfl
  | cons c back ih =>
      rw [List.mem_cons, not_or] at h
      rw [cutBasic, ih h.2]
      exact if_neg (Ne.symm h.1)

theorem cutBasic_append (front : List Char) {back : List Char} (h : '-' ∉ back) :
    cutBasic (front ++ '-' :: back) = (some front, back) := by
  induction front with
  | nil =>
      rw [List.nil_append, cutBasic, cutBasic_of_not_mem h]
      exact if_pos rfl
  | cons c front ih => rw [List.cons_append, cutBasic, ih]

/-- What a text is spelled as is read as that text. -/
theorem decode?_encode (cs : List Char) : decode? (encode cs) = some cs := by
  have hdigits : '-' ∉ numbers cs := fun h => (isDigit_of_numbers h).ne_hyphen rfl
  have hread := readFrom_numbers cs
  rw [encode_eq]
  by_cases hbasic : (cs.filter isBasic).isEmpty
  · rw [List.isEmpty_iff.mp hbasic] at hread ⊢
    rw [List.isEmpty_nil, if_pos rfl, List.append_nil, List.nil_append, decode?,
      cutBasic_of_not_mem hdigits]
    exact hread
  · rw [if_neg hbasic, List.append_assoc, List.singleton_append, decode?,
      cutBasic_append _ hdigits]
    exact hread

/-- A text with characters outside ASCII is spelled with a digit at the end. -/
theorem getLast?_encode {cs : List Char} (h : cs.all isBasic = false) :
    ∃ c, (encode cs).getLast? = some c ∧ IsDigit c := by
  have hne : numbers cs ≠ [] := by
    intro hnone
    have hread := readFrom_numbers cs
    rw [hnone, readFrom, if_pos rfl, Option.some.injEq] at hread
    have hall : (cs.filter isBasic).all isBasic := by simp
    rw [show cs.filter isBasic = cs from hread, h] at hall
    cases hall
  refine ⟨(numbers cs).getLast hne, ?_, isDigit_of_numbers (List.getLast_mem hne)⟩
  rw [encode_eq, List.getLast?_append_of_ne_nil _ hne, List.getLast?_eq_some_getLast]

/-! ## What is read -/

theorem text_insert? {r r' : Reading} {passed : Nat} (h : r.insert? passed = some r') {c : Char}
    (hc : c ∈ r.text) : c ∈ r'.text := by
  simp only [Reading.insert?] at h
  split at h
  · cases h
    rw [← List.take_append_drop ((r.place + passed) % (r.text.length + 1)) r.text] at hc
    rcases List.mem_append.mp hc with hc | hc
    · exact List.mem_append_left _ hc
    · exact List.mem_append_right _ (List.mem_cons_of_mem _ hc)
  · cases h

/-- Numbers are written in digits, and what the text has before them stays in it. -/
theorem readFrom_ok {r : Reading} {cs text : List Char} (h : readFrom r cs = some text) :
    (∀ c ∈ cs, (digit? c).isSome) ∧ ∀ c ∈ r.text, c ∈ text := by
  induction cs generalizing r with
  | nil =>
      rw [readFrom] at h
      split at h
      · cases h
        exact ⟨fun _ hc => absurd hc List.not_mem_nil, fun _ hc => hc⟩
      · cases h
  | cons c cs ih =>
      rw [readFrom] at h
      split at h
      · cases h
      · next d hd =>
          have hdigit : (digit? c).isSome := by rw [hd]; rfl
          dsimp only at h
          split at h
          · split at h
            · next r' hinsert =>
                obtain ⟨hdigits, htext⟩ := ih h
                exact ⟨List.forall_mem_cons.mpr ⟨hdigit, hdigits⟩,
                  fun x hx => htext x (text_insert? hinsert hx)⟩
            · cases h
          · obtain ⟨hdigits, htext⟩ := ih h
            exact ⟨List.forall_mem_cons.mpr ⟨hdigit, hdigits⟩, htext⟩

theorem append_cutBasic (cs : List Char) :
    cs = (cutBasic cs).1.elim [] (· ++ ['-']) ++ (cutBasic cs).2 := by
  induction cs with
  | nil => rfl
  | cons c cs ih =>
      rw [cutBasic]
      cases hcut : cutBasic cs with
      | mk front back =>
          rw [hcut] at ih
          cases front with
          | some front => simpa using ih
          | none =>
              obtain rfl : cs = back := ih
              by_cases hc : c = '-' <;> simp [hc]

/-- Whatever is read has the characters of the text, hyphens and digits. -/
theorem mem_of_decode? {cs text : List Char} (h : decode? cs = some text) {c : Char} (hc : c ∈ cs) :
    c ∈ text ∨ c = '-' ∨ (digit? c).isSome := by
  rw [append_cutBasic cs] at hc
  obtain ⟨hdigits, htext⟩ := readFrom_ok h
  rcases List.mem_append.mp hc with hc | hc
  · cases hfront : (cutBasic cs).1 with
    | none => simp [hfront] at hc
    | some front =>
        simp only [hfront, Option.elim_some, Option.getD_some] at hc htext
        rcases List.mem_append.mp hc with hc | hc
        · exact .inl (htext c hc)
        · exact .inr (.inl (List.mem_singleton.mp hc))
  · exact .inr (.inr (hdigits c hc))

end Noticeboard.Text.Punycode
