import Noticeboard.Proofs.Json.Completeness
import Noticeboard.Proofs.Text.Utf8

/-!
Nothing but the grammar is read. What a reader takes from the front of a text is what the grammar
has for the value that it returns, so that a text is read exactly if the grammar has it for some
value, and then it has it for no other value.
-/

namespace Noticeboard.Json

open Grammar

namespace Reader

theorem skip_split (cs : List Char) : ∃ w, Blank w ∧ cs = w ++ skip cs := by
  induction cs with
  | nil => exact ⟨[], blank_nil, rfl⟩
  | cons c cs ih =>
      by_cases hc : IsBlank c
      · obtain ⟨w, hw, hcs⟩ := ih
        refine ⟨c :: w, List.forall_mem_cons.mpr ⟨hc, hw⟩, ?_⟩
        rw [skip_of_isBlank hc, List.cons_append, ← hcs]
      · exact ⟨[], blank_nil, (skip_of_not_isBlank hc cs).symm⟩

/-! ## Numbers -/

variable {ds : List Nat} {cs rest : List Char}

theorem ofNat_from {c : Char} {k : Nat} (h : k ≤ c.toNat) :
    Char.ofNat (k + (c.toNat - k)) = c := by
  rw [Nat.add_sub_cancel' h, Char.ofNat_toNat]

theorem eq_digitChar {c : Char} {k : Nat} (h : Text.asciiDigit? c = some k) :
    k < 10 ∧ c = Nat.digitChar k := by
  have all : ∀ k < 10, Nat.digitChar k = Char.ofNat (48 + k) := by decide
  rw [Text.asciiDigit?] at h
  split at h
  · next hc =>
      cases h
      have hlow : 48 ≤ c.toNat := hc.1
      have hhigh : c.toNat ≤ 57 := hc.2
      have hk : c.toNat - '0'.toNat < 10 := Nat.lt_of_le_of_lt (Nat.sub_le_sub_right hhigh 48)
        (by decide)
      refine ⟨hk, ?_⟩
      rw [all _ hk]
      exact (ofNat_from hlow).symm
  · cases h

theorem digits_split (h : digits cs = (ds, rest)) :
    (∀ k ∈ ds, k < 10) ∧ cs = ds.map Nat.digitChar ++ rest := by
  induction cs generalizing ds with
  | nil =>
      cases h
      exact ⟨fun _ h => absurd h List.not_mem_nil, rfl⟩
  | cons c cs ih =>
      rw [digits] at h
      cases hc : Text.asciiDigit? c with
      | none =>
          rw [hc] at h
          cases h
          exact ⟨fun _ h => absurd h List.not_mem_nil, rfl⟩
      | some k =>
          rw [hc] at h
          obtain ⟨hk, rfl⟩ := eq_digitChar hc
          cases hds : digits cs with
          | mk ds' rest' =>
              rw [hds] at h
              cases h
              obtain ⟨hsmall, rfl⟩ := ih hds
              exact ⟨List.forall_mem_cons.mpr ⟨hk, hsmall⟩, rfl⟩

theorem digits_of_split (hne : ds ≠ []) (h : digits cs = (ds, rest)) :
    ∃ front, Digits ds front ∧ cs = front ++ rest := by
  obtain ⟨hsmall, hcs⟩ := digits_split h
  exact ⟨_, ⟨hne, hsmall, rfl⟩, hcs⟩

theorem fraction_split {part : Option (List Nat)} (h : fraction cs = some (part, rest)) :
    ∃ front, Fraction part front ∧ cs = front ++ rest := by
  rw [fraction.eq_def] at h
  split at h
  · next tail =>
      split at h
      · cases h
      · next ds rest' hne hds =>
          cases h
          obtain ⟨front, hfront, rfl⟩ := digits_of_split hne hds
          exact ⟨_, .some hfront, rfl⟩
  · cases h
    exact ⟨[], .none, rfl⟩

theorem exponent_split {power : Option Int} (h : exponent cs = some (power, rest)) :
    ∃ front, Exponent power front ∧ cs = front ++ rest := by
  cases cs with
  | nil =>
      cases h
      exact ⟨[], .none, rfl⟩
  | cons c cs =>
      rw [exponent] at h
      split at h
      · next he =>
          cases hsign : Text.Numeral.sign cs with
          | mk negative body =>
              rw [hsign] at h
              dsimp only at h
              split at h
              · cases h
              · next ds rest' hne hds =>
                  cases h
                  obtain ⟨front, hfront, rfl⟩ := digits_of_split hne hds
                  rw [Text.Numeral.sign.eq_def] at hsign
                  split at hsign
                  · cases hsign
                    exact ⟨_, .minus he hfront, rfl⟩
                  · cases hsign
                    exact ⟨_, .plus he hfront, rfl⟩
                  · cases hsign
                    exact ⟨_, .unsigned he hfront, rfl⟩
      · cases h
        exact ⟨[], .none, rfl⟩

variable {d : Dialect} {x : Json}

theorem leading_of_digits (hzero : ∀ k ds', ds ≠ 0 :: k :: ds') {front : List Char}
    (h : Digits ds front) : Leading ds front := by
  refine ⟨h, fun hhead => ?_⟩
  cases ds with
  | nil => cases hhead
  | cons k ds =>
      cases hhead
      cases ds with
      | nil => rfl
      | cons k ds => exact absurd rfl (hzero k ds)

theorem isSome_of_not_none {part : Option (List Nat)} {power : Option Int}
    (h : part = none → power = none → False) : part.isSome ∨ power.isSome := by
  cases part with
  | some _ => exact .inl rfl
  | none =>
      cases power with
      | some _ => exact .inr rfl
      | none => exact (h rfl rfl).elim

theorem unsigned_split {negative : Bool} (h : unsigned d negative cs = some (x, rest)) :
    ∃ body, Number d x (minus negative ++ body) ∧ cs = body ++ rest := by
  rw [unsigned] at h
  split at h
  · cases h
  · cases h
  · next whole cs₁ hne hzero hdigits =>
      obtain ⟨front, hfront, rfl⟩ := digits_of_split hne hdigits
      have hleading := leading_of_digits hzero hfront
      split at h
      · cases h
      · next part cs₂ hfraction =>
          obtain ⟨front₁, hpart, rfl⟩ := fraction_split hfraction
          split at h
          · cases h
          · next power cs₃ hexponent =>
              obtain ⟨front₂, hpower, rfl⟩ := exponent_split hexponent
              split at h
              · split at h
                · next hlength =>
                    cases h
                    cases hpart
                    cases hpower
                    exact ⟨front, .whole negative hleading hlength, rfl⟩
                · cases h
              · next hsome =>
                  split at h
                  · next hlength =>
                      cases h
                      refine ⟨front ++ (front₁ ++ front₂), .real negative hleading hlength hpart
                        hpower (isSome_of_not_none hsome), ?_⟩
                      simp only [List.append_assoc]
                  · cases h

theorem number_split (h : number d cs = some (x, rest)) :
    ∃ front, Number d x front ∧ cs = front ++ rest := by
  rw [number.eq_def] at h
  split at h
  · obtain ⟨body, hbody, rfl⟩ := unsigned_split h
    exact ⟨_, hbody, rfl⟩
  · obtain ⟨body, hbody, rfl⟩ := unsigned_split h
    exact ⟨_, hbody, rfl⟩

theorem dropWord?_split {w : List Char} (h : dropWord? w cs = some rest) : cs = w ++ rest := by
  induction w generalizing cs with
  | nil =>
      cases h
      rfl
  | cons c w ih =>
      cases cs with
      | nil => cases h
      | cons c' cs =>
          rw [dropWord?] at h
          split at h
          · next hc => rw [hc, List.cons_append, ih h]
          · cases h

theorem scalar_split {room : Nat} (h : scalar d cs = some (x, rest)) :
    ∃ front, Value d room x front ∧ cs = front ++ rest := by
  rw [scalar] at h
  split at h
  · next found hfound =>
      cases h
      obtain ⟨w, hw, hdrop⟩ := List.exists_of_findSome?_eq_some hfound
      obtain ⟨rest', hrest, hx⟩ := Option.map_eq_some_iff.mp hdrop
      cases hx
      exact ⟨w.1, .word hw, dropWord?_split hrest⟩
  · obtain ⟨front, hfront, rfl⟩ := number_split h
    exact ⟨front, .number hfront, rfl⟩

/-! ## Strings -/

variable {mends : Bool} {waiting : Option Nat} {result : List Char × List Char}

theorem hexDigit_of_hexDigit? {c : Char} {k : Nat} (h : Text.hexDigit? c = some k) :
    HexDigit k c := by
  rw [Text.hexDigit?] at h
  split at h
  · next hc =>
      cases h
      have hlow : 48 ≤ c.toNat := hc.1
      have hhigh : c.toNat ≤ 57 := hc.2
      have hdigit := HexDigit.decimal (n := c.toNat - 48) (by omega)
      rwa [show '0'.toNat = 48 from rfl, ofNat_from hlow] at hdigit
  split at h
  · next hc =>
      cases h
      have hlow : 97 ≤ c.toNat := hc.1
      have hhigh : c.toNat ≤ 102 := hc.2
      have hdigit := HexDigit.lower (n := c.toNat - 97) (by omega)
      rwa [show 'a'.toNat = 97 from rfl, ofNat_from hlow] at hdigit
  split at h
  · next hc =>
      cases h
      have hlow : 65 ≤ c.toNat := hc.1
      have hhigh : c.toNat ≤ 70 := hc.2
      have hdigit := HexDigit.upper (n := c.toNat - 65) (by omega)
      rwa [show 'A'.toNat = 65 from rfl, ofNat_from hlow] at hdigit
  · cases h

theorem string_unit_succ {left value : Nat}
    (h : string mends (.unit (left + 1) value) waiting cs = some result) :
    ∃ c k cs', cs = c :: cs' ∧ HexDigit k c ∧
      string mends (.unit left (value * 16 + k)) waiting cs' = some result := by
  cases cs with
  | nil => cases h
  | cons c cs =>
      rw [string] at h
      cases hc : Text.hexDigit? c with
      | none => simp [hc] at h
      | some k =>
          simp only [hc] at h
          exact ⟨c, k, cs, rfl, hexDigit_of_hexDigit? hc, h⟩

theorem string_unit_zero {value : Nat}
    (h : string mends (.unit 0 value) waiting cs = some result) :
    ∃ c k cs' front waiting', cs = c :: cs' ∧ HexDigit k c ∧
      takeUnit mends waiting (value * 16 + k) = some (front, waiting') ∧
      after front (string mends .plain waiting' cs') = some result := by
  cases cs with
  | nil => cases h
  | cons c cs =>
      rw [string] at h
      cases hc : Text.hexDigit? c with
      | none => simp [hc] at h
      | some k =>
          simp only [hc] at h
          split at h
          · cases h
          · next front waiting' hunit =>
              exact ⟨c, k, cs, front, waiting', rfl, hexDigit_of_hexDigit? hc, hunit, h⟩

/-- After a backslash and a `u` the four digits of a code unit are taken. -/
theorem string_unit_split (h : string mends (.unit 3 0) waiting cs = some result) :
    ∃ n unit cs' front waiting', CodeUnit n ('\\' :: 'u' :: unit) ∧ cs = unit ++ cs' ∧
      takeUnit mends waiting n = some (front, waiting') ∧
      after front (string mends .plain waiting' cs') = some result := by
  obtain ⟨a, p, cs₁, rfl, ha, h₁⟩ := string_unit_succ h
  obtain ⟨b, q, cs₂, rfl, hb, h₂⟩ := string_unit_succ h₁
  obtain ⟨c, r, cs₃, rfl, hc, h₃⟩ := string_unit_succ h₂
  obtain ⟨d, s, cs', front, waiting', rfl, hd, hunit, hrest⟩ := string_unit_zero h₃
  rw [Nat.zero_mul, Nat.zero_add] at hunit
  exact ⟨_, [a, b, c, d], cs', front, waiting', .mk ha hb hc hd, rfl, hunit, hrest⟩

theorem after_eq_some {front body : List Char} {result : Option (List Char × List Char)}
    (h : after front result = some (body, rest)) :
    ∃ body', body = front ++ body' ∧ result = some (body', rest) := by
  cases result with
  | none => cases h
  | some r =>
      cases h
      exact ⟨r.1, rfl, rfl⟩

/-- After a high surrogate only a low one goes on with a string that is not mended. -/
theorem string_waiting_split {high : Nat}
    (h : string false .plain (some high) cs = some result) :
    ∃ low unit cs', CodeUnit low unit ∧ isLow low ∧ cs = unit ++ cs' ∧
      after [joined high low] (string false .plain none cs') = some result := by
  cases cs with
  | nil => cases h
  | cons c cs =>
      rw [string] at h
      split at h
      · next hslash =>
          subst hslash
          cases cs with
          | nil => cases h
          | cons c cs =>
              rw [string] at h
              split at h
              · next hu =>
                  subst hu
                  obtain ⟨low, unit, cs', front, waiting', hunit, rfl, htake, hrest⟩ :=
                    string_unit_split h
                  rw [takeUnit] at htake
                  split at htake
                  · next hlow =>
                      cases htake
                      exact ⟨low, _, cs', hunit, hlow, rfl, hrest⟩
                  · cases htake
              · cases h
      · cases h

theorem isHigh_iff {n : Nat} : isHigh n ↔ 0xd800 ≤ n ∧ n < 0xdc00 := by simp [isHigh]

theorem isLow_iff {n : Nat} : isLow n ↔ 0xdc00 ≤ n ∧ n < 0xe000 := by simp [isLow]

/-- The two surrogates of a pair stand for a character that is written as them. -/
theorem character_joined {high low : Nat} {front back : List Char} (hhigh : isHigh high)
    (hlow : isLow low) (hfront : CodeUnit high front) (hback : CodeUnit low back) :
    Character (joined high low) (front ++ back) := by
  rw [isHigh_iff] at hhigh
  rw [isLow_iff] at hlow
  have hvalue : (joined high low).toNat =
      0x10000 + (high - 0xd800) * 0x400 + (low - 0xdc00) :=
    Text.Utf8.toNat_ofNat (by omega)
  refine .pair (by omega) ?_ ?_
  · have hfront :
        0xd800 + (0x10000 + (high - 0xd800) * 0x400 + (low - 0xdc00) - 0x10000) / 0x400 = high := by
      omega
    rwa [hvalue, hfront]
  · have hback :
        0xdc00 + (0x10000 + (high - 0xd800) * 0x400 + (low - 0xdc00) - 0x10000) % 0x400 = low := by
      omega
    rwa [hvalue, hback]

/-- An escaped code unit is a character, or the first half of one. -/
theorem string_escaped_split {body : List Char}
    (h : string false (.unit 3 0) none cs = some (body, rest)) :
    ∃ c front body' cs', Character c ('\\' :: 'u' :: front) ∧ cs = front ++ cs' ∧
      body = c :: body' ∧ string false .plain none cs' = some (body', rest) := by
  obtain ⟨n, unit, cs', front, waiting', hunit, rfl, htake, hrest⟩ := string_unit_split h
  have hsmall := toNat_of_codeUnit hunit
  rw [takeUnit] at htake
  split at htake
  · cases htake
  · next hlow =>
      rw [isLow_iff] at hlow
      simp only [settle] at htake
      split at htake
      · next hhigh =>
          cases htake
          rw [after_nil] at hrest
          obtain ⟨low, unit', cs'', hunit', hlow', rfl, hrest'⟩ := string_waiting_split hrest
          obtain ⟨body', rfl, hbody⟩ := after_eq_some hrest'
          exact ⟨joined n low, unit ++ unit', body', cs'',
            character_joined hhigh hlow' hunit hunit', (List.append_assoc _ _ _).symm, rfl, hbody⟩
      · next hhigh =>
          rw [isHigh_iff] at hhigh
          cases htake
          obtain ⟨body', rfl, hbody⟩ := after_eq_some hrest
          have hvalue := Text.Utf8.toNat_ofNat (n := n) (by omega)
          exact ⟨Char.ofNat n, unit, body', cs', .unit (hvalue.symm ▸ hunit), rfl, rfl, hbody⟩

theorem shorthand_of_escaped? {c e : Char} (h : escaped? e = some c) : (c, e) ∈ shorthands := by
  rw [escaped?] at h
  split at h
  · next he =>
      cases h
      rcases he with rfl | rfl | rfl <;> decide
  · repeat' split at h
    all_goals cases h
    all_goals subst_vars; decide

theorem length_of_codeUnit {n : Nat} {unit : List Char} (h : CodeUnit n unit) :
    unit.length = 6 := by
  cases h
  rfl

/-- A string is at its end, or it goes on with what is written for one character. -/
theorem string_plain_split {c : Char} {body : List Char}
    (h : string false .plain none (c :: cs) = some (body, rest)) :
    (c = '"' ∧ body = [] ∧ cs = rest) ∨
      ∃ c' front body' cs', Character c' front ∧ c :: cs = front ++ cs' ∧ body = c' :: body' ∧
        string false .plain none cs' = some (body', rest) := by
  rw [string] at h
  split at h
  · next hslash =>
      subst hslash
      right
      cases cs with
      | nil => cases h
      | cons e cs =>
          rw [string] at h
          split at h
          · next hu =>
              subst hu
              obtain ⟨c', front, body', cs', hfront, rfl, rfl, hbody⟩ := string_escaped_split h
              exact ⟨c', _, body', cs', hfront, rfl, rfl, hbody⟩
          · simp only [settle] at h
            split at h
            · next c' hfront hescaped =>
                cases hfront
                obtain ⟨body', rfl, hbody⟩ := after_eq_some h
                exact ⟨c', _, body', cs, .short (shorthand_of_escaped? hescaped), rfl, rfl, hbody⟩
            · cases h
  · next hslash =>
      simp only [settle] at h
      split at h
      · next hquote =>
          cases h
          exact .inl ⟨hquote, rfl, rfl⟩
      · next hquote =>
          split at h
          · cases h
          · next hcontrol =>
              obtain ⟨body', rfl, hbody⟩ := after_eq_some h
              exact .inr ⟨c, [c], body', cs, .raw hquote hslash (Nat.not_lt.mp hcontrol), rfl, rfl,
                hbody⟩

theorem string_split {body : List Char} (h : string false .plain none cs = some (body, rest)) :
    ∃ front, Characters body front ∧ cs = front ++ '"' :: rest := by
  generalize hlength : cs.length = length
  induction length using Nat.strongRecOn generalizing cs body with
  | ind length ih =>
      cases cs with
      | nil => cases h
      | cons c cs =>
          rcases string_plain_split h with
            ⟨rfl, rfl, rfl⟩ | ⟨c', front, body', cs', hc, hcs, rfl, hbody⟩
          · exact ⟨[], .nil, rfl⟩
          · have hshorter : cs'.length < length := by
              have hfront : 0 < front.length := by
                cases hc with
                | raw | short => exact Nat.succ_pos _
                | unit hunit => rw [length_of_codeUnit hunit]; decide
                | pair _ hhigh _ => rw [List.length_append, length_of_codeUnit hhigh]; omega
              rw [← hlength, hcs, List.length_append]
              omega
            obtain ⟨back, hback, rfl⟩ := ih _ hshorter hbody rfl
            exact ⟨front ++ back, .cons hc hback, by rw [hcs, List.append_assoc]⟩

theorem quoted_split {body : List Char} (h : string false .plain none cs = some (body, rest)) :
    ∃ front, Quoted (String.ofList body) ('"' :: front) ∧ cs = front ++ rest := by
  obtain ⟨front, hfront, rfl⟩ := string_split h
  refine ⟨front ++ ['"'], .mk ?_, by simp⟩
  rwa [String.toList_ofList]

/-! ## Values -/

variable {fuel room : Nat} {xs : List Json} {ms : Json.Members}

theorem eq_of_found {α : Type} {o : Option α} {a : α} (h : found o = .ok a) : o = some a := by
  cases o with
  | none => cases h
  | some b => rw [Except.ok.inj h]

/-- What a reader takes with a given amount of fuel is what the grammar has for its result. -/
structure SplitsAt (d : Dialect) (fuel : Nat) : Prop where
  value {room : Nat} {x : Json} {cs rest : List Char} :
    Reader.value d fuel room cs = .ok (x, rest) →
      ∃ front, Value d room x front ∧ cs = front ++ rest
  elements {room : Nat} {xs : List Json} {cs rest : List Char} :
    Reader.elements d fuel room cs = .ok (xs, rest) →
      ∃ front, Elements d room xs front ∧ cs = front ++ ']' :: rest
  members {room : Nat} {ms : Json.Members} {cs rest : List Char} :
    Reader.members d fuel room cs = .ok (ms, rest) →
      ∃ front, Grammar.Members d room ms front ∧ cs = front ++ '}' :: rest

theorem value_split (hd : d.admitsGarbled = false) (ih : SplitsAt d fuel)
    (h : value d (fuel + 1) room cs = .ok (x, rest)) :
    ∃ front, Value d room x front ∧ cs = front ++ rest := by
  rw [value.eq_def] at h
  dsimp only at h
  split at h
  · next cs =>
      have h := eq_of_found h
      rw [text] at h
      split at h
      · next body rest' hbody =>
          cases h
          obtain ⟨front, hfront, rfl⟩ := quoted_split hbody
          exact ⟨_, .string hfront, rfl⟩
      · simp [hd] at h
  · next cs =>
      obtain ⟨w, hw, hcs⟩ := skip_split cs
      split at h
      · next rest' _ hskip =>
          split at h
          · next hroom =>
              cases h
              rw [hskip] at hcs
              exact ⟨'[' :: (w ++ [']']), .noElements hroom hw, by simp [hcs]⟩
          · cases h
      · cases h
      · next room _ _ hskip =>
          split at h
          · cases h
          · next xs rest' hxs =>
              cases h
              obtain ⟨front, hfront, hbody⟩ := ih.elements hxs
              rw [hbody] at hcs
              exact ⟨'[' :: (w ++ (front ++ [']'])), .elements hw hfront, by simp [hcs]⟩
  · next cs =>
      obtain ⟨w, hw, hcs⟩ := skip_split cs
      split at h
      · next rest' _ hskip =>
          split at h
          · next hroom =>
              cases h
              rw [hskip] at hcs
              exact ⟨'{' :: (w ++ ['}']), .noMembers hroom hw, by simp [hcs]⟩
          · cases h
      · cases h
      · next room _ _ hskip =>
          split at h
          · cases h
          · next ms rest' hms =>
              cases h
              obtain ⟨front, hfront, hbody⟩ := ih.members hms
              rw [hbody] at hcs
              exact ⟨'{' :: (w ++ (front ++ ['}'])), .members hw hfront, by simp [hcs]⟩
  · exact scalar_split (eq_of_found h)

theorem elements_split (ih : SplitsAt d fuel)
    (h : elements d (fuel + 1) room cs = .ok (xs, rest)) :
    ∃ front, Elements d room xs front ∧ cs = front ++ ']' :: rest := by
  rw [elements] at h
  split at h
  · cases h
  · next x cs₁ hx =>
      obtain ⟨front, hfront, rfl⟩ := ih.value hx
      obtain ⟨w, hw, hcs₁⟩ := skip_split cs₁
      split at h
      · next rest' hskip =>
          cases h
          rw [hskip] at hcs₁
          exact ⟨front ++ w, .last hfront hw, by simp [hcs₁]⟩
      · next cs₂ hskip =>
          split at h
          · cases h
          · next xs rest' hxs =>
              cases h
              rw [hskip] at hcs₁
              obtain ⟨w', hw', hcs₂⟩ := skip_split cs₂
              obtain ⟨back, hback, hbody⟩ := ih.elements hxs
              rw [hbody] at hcs₂
              exact ⟨_, .more hfront hw hw' hback, by simp [hcs₁, hcs₂]⟩
      · cases h

theorem members_split (hd : d.admitsGarbled = false) (ih : SplitsAt d fuel)
    (h : members d (fuel + 1) room cs = .ok (ms, rest)) :
    ∃ front, Grammar.Members d room ms front ∧ cs = front ++ '}' :: rest := by
  rw [members.eq_def] at h
  dsimp only at h
  split at h
  · next cs =>
      rw [hd] at h
      split at h
      · cases h
      · next name cs₁ hname =>
          obtain ⟨quoted, hquoted, rfl⟩ := quoted_split hname
          obtain ⟨v, hv, hcs₁⟩ := skip_split cs₁
          split at h
          · next cs₂ hcolon =>
              rw [hcolon] at hcs₁
              obtain ⟨w, hw, hcs₂⟩ := skip_split cs₂
              split at h
              · cases h
              · next x cs₃ hx =>
                  obtain ⟨front, hfront, hbody⟩ := ih.value hx
                  rw [hbody] at hcs₂
                  obtain ⟨w', hw', hcs₃⟩ := skip_split cs₃
                  split at h
                  · next rest' hskip =>
                      cases h
                      rw [hskip] at hcs₃
                      exact ⟨_, .last hquoted hv hw hfront hw', by simp [hcs₁, hcs₂, hcs₃]⟩
                  · next cs₄ hskip =>
                      split at h
                      · cases h
                      · next ms rest' hms =>
                          cases h
                          rw [hskip] at hcs₃
                          obtain ⟨w'', hw'', hcs₄⟩ := skip_split cs₄
                          obtain ⟨back, hback, hrest⟩ := ih.members hms
                          rw [hrest] at hcs₄
                          exact ⟨_, .more hquoted hv hw hfront hw' hw'' hback,
                            by simp [hcs₁, hcs₂, hcs₃, hcs₄]⟩
                  · cases h
          · cases h
  · cases h

theorem splitsAt (hd : d.admitsGarbled = false) (fuel : Nat) : SplitsAt d fuel := by
  induction fuel with
  | zero => constructor <;> exact fun h => nomatch h
  | succ fuel ih => exact ⟨value_split hd ih, elements_split ih, members_split hd ih⟩

end Reader

theorem read_eq_some_iff_attempt {d : Dialect} {x : Json} {cs : List Char} :
    read d cs = some x ↔ attempt d cs = .ok x := by
  rw [read]
  cases attempt d cs <;> simp [Except.toOption]

/-- A text is read as a value exactly if the grammar has it for that value. -/
theorem read_eq_some_iff {d : Dialect} (hd : d.admitsGarbled = false) {x : Json} {cs : List Char} :
    read d cs = some x ↔ ∃ w body w', Blank w ∧ Blank w' ∧ cs = w ++ (body ++ w') ∧
      Value d (Reader.room d cs) x body := by
  constructor
  · intro h
    rw [read_eq_some_iff_attempt, attempt] at h
    split at h
    · cases h
    · next rest hx =>
        split at h
        · next hrest =>
            cases h
            obtain ⟨body, hbody, hskip⟩ := (Reader.splitsAt hd _).value hx
            obtain ⟨w, hw, hcs⟩ := Reader.skip_split cs
            obtain ⟨w', hw', hend⟩ := Reader.skip_split rest
            rw [hrest, List.append_nil] at hend
            refine ⟨w, body, w', hw, hw', ?_, hbody⟩
            rw [← hend, ← hskip, ← hcs]
        · cases h
  · rintro ⟨w, body, w', hw, hw', rfl, hbody⟩
    exact read_of_value hw hw' hbody

end Noticeboard.Json
