import Mathlib.Algebra.Group.Nat.Defs
import Mathlib.Data.List.Induction
import Noticeboard.Proofs.Http.Routing

/-!
Identifiers keep what was drawn. Sixteen bytes are written in 26 letters, of which the last has
three bits of them, and they can be read back from the letters; so different draws never get
the same identifier. What is generated for a notice can stand in its path, and is no word that
stands at a fixed place of a path.
-/

namespace Noticeboard

/-! ## Bytes -/

namespace Draw

/-- The last `width` bytes of a number, the highest first. -/
def lastBytes : Nat → Nat → List UInt8
  | 0, _ => []
  | width + 1, n => lastBytes width (n / 256) ++ [UInt8.ofNat n]

/-- The number with the given bytes, the highest first. -/
def number (bytes : List UInt8) : Nat := bytes.foldl (fun n b => n * 256 + b.toNat) 0

theorem number_concat (bytes : List UInt8) (b : UInt8) :
    number (bytes ++ [b]) = number bytes * 256 + b.toNat := by
  rw [number, List.foldl_append]
  rfl

theorem number_lt (bytes : List UInt8) : number bytes < 256 ^ bytes.length := by
  induction bytes using List.reverseRecOn with
  | nil => decide
  | append_singleton bytes b ih =>
      have hb := b.toNat_lt
      rw [number_concat, List.length_append, List.length_singleton, Nat.pow_succ]
      omega

theorem lastBytes_number {bytes : List UInt8} {width : Nat} (h : bytes.length = width) :
    lastBytes width (number bytes) = bytes := by
  subst h
  induction bytes using List.reverseRecOn with
  | nil => rfl
  | append_singleton bytes b ih =>
      have hb := b.toNat_lt
      have hfront : (number bytes * 256 + b.toNat) / 256 = number bytes := by omega
      have hlast : UInt8.ofNat (number bytes * 256 + b.toNat) = b := by
        apply UInt8.toNat_inj.mp
        rw [UInt8.toNat_ofNat']
        omega
      rw [number_concat, List.length_append, List.length_singleton, lastBytes, hfront, ih, hlast]

/-- No bits of sixteen bytes are lost. -/
theorem toNat_ofBytes (bytes : Vector UInt8 16) :
    (ofBytes bytes.toList).toNat = number bytes.toList := by
  have hsmall : number bytes.toList < 2 ^ 128 := by simpa using number_lt bytes.toList
  exact (BitVec.toNat_ofNat _ _).trans (Nat.mod_eq_of_lt hsmall)

theorem ofBytes_injective :
    Function.Injective fun bytes : Vector UInt8 16 => ofBytes bytes.toList := by
  intro bytes bytes' h
  have hnumber : number bytes.toList = number bytes'.toList := by
    rw [← toNat_ofBytes, ← toNat_ofBytes]
    exact congrArg BitVec.toNat h
  have hback := congrArg (lastBytes 16) hnumber
  rw [lastBytes_number bytes.length_toList, lastBytes_number bytes'.length_toList] at hback
  exact Vector.toList_inj.mp hback

end Draw

namespace Http

/-- The words that stand at fixed places in the paths of a target. -/
def Target.words : Target → List (List Char)
  | fixed path => Text.Percent.pieces '/' path.toList
  | notice after => Text.Percent.pieces '/' (root ++ after).toList

theorem Endpoint.length_word_lt {e : Endpoint} {word : List Char} (h : word ∈ e.target.words) :
    word.length < 27 := by
  have hall : ∀ word ∈ e.target.words, word.length < 27 := by
    cases e <;> decide +kernel
  exact hall word h

end Http

namespace Id

/-! ## Letters -/

theorem alphabet_nodup : alphabet.Nodup := by decide

theorem idxOf_letter {n : Nat} (h : n < 32) : alphabet.idxOf (letter n) = n := by
  have hall : ∀ k < 32, alphabet.idxOf (letter k) = k := by decide
  exact hall n h

theorem length_digits (width n : Nat) : (digits width n).length = width := by
  induction width generalizing n with
  | zero => rfl
  | succ width ih => rw [digits, List.length_append, ih, List.length_singleton]

/-- The number that letters stand for in base 32. -/
def value (letters : List Char) : Nat := letters.foldl (fun n c => n * 32 + alphabet.idxOf c) 0

theorem value_concat (letters : List Char) (c : Char) :
    value (letters ++ [c]) = value letters * 32 + alphabet.idxOf c := by
  rw [value, List.foldl_append]
  rfl

theorem value_digits (width n : Nat) : value ((digits width n).map letter) = n % 32 ^ width := by
  induction width generalizing n with
  | zero => rw [Nat.pow_zero, Nat.mod_one]; rfl
  | succ width ih =>
      have hlast := idxOf_letter (Nat.mod_lt n (show 0 < 32 by decide))
      rw [digits, List.map_append, List.map_singleton, value_concat, ih, hlast, Nat.pow_succ',
        Nat.mod_mul]
      omega

/-- The letters of a draw. -/
def letters (draw : Draw) : List Char := (digits 26 (4 * draw.toNat)).map letter

theorem length_letters (draw : Draw) : (letters draw).length = 26 := by
  rw [letters, List.length_map, length_digits]

theorem letters_subset (draw : Draw) : letters draw ⊆ alphabet := by
  intro c hc
  obtain ⟨n, _, rfl⟩ := List.mem_map.mp hc
  exact letter_mem_alphabet n

/-- The letters hold two bits more than were drawn. -/
theorem value_letters (draw : Draw) : value (letters draw) / 4 = draw.toNat := by
  have hdraw : draw.toNat < 2 ^ 128 := draw.isLt
  have hfits : 4 * draw.toNat < 32 ^ 26 := by omega
  rw [letters, value_digits, Nat.mod_eq_of_lt hfits]
  omega

theorem letters_injective : Function.Injective letters := by
  intro draw draw' h
  apply BitVec.eq_of_toNat_eq
  rw [← value_letters, h, value_letters]

theorem ofDraw_injective (tag : String) : Function.Injective (ofDraw tag) := by
  intro draw draw' h
  have hletters := String.append_right_inj tag |>.mp h
  exact letters_injective (String.ofList_injective hletters)

/-- The bytes that letters were made of. -/
def drawnBytes (letters : List Char) : List UInt8 := Draw.lastBytes 16 (value letters / 4)

theorem drawnBytes_letters (bytes : Vector UInt8 16) :
    drawnBytes (letters (.ofBytes bytes.toList)) = bytes.toList := by
  rw [drawnBytes, value_letters, Draw.toNat_ofBytes, Draw.lastBytes_number bytes.length_toList]

/-- Whether letters are those of some bytes: as many as every draw has, and the bytes can be read
back from them. -/
structure Writes (letters : List Char) (bytes : List UInt8) : Prop where
  count : letters.length = 26
  plain : letters ⊆ alphabet
  recovered : drawnBytes letters = bytes

/-- An identifier is its tag and 26 letters of an alphabet of 32, and these keep the sixteen bytes
that were drawn, so that identifiers with one tag differ where the bytes do. What is generated for
a notice can be told from the fixed words in paths. -/
theorem draws_kept :
    alphabet.length = 32 ∧ alphabet.Nodup ∧ noticeTag.length = 1 ∧
    (∀ (tag : String) (bytes : Vector UInt8 16), ∃ letters : List Char,
      ofDraw tag (.ofBytes bytes.toList) = tag ++ String.ofList letters ∧
        Writes letters bytes.toList) ∧
    (∀ tag : String,
      Function.Injective fun bytes : Vector UInt8 16 => ofDraw tag (.ofBytes bytes.toList)) ∧
    ∀ (draw : Draw) (e : Http.Endpoint), Http.Addressable (ofDraw noticeTag draw) ∧
      (ofDraw noticeTag draw).toList ∉ e.target.words := by
  refine ⟨rfl, alphabet_nodup, rfl, fun tag bytes => ?_, fun tag => ?_, fun draw e => ?_⟩
  · exact ⟨letters (.ofBytes bytes.toList), rfl, length_letters _, letters_subset _,
      drawnBytes_letters bytes⟩
  · exact (ofDraw_injective tag).comp Draw.ofBytes_injective
  · refine ⟨Http.addressable_ofDraw draw, fun hword => ?_⟩
    have hlength : (ofDraw noticeTag draw).toList.length = 27 := by
      rw [ofDraw, String.toList_append, String.toList_ofList, List.length_append, ← letters,
        length_letters]
      rfl
    have hshort := Http.Endpoint.length_word_lt hword
    omega

end Id
end Noticeboard
