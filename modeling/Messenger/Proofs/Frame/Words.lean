import Messenger.Frame.Header
import Mathlib.Data.List.Induction

/-!
# Words in octet strings

Eight octets spell one word below `1 <<< 64`, and every such word has one
spelling.  A word that packs two fields gives both back as long as the lower one
fits below the upper one.
-/

namespace Messenger

namespace Octets

theorem number_lt (octets : Octets) : number octets < 1 <<< (8 * octets.length) := by
  induction octets using List.reverseRecOn with
  | nil => decide
  | append_singleton octets octet ih =>
      have wider : 1 <<< (8 * (octets.length + 1)) = 256 * 1 <<< (8 * octets.length) := by
        rw [Nat.shiftLeft_eq, Nat.shiftLeft_eq, Nat.mul_succ, Nat.pow_add]
        omega
      have bound := octet.toNat_lt
      rw [number_append_singleton, List.length_append, List.length_singleton, wider]
      omega

/-- Writing the number that octets denote gives the octets back. -/
theorem bigEndian_number (octets : Octets) : bigEndian octets.length (number octets) = octets := by
  induction octets using List.reverseRecOn with
  | nil => rfl
  | append_singleton octets octet ih =>
      have bound := octet.toNat_lt
      have upper : (number octets * 256 + octet.toNat) / 256 = number octets := by omega
      have lower : (number octets * 256 + octet.toNat) % 256 = octet.toNat := by omega
      rw [number_append_singleton, List.length_append, List.length_singleton, bigEndian, upper,
        lower, ih, UInt8.ofNat_toNat]

/-- Octets written for a number of the given width are read back exactly. -/
theorem number_bigEndian_of_lt {width n : Nat} (fits : n < 1 <<< (8 * width)) :
    number (bigEndian width n) = n := by
  rw [number_bigEndian, Nat.mod_eq_of_lt fits]

end Octets

namespace Header

theorem wordAt_succ (octets : Octets) (index : Nat) :
    wordAt octets (index + 1) = wordAt (octets.drop 8) index := by
  rw [wordAt, wordAt, List.drop_drop, Nat.mul_succ, Nat.add_comm (8 * index) 8]

/-- The words that octets begin with are read back. -/
theorem wordAt_flatMap_append {words : List Nat} (fit : ∀ word ∈ words, word < 1 <<< 64)
    (rest : Octets) {index word : Nat} (found : words[index]? = some word) :
    wordAt (words.flatMap (Octets.bigEndian 8) ++ rest) index = word := by
  induction words generalizing index with
  | nil => simp at found
  | cons first words ih =>
      rw [List.flatMap_cons, List.append_assoc]
      cases index with
      | zero =>
          simp only [List.getElem?_cons_zero, Option.some.injEq] at found
          subst word
          rw [wordAt, Nat.mul_zero, List.drop_zero,
            List.take_left' (Octets.length_bigEndian 8 first)]
          exact Octets.number_bigEndian_of_lt (fit first List.mem_cons_self)
      | succ index =>
          rw [wordAt_succ, List.drop_left' (Octets.length_bigEndian 8 first)]
          exact ih (fun word member => fit word (List.mem_cons_of_mem first member))
            (by simpa using found)

theorem wordAt_lt (octets : Octets) (index : Nat) : wordAt octets index < 1 <<< 64 := by
  have bound := Octets.number_lt ((octets.drop (8 * index)).take 8)
  have short : ((octets.drop (8 * index)).take 8).length ≤ 8 := List.length_take_le ..
  refine Nat.lt_of_lt_of_le bound ?_
  rw [Nat.one_shiftLeft, Nat.one_shiftLeft]
  exact Nat.pow_le_pow_right (by decide) (by omega)

theorem bigEndian_wordAt_zero {octets : Octets} (enough : 8 ≤ octets.length) :
    Octets.bigEndian 8 (wordAt octets 0) = octets.take 8 := by
  have length : (octets.take 8).length = 8 := by simp [enough]
  have spelled := Octets.bigEndian_number (octets.take 8)
  rw [length] at spelled
  simpa [wordAt] using spelled

/-- The words of octets spell them. -/
theorem flatMap_wordAt (count : Nat) {octets : Octets} (enough : 8 * count ≤ octets.length) :
    ((List.range count).map (wordAt octets)).flatMap (Octets.bigEndian 8) =
      octets.take (8 * count) := by
  induction count generalizing octets with
  | zero => simp
  | succ count ih =>
      have rest : 8 * count ≤ (octets.drop 8).length := by
        rw [List.length_drop]
        omega
      have shifted : (fun index => wordAt octets (index + 1)) = wordAt (octets.drop 8) :=
        funext (wordAt_succ octets)
      rw [List.range_succ_eq_map, List.map_cons, List.map_map, List.flatMap_cons,
        bigEndian_wordAt_zero (by omega)]
      change octets.take 8 ++
        ((List.range count).map fun index => wordAt octets (index + 1)).flatMap
          (Octets.bigEndian 8) = _
      rw [shifted, ih rest, Nat.mul_succ, Nat.add_comm, List.take_add]

/-! ## Two fields in one word -/

theorem shiftRight_packed {upper lower bits : Nat} (fits : lower < 1 <<< bits) :
    (upper <<< bits + lower) >>> bits = upper := by
  rw [Nat.one_shiftLeft] at fits
  rw [Nat.shiftLeft_eq, Nat.shiftRight_eq_div_pow, Nat.add_comm,
    Nat.add_mul_div_right _ _ (Nat.pow_pos (by decide)), Nat.div_eq_of_lt fits, Nat.zero_add]

theorem mod_packed {upper lower bits : Nat} (fits : lower < 1 <<< bits) :
    (upper <<< bits + lower) % (1 <<< bits) = lower := by
  rw [Nat.one_shiftLeft] at fits ⊢
  rw [Nat.shiftLeft_eq, Nat.add_comm, Nat.add_mul_mod_self_right, Nat.mod_eq_of_lt fits]

/-- A word is packed from its upper bits and the rest. -/
theorem packed_eq (word bits : Nat) : (word >>> bits) <<< bits + word % (1 <<< bits) = word := by
  rw [Nat.one_shiftLeft, Nat.shiftLeft_eq, Nat.shiftRight_eq_div_pow]
  exact Nat.div_add_mod' word _

/-- A packed word is as wide as its two fields together. -/
theorem packed_lt {upper lower bits upperBits : Nat} (upperFits : upper < 1 <<< upperBits)
    (lowerFits : lower < 1 <<< bits) :
    upper <<< bits + lower < 1 <<< (upperBits + bits) := by
  calc
    upper <<< bits + lower < upper <<< bits + 1 <<< bits := Nat.add_lt_add_left lowerFits _
    _ = (upper + 1) <<< bits := by
      rw [Nat.shiftLeft_eq, Nat.shiftLeft_eq, Nat.shiftLeft_eq, Nat.add_mul]
    _ ≤ (1 <<< upperBits) <<< bits := by
      rw [Nat.shiftLeft_eq, Nat.shiftLeft_eq _ bits]
      exact Nat.mul_le_mul_right _ upperFits
    _ = 1 <<< (upperBits + bits) := (Nat.shiftLeft_add 1 upperBits bits).symm

/-- The upper bits of a word are as wide as what is left of it. -/
theorem shiftRight_lt {word bits upperBits : Nat} (fits : word < 1 <<< (upperBits + bits)) :
    word >>> bits < 1 <<< upperBits := by
  rw [Nat.one_shiftLeft] at *
  rw [Nat.shiftRight_eq_div_pow]
  exact Nat.div_lt_of_lt_mul (by rwa [Nat.mul_comm, ← Nat.pow_add])

theorem mod_lt (word bits : Nat) : word % (1 <<< bits) < 1 <<< bits := by
  apply Nat.mod_lt
  rw [Nat.one_shiftLeft]
  exact Nat.pow_pos (by decide)

end Header

end Messenger
