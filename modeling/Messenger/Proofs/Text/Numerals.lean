import Mathlib.Data.List.TakeWhile
import Messenger.Text.Blank
import Messenger.Text.Numeral

/-!
# Exactness of numerals

A text is read as a word exactly if it is a numeral of that word.  Of the numerals of a
number only one, its decimal digits, does without a sign and leading zeros.  Blanks around a
numeral are not part of it.
-/

namespace Messenger

/-! ## Runs of characters -/

section Runs

variable {p : Char → Bool} {run rest : List Char}

/-- A run is cut off where it stops. -/
theorem dropWhile_run (inside : ∀ c ∈ run, p c) (stops : ∀ c ∈ rest.head?, ¬ p c) :
    (run ++ rest).dropWhile p = rest := by
  rw [List.dropWhile_append_of_pos inside]
  cases rest with
  | nil => rfl
  | cons c rest => exact List.dropWhile_cons_of_neg (stops c rfl)

/-- A run is taken to where it stops. -/
theorem takeWhile_run (inside : ∀ c ∈ run, p c) (stops : ∀ c ∈ rest.head?, ¬ p c) :
    (run ++ rest).takeWhile p = run := by
  have whole : (run ++ rest).takeWhile p ++ rest = run ++ rest := by
    conv => rhs; rw [← List.takeWhile_append_dropWhile (p := p) (l := run ++ rest)]
    rw [dropWhile_run inside stops]
  exact List.append_cancel_right whole

end Runs

namespace Numeral

/-- A numeral of a word: digits with the value of the word, behind a plus sign or nothing. -/
def Spells (text : List Char) (word : UInt64) : Prop :=
  ∃ digits, (text = digits ∨ text = '+' :: digits) ∧ digits ≠ [] ∧
    (∀ c ∈ digits, c.isDigit) ∧ Nat.ofDigitChars 10 digits 0 = word.toNat

variable {c : Char} {text : List Char} {n read : Nat}

theorem isDigit_iff : c.isDigit ↔ '0' ≤ c ∧ c ≤ '9' :=
  Char.isDigit_iff_toNat

theorem digit?_of_isDigit (digit : c.isDigit) : digit? c = some (c.toNat - 48) :=
  if_pos (isDigit_iff.mp digit)

theorem digit?_of_not_isDigit (other : ¬ c.isDigit) : digit? c = none :=
  if_neg fun digit => other (isDigit_iff.mpr digit)

/-- Digits, and nothing else, are read as the number that they denote. -/
theorem digits?_eq_some_iff :
    digits? read text = some n ↔
      (∀ c ∈ text, c.isDigit) ∧ Nat.ofDigitChars 10 text read = n := by
  induction text generalizing read with
  | nil => simp [digits?]
  | cons c rest ih =>
      rw [digits?, List.forall_mem_cons, Nat.ofDigitChars_cons]
      by_cases digit : c.isDigit
      · rw [digit?_of_isDigit digit]
        dsimp only
        rw [ih, Nat.mul_comm read 10]
        exact ⟨fun ⟨others, value⟩ => ⟨⟨digit, others⟩, value⟩,
          fun ⟨⟨_, others⟩, value⟩ => ⟨others, value⟩⟩
      · rw [digit?_of_not_isDigit digit]
        exact ⟨nofun, fun ⟨⟨impossible, _⟩, _⟩ => absurd impossible digit⟩

theorem natural?_eq_some_iff :
    natural? text = some n ↔
      text ≠ [] ∧ (∀ c ∈ text, c.isDigit) ∧ Nat.ofDigitChars 10 text 0 = n := by
  cases text with
  | nil => simp [natural?]
  | cons c rest => simp [natural?, digits?_eq_some_iff]

theorem word?_of_signed {digits : List Char} {word : UInt64} :
    word? ('+' :: digits) = some word ↔ natural? digits = some word.toNat := by
  have bound := word.toNat_lt
  cases denotes : natural? digits with
  | none => simp [word?, denotes]
  | some n =>
      simp only [word?, denotes, Option.some.injEq]
      constructor
      · intro denoted
        obtain ⟨fits, denoted⟩ := Option.ite_none_right_eq_some.mp denoted
        rw [← Option.some.inj denoted, UInt64.toNat_ofNat_of_lt' fits]
      · rintro rfl
        rw [if_pos bound, UInt64.ofNat_toNat]

/-- A numeral without a sign is read as it is behind a plus sign. -/
theorem word?_of_unsigned (unsigned : ∀ digits, text ≠ '+' :: digits) :
    word? text = word? ('+' :: text) := by
  -- `unsigned` selects the second case of the match on the sign
  simp [word?]

/-- A text is read as a word exactly if it is a numeral of the word. -/
theorem word?_eq_some_iff {word : UInt64} : word? text = some word ↔ Spells text word := by
  by_cases signed : ∃ digits, text = '+' :: digits
  · obtain ⟨digits, rfl⟩ := signed
    rw [word?_of_signed, natural?_eq_some_iff]
    constructor
    · exact fun spelled => ⟨digits, .inr rfl, spelled⟩
    · rintro ⟨_, rfl | same, some, each, value⟩
      · exact absurd (each '+' List.mem_cons_self) (by decide)
      · rw [List.tail_eq_of_cons_eq same]
        exact ⟨some, each, value⟩
  · have unsigned := not_exists.mp signed
    rw [word?_of_unsigned unsigned, word?_of_signed, natural?_eq_some_iff]
    constructor
    · exact fun spelled => ⟨text, .inl rfl, spelled⟩
    · rintro ⟨digits, rfl | same, spelled⟩
      · exact spelled
      · exact absurd same (unsigned digits)

/-! ## Decimal digits -/

theorem digitChar_of_isDigit (digit : c.isDigit) : Nat.digitChar (c.toNat - 48) = c := by
  have bounds : 48 ≤ c.toNat ∧ c.toNat ≤ 57 := Char.isDigit_iff_toNat.mp digit
  apply Char.toNat_inj.mp
  rw [Nat.toNat_digitChar_of_lt_ten (by omega)]
  omega

/-- The digits of a positive number do not start with a zero. -/
theorem toDigits_of_pos (positive : 0 < n) :
    ∃ c rest, Nat.toDigits 10 n = c :: rest ∧ c ≠ '0' := by
  induction n using Nat.strongRecOn with
  | ind n ih =>
      rw [Nat.toDigits_eq_if (by decide)]
      split
      · next small =>
        refine ⟨_, [], rfl, fun zero => ?_⟩
        have value : n.digitChar.toNat = 48 + n := Nat.toNat_digitChar_of_lt_ten small
        rw [zero] at value
        change 48 = 48 + n at value
        omega
      · next large =>
        obtain ⟨c, rest, split, leading⟩ := ih (n / 10) (by omega) (by omega)
        rw [split]
        exact ⟨c, _, rfl, leading⟩

theorem natural?_toDigits (n : Nat) : natural? (Nat.toDigits 10 n) = some n :=
  natural?_eq_some_iff.mpr
    ⟨Nat.toDigits_ne_nil,
      fun _ member => Nat.isDigit_of_mem_toDigits (by decide) (by decide) member,
      Nat.ofDigitChars_ten_toDigits⟩

/-- Digits behind those of a positive number are the last digits of the number that they all
denote. -/
theorem toDigits_append (positive : 0 < read) (digits : ∀ c ∈ text, c.isDigit) :
    Nat.toDigits 10 read ++ text = Nat.toDigits 10 (Nat.ofDigitChars 10 text read) := by
  induction text generalizing read with
  | nil => exact List.append_nil _
  | cons c rest ih =>
      obtain ⟨digit, others⟩ := List.forall_mem_cons.mp digits
      have bounds : 48 ≤ c.toNat ∧ c.toNat ≤ 57 := Char.isDigit_iff_toNat.mp digit
      have value : c.toNat - 48 < 10 := by omega
      have longer : Nat.toDigits 10 read ++ [c] = Nat.toDigits 10 (10 * read + (c.toNat - 48)) := by
        rw [← Nat.toDigits_append_toDigits (by decide) positive value,
          Nat.toDigits_of_lt_base value, digitChar_of_isDigit digit]
      rw [List.append_cons, longer, Nat.ofDigitChars_cons]
      exact ih (by omega) others

/-- Digits without a leading zero are those of the number that they denote. -/
theorem toDigits_ofDigitChars (digit : c.isDigit) (digits : ∀ c ∈ text, c.isDigit)
    (leading : c = '0' → text = []) :
    Nat.toDigits 10 (Nat.ofDigitChars 10 (c :: text) 0) = c :: text := by
  have bounds : 48 ≤ c.toNat ∧ c.toNat ≤ 57 := Char.isDigit_iff_toNat.mp digit
  have value : c.toNat - 48 < 10 := by omega
  have single : Nat.toDigits 10 (c.toNat - 48) = [c] := by
    rw [Nat.toDigits_of_lt_base value, digitChar_of_isDigit digit]
  rw [Nat.ofDigitChars_cons, Nat.mul_zero, Nat.zero_add]
  by_cases zero : c = '0'
  · rw [leading zero]
    exact single
  · have different : c.toNat ≠ 48 := fun same => zero (Char.toNat_inj.mp same)
    have positive : 0 < c.toNat - '0'.toNat := Nat.sub_pos_of_lt (by change 48 < _; omega)
    rw [← toDigits_append positive digits]
    exact congrArg (· ++ text) single

end Numeral

/-- Distinct numbers have distinct digits. -/
theorem Nat.toString_injective {a b : Nat} (same : toString a = toString b) : a = b := by
  rw [Nat.toString_eq_repr, Nat.toString_eq_repr] at same
  have digits := congrArg String.toList same
  rw [Nat.toList_repr, Nat.toList_repr] at digits
  calc
    a = Nat.ofDigitChars 10 (Nat.toDigits 10 a) 0 := Nat.ofDigitChars_ten_toDigits.symm
    _ = Nat.ofDigitChars 10 (Nat.toDigits 10 b) 0 := by rw [digits]
    _ = b := Nat.ofDigitChars_ten_toDigits

/-- The digits of a word are read as the word. -/
theorem Numeral.word?_toString (word : UInt64) :
    word? (toString word.toNat).toList = some word := by
  rw [Nat.toString_eq_repr, Nat.toList_repr]
  obtain ⟨digits, decimal, value⟩ := natural?_eq_some_iff.mp (natural?_toDigits word.toNat)
  exact word?_eq_some_iff.mpr ⟨_, .inl rfl, digits, decimal, value⟩

theorem Nat.hyphen_notMem_toString (a : Nat) : '-' ∉ (toString a).toList := by
  rw [Nat.toString_eq_repr, Nat.toList_repr]
  intro hyphen
  have digit := Nat.isDigit_of_mem_toDigits (by decide) (by decide) hyphen
  cases digit

namespace Blank

variable {before core after text : List Char}

/-- Blanks are cut from both ends, and nothing else. -/
theorem exists_trim (text : List Char) :
    ∃ before after, text = before ++ trim text ++ after ∧ (∀ c ∈ before, isBlank c) ∧
      ∀ c ∈ after, isBlank c := by
  let behind := (text.dropWhile isBlank).reverse
  refine ⟨text.takeWhile isBlank, (behind.takeWhile isBlank).reverse, ?_, ?_, ?_⟩
  · have cut : trim text ++ (behind.takeWhile isBlank).reverse = text.dropWhile isBlank := by
      unfold trim
      rw [← List.reverse_append, List.takeWhile_append_dropWhile, List.reverse_reverse]
    rw [List.append_assoc, cut, List.takeWhile_append_dropWhile]
  · exact fun c member => List.mem_takeWhile_imp member
  · exact fun c member => List.mem_takeWhile_imp (List.mem_reverse.mp member)

/-- What has no blanks is what remains when blanks are cut from both ends. -/
theorem trim_append (before_blank : ∀ c ∈ before, isBlank c)
    (solid : ∀ c ∈ core, ¬ isBlank c) (after_blank : ∀ c ∈ after, isBlank c) :
    trim (before ++ core ++ after) = core := by
  unfold trim
  cases core with
  | nil =>
      rw [List.append_nil, List.dropWhile_append_of_pos before_blank,
        List.dropWhile_eq_nil_iff.mpr after_blank]
      rfl
  | cons c core =>
      have front : (before ++ (c :: core) ++ after).dropWhile isBlank = c :: core ++ after := by
        rw [List.append_assoc]
        refine dropWhile_run before_blank fun first head => ?_
        cases head
        exact solid c List.mem_cons_self
      have back : (after.reverse ++ (c :: core).reverse).dropWhile isBlank =
          (c :: core).reverse := by
        refine dropWhile_run (fun c member => after_blank c (List.mem_reverse.mp member))
          fun last head => ?_
        exact solid last (List.mem_reverse.mp (List.mem_of_mem_head? head))
      rw [front, List.reverse_append, back, List.reverse_reverse]

end Blank

/-- A numeral has no blanks. -/
theorem Numeral.Spells.not_isBlank {text : List Char} {word : UInt64}
    (spells : Spells text word) : ∀ c ∈ text, ¬ Blank.isBlank c := by
  obtain ⟨digits, written, -, each, -⟩ := spells
  have solid : ∀ c ∈ digits, ¬ Blank.isBlank c := by
    intro c member blank
    have bounds : 48 ≤ c.toNat ∧ c.toNat ≤ 57 := Char.isDigit_iff_toNat.mp (each c member)
    unfold Blank.isBlank at blank
    simp only [Bool.or_eq_true, Bool.and_eq_true, decide_eq_true_eq] at blank
    omega
  rcases written with rfl | rfl
  · exact solid
  · exact List.forall_mem_cons.mpr ⟨by decide, solid⟩

/-- A text without the blanks around it is read as a word exactly if it has nothing but blanks
around a numeral of the word. -/
theorem Numeral.word?_trim_eq_some_iff {text : List Char} {word : UInt64} :
    word? (Blank.trim text) = some word ↔
      ∃ before numeral after, text = before ++ numeral ++ after ∧ Spells numeral word ∧
        (∀ c ∈ before, Blank.isBlank c) ∧ ∀ c ∈ after, Blank.isBlank c := by
  rw [word?_eq_some_iff]
  constructor
  · intro spells
    obtain ⟨before, after, split, blank⟩ := Blank.exists_trim text
    exact ⟨before, _, after, split, spells, blank⟩
  · rintro ⟨before, numeral, after, rfl, spells, before_blank, after_blank⟩
    rw [Blank.trim_append before_blank spells.not_isBlank after_blank]
    exact spells

end Messenger
