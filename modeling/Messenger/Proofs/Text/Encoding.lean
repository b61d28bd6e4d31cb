import Mathlib.Tactic.Common
import Messenger.Text.Utf8

/-!
# Exactness of the UTF-8 decoder

The decoder takes octets for a text exactly if they are the octets of that text.  An octet
opens a character and says which ranges its continuations come from; the ranges are narrow
enough that nothing but the shortest form of a character passes.
-/

namespace Messenger.Utf8

/-- Octets from the given ranges, one each, and the number to which they continue a number. -/
inductive Continues : Nat → List Span → Octets → Nat → Prop where
  | done (code : Nat) : Continues code [] [] code
  | more {code last : Nat} {next : Span} {later : List Span} {octet : UInt8} {rest : Octets}
      (fits : next.has octet)
      (continued : Continues (code * 64 + octet.toNat % 64) later rest last) :
      Continues code (next :: later) (octet :: rest) last

/-- Octets that the decoder takes for a character. -/
def Spells (octets : Octets) (c : Char) : Prop :=
  ∃ octet rest code spans last, octets = octet :: rest ∧ opening octet = some (code, spans) ∧
    Continues code spans rest last ∧ c = Char.ofNat last

/-! ## What opens and continues a character -/

/-- The range of the octet after one that opens a character of three or four octets. -/
def narrowed (n : Nat) : Span :=
  if n = 0xe0 then ⟨0xa0, 0xbf⟩
  else if n = 0xed then ⟨0x80, 0x9f⟩
  else if n = 0xf0 then ⟨0x90, 0xbf⟩
  else if n = 0xf4 then ⟨0x80, 0x8f⟩
  else continuation

theorem opening_eq (octet : UInt8) :
    opening octet =
      if octet.toNat < 0x80 then some (octet.toNat, [])
      else if octet.toNat < 0xc2 then none
      else if octet.toNat < 0xe0 then some (octet.toNat - 0xc0, [continuation])
      else if octet.toNat < 0xf0 then
        some (octet.toNat - 0xe0, [narrowed octet.toNat, continuation])
      else if octet.toNat < 0xf5 then
        some (octet.toNat - 0xf0, [narrowed octet.toNat, continuation, continuation])
      else none := by
  unfold opening narrowed
  generalize octet.toNat = n
  grind

theorem has_iff {span : Span} {octet : UInt8} :
    span.has octet ↔ span.low.toNat ≤ octet.toNat ∧ octet.toNat ≤ span.high.toNat := by
  simp [Span.has, UInt8.le_iff_toNat_le]

theorem continuation_has_iff {octet : UInt8} :
    continuation.has octet ↔ 0x80 ≤ octet.toNat ∧ octet.toNat ≤ 0xbf :=
  has_iff

/-- Neither a longer form of a character, nor a surrogate, nor a number above all characters
goes on. -/
theorem narrowed_has_iff {n : Nat} {octet : UInt8} :
    (narrowed n).has octet ↔
      (0x80 ≤ octet.toNat ∧ octet.toNat ≤ 0xbf) ∧ (n = 0xe0 → 0xa0 ≤ octet.toNat) ∧
        (n = 0xed → octet.toNat ≤ 0x9f) ∧ (n = 0xf0 → 0x90 ≤ octet.toNat) ∧
        (n = 0xf4 → octet.toNat ≤ 0x8f) := by
  unfold narrowed
  split_ifs <;> rw [has_iff] <;>
    simp only [continuation, UInt8.reduceToNat] <;> omega

theorem continues_nil_iff {code last : Nat} {octets : Octets} :
    Continues code [] octets last ↔ octets = [] ∧ last = code := by
  constructor
  · rintro ⟨⟩
    exact ⟨rfl, rfl⟩
  · rintro ⟨rfl, rfl⟩
    exact .done _

theorem continues_cons_iff {code last : Nat} {next : Span} {later : List Span}
    {octets : Octets} :
    Continues code (next :: later) octets last ↔
      ∃ octet rest, octets = octet :: rest ∧ next.has octet ∧
        Continues (code * 64 + octet.toNat % 64) later rest last := by
  constructor
  · rintro (_ | ⟨fits, continued⟩)
    exact ⟨_, _, rfl, fits, continued⟩
  · rintro ⟨octet, rest, rfl, fits, continued⟩
    exact .more fits continued

/-! ## Characters -/

theorem number_of_char (c : Char) : c.toNat < 0xd800 ∨ 0xdfff < c.toNat ∧ c.toNat < 0x110000 :=
  c.valid

/-- The octets of the character with a number, as numbers. -/
def numbers (n : Nat) : List Nat :=
  if n < 0x80 then [n]
  else if n < 0x800 then [192 + n / 64, 128 + n % 64]
  else if n < 0x10000 then [224 + n / 4096, 128 + n / 64 % 64, 128 + n % 64]
  else [240 + n / 262144, 128 + n / 4096 % 64, 128 + n / 64 % 64, 128 + n % 64]

theorem map_toNat_utf8EncodeChar (c : Char) :
    (String.utf8EncodeChar c).map UInt8.toNat = numbers c.toNat := by
  have number := number_of_char c
  have same : c.val.toNat = c.toNat := rfl
  unfold String.utf8EncodeChar numbers
  dsimp only
  rw [same]
  split_ifs <;>
    simp only [List.map_cons, List.map_nil, UInt8.toNat_ofNat', List.cons.injEq, and_true] <;>
    omega

theorem numbers_of_valid {n : Nat} (valid : n.isValidChar) :
    numbers (Char.ofNat n).toNat = numbers n := by
  have back : (Char.ofNat n).toNat = n := by
    unfold Char.ofNat
    rw [dif_pos valid]
    rfl
  rw [back]

theorem numbers_one {n : Nat} (lead : n < 0x80) : numbers n = [n] :=
  if_pos lead

theorem numbers_two {n a : Nat} (lead : 0xc2 ≤ n ∧ n < 0xe0) (tail : 0x80 ≤ a ∧ a ≤ 0xbf) :
    numbers ((n - 0xc0) * 64 + a % 64) = [n, a] := by
  unfold numbers
  rw [if_neg (by omega), if_pos (by omega)]
  simp only [List.cons.injEq, and_true]
  omega

theorem numbers_three {n a b : Nat} (lead : 0xe0 ≤ n ∧ n < 0xf0) (tail : 0x80 ≤ a ∧ a ≤ 0xbf)
    (last : 0x80 ≤ b ∧ b ≤ 0xbf) (long : n = 0xe0 → 0xa0 ≤ a) :
    numbers (((n - 0xe0) * 64 + a % 64) * 64 + b % 64) = [n, a, b] := by
  unfold numbers
  rw [if_neg (by omega), if_neg (by omega), if_pos (by omega)]
  simp only [List.cons.injEq, and_true]
  omega

theorem numbers_four {n a b c : Nat} (lead : 0xf0 ≤ n ∧ n < 0xf5) (tail : 0x80 ≤ a ∧ a ≤ 0xbf)
    (middle : 0x80 ≤ b ∧ b ≤ 0xbf) (last : 0x80 ≤ c ∧ c ≤ 0xbf) (long : n = 0xf0 → 0x90 ≤ a) :
    numbers ((((n - 0xf0) * 64 + a % 64) * 64 + b % 64) * 64 + c % 64) = [n, a, b, c] := by
  unfold numbers
  rw [if_neg (by omega), if_neg (by omega), if_neg (by omega)]
  simp only [List.cons.injEq, and_true]
  omega

variable {spelled : Octets} {c : Char}

/-- What is taken for a character are its octets. -/
theorem Spells.map_toNat_eq (spells : Spells spelled c) :
    spelled.map UInt8.toNat = numbers c.toNat := by
  obtain ⟨octet, rest, code, spans, last, rfl, opens, continued, rfl⟩ := spells
  -- One case for each number of octets.
  rw [opening_eq] at opens
  split_ifs at opens
  all_goals
    simp only [Option.some.injEq, Prod.mk.injEq] at opens
    obtain ⟨rfl, rfl⟩ := opens
    simp only [continues_cons_iff, continues_nil_iff, continuation_has_iff,
      narrowed_has_iff] at continued
  · obtain ⟨rfl, rfl⟩ := continued
    rw [numbers_of_valid (.inl (by omega)), numbers_one ‹_›]
    rfl
  · obtain ⟨a, _, rfl, tail, rfl, rfl⟩ := continued
    rw [numbers_of_valid (.inl (by omega)), numbers_two (by omega) tail]
    rfl
  · obtain ⟨a, _, rfl, ⟨tail, long, real, -⟩, b, _, rfl, last, rfl, rfl⟩ := continued
    have valid : Nat.isValidChar
        (((octet.toNat - 0xe0) * 64 + a.toNat % 64) * 64 + b.toNat % 64) := by
      unfold Nat.isValidChar
      omega
    rw [numbers_of_valid valid, numbers_three (by omega) tail last long]
    rfl
  · obtain ⟨a, _, rfl, ⟨tail, -, -, long, real⟩, b, _, rfl, middle, c, _, rfl, last, rfl, rfl⟩ :=
      continued
    have valid : Nat.isValidChar
        ((((octet.toNat - 0xf0) * 64 + a.toNat % 64) * 64 + b.toNat % 64) * 64 +
          c.toNat % 64) := by
      unfold Nat.isValidChar
      omega
    rw [numbers_of_valid valid, numbers_four (by omega) tail middle last long]
    rfl

/-- The octets of a character are taken for it. -/
theorem spells_of_map_toNat_eq (octets : spelled.map UInt8.toNat = numbers c.toNat) :
    Spells spelled c := by
  have number := number_of_char c
  have same {last : Nat} (last_eq : last = c.toNat) : c = Char.ofNat last := by
    rw [last_eq, Char.ofNat_toNat]
  unfold numbers at octets
  split_ifs at octets
  all_goals simp only [List.map_eq_cons_iff, List.map_eq_nil_iff] at octets
  · obtain ⟨octet, _, rfl, lead, rfl⟩ := octets
    have opens : opening octet = some (octet.toNat, []) := by
      rw [opening_eq, if_pos (by omega)]
    exact ⟨octet, _, _, _, _, rfl, opens, .done _, same lead⟩
  · obtain ⟨octet, _, rfl, lead, a, _, rfl, tail, rfl⟩ := octets
    have opens : opening octet = some (octet.toNat - 0xc0, [continuation]) := by
      rw [opening_eq, if_neg (by omega), if_neg (by omega), if_pos (by omega)]
    refine ⟨octet, _, _, _, _, rfl, opens, .more ?_ (.done _), same (by omega)⟩
    exact continuation_has_iff.mpr (by omega)
  · obtain ⟨octet, _, rfl, lead, a, _, rfl, tail, b, _, rfl, last, rfl⟩ := octets
    have opens : opening octet =
        some (octet.toNat - 0xe0, [narrowed octet.toNat, continuation]) := by
      rw [opening_eq, if_neg (by omega), if_neg (by omega), if_neg (by omega),
        if_pos (by omega)]
    refine ⟨octet, _, _, _, _, rfl, opens, .more ?_ (.more ?_ (.done _)), same (by omega)⟩
    · exact narrowed_has_iff.mpr (by omega)
    · exact continuation_has_iff.mpr (by omega)
  · obtain ⟨octet, _, rfl, lead, a, _, rfl, tail, b, _, rfl, middle, d, _, rfl, last, rfl⟩ :=
      octets
    have opens : opening octet =
        some (octet.toNat - 0xf0, [narrowed octet.toNat, continuation, continuation]) := by
      rw [opening_eq, if_neg (by omega), if_neg (by omega), if_neg (by omega),
        if_neg (by omega), if_pos (by omega)]
    refine ⟨octet, _, _, _, _, rfl, opens, .more ?_ (.more ?_ (.more ?_ (.done _))),
      same (by omega)⟩
    · exact narrowed_has_iff.mpr (by omega)
    · exact continuation_has_iff.mpr (by omega)
    · exact continuation_has_iff.mpr (by omega)

/-- The decoder takes for a character exactly its octets. -/
theorem spells_iff : Spells spelled c ↔ spelled = String.utf8EncodeChar c := by
  have by_numbers : spelled = String.utf8EncodeChar c ↔
      spelled.map UInt8.toNat = numbers c.toNat := by
    rw [← map_toNat_utf8EncodeChar]
    exact (List.map_inj_right fun _ _ => UInt8.toNat_inj.mp).symm
  rw [by_numbers]
  exact ⟨Spells.map_toNat_eq, spells_of_map_toNat_eq⟩

/-! ## Texts -/

variable {position start taken code last : Nat} {next : Span} {later : List Span}
  {octets : Octets} {text : List Char}

/-- Inside a character, the decoder goes on to its end. -/
theorem decodeFrom_of_continues (continued : Continues code (next :: later) octets last)
    (rest : Octets) :
    decodeFrom position (some ⟨start, taken, code, next, later⟩) (octets ++ rest) =
      (decodeFrom (position + octets.length) none rest).map (Char.ofNat last :: ·) := by
  induction later generalizing position taken code next octets with
  | nil =>
      obtain ⟨octet, _, rfl, fits, ended⟩ := continues_cons_iff.mp continued
      obtain ⟨rfl, rfl⟩ := continues_nil_iff.mp ended
      rw [List.singleton_append, decodeFrom, feed, resume, if_pos fits]
      rfl
  | cons following later ih =>
      obtain ⟨octet, octets, rfl, fits, continued⟩ := continues_cons_iff.mp continued
      rw [List.cons_append, decodeFrom, feed, resume, if_pos fits]
      dsimp only
      rw [ih continued, List.length_cons, Nat.add_right_comm, Nat.add_assoc]

/-- The octets of a character are read as this character. -/
theorem decodeFrom_of_spells {c : Char} (spells : Spells octets c) (rest : Octets) :
    decodeFrom position none (octets ++ rest) =
      (decodeFrom (position + octets.length) none rest).map (c :: ·) := by
  obtain ⟨octet, octets, code, spans, last, rfl, opens, continued, rfl⟩ := spells
  rw [List.cons_append, decodeFrom, feed, begin, opens]
  cases spans with
  | nil =>
      obtain ⟨rfl, rfl⟩ := continues_nil_iff.mp continued
      rfl
  | cons next later =>
      dsimp only
      rw [decodeFrom_of_continues continued, List.length_cons, Nat.add_right_comm, Nat.add_assoc]

/-- Whatever is read inside a character goes on to its end. -/
theorem exists_continues (read : decodeFrom position (some ⟨start, taken, code, next, later⟩)
      octets = .ok text) :
    ∃ tail rest last, octets = tail ++ rest ∧ Continues code (next :: later) tail last := by
  induction later generalizing position taken code next octets with
  | nil =>
      cases octets with
      | nil => cases read
      | cons octet rest =>
          rw [decodeFrom, feed, resume] at read
          by_cases fits : next.has octet
          · exact ⟨[octet], rest, _, rfl, .more fits (.done _)⟩
          · rw [if_neg fits] at read
            cases read
  | cons following later ih =>
      cases octets with
      | nil => cases read
      | cons octet rest =>
          rw [decodeFrom, feed, resume] at read
          by_cases fits : next.has octet
          · rw [if_pos fits] at read
            obtain ⟨tail, rest, last, rfl, continued⟩ := ih read
            exact ⟨octet :: tail, rest, last, rfl, .more fits continued⟩
          · rw [if_neg fits] at read
            cases read

/-- Whatever is read between characters begins with the octets of a character. -/
theorem exists_spells {octet : UInt8}
    (read : decodeFrom position none (octet :: octets) = .ok text) :
    ∃ first rest c, octet :: octets = first ++ rest ∧ Spells first c := by
  rw [decodeFrom, feed, begin] at read
  cases opens : opening octet with
  | none =>
      rw [opens] at read
      cases read
  | some opened =>
      obtain ⟨code, spans⟩ := opened
      cases spans with
      | nil =>
          have spells : Spells [octet] (Char.ofNat code) :=
            ⟨octet, [], code, [], code, rfl, opens, .done code, rfl⟩
          exact ⟨[octet], octets, _, rfl, spells⟩
      | cons next later =>
          rw [opens] at read
          obtain ⟨tail, rest, last, rfl, continued⟩ := exists_continues read
          have spells : Spells (octet :: tail) (Char.ofNat last) :=
            ⟨octet, tail, code, _, last, rfl, opens, continued, rfl⟩
          exact ⟨octet :: tail, rest, _, rfl, spells⟩

/-- A text that is read is a character and what is read behind its octets. -/
theorem exists_first {octet : UInt8}
    (read : decodeFrom position none (octet :: octets) = .ok text) :
    ∃ c rest chars, octet :: octets = String.utf8EncodeChar c ++ rest ∧ text = c :: chars ∧
      ∃ behind, decodeFrom behind none rest = .ok chars := by
  obtain ⟨first, rest, c, split, spells⟩ := exists_spells read
  rw [split, decodeFrom_of_spells spells] at read
  cases behind : decodeFrom (position + first.length) none rest with
  | error fault =>
      rw [behind] at read
      cases read
  | ok chars =>
      rw [behind] at read
      cases read
      exact ⟨c, rest, chars, spells_iff.mp spells ▸ split, rfl, _, behind⟩

/-- Texts are read exactly from the octets of their characters. -/
theorem decodeFrom_eq_ok_iff :
    decodeFrom position none octets = .ok text ↔
      text.flatMap String.utf8EncodeChar = octets := by
  constructor
  · intro read
    induction text generalizing position octets with
    | nil =>
        cases octets with
        | nil => rfl
        | cons octet octets =>
            obtain ⟨_, _, _, _, impossible, _⟩ := exists_first read
            cases impossible
    | cons c chars ih =>
        cases octets with
        | nil => cases read
        | cons octet octets =>
            obtain ⟨_, rest, _, split, ⟨⟩, _, behind⟩ := exists_first read
            rw [List.flatMap_cons, ih behind, split]
  · rintro rfl
    induction text generalizing position with
    | nil => rfl
    | cons c chars ih =>
        rw [List.flatMap_cons, decodeFrom_of_spells (spells_iff.mpr rfl), ih]
        rfl

/-- Octets are taken for a text exactly if they are its octets. -/
theorem decode_eq_ok_iff {octets : Octets} {text : String} :
    decode octets = .ok text ↔ encode text = octets := by
  unfold decode encode
  have read_iff : decodeFrom 0 none octets = .ok text.toList ↔
      text.toList.flatMap String.utf8EncodeChar = octets := decodeFrom_eq_ok_iff
  rw [← read_iff]
  cases decodeFrom 0 none octets with
  | error fault => exact ⟨nofun, nofun⟩
  | ok chars =>
      constructor
      · rintro ⟨⟩
        rw [String.toList_ofList]
      · rintro ⟨⟩
        exact congrArg _ String.ofList_toList

end Messenger.Utf8
