import Mathlib.Data.List.TakeWhile
import Messenger.Json.Form
import Messenger.Proofs.Text.Numerals

/-!
# What the JSON reader reads

Numbers and arrays, each in both directions: what a value was written as that is read, and
how a text is read that was written as one.
-/

namespace Messenger.Json

/-! ## Spaces -/

variable {text rest spaces written : List Char} {c : Char} {fuel : Nat}

theorem skipSpace_append (blank : ∀ c ∈ spaces, isSpace c) :
    skipSpace (spaces ++ text) = skipSpace text :=
  List.dropWhile_append_of_pos blank

theorem skipSpace_cons (solid : ¬ isSpace c) : skipSpace (c :: text) = c :: text :=
  List.dropWhile_cons_of_neg solid

theorem exists_spaces (text : List Char) :
    ∃ spaces, text = spaces ++ skipSpace text ∧ ∀ c ∈ spaces, isSpace c :=
  ⟨text.takeWhile isSpace, List.takeWhile_append_dropWhile.symm,
    fun _ member => List.mem_takeWhile_imp member⟩

/-! ## Numbers -/

theorem isDigit_eq (c : Char) : isDigit c = c.isDigit := by
  rw [Bool.eq_iff_iff, Numeral.isDigit_iff]
  unfold isDigit
  rw [Bool.and_eq_true, decide_eq_true_iff, decide_eq_true_iff]

/-- Whatever follows a number without being part of it. -/
def Ended (text : List Char) : Prop :=
  ∀ c ∈ text.head?, ¬ c.isDigit ∧ c ≠ '.' ∧ c ≠ 'e' ∧ c ≠ 'E'

theorem readDigits_eq_some (digits : ∀ c ∈ written, c.isDigit) (some_digit : written ≠ [])
    (ended : ∀ c ∈ rest.head?, ¬ c.isDigit) :
    readDigits (written ++ rest) = some (written, rest) := by
  have inside : ∀ c ∈ written, isDigit c := fun c member => by
    rw [isDigit_eq]
    exact digits c member
  have stops : ∀ c ∈ rest.head?, ¬ isDigit c := fun c head => by
    rw [isDigit_eq]
    exact ended c head
  unfold readDigits
  rw [takeWhile_run inside stops, dropWhile_run inside stops]
  cases written with
  | nil => exact absurd rfl some_digit
  | cons c more => rfl

theorem digits_of_readDigits (read : readDigits text = some (written, rest)) :
    text = written ++ rest ∧ written ≠ [] ∧ ∀ c ∈ written, c.isDigit := by
  have split : text.takeWhile isDigit ++ text.dropWhile isDigit = text :=
    List.takeWhile_append_dropWhile
  have inside : ∀ c ∈ text.takeWhile isDigit, c.isDigit := fun c member => by
    rw [← isDigit_eq]
    exact List.mem_takeWhile_imp member
  unfold readDigits at read
  cases taken : text.takeWhile isDigit with
  | nil =>
      rw [taken] at read
      cases read
  | cons c more =>
      rw [taken] at read inside split
      cases read
      exact ⟨split.symm, List.cons_ne_nil _ _, inside⟩

/-- A whole number is a run of digits that begins with a zero only if it is this zero. -/
theorem readWhole_eq_some_iff :
    readWhole text = some (written, rest) ↔
      readDigits text = some (written, rest) ∧ ∀ c more, written ≠ '0' :: c :: more := by
  unfold readWhole
  cases readDigits text with
  | none => exact ⟨nofun, fun ⟨impossible, _⟩ => nomatch impossible⟩
  | some found =>
      obtain ⟨digits, behind⟩ := found
      simp only [Option.bind_eq_bind, Option.bind_some]
      split
      · next c more =>
        refine ⟨nofun, ?_⟩
        rintro ⟨⟨⟩, leading⟩
        exact absurd rfl (leading c more)
      · next leading =>
        constructor
        · rintro ⟨⟩
          exact ⟨rfl, leading⟩
        · rintro ⟨⟨⟩, _⟩
          rfl

theorem readWhole_toDigits (n : Nat) (ended : Ended rest) :
    readWhole (Nat.toDigits 10 n ++ rest) = some (Nat.toDigits 10 n, rest) := by
  have digits : ∀ c ∈ Nat.toDigits 10 n, c.isDigit :=
    fun c member => Nat.isDigit_of_mem_toDigits (by decide) (by decide) member
  refine readWhole_eq_some_iff.mpr
    ⟨readDigits_eq_some digits Nat.toDigits_ne_nil fun c head => (ended c head).1, ?_⟩
  intro c more split
  rcases Nat.eq_zero_or_pos n with rfl | positive
  · cases split
  · obtain ⟨_, _, start, leading⟩ := Numeral.toDigits_of_pos positive
    rw [start] at split
    cases split
    exact leading rfl

/-- Without a sign, a number is its whole part, its fraction and its exponent. -/
theorem readNumber_of_unsigned (unsigned : ∀ more, text ≠ '-' :: more) :
    readNumber text = (readWhole text).bind fun whole =>
      (readFraction whole.2).bind fun fraction =>
        (readExponent fraction.2).bind fun exponent =>
          some (whole.1 ++ fraction.1 ++ exponent.1, exponent.2) := by
  unfold readNumber
  split
  next sign behind cut =>
  split at cut
  · exact absurd rfl (unsigned _)
  · cases cut
    rfl

theorem readNumber_toDigits (n : Nat) (ended : Ended rest) :
    readNumber (Nat.toDigits 10 n ++ rest) = some (Nat.toDigits 10 n, rest) := by
  have fraction : readFraction rest = some ([], rest) := by
    unfold readFraction
    split
    · exact absurd rfl (ended _ rfl).2.1
    · rfl
  have exponent : readExponent rest = some ([], rest) := by
    unfold readExponent
    dsimp only
    split
    · exact absurd rfl (ended _ rfl).2.2.1
    · exact absurd rfl (ended _ rfl).2.2.2
    · rfl
  have unsigned : ∀ more, Nat.toDigits 10 n ++ rest ≠ '-' :: more := by
    intro more split
    obtain ⟨c, others, digits⟩ := List.exists_cons_of_ne_nil (@Nat.toDigits_ne_nil n 10)
    have digit : c.isDigit :=
      Nat.isDigit_of_mem_toDigits (by decide) (by decide) (digits ▸ List.mem_cons_self)
    rw [digits] at split
    cases split
    cases digit
  rw [readNumber_of_unsigned unsigned, readWhole_toDigits n ended]
  simp only [Option.bind_some, fraction, exponent, List.append_nil]

theorem eq_nil_of_readFraction (read : readFraction text = some (written, rest))
    (digits : ∀ c ∈ written, c.isDigit) : written = [] ∧ rest = text := by
  unfold readFraction at read
  split at read
  · obtain ⟨_, _, found⟩ := Option.map_eq_some_iff.mp read
    cases found
    exact absurd (digits _ List.mem_cons_self) (by decide)
  · cases read
    exact ⟨rfl, rfl⟩

theorem eq_nil_of_readExponent (read : readExponent text = some (written, rest))
    (digits : ∀ c ∈ written, c.isDigit) : written = [] ∧ rest = text := by
  unfold readExponent at read
  dsimp only at read
  split at read
  case _ | _ =>
    split at read
    all_goals
      obtain ⟨_, _, found⟩ := Option.map_eq_some_iff.mp read
      cases found
      exact absurd (digits _ List.mem_cons_self) (by decide)
  case _ =>
    cases read
    exact ⟨rfl, rfl⟩

theorem eq_cons_of_readNumber_signed (read : readNumber ('-' :: text) = some (written, rest)) :
    ∃ unsigned, written = '-' :: unsigned := by
  unfold readNumber at read
  obtain ⟨_, _, read⟩ := Option.bind_eq_some_iff.mp read
  obtain ⟨_, _, read⟩ := Option.bind_eq_some_iff.mp read
  obtain ⟨_, _, read⟩ := Option.bind_eq_some_iff.mp read
  cases read
  exact ⟨_, rfl⟩

/-- A number without sign, fraction and exponent is a whole one. -/
theorem readWhole_of_readNumber (read : readNumber text = some (written, rest))
    (digits : ∀ c ∈ written, c.isDigit) : readWhole text = some (written, rest) := by
  by_cases signed : ∃ more, text = '-' :: more
  · obtain ⟨more, rfl⟩ := signed
    obtain ⟨unsigned, rfl⟩ := eq_cons_of_readNumber_signed read
    exact absurd (digits _ List.mem_cons_self) (by decide)
  · rw [readNumber_of_unsigned (not_exists.mp signed)] at read
    obtain ⟨⟨whole, behind⟩, taken, read⟩ := Option.bind_eq_some_iff.mp read
    obtain ⟨⟨fraction, next⟩, fractional, read⟩ := Option.bind_eq_some_iff.mp read
    obtain ⟨⟨exponent, last⟩, exponential, read⟩ := Option.bind_eq_some_iff.mp read
    cases read
    obtain ⟨rfl, rfl⟩ := eq_nil_of_readFraction fractional fun c member =>
      digits c (List.mem_append_left _ (List.mem_append_right _ member))
    obtain ⟨rfl, rfl⟩ := eq_nil_of_readExponent exponential fun c member =>
      digits c (List.mem_append_right _ member)
    rw [List.append_nil, List.append_nil]
    exact taken

theorem toDigits_of_readWhole {n : Nat} (read : readWhole text = some (written, rest))
    (value : Numeral.natural? written = some n) :
    written = Nat.toDigits 10 n ∧ text = written ++ rest := by
  obtain ⟨some_digit, digits, rfl⟩ := Numeral.natural?_eq_some_iff.mp value
  obtain ⟨run, leading⟩ := readWhole_eq_some_iff.mp read
  refine ⟨?_, (digits_of_readDigits run).1⟩
  cases written with
  | nil => exact absurd rfl some_digit
  | cons c more =>
      obtain ⟨digit, others⟩ := List.forall_mem_cons.mp digits
      refine (Numeral.toDigits_ofDigitChars digit others fun zero => ?_).symm
      cases more with
      | nil => rfl
      | cons d more => exact absurd (zero ▸ rfl) (leading d more)

/-! ## Values -/

variable {value : Json} {inner : List Char} {items : List Json}

/-- A value that is read as a number or an array was written as one. -/
theorem readValue_cases (read : readValue fuel text = some (value, rest)) :
    (∃ written, value = .number written ∧
        readNumber (skipSpace text) = some (written, rest)) ∨
      (∃ left inner items, fuel = left + 1 ∧ value = .array items ∧
        skipSpace text = '[' :: inner ∧
        (skipSpace inner = ']' :: rest ∧ items = [] ∨
          readItems left inner = some (items, rest))) ∨
      (∀ written, value ≠ .number written) ∧ ∀ items, value ≠ .array items := by
  cases fuel with
  | zero => cases read
  | succ left =>
      rw [readValue] at read
      split at read
      case h_5 begins =>
        split at read
        · next ends =>
          cases read
          exact .inr (.inl ⟨left, _, [], rfl, rfl, begins, .inl ⟨ends, rfl⟩⟩)
        · obtain ⟨⟨items, behind⟩, found, same⟩ := Option.map_eq_some_iff.mp read
          cases same
          exact .inr (.inl ⟨left, _, items, rfl, rfl, begins, .inr found⟩)
      case h_6 =>
        split at read
        · cases read
          exact .inr (.inr ⟨nofun, nofun⟩)
        · obtain ⟨_, _, same⟩ := Option.map_eq_some_iff.mp read
          cases same
          exact .inr (.inr ⟨nofun, nofun⟩)
      case h_7 =>
        obtain ⟨⟨written, behind⟩, found, same⟩ := Option.map_eq_some_iff.mp read
        cases same
        exact .inl ⟨written, rfl, found⟩
      all_goals
        obtain ⟨_, _, same⟩ := Option.map_eq_some_iff.mp read
        cases same
        exact .inr (.inr ⟨nofun, nofun⟩)

theorem readValue_of_number (begins : skipSpace text = c :: inner) (digit : c.isDigit)
    (read : readNumber (c :: inner) = some (written, rest)) :
    readValue (fuel + 1) text = some (.number written, rest) := by
  rw [readValue, begins]
  split
  case h_7 =>
    rw [read]
    rfl
  all_goals
    next same =>
    cases same
    cases digit

theorem readValue_of_opening (begins : skipSpace text = '[' :: inner) :
    readValue (fuel + 1) text =
      match skipSpace inner with
      | ']' :: rest => some (.array [], rest)
      | _ => (readItems fuel inner).map fun (items, rest) => (.array items, rest) := by
  rw [readValue, begins]
  rfl

theorem readValue_of_empty (begins : skipSpace text = '[' :: inner)
    (ends : skipSpace inner = ']' :: rest) :
    readValue (fuel + 1) text = some (.array [], rest) := by
  rw [readValue_of_opening begins, ends]
  rfl

theorem readValue_of_items (begins : skipSpace text = '[' :: inner)
    (filled : ∀ rest, skipSpace inner ≠ ']' :: rest)
    (read : readItems fuel inner = some (items, rest)) :
    readValue (fuel + 1) text = some (.array items, rest) := by
  rw [readValue_of_opening begins]
  split
  · next ends => exact absurd ends (filled _)
  · rw [read]
    rfl

/-- A closing bracket begins no value. -/
theorem readValue_of_bracket (begins : skipSpace text = ']' :: inner) :
    readValue fuel text = none := by
  cases fuel with
  | zero => rfl
  | succ left =>
      rw [readValue, begins]
      rfl

theorem readItems_cases (read : readItems fuel text = some (items, rest)) :
    ∃ left item middle, fuel = left + 1 ∧ readValue left text = some (item, middle) ∧
      (skipSpace middle = ']' :: rest ∧ items = [item] ∨
        ∃ next others, skipSpace middle = ',' :: next ∧
          readItems left next = some (others, rest) ∧ items = item :: others) := by
  cases fuel with
  | zero => cases read
  | succ left =>
      rw [readItems] at read
      obtain ⟨⟨item, middle⟩, found, read⟩ := Option.bind_eq_some_iff.mp read
      refine ⟨left, item, middle, rfl, found, ?_⟩
      dsimp only at read
      split at read
      · next goesOn =>
        obtain ⟨⟨others, behind⟩, more, same⟩ := Option.bind_eq_some_iff.mp read
        cases same
        exact .inr ⟨_, others, goesOn, more, rfl⟩
      · next ends =>
        cases read
        exact .inl ⟨ends, rfl⟩
      · cases read

theorem ne_nil_of_readItems (read : readItems fuel text = some (items, rest)) : items ≠ [] := by
  obtain ⟨_, _, _, _, _, ⟨_, rfl⟩ | ⟨_, _, _, _, rfl⟩⟩ := readItems_cases read
  all_goals exact List.cons_ne_nil _ _

theorem filled_of_readItems (read : readItems fuel text = some (items, rest)) :
    ∀ more, skipSpace text ≠ ']' :: more := by
  intro more begins
  obtain ⟨_, _, _, _, found, _⟩ := readItems_cases read
  rw [readValue_of_bracket begins] at found
  cases found

theorem readItems_of_last {middle : List Char} (found : readValue fuel text = some (value, middle))
    (ends : skipSpace middle = ']' :: rest) :
    readItems (fuel + 1) text = some ([value], rest) := by
  rw [readItems, found]
  simp only [Option.bind_eq_bind, Option.bind_some, ends]
  rfl

theorem readItems_of_more {middle next : List Char}
    (found : readValue fuel text = some (value, middle))
    (goesOn : skipSpace middle = ',' :: next) (more : readItems fuel next = some (items, rest)) :
    readItems (fuel + 1) text = some (value :: items, rest) := by
  rw [readItems, found]
  simp only [Option.bind_eq_bind, Option.bind_some, goesOn, more]
  rfl

end Messenger.Json
