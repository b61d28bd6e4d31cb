import Mathlib.Data.List.Forall2
import Messenger.Proofs.Json.Reader

/-!
# Exactness of the JSON reader on arrays of words

A document is read as nested arrays of words exactly if it consists of their tokens, with
spaces before, between and behind them.  A word has one token, its decimal digits.
-/

namespace Messenger.Json

/-- A text of tokens with spaces before each of them. -/
inductive Spaced : List (List Char) → List Char → Prop where
  | nil : Spaced [] []
  | cons {spaces token text : List Char} {tokens : List (List Char)}
      (blank : ∀ c ∈ spaces, isSpace c) (others : Spaced tokens text) :
      Spaced (token :: tokens) (spaces ++ token ++ text)

theorem Spaced.append {first second : List (List Char)} {text rest : List Char}
    (begins : Spaced first text) (goesOn : Spaced second rest) :
    Spaced (first ++ second) (text ++ rest) := by
  induction begins with
  | nil => exact goesOn
  | cons blank _ ih =>
      rw [List.append_assoc]
      exact .cons blank ih

theorem Spaced.exists_append {first second : List (List Char)} {text : List Char}
    (spaced : Spaced (first ++ second) text) :
    ∃ front back, text = front ++ back ∧ Spaced first front ∧ Spaced second back := by
  induction first generalizing text with
  | nil => exact ⟨[], text, rfl, .nil, spaced⟩
  | cons token tokens ih =>
      cases spaced with
      | cons blank others =>
          obtain ⟨front, back, rfl, begins, goesOn⟩ := ih others
          exact ⟨_, back, (List.append_assoc _ _ _).symm, .cons blank begins, goesOn⟩

theorem Spaced.exists_cons {token text : List Char} {tokens : List (List Char)}
    (spaced : Spaced (token :: tokens) text) :
    ∃ front back, text = front ++ back ∧ Spaced [token] front ∧ Spaced tokens back := by
  rw [← List.singleton_append] at spaced
  exact spaced.exists_append

variable {text rest spaces : List Char} {c : Char} {fuel : Nat}

/-- Values of a shape, and the tokens that spell them. -/
structure Shape where
  accepts : Json → Prop
  tokens : List (List Char)

/-- The tokens of items, separated by commas, up to the closing bracket. -/
def itemTokens : List (List (List Char)) → List (List Char)
  | [] => [[']']]
  | [last] => last ++ [[']']]
  | item :: rest => item ++ [','] :: itemTokens rest

/-- The tokens of an array. -/
def arrayTokens (items : List (List (List Char))) : List (List Char) :=
  ['['] :: itemTokens items

theorem exists_spaced (token : List Char) (begins : skipSpace text = token ++ rest) :
    ∃ read, text = read ++ rest ∧ Spaced [token] read := by
  obtain ⟨spaces, split, blank⟩ := exists_spaces text
  refine ⟨spaces ++ token ++ [], ?_, .cons blank .nil⟩
  rw [List.append_nil, List.append_assoc, ← begins]
  exact split

theorem skipSpace_spaced {token read : List Char} (spaced : Spaced [c :: token] read)
    (solid : ¬ isSpace c) (rest : List Char) : skipSpace (read ++ rest) = c :: token ++ rest := by
  cases spaced with
  | cons blank others =>
      cases others
      rw [List.append_nil, List.append_assoc, skipSpace_append blank]
      exact skipSpace_cons solid

theorem Spaced.length_pos {token read : List Char} (spaced : Spaced [c :: token] read) :
    0 < read.length := by
  cases spaced
  simp only [List.length_append, List.length_cons]
  omega

theorem ended_of_isSpace (space : isSpace c) (text : List Char) : Ended (c :: text) := by
  rintro _ ⟨⟩
  unfold isSpace at space
  simp only [Bool.or_eq_true, decide_eq_true_eq] at space
  rcases space with ((rfl | rfl) | rfl) | rfl <;> decide

theorem ended_of_spaces (blank : ∀ c ∈ spaces, isSpace c) : Ended spaces := by
  cases spaces with
  | nil => exact nofun
  | cons c spaces => exact ended_of_isSpace (blank c List.mem_cons_self) spaces

theorem ended_of_spaced {token read : List Char} (spaced : Spaced [c :: token] read)
    (outside : ¬ c.isDigit ∧ c ≠ '.' ∧ c ≠ 'e' ∧ c ≠ 'E') (rest : List Char) :
    Ended (read ++ rest) := by
  cases spaced with
  | @cons spaces _ _ _ blank others =>
      cases spaces with
      | nil =>
          rintro _ ⟨⟩
          exact outside
      | cons d spaces => exact ended_of_isSpace (blank d List.mem_cons_self) _

namespace Shape

/-- Values of a shape are read exactly from their tokens. -/
structure Exact (shape : Shape) : Prop where
  sound : ∀ {fuel text json rest}, readValue fuel text = some (json, rest) →
    shape.accepts json → ∃ read, text = read ++ rest ∧ Spaced shape.tokens read
  complete : ∀ {fuel read rest}, Spaced shape.tokens read → Ended rest →
    2 * read.length ≤ fuel →
    ∃ json, readValue fuel (read ++ rest) = some (json, rest) ∧ shape.accepts json

/-- A number that is read as a word. -/
def word (word : UInt64) : Shape where
  accepts json := JsonForm.ofJson json = some word
  tokens := [Nat.toDigits 10 word.toNat]

/-- An array of items of the given shapes. -/
def array (items : List Shape) : Shape where
  accepts json := ∃ values, json = .array values ∧ List.Forall₂ accepts items values
  tokens := arrayTokens (items.map tokens)

theorem word_accepts_iff {word : UInt64} {json : Json} :
    (Shape.word word).accepts json ↔
      ∃ written, json = .number written ∧ Numeral.natural? written = some word.toNat := by
  have bound := word.toNat_lt
  change (natural? UInt64.size json).map UInt64.ofNat = some word ↔ _
  rw [Option.map_eq_some_iff]
  constructor
  · rintro ⟨n, value, rfl⟩
    cases json with
    | number written =>
        obtain ⟨m, digits, fits⟩ := Option.bind_eq_some_iff.mp value
        split at fits
        · next small =>
          cases fits
          have same : (UInt64.ofNat n).toNat = n := UInt64.toNat_ofNat_of_lt small
          exact ⟨written, rfl, same.symm ▸ digits⟩
        · cases fits
    | _ => cases value
  · rintro ⟨written, rfl, digits⟩
    refine ⟨word.toNat, ?_, UInt64.ofNat_toNat⟩
    change (Numeral.natural? written).bind _ = _
    rw [digits, Option.bind_some, if_pos bound]

theorem exact_word (word : UInt64) : (Shape.word word).Exact where
  sound {_ text json rest} read accepted := by
    obtain ⟨written, rfl, value⟩ := word_accepts_iff.mp accepted
    have digits := (Numeral.natural?_eq_some_iff.mp value).2.1
    rcases readValue_cases read with ⟨_, ⟨⟩, number⟩ | ⟨_, _, _, _, ⟨⟩, _⟩ | ⟨impossible, _⟩
    · obtain ⟨rfl, split⟩ :=
        toDigits_of_readWhole (readWhole_of_readNumber number digits) value
      exact exists_spaced _ split
    · exact absurd rfl (impossible _)
  complete {fuel read rest} spaced ended enough := by
    obtain ⟨c, more, split⟩ := List.exists_cons_of_ne_nil (@Nat.toDigits_ne_nil word.toNat 10)
    have digit : c.isDigit :=
      Nat.isDigit_of_mem_toDigits (by decide) (by decide) (split ▸ List.mem_cons_self)
    have solid : ¬ isSpace c := fun space => (ended_of_isSpace space [] c rfl).1 digit
    have number := readNumber_toDigits word.toNat ended
    change Spaced [Nat.toDigits 10 word.toNat] read at spaced
    have value := Numeral.natural?_toDigits word.toNat
    rw [split] at spaced number value
    have positive := spaced.length_pos
    obtain ⟨fuel, rfl⟩ : ∃ left, fuel = left + 1 := ⟨fuel - 1, by omega⟩
    exact ⟨_, readValue_of_number (skipSpace_spaced spaced solid rest) digit number,
      word_accepts_iff.mpr ⟨_, rfl, value⟩⟩

/-- The items of an array are read only from their tokens. -/
theorem exists_spaced_items {items : List Shape} (exact : ∀ item ∈ items, item.Exact)
    {values : List Json} (read : readItems fuel text = some (values, rest))
    (accepted : List.Forall₂ accepts items values) :
    ∃ read, text = read ++ rest ∧ Spaced (itemTokens (items.map tokens)) read := by
  induction items generalizing fuel text values with
  | nil =>
      cases accepted
      exact absurd rfl (ne_nil_of_readItems read)
  | cons item others ih =>
      obtain ⟨itemExact, othersExact⟩ := List.forall_mem_cons.mp exact
      obtain ⟨left, value, middle, rfl, found, ends | goesOn⟩ := readItems_cases read
      · obtain ⟨bracket, rfl⟩ := ends
        cases accepted with
        | cons first none_left =>
            cases none_left
            obtain ⟨front, rfl, spaced⟩ := itemExact.sound found first
            obtain ⟨back, rfl, closes⟩ := exists_spaced [']'] bracket
            exact ⟨front ++ back, (List.append_assoc _ _ _).symm, spaced.append closes⟩
      · obtain ⟨next, more, comma, behind, rfl⟩ := goesOn
        have filled := ne_nil_of_readItems behind
        cases accepted with
        | cons first accepted =>
            obtain ⟨front, rfl, spaced⟩ := itemExact.sound found first
            obtain ⟨separator, rfl, separates⟩ := exists_spaced [','] comma
            obtain ⟨back, rfl, closes⟩ := ih othersExact behind accepted
            refine ⟨front ++ (separator ++ back), ?_, ?_⟩
            · rw [List.append_assoc, List.append_assoc]
            · cases accepted with
              | nil => exact absurd rfl filled
              | cons _ _ => exact spaced.append (separates.append closes)

/-- The items of a nonempty array are read from their tokens. -/
theorem exists_readItems {items : List Shape} (exact : ∀ item ∈ items, item.Exact)
    (filled : items ≠ []) {read : List Char}
    (spaced : Spaced (itemTokens (items.map tokens)) read) (enough : 2 * read.length + 1 ≤ fuel)
    (rest : List Char) :
    ∃ values, readItems fuel (read ++ rest) = some (values, rest) ∧
      List.Forall₂ accepts items values := by
  induction items generalizing fuel read with
  | nil => exact absurd rfl filled
  | cons item others ih =>
      obtain ⟨itemExact, othersExact⟩ := List.forall_mem_cons.mp exact
      obtain ⟨fuel, rfl⟩ : ∃ left, fuel = left + 1 := ⟨fuel - 1, by omega⟩
      cases others with
      | nil =>
          obtain ⟨front, back, rfl, first, closes⟩ := spaced.exists_append
          rw [List.length_append] at enough
          have ended : Ended (back ++ rest) := ended_of_spaced closes (by decide) rest
          obtain ⟨value, found, accepted⟩ :=
            itemExact.complete first ended (by omega : 2 * front.length ≤ fuel)
          rw [List.append_assoc]
          exact ⟨[value], readItems_of_last found (skipSpace_spaced closes (by decide) rest),
            .cons accepted .nil⟩
      | cons next others =>
          obtain ⟨front, behind, rfl, first, behindSpaced⟩ := spaced.exists_append
          obtain ⟨separator, back, rfl, separates, closes⟩ :=
            behindSpaced.exists_cons
          have longer := separates.length_pos
          rw [List.length_append, List.length_append] at enough
          have ended : Ended (separator ++ back ++ rest) := by
            rw [List.append_assoc]
            exact ended_of_spaced separates (by decide) (back ++ rest)
          obtain ⟨value, found, accepted⟩ :=
            itemExact.complete first ended (by omega : 2 * front.length ≤ fuel)
          obtain ⟨values, more, others_accepted⟩ :=
            ih othersExact (List.cons_ne_nil _ _) closes (by omega : 2 * back.length + 1 ≤ fuel)
          have comma : skipSpace (separator ++ back ++ rest) = ',' :: (back ++ rest) := by
            rw [List.append_assoc]
            exact skipSpace_spaced separates (by decide) (back ++ rest)
          rw [List.append_assoc]
          exact ⟨value :: values, readItems_of_more found comma more,
            .cons accepted others_accepted⟩

theorem exact_array {items : List Shape} (exact : ∀ item ∈ items, item.Exact) :
    (array items).Exact where
  sound {_ text json rest} read accepted := by
    obtain ⟨values, rfl, accepted⟩ := accepted
    rcases readValue_cases read with
      ⟨_, ⟨⟩, _⟩ | ⟨left, inner, _, rfl, ⟨⟩, begins, inside⟩ | ⟨_, impossible⟩
    · obtain ⟨opening, rfl, opens⟩ := exists_spaced ['['] begins
      rcases inside with ⟨ends, rfl⟩ | filled
      · cases accepted
        obtain ⟨closing, rfl, closes⟩ := exists_spaced [']'] ends
        exact ⟨opening ++ closing, (List.append_assoc _ _ _).symm, opens.append closes⟩
      · obtain ⟨back, rfl, spaced⟩ := exists_spaced_items exact filled accepted
        exact ⟨opening ++ back, (List.append_assoc _ _ _).symm, opens.append spaced⟩
    · exact absurd rfl (impossible _)
  complete {fuel read rest} spaced ended enough := by
    obtain ⟨opening, back, rfl, opens, inside⟩ := Spaced.exists_cons spaced
    have longer := opens.length_pos
    rw [List.length_append] at enough
    have begins : skipSpace (opening ++ back ++ rest) = '[' :: (back ++ rest) := by
      rw [List.append_assoc]
      exact skipSpace_spaced opens (by decide) (back ++ rest)
    obtain ⟨fuel, rfl⟩ : ∃ left, fuel = left + 1 := ⟨fuel - 1, by omega⟩
    by_cases filled : items = []
    · subst filled
      have ends : skipSpace (back ++ rest) = ']' :: rest :=
        skipSpace_spaced inside (by decide) rest
      exact ⟨_, readValue_of_empty begins ends, [], rfl, .nil⟩
    · obtain ⟨values, read, accepted⟩ :=
        exists_readItems exact filled inside (by omega : 2 * back.length + 1 ≤ fuel) rest
      exact ⟨_, readValue_of_items begins (filled_of_readItems read) read, values, rfl, accepted⟩

end Shape

/-- A document is read as a value of a shape exactly if it consists of the tokens of the shape,
with spaces before, between and behind them. -/
theorem exists_parse_iff {shape : Shape} (exact : shape.Exact) :
    (∃ json, parse text = some json ∧ shape.accepts json) ↔
      ∃ read spaces, text = read ++ spaces ∧ Spaced shape.tokens read ∧
        ∀ c ∈ spaces, isSpace c := by
  constructor
  · rintro ⟨json, parsed, accepted⟩
    obtain ⟨⟨value, rest⟩, read, ended⟩ := Option.bind_eq_some_iff.mp parsed
    dsimp only at ended
    split at ended
    · next blank =>
      cases ended
      obtain ⟨front, rfl, spaced⟩ := exact.sound read accepted
      exact ⟨front, rest, rfl, spaced, List.dropWhile_eq_nil_iff.mp blank⟩
    · cases ended
  · rintro ⟨front, spaces, rfl, spaced, blank⟩
    have enough : 2 * front.length ≤ 2 * (front ++ spaces).length + 2 := by
      rw [List.length_append]
      omega
    obtain ⟨json, read, accepted⟩ := exact.complete spaced (ended_of_spaces blank) enough
    have ended : skipSpace spaces = [] := List.dropWhile_eq_nil_iff.mpr blank
    refine ⟨json, ?_, accepted⟩
    unfold parse
    rw [read]
    exact if_pos ended

/-! ## Pairs of words -/

/-- The tokens of a list of pairs. -/
def pairTokens (pairs : List (UInt64 × UInt64)) : List (List Char) :=
  arrayTokens (pairs.map fun pair =>
    arrayTokens [[Nat.toDigits 10 pair.1.toNat], [Nat.toDigits 10 pair.2.toNat]])

theorem mapM_eq_some_iff {α : Type} {form : Json → Option α} {values : List Json}
    {items : List α} :
    values.mapM form = some items ↔
      List.Forall₂ (fun item value => form value = some item) items values := by
  induction values generalizing items with
  | nil =>
      rw [List.mapM_nil, List.forall₂_nil_right_iff]
      exact ⟨fun same => (Option.some.inj same).symm, fun same => same ▸ rfl⟩
  | cons value values ih =>
      rw [List.mapM_cons, Option.bind_eq_bind, Option.bind_eq_some_iff]
      constructor
      · rintro ⟨item, first, rest⟩
        obtain ⟨others, behind, same⟩ := Option.bind_eq_some_iff.mp rest
        cases same
        exact .cons first (ih.mp behind)
      · intro related
        cases related with
        | @cons item _ others _ first behind =>
            refine ⟨item, first, ?_⟩
            rw [ih.mpr behind]
            rfl

/-- A pair of words is an array of two. -/
theorem pair_accepts_iff {pair : UInt64 × UInt64} {json : Json} :
    (Shape.array [Shape.word pair.1, Shape.word pair.2]).accepts json ↔
      JsonForm.ofJson json = some pair := by
  have pair_eq (a b : Json) : (JsonForm.ofJson (.array [a, b]) : Option (UInt64 × UInt64)) =
      (JsonForm.ofJson a).bind fun first => (JsonForm.ofJson b).bind fun second =>
        some (first, second) := rfl
  constructor
  · rintro ⟨_, rfl, first | ⟨first, second | ⟨second, none_left⟩⟩⟩
    cases none_left
    change JsonForm.ofJson _ = some pair.1 at first
    change JsonForm.ofJson _ = some pair.2 at second
    rw [pair_eq, first, second]
    rfl
  · intro read
    match json, read with
    | .array [a, b], read =>
        rw [pair_eq] at read
        obtain ⟨_, first, read⟩ := Option.bind_eq_some_iff.mp read
        obtain ⟨_, second, same⟩ := Option.bind_eq_some_iff.mp read
        cases same
        exact ⟨[a, b], rfl, .cons first (.cons second .nil)⟩

/-- A document is read as a list of pairs of words exactly if it consists of their tokens. -/
theorem parse_pairs_eq_some_iff {document : String} {pairs : List (UInt64 × UInt64)} :
    JsonForm.parse document = some pairs ↔
      ∃ read spaces, document.toList = read ++ spaces ∧ Spaced (pairTokens pairs) read ∧
        ∀ c ∈ spaces, isSpace c := by
  let pairShape (pair : UInt64 × UInt64) := Shape.array [.word pair.1, .word pair.2]
  have exact : (Shape.array (pairs.map pairShape)).Exact := by
    refine Shape.exact_array fun shape member => ?_
    obtain ⟨pair, _, rfl⟩ := List.mem_map.mp member
    refine Shape.exact_array fun shape member => ?_
    rcases List.mem_pair.mp member with rfl | rfl <;> exact Shape.exact_word _
  have accepts (json : Json) :
      JsonForm.ofJson json = some pairs ↔ (Shape.array (pairs.map pairShape)).accepts json := by
    change (items? json).bind (fun items => items.mapM JsonForm.ofJson) = some pairs ↔
      ∃ values, json = .array values ∧ List.Forall₂ Shape.accepts (pairs.map pairShape) values
    have each (values : List Json) :
        values.mapM JsonForm.ofJson = some pairs ↔
          List.Forall₂ Shape.accepts (pairs.map pairShape) values := by
      rw [mapM_eq_some_iff, List.forall₂_map_left_iff]
      constructor
      · exact List.Forall₂.imp fun _ _ => pair_accepts_iff.mpr
      · exact List.Forall₂.imp fun _ _ => pair_accepts_iff.mp
    cases json with
    | array values =>
        refine (each values).trans ⟨fun related => ⟨values, rfl, related⟩, ?_⟩
        rintro ⟨_, ⟨⟩, related⟩
        exact related
    | _ => exact ⟨nofun, fun ⟨_, impossible, _⟩ => nomatch impossible⟩
  have tokens : (Shape.array (pairs.map pairShape)).tokens = pairTokens pairs := by
    change arrayTokens ((pairs.map pairShape).map Shape.tokens) = _
    rw [List.map_map]
    rfl
  rw [← tokens, ← exists_parse_iff exact]
  unfold JsonForm.parse
  rw [Option.bind_eq_some_iff]
  exact exists_congr fun json => and_congr_right fun _ => accepts json

end Messenger.Json
