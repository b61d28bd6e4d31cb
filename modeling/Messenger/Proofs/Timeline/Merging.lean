import Messenger.Proofs.Timeline.Keyed

/-!
# Merging messages in any order

Numbered messages leave a timeline with the first message of every number, ascending by
their numbers.  Where the clocks agree with the numbers, pending messages stand among the
numbered ones in the order of their times.  In both cases the order in which messages come
does not matter as long as no two of them claim the same place.
-/

namespace Messenger.Timeline

variable {messages arrivals : List Message}

/-! ## Numbered messages -/

/-- Numbered messages leave the first one of every number, in ascending order.  Each of them
is a duplicate if its number is there, and is stored behind the lower numbers otherwise.  If
every number has one message, all orders with all repetitions leave the same timeline. -/
theorem first_wins_of_numbered (numbered : ∀ message ∈ messages, message.header.seq ≠ 0) :
    KeepsFirst (fun message => message.header.seq) messages (empty.insertAll messages) ∧
      (∀ earlier message later, messages = earlier ++ message :: later →
        let before := empty.insertAll earlier
        (before.insert message).1 =
          if ∃ entry ∈ before.entries, entry.header.seq = message.header.seq then .duplicate
          else .at (before.entries.countP fun entry => entry.header.seq < message.header.seq)) ∧
      ((∀ a ∈ messages, ∀ b ∈ messages, a.header.seq = b.header.seq → a = b) →
        ∀ others, (∀ message, message ∈ others ↔ message ∈ messages) →
          empty.insertAll others = empty.insertAll messages) := by
  have compares : ∀ a ∈ messages, ∀ b ∈ messages,
      relate a b = compare a.header.seq b.header.seq :=
    fun a aMember b bMember => relate_of_numbered (numbered a aMember) (numbered b bMember)
  have keeps := keepsFirst_insertAll compares
  refine ⟨keeps, ?_, ?_⟩
  · rintro earlier message later rfl
    exact fst_insert_insertAll compares
  · intro single others same
    have otherCompares : ∀ a ∈ others, ∀ b ∈ others,
        relate a b = compare a.header.seq b.header.seq :=
      fun a aMember b bMember => compares a ((same a).mp aMember) b ((same b).mp bMember)
    exact keeps.eq_of_mem_iff (keepsFirst_insertAll otherCompares) single same

/-- Three numbered messages stand in the order of their numbers, against the order of their times,
however they come. -/
theorem numbered_in_any_order :
    let messages : List Message :=
      [.bareText 2 1 3 100, .bareText 1 2 1 300, .bareText 2 1 2 200]
    (∀ message ∈ messages, message.header.seq ≠ 0) ∧
      ∀ others, (∀ message, message ∈ others ↔ message ∈ messages) →
        empty.insertAll others =
          ⟨[.bareText 1 2 1 300, .bareText 2 1 2 200, .bareText 2 1 3 100]⟩ := by
  intro messages
  have numbered : ∀ message ∈ messages, message.header.seq ≠ 0 := by decide
  refine ⟨numbered, fun others same => ?_⟩
  rw [(first_wins_of_numbered numbered).2.2 (by decide) others same]
  decide

/-! ## Pending messages among numbered ones -/

/-- The clocks of messages agree with their numbers: no two of them have the same time, and two
numbered ones are in the same order by their numbers and by their times. -/
structure ClocksAgree (messages : List Message) : Prop where
  distinct : ∀ a ∈ messages, ∀ b ∈ messages, a.header.timestamp = b.header.timestamp → a = b
  consistent : ∀ a ∈ messages, ∀ b ∈ messages, a.header.seq ≠ 0 → b.header.seq ≠ 0 →
    (a.header.seq < b.header.seq ↔ a.header.timestamp < b.header.timestamp)

/-- Words that are in the same order as others, both ways, compare as the others do. -/
private theorem compare_eq_compare {a b c d : UInt64} (onward : a < b ↔ c < d)
    (backward : b < a ↔ d < c) : compare a b = compare c d := by
  cases order : compare c d with
  | lt => exact Std.compare_eq_lt.mpr (onward.mpr (Std.compare_eq_lt.mp order))
  | eq =>
      obtain rfl : c = d := Std.compare_eq_iff_eq.mp order
      have notLower : ¬a < b := fun lower => UInt64.lt_irrefl c (onward.mp lower)
      have notHigher : ¬b < a := fun higher => UInt64.lt_irrefl c (backward.mp higher)
      exact Std.compare_eq_iff_eq.mpr
        (UInt64.le_antisymm (UInt64.not_lt.mp notHigher) (UInt64.not_lt.mp notLower))
  | gt => exact Std.compare_eq_gt.mpr (backward.mpr (Std.compare_eq_gt.mp order))

/-- Messages whose clocks agree with their numbers compare by their times, numbered or not. -/
theorem ClocksAgree.relate_eq (agree : ClocksAgree messages) {a b : Message}
    (aMember : a ∈ messages) (bMember : b ∈ messages) :
    relate a b = compare a.header.timestamp b.header.timestamp := by
  by_cases numbered : a.header.seq ≠ 0 ∧ b.header.seq ≠ 0
  · rw [relate_of_numbered numbered.1 numbered.2]
    exact compare_eq_compare (agree.consistent a aMember b bMember numbered.1 numbered.2)
      (agree.consistent b bMember a aMember numbered.2 numbered.1)
  · apply relate_of_pending
    rw [not_and_or, not_not, not_not] at numbered
    exact numbered.imp Message.seq?_eq_none_iff.mpr Message.seq?_eq_none_iff.mpr

/-- Messages whose clocks agree with their numbers are each kept once, in the order of their
times, in whatever order and however often they come.  The first time a message is stored
behind the earlier ones, and every other time it is a duplicate. -/
theorem interleaved_of_clocksAgree (agree : ClocksAgree arrivals) :
    let merged := empty.insertAll arrivals
    Message.AscendingBy (fun message => message.header.timestamp) merged.entries ∧
      merged.entries.Nodup ∧ (∀ message, message ∈ merged.entries ↔ message ∈ arrivals) ∧
      ∀ earlier message later, arrivals = earlier ++ message :: later →
        let before := empty.insertAll earlier
        (before.insert message).1 =
          if message ∈ earlier then .duplicate
          else .at (before.entries.countP fun entry =>
            entry.header.timestamp < message.header.timestamp) := by
  have compares : ∀ a ∈ arrivals, ∀ b ∈ arrivals,
      relate a b = compare a.header.timestamp b.header.timestamp :=
    fun a aMember b bMember => agree.relate_eq aMember bMember
  have keeps := keepsFirst_insertAll compares
  refine ⟨keeps.ascending, keeps.ascending.nodup, keeps.mem_entries_iff agree.distinct, ?_⟩
  rintro earlier message later rfl
  have here : message ∈ earlier ++ message :: later :=
    List.mem_append_right earlier List.mem_cons_self
  have keepsEarlier : KeepsFirst (fun message => message.header.timestamp) earlier
      (empty.insertAll earlier) :=
    keepsFirst_insertAll fun a aMember b bMember =>
      compares a (List.mem_append_left _ aMember) b (List.mem_append_left _ bMember)
  -- A message of the same time is the same message.
  have repeated_iff : (∃ entry ∈ (empty.insertAll earlier).entries,
      entry.header.timestamp = message.header.timestamp) ↔ message ∈ earlier := by
    rw [keepsEarlier.exists_key_iff]
    constructor
    · rintro ⟨other, member, same⟩
      exact agree.distinct other (List.mem_append_left _ member) message here same ▸ member
    · exact fun member => ⟨message, member, rfl⟩
  simp only [fst_insert_insertAll compares, repeated_iff]

/-- Two texts that wait stand around the numbered ones by their times. -/
theorem waiting_among_numbered :
    let arrivals : List Message :=
      [.bareText 2 1 7 400, .bareText 1 2 0 300, .bareText 2 1 7 400, .bareText 2 1 4 200,
        .bareText 1 2 0 500, .bareText 1 2 0 300]
    ClocksAgree arrivals ∧
      (∀ message, message ∈ (empty.insertAll arrivals).entries ↔ message ∈ arrivals) ∧
      empty.insertAll arrivals =
        ⟨[.bareText 2 1 4 200, .bareText 1 2 0 300, .bareText 2 1 7 400, .bareText 1 2 0 500]⟩ := by
  intro arrivals
  have agree : ClocksAgree arrivals := ⟨by decide, by decide⟩
  exact ⟨agree, (interleaved_of_clocksAgree agree).2.2.1, by decide⟩

end Messenger.Timeline
