import Messenger.History.Retry

/-!
# Fetching history page by page

A page is fetched by asking the source until an attempt succeeds or the budget
of attempts is spent.  A cursor moves forward only past a page that was
fetched.
-/

namespace Messenger.Backfill

variable {η : Type} [HistorySource η]

/-- Ask until an attempt is accepted, at most `left` times.  `last` is the failure
before these attempts.  A pause that is too long ends the program. -/
def retry {α : Type} (config : SyncConfig) (request : HistoryRequest)
    (accept : List Octets → Except HistoryError α) :
    (left : Nat) → (last : String) → η → Except FetchError α × η
  | 0, last, source => (.error (.failed (.exhausted config.retry.attempts last)), source)
  | left + 1, _, source =>
      let (answer, source) := HistorySource.answer source request
      match (answer.within config.fetchTimeout).bind accept with
      | .ok value => (.ok value, source)
      | .error cause =>
          if config.retry.overflows left answer.draw then (.error .pauseOverflow, source)
          else retry config request accept left cause.message source

/-- The messages that frames spell, unless one of them spells none. -/
def decodeAll (frames : List Octets) : Except HistoryError (List Message) :=
  frames.mapM fun frame =>
    match Message.decode frame with
    | .ok message => .ok message
    | .error cause => .error (.frame cause)

/-- The frames that answer a request. -/
def fetchFrames (config : SyncConfig) (source : η) (request : HistoryRequest) :
    Except FetchError (List Octets) × η :=
  retry config request .ok config.retry.attempts "" source

/-- The messages that answer a request.  A frame that does not decode spoils the
whole attempt. -/
def fetchMessages (config : SyncConfig) (source : η) (request : HistoryRequest) :
    Except FetchError (List Message) × η :=
  retry config request decodeAll config.retry.attempts "" source

/-- Fetch the current page of a cursor and move the cursor past it, none once it is
done. -/
def nextPage (config : SyncConfig) (source : η) (cursor : Cursor) :
    Except FetchError (Option (Page × Cursor)) × η :=
  match cursor.request? with
  | none => (.ok none, source)
  | some request =>
      match fetchMessages config source request with
      | (.error cause, source) => (.error cause, source)
      | (.ok messages, source) =>
          let page := Page.ofMessages messages
          (.ok (some (page, cursor.advance page)), source)

/-- A cursor gets nearer to its end with every page that it gives. -/
theorem distance_lt_of_nextPage {config : SyncConfig} {source after : η}
    {cursor moved : Cursor} {page : Page}
    (fetched : nextPage config source cursor = (.ok (some (page, moved)), after)) :
    moved.distance < cursor.distance := by
  unfold nextPage at fetched
  split at fetched
  · simp at fetched
  · next request asks =>
      split at fetched
      · simp at fetched
      · simp only [Prod.mk.injEq, Except.ok.injEq, Option.some.injEq] at fetched
        obtain ⟨⟨rfl, rfl⟩, -⟩ := fetched
        exact Cursor.distance_advance_lt asks _

/-- Fetch pages until the cursor is done or a page fails: the pages, the failure if
there is one, and where the cursor ends. -/
def allPages (config : SyncConfig) (source : η) (cursor : Cursor) :
    (List Page × Option FetchError) × Cursor × η :=
  match _fetched : nextPage config source cursor with
  | (.error cause, source) => (([], some cause), cursor, source)
  | (.ok none, source) => (([], none), cursor, source)
  | (.ok (some (page, moved)), source) =>
      let ((pages, failure), last) := allPages config source moved
      ((page :: pages, failure), last)
termination_by cursor.distance
decreasing_by exact distance_lt_of_nextPage _fetched

end Messenger.Backfill
