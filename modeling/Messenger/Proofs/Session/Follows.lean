import Mathlib.Logic.Relation
import Messenger.Session.Basic

/-!
# Requests as runs of small changes

A request changes its state even if it fails.  It follows a relation from a state
if a finite run of the relation leads to the state that the request leaves.
-/

namespace Messenger.Session

variable {ε σ α β : Type}

/-- The state that a request leaves, whether it answers or fails. -/
def leaves (request : EStateM ε σ α) (state : σ) : σ :=
  match request state with
  | .ok _ left => left
  | .error _ left => left

theorem leaves_of_ok {request : EStateM ε σ α} {state left : σ} {answer : α}
    (done : request state = .ok answer left) : leaves request state = left := by
  unfold leaves
  rw [done]

theorem leaves_of_error {request : EStateM ε σ α} {state left : σ} {cause : ε}
    (failed : request state = .error cause left) : leaves request state = left := by
  unfold leaves
  rw [failed]

/-- What a request answers, none if it fails. -/
def answer? (request : EStateM ε σ α) (state : σ) : Option α :=
  match request state with
  | .ok answer _ => some answer
  | .error .. => none

theorem eq_ok_of_answer? {request : EStateM ε σ α} {state : σ} {answer : α}
    (answered : answer? request state = some answer) :
    request state = .ok answer (leaves request state) := by
  unfold answer? at answered
  unfold leaves
  split at answered
  · next given left done =>
      rw [done, Option.some.inj answered]
  · cases answered

/-- A request that answers goes on with what follows it. -/
theorem bind_of_ok {request : EStateM ε σ α} {state middle : σ} {answer : α}
    (done : request state = .ok answer middle) (next : α → EStateM ε σ β) :
    (request >>= next) state = next answer middle := by
  simp only [bind, EStateM.bind, done]

/-- A request that fails ends everything that follows it. -/
theorem bind_of_error {request : EStateM ε σ α} {state left : σ} {cause : ε}
    (failed : request state = .error cause left) (next : α → EStateM ε σ β) :
    (request >>= next) state = .error cause left := by
  simp only [bind, EStateM.bind, failed]

/-- Requests that answer together answer one after the other. -/
theorem of_bind_eq_ok {request : EStateM ε σ α} {next : α → EStateM ε σ β} {state left : σ}
    {result : β} (done : (request >>= next) state = .ok result left) :
    ∃ answer middle, request state = .ok answer middle ∧ next answer middle = .ok result left := by
  cases first : request state with
  | ok answer middle => exact ⟨answer, middle, rfl, (bind_of_ok first next).symm.trans done⟩
  | error cause middle => cases (bind_of_error first next).symm.trans done

theorem leaves_bind_of_ok {request : EStateM ε σ α} {state middle : σ} {answer : α}
    (done : request state = .ok answer middle) (next : α → EStateM ε σ β) :
    leaves (request >>= next) state = leaves (next answer) middle := by
  unfold leaves
  rw [bind_of_ok done]

/-- An answer that is passed on leaves the state as it is. -/
theorem leaves_bind_pure (request : EStateM ε σ α) (answer : α → β) (state : σ) :
    leaves (request >>= fun result => pure (answer result)) state = leaves request state := by
  cases done : request state with
  | ok result middle =>
      rw [leaves_of_ok done]
      exact leaves_of_ok (bind_of_ok done _)
  | error cause left =>
      rw [leaves_of_error done]
      exact leaves_of_error (bind_of_error done _)

/-- What the changes of a relation preserve is preserved by their runs. -/
theorem preserved_run {Change : σ → σ → Prop} {P : σ → Prop}
    (preserved : ∀ before after, Change before after → P before → P after) {before after : σ}
    (run : Relation.ReflTransGen Change before after) (holds : P before) : P after := by
  induction run with
  | refl => exact holds
  | tail _ change ih => exact preserved _ _ change ih

/-- From a state, a request makes only a run of changes of a relation. -/
def Follows (Change : σ → σ → Prop) (request : EStateM ε σ α) (state : σ) : Prop :=
  Relation.ReflTransGen Change state (leaves request state)

namespace Follows

variable {Change : σ → σ → Prop} {state : σ}

theorem pure (answer : α) : Follows Change (pure answer : EStateM ε σ α) state :=
  .refl

theorem throw (cause : ε) : Follows Change (throw cause : EStateM ε σ α) state :=
  .refl

/-- One request after the other. -/
theorem bind {request : EStateM ε σ α} {next : α → EStateM ε σ β}
    (first : Follows Change request state)
    (rest : ∀ answer middle, request state = .ok answer middle →
      Follows Change (next answer) middle) :
    Follows Change (request >>= next) state := by
  unfold Follows at first
  cases result : request state with
  | ok answer middle =>
      rw [leaves_of_ok result] at first
      unfold Follows
      rw [leaves_bind_of_ok result]
      exact first.trans (rest answer middle result)
  | error cause left =>
      rw [leaves_of_error result] at first
      unfold Follows
      rw [leaves_of_error (bind_of_error result next)]
      exact first

/-- What follows an answer. -/
theorem answer {next : α → EStateM ε σ β} {answer : α}
    (rest : Follows Change (next answer) state) :
    Follows Change (Pure.pure answer >>= next) state :=
  rest

/-- What follows a look at the state. -/
theorem get {next : σ → EStateM ε σ β} (rest : Follows Change (next state) state) :
    Follows Change (MonadState.get >>= next) state :=
  rest

/-- What follows a new state. -/
theorem set {next : PUnit → EStateM ε σ β} {changed : σ}
    (change : Relation.ReflTransGen Change state changed)
    (rest : Follows Change (next ⟨⟩) changed) :
    Follows Change (MonadStateOf.set changed >>= next) state :=
  change.trans rest

/-- What follows a change that the first requests make together. -/
theorem of_eq {request next : EStateM ε σ α} {changed : σ} (change : Change state changed)
    (same : request state = next changed) (rest : Follows Change next changed) :
    Follows Change request state := by
  unfold Follows leaves
  rw [same]
  exact .head change rest

theorem of_error {request : EStateM ε σ α} {changed : σ} {cause : ε}
    (change : Change state changed) (failed : request state = .error cause changed) :
    Follows Change request state := by
  unfold Follows
  rw [leaves_of_error failed]
  exact .single change

theorem foldlM {γ : Type} {step : β → γ → EStateM ε σ β}
    (each : ∀ value item state, Follows Change (step value item) state) (items : List γ)
    (value : β) (state : σ) : Follows Change (items.foldlM step value) state := by
  induction items generalizing value state with
  | nil => exact .pure value
  | cons item rest ih =>
      rw [List.foldlM_cons]
      exact .bind (each value item state) fun next middle _ => ih next middle

theorem modify {f : σ → σ} (change : Change state (f state)) :
    Follows Change (modify f : EStateM ε σ PUnit) state :=
  .single change

theorem mono {Other : σ → σ → Prop} {request : EStateM ε σ α}
    (follows : Follows Change request state)
    (contained : ∀ before after, Change before after → Other before after) :
    Follows Other request state :=
  Relation.ReflTransGen.mono contained _ _ follows

end Follows

/-- A request answers, and the state that it leaves has a property. -/
def Answers (request : EStateM ε σ α) (state : σ) (holds : σ → Prop) : Prop :=
  ∃ answer left, request state = .ok answer left ∧ holds left

namespace Answers

variable {state : σ} {holds : σ → Prop}

/-- One request after the other. -/
theorem bind {request : EStateM ε σ α} {next : α → EStateM ε σ β} {between : σ → Prop}
    (first : Answers request state between)
    (rest : ∀ answer middle, between middle → Answers (next answer) middle holds) :
    Answers (request >>= next) state holds := by
  obtain ⟨answer, middle, done, property⟩ := first
  unfold Answers
  rw [bind_of_ok done]
  exact rest answer middle property

theorem get {next : σ → EStateM ε σ β} (rest : Answers (next state) state holds) :
    Answers (MonadState.get >>= next) state holds :=
  rest

theorem set {next : PUnit → EStateM ε σ β} {changed : σ}
    (rest : Answers (next ⟨⟩) changed holds) :
    Answers (MonadStateOf.set changed >>= next) state holds :=
  rest

end Answers

/-- From every state, a request fails only for certain causes. -/
def FailsOnly (causes : ε → Prop) (request : EStateM ε σ α) : Prop :=
  ∀ state cause left, request state = .error cause left → causes cause

namespace FailsOnly

variable {causes : ε → Prop}

theorem pure (answer : α) : FailsOnly causes (pure answer : EStateM ε σ α) :=
  nofun

theorem throw {cause : ε} (meant : causes cause) :
    FailsOnly causes (throw cause : EStateM ε σ α) := by
  rintro state _ _ ⟨⟩
  exact meant

/-- One request after the other. -/
theorem bind {request : EStateM ε σ α} {next : α → EStateM ε σ β}
    (first : FailsOnly causes request) (rest : ∀ answer, FailsOnly causes (next answer)) :
    FailsOnly causes (request >>= next) := by
  intro state cause left failed
  cases result : request state with
  | ok answer middle => exact rest answer middle cause left (bind_of_ok result next ▸ failed)
  | error other middle =>
      rw [bind_of_error result] at failed
      cases failed
      exact first state cause left result

/-- What comes after an answer. -/
theorem answer {next : α → EStateM ε σ β} {answer : α} (rest : FailsOnly causes (next answer)) :
    FailsOnly causes (Pure.pure answer >>= next) :=
  rest

/-- What comes after a look at the state. -/
theorem get {next : σ → EStateM ε σ β} (rest : ∀ state, FailsOnly causes (next state)) :
    FailsOnly causes (MonadState.get >>= next) :=
  .bind nofun rest

/-- What comes after a new state. -/
theorem set {next : PUnit → EStateM ε σ β} {changed : σ} (rest : FailsOnly causes (next ⟨⟩)) :
    FailsOnly causes (MonadStateOf.set changed >>= next) :=
  .bind nofun fun _ => rest

theorem modify (change : σ → σ) : FailsOnly causes (modify change : EStateM ε σ PUnit) :=
  nofun

end FailsOnly

end Messenger.Session
