import ScopeTracker.Grammar.Basic

/-!
# Outcomes

An operation on a cache or a document changes it also when it fails. Its outcome therefore
holds the state that is left behind, and beside it the answer or the fault that ended the
operation.
-/

namespace ScopeTracker

/-- Why an operation ended early. -/
inductive Fault where
  /-- The grammar failed on a line. -/
  | grammar (error : GrammarError)
  /-- A batch of edits was handed over that is not sorted by descending start. -/
  | editsNotSorted
  /-- A line was to be stored that does not follow the stored ones. -/
  | cacheNotDense
  /-- An element past the end of a list was to be overwritten. -/
  | indexOutOfBounds (length index : Nat)
deriving DecidableEq, Repr, Inhabited

/-- The text of a fault. -/
def Fault.message : Fault → String
  | .grammar error => error.message
  | .editsNotSorted => "edits must be sorted by descending start position"
  | .cacheNotDense => "line cache must stay dense"
  | .indexOutOfBounds length index =>
    "index out of bounds: the len is " ++ toString length ++ " but the index is " ++ toString index

/-- Answers and faults can be compared. -/
instance {α : Type} [DecidableEq α] : DecidableEq (Except Fault α)
  | .ok a, .ok b => decidable_of_iff (a = b) ⟨congrArg _, Except.ok.inj⟩
  | .error a, .error b => decidable_of_iff (a = b) ⟨congrArg _, Except.error.inj⟩
  | .ok _, .error _ => isFalse nofun
  | .error _, .ok _ => isFalse nofun

/-- What an operation leaves behind, and its answer or the fault that ended it. -/
structure Outcome (S α : Type) where
  state : S
  result : Except Fault α

namespace Outcome

variable {S α β : Type}

/-- The outcome of an operation that gives an answer. -/
def ok (state : S) (answer : α) : Outcome S α := ⟨state, .ok answer⟩

/-- The outcome of an operation that ends with a fault. -/
def fail (state : S) (fault : Fault) : Outcome S α := ⟨state, .error fault⟩

/-- Goes on with a second operation unless the first one ended with a fault. -/
def andThen (first : Outcome S α) (next : S → α → Outcome S β) : Outcome S β :=
  match first.result with
  | .ok answer => next first.state answer
  | .error fault => fail first.state fault

@[simp] theorem ok_andThen (state : S) (answer : α) (next : S → α → Outcome S β) :
    (ok state answer).andThen next = next state answer := rfl

@[simp] theorem fail_andThen (state : S) (fault : Fault) (next : S → α → Outcome S β) :
    (fail state fault : Outcome S α).andThen next = fail state fault := rfl

theorem andThen_of_ok {first : Outcome S α} {answer : α} (h : first.result = .ok answer)
    (next : S → α → Outcome S β) : first.andThen next = next first.state answer := by
  simp only [andThen, h]

theorem andThen_of_error {first : Outcome S α} {fault : Fault} (h : first.result = .error fault)
    (next : S → α → Outcome S β) : first.andThen next = fail first.state fault := by
  simp only [andThen, h]

/-- What is gone on from has succeeded. -/
theorem ok_of_andThen {first : Outcome S Unit} {next : S → Unit → Outcome S β} {answer : β}
    (h : (first.andThen next).result = .ok answer) : first.result = .ok () := by
  cases hfirst : first.result with
  | ok _ => rfl
  | error fault =>
    rw [andThen_of_error hfirst] at h
    cases h

/-- What holds after the first operation, and after the second whenever it is reached, holds in
the end. -/
theorem state_andThen {motive : S → Prop} {first : Outcome S α} {next : S → α → Outcome S β}
    (hfirst : motive first.state)
    (hnext : ∀ answer, first.result = .ok answer → motive (next first.state answer).state) :
    motive (first.andThen next).state := by
  cases hresult : first.result with
  | ok answer =>
    rw [andThen_of_ok hresult]
    exact hnext answer hresult
  | error fault =>
    rw [andThen_of_error hresult]
    exact hfirst

theorem andThen_assoc {γ : Type} (first : Outcome S α) (next : S → α → Outcome S β)
    (last : S → β → Outcome S γ) :
    (first.andThen next).andThen last =
      first.andThen fun state answer => (next state answer).andThen last := by
  cases hresult : first.result with
  | ok answer => rw [andThen_of_ok hresult, andThen_of_ok hresult]
  | error fault => rw [andThen_of_error hresult, andThen_of_error hresult, fail_andThen]

end Outcome

end ScopeTracker
