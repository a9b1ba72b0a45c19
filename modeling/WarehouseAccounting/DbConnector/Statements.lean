import WarehouseAccounting.DbConnector.Retry

/-!
# Which statements a chain can send

What can be said of every statement of an entry chain, whatever is answered, in the first attempt
and in those that are made again.

- `Entry.Sends.executeChain`: the statements of one attempt.
- `FailedAttempts.sends`: what failed attempts leave sends no other statements.
-/

namespace Srv.Db.Trsct

variable {σ : Type} {property : Statement → Prop}

namespace Entry

mutual

/-- Every statement that the chain of an entry can send has the property, with whatever
parameters a query entry has left. -/
def Sends (property : Statement → Prop) : Entry σ → Prop
  | .null => True
  | .query options _ _ next => (∀ params, property ⟨options, params⟩) ∧ next.Sends property
  | .variable function next =>
      (∀ s, (function s).AllQuestions property) ∧ next.Sends property
  | .grouped entries next => SendsAll property entries ∧ next.Sends property
  | .condition predicate _ ifTrue ifFalse =>
      (∀ s, (predicate s).AllQuestions property) ∧ ifTrue.Sends property ∧ ifFalse.Sends property

/-- The same of the elements of a group. -/
def SendsAll (property : Statement → Prop) : List (Entry σ) → Prop
  | [] => True
  | entry :: entries => entry.Sends property ∧ SendsAll property entries

end

mutual

/-- The statements of one entry. -/
theorem Sends.execute {entry : Entry σ} (h : entry.Sends property) (s : σ) :
    (entry.execute s).AllQuestions property := by
  match entry with
  | .null =>
    rw [Entry.execute]
    trivial
  | .query options params store next =>
    rw [Sends] at h
    rw [Entry.execute]
    exact ⟨h.1 _, fun _ => trivial⟩
  | .variable function next =>
    rw [Sends] at h
    rw [Entry.execute]
    exact (h.1 s).mapMemory _
  | .grouped entries next =>
    rw [Sends] at h
    rw [Entry.execute]
    exact (SendsAll.executeAll h.1 s).mapMemory _
  | .condition predicate result ifTrue ifFalse =>
    rw [Sends] at h
    rw [Entry.execute]
    exact (h.1 s).andThen fun _ _ => trivial

/-- The statements of a group. -/
theorem SendsAll.executeAll {entries : List (Entry σ)} (h : SendsAll property entries) (s : σ) :
    (executeAll entries s).AllQuestions property := by
  match entries with
  | [] =>
    rw [Entry.executeAll]
    trivial
  | entry :: entries =>
    rw [SendsAll] at h
    rw [Entry.executeAll]
    exact (Sends.execute h.1 s).andThen fun memory _ =>
      (SendsAll.executeAll h.2 memory.2).mapMemory _

end

/-- The statements of a chain. -/
theorem Sends.executeChain {entry : Entry σ} (h : entry.Sends property) (s : σ) :
    (entry.executeChain s).AllQuestions property := by
  match entry with
  | .null =>
    rw [Entry.executeChain]
    trivial
  | .query options params store next =>
    have hexecute := h.execute
    rw [Sends] at h
    rw [Entry.executeChain]
    exact (hexecute s).andThen fun memory _ => (h.2.executeChain memory.2).mapMemory _
  | .variable function next =>
    have hexecute := h.execute
    rw [Sends] at h
    rw [Entry.executeChain]
    exact (hexecute s).andThen fun memory _ => (h.2.executeChain memory.2).mapMemory _
  | .grouped entries next =>
    have hexecute := h.execute
    rw [Sends] at h
    rw [Entry.executeChain]
    exact (hexecute s).andThen fun memory _ => (h.2.executeChain memory.2).mapMemory _
  | .condition predicate result ifTrue ifFalse =>
    have hexecute := h.execute
    rw [Sends] at h
    rw [Entry.executeChain]
    refine (hexecute s).andThen fun memory _ => ?_
    dsimp only
    split
    · exact (h.2.1.executeChain memory.2).mapMemory _
    · exact (h.2.2.executeChain memory.2).mapMemory _

/-! ## Attempts that are made again -/

/-- A next entry adds its own statements. -/
theorem Sends.setNext {entry next : Entry σ} (h : entry.Sends property)
    (hnext : next.Sends property) : (entry.setNext next).Sends property := by
  match entry with
  | .null => exact h
  | .query options params store _ =>
    rw [Sends] at h
    rw [Entry.setNext, Sends]
    exact ⟨h.1, hnext⟩
  | .variable function _ =>
    rw [Sends] at h
    rw [Entry.setNext, Sends]
    exact ⟨h.1, hnext⟩
  | .grouped entries _ =>
    rw [Sends] at h
    rw [Entry.setNext, Sends]
    exact ⟨h.1, hnext⟩
  | .condition predicate result ifTrue ifFalse => exact h

mutual

/-- An entry is left with the statements that it had. -/
theorem Sends.execute_left {entry : Entry σ} (h : entry.Sends property) (s : σ) :
    (entry.execute s).AllMemories fun memory => memory.1.Sends property := by
  match entry with
  | .null =>
    rw [Entry.execute]
    exact h
  | .query options params store next =>
    rw [Sends] at h
    rw [Entry.execute]
    -- Only the parameters are gone.
    have hleft : (Entry.query options [] store next).Sends property := by
      rw [Sends]
      exact h
    exact ⟨hleft, fun _ => hleft⟩
  | .variable function next =>
    have hmemories : (function s).AllMemories fun _ => True :=
      .of_forall (fun _ => trivial) (function s)
    rw [Entry.execute]
    exact hmemories.mapMemory fun _ _ => h
  | .grouped entries next =>
    rw [Sends] at h
    rw [Entry.execute]
    refine (SendsAll.executeAll_left h.1 s).mapMemory fun memory hmemory => ?_
    rw [Sends]
    exact ⟨hmemory, h.2⟩
  | .condition predicate result ifTrue ifFalse =>
    have hleft : ∀ result, (Entry.condition predicate result ifTrue ifFalse).Sends property := by
      intro result
      rw [Sends] at h ⊢
      exact h
    have hmemories : (predicate s).AllMemories fun _ => True :=
      .of_forall (fun _ => trivial) (predicate s)
    rw [Entry.execute]
    exact hmemories.andThen (fun _ _ => hleft result) fun _ result _ => hleft result

/-- So are the elements of a group. -/
theorem SendsAll.executeAll_left {entries : List (Entry σ)} (h : SendsAll property entries)
    (s : σ) : (executeAll entries s).AllMemories fun memory => SendsAll property memory.1 := by
  match entries with
  | [] =>
    rw [Entry.executeAll]
    exact h
  | entry :: entries =>
    rw [SendsAll] at h
    rw [Entry.executeAll]
    refine (Sends.execute_left h.1 s).andThen (fun memory hmemory => ?_)
      fun memory _ hmemory => (SendsAll.executeAll_left h.2 memory.2).mapMemory fun rest hrest => ?_
    · rw [SendsAll]
      exact ⟨hmemory, h.2⟩
    · rw [SendsAll]
      exact ⟨hmemory, hrest⟩

end

/-- A chain is left with the statements that it had. -/
theorem Sends.executeChain_left {entry : Entry σ} (h : entry.Sends property) (s : σ) :
    (entry.executeChain s).AllMemories fun memory => memory.1.Sends property := by
  match entry with
  | .null =>
    rw [Entry.executeChain]
    exact h
  | .query options params store next =>
    have hexecute := h.execute_left s
    rw [Sends] at h
    rw [Entry.executeChain]
    exact hexecute.andThen (fun _ hmemory => hmemory) fun memory _ hmemory =>
      (h.2.executeChain_left memory.2).mapMemory fun _ hrest => hmemory.setNext hrest
  | .variable function next =>
    have hexecute := h.execute_left s
    rw [Sends] at h
    rw [Entry.executeChain]
    exact hexecute.andThen (fun _ hmemory => hmemory) fun memory _ hmemory =>
      (h.2.executeChain_left memory.2).mapMemory fun _ hrest => hmemory.setNext hrest
  | .grouped entries next =>
    have hexecute := h.execute_left s
    rw [Sends] at h
    rw [Entry.executeChain]
    exact hexecute.andThen (fun _ hmemory => hmemory) fun memory _ hmemory =>
      (h.2.executeChain_left memory.2).mapMemory fun _ hrest => hmemory.setNext hrest
  | .condition predicate result ifTrue ifFalse =>
    have hexecute := h.execute_left s
    rw [Sends] at h
    rw [Entry.executeChain]
    refine hexecute.andThen (fun _ hmemory => hmemory) fun memory _ _ => ?_
    dsimp only
    split
    · refine (h.2.1.executeChain_left memory.2).mapMemory fun _ hrest => ?_
      rw [Sends]
      exact ⟨h.1, hrest, h.2.2⟩
    · refine (h.2.2.executeChain_left memory.2).mapMemory fun _ hrest => ?_
      rw [Sends]
      exact ⟨h.1, h.2.1, hrest⟩

end Entry

/-- What failed attempts leave sends no other statements. -/
theorem FailedAttempts.sends {memory final : Entry σ × σ} {history : List (List Statement)}
    (h : FailedAttempts attempt memory history final) (hsends : memory.1.Sends property) :
    final.1.Sends property :=
  h.preserves (motive := fun memory => memory.1.Sends property) hsends
    fun memory hmemory _ answers clock state =>
      (hmemory.executeChain_left memory.2).run answers clock state

end Srv.Db.Trsct
