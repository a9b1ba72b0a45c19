import WarehouseAccounting.DbConnector.Chain
import WarehouseAccounting.Foundations.Lockstep

/-!
# One chain against two databases

What has to be shown of the entries of a chain so that two databases, which answer its statements
alike, get one result and one memory of it.

- `Entry.RunsAlike`: the chain goes the same way on both databases.
- `Entry.RunsAlike.setNext`: the entries of a chain, one by one.
- `Entry.ExecutesAlike.executes`: what is known of an entry that gets to its end.
-/

namespace Srv.Db.Trsct

open Ufa Program

variable {σ D E : Type} {answers : Program.Answers Exception Statement Rows D}
  {others : Program.Answers Exception Statement Rows E} {post : Nat → D → E → σ → Prop}
  {clock : Nat} {state : D} {other : E} {s : σ}

namespace Entry

/-- The chain goes the same way on both databases, and when it gets to its end a relation holds
between what is left. -/
def RunsAlike (answers : Program.Answers Exception Statement Rows D)
    (others : Program.Answers Exception Statement Rows E) (post : Nat → D → E → σ → Prop)
    (clock : Nat) (state : D) (other : E) (entry : Entry σ) (s : σ) : Prop :=
  (entry.executeChain s).Lockstep answers others
    (fun clock state other memory _ => post clock state other memory.2) clock state other

/-- One entry goes the same way on both databases, without those that follow. -/
def ExecutesAlike (answers : Program.Answers Exception Statement Rows D)
    (others : Program.Answers Exception Statement Rows E) (post : Nat → D → E → σ → Prop)
    (clock : Nat) (state : D) (other : E) (entry : Entry σ) (s : σ) : Prop :=
  (entry.execute s).Lockstep answers others
    (fun clock state other memory _ => post clock state other memory.2) clock state other

/-- The elements of a group go the same way on both databases. -/
def ExecutesAllAlike (answers : Program.Answers Exception Statement Rows D)
    (others : Program.Answers Exception Statement Rows E) (post : Nat → D → E → σ → Prop)
    (clock : Nat) (state : D) (other : E) (entries : List (Entry σ)) (s : σ) : Prop :=
  (executeAll entries s).Lockstep answers others
    (fun clock state other memory _ => post clock state other memory.2) clock state other

/-- Nothing is left to do. -/
theorem RunsAlike.null (h : post clock state other s) :
    RunsAlike answers others post clock state other .null s := by
  unfold RunsAlike
  rw [executeChain]
  exact h

/-- What follows from the relation holds of what is left, too. -/
theorem ExecutesAlike.imp {post' : Nat → D → E → σ → Prop} {entry : Entry σ}
    (h : ExecutesAlike answers others post clock state other entry s)
    (himp : ∀ clock state other s, post clock state other s → post' clock state other s) :
    ExecutesAlike answers others post' clock state other entry s :=
  Lockstep.imp h fun clock state other memory _ => himp clock state other memory.2

/-- The statement of a query entry has one result. -/
theorem ExecutesAlike.query {options : QueryOptions} {params : ValueCollector}
    {store : Rows → σ → σ} {next : Entry σ} {result : Except Exception Rows} {state' : D}
    {other' : E} (hstate : answers clock ⟨options, params.toPqxx⟩ state = result.map (·, state'))
    (hother : others clock ⟨options, params.toPqxx⟩ other = result.map (·, other'))
    (h : ∀ rows, result = .ok rows → post (clock + 1) state' other' (store rows s)) :
    ExecutesAlike answers others post clock state other (.query options params store next) s := by
  unfold ExecutesAlike
  rw [execute]
  exact lockstep_issue hstate hother h

/-- The function of a variable entry. -/
theorem ExecutesAlike.variable {function : σ → Code σ Unit} {next : Entry σ}
    (h : (function s).Lockstep answers others (fun clock state other s _ =>
      post clock state other s) clock state other) :
    ExecutesAlike answers others post clock state other (.variable function next) s := by
  unfold ExecutesAlike
  rw [execute]
  exact lockstep_mapMemory.mpr h

/-- The elements of a group. -/
theorem ExecutesAlike.grouped {entries : List (Entry σ)} {next : Entry σ}
    (h : ExecutesAllAlike answers others post clock state other entries s) :
    ExecutesAlike answers others post clock state other (.grouped entries next) s := by
  unfold ExecutesAlike
  rw [execute]
  exact lockstep_mapMemory.mpr h

/-- A group without elements does nothing. -/
theorem ExecutesAllAlike.nil (h : post clock state other s) :
    ExecutesAllAlike answers others post clock state other [] s := by
  unfold ExecutesAllAlike
  rw [executeAll]
  exact h

/-- The first element of a group, and then the others. -/
theorem ExecutesAllAlike.cons {entry : Entry σ} {entries : List (Entry σ)}
    (h : ExecutesAlike answers others (fun clock state other s =>
      ExecutesAllAlike answers others post clock state other entries s) clock state other entry s) :
    ExecutesAllAlike answers others post clock state other (entry :: entries) s := by
  unfold ExecutesAllAlike
  rw [executeAll]
  refine Lockstep.andThen h fun clock state other memory value hrest => ?_
  exact lockstep_mapMemory.mpr hrest

/-- The last element of a group is often a function. -/
theorem ExecutesAllAlike.variable {function : σ → Code σ Unit} {next : Entry σ}
    (h : (function s).Lockstep answers others (fun clock state other s _ =>
      post clock state other s) clock state other) :
    ExecutesAllAlike answers others post clock state other [.variable function next] s :=
  .cons (.variable (h.imp fun _ _ _ _ _ hpost => .nil hpost))

/-- The first entry of a chain, and then the chain behind it. -/
theorem RunsAlike.setNext {entry next : Entry σ} (hentry : entry.HasNext)
    (h : ExecutesAlike answers others (fun clock state other s =>
      RunsAlike answers others post clock state other next s) clock state other entry s) :
    RunsAlike answers others post clock state other (entry.setNext next) s := by
  have hgoes : ∀ entry' : Entry σ,
      entry'.executeChain s = (entry'.execute s).andThen id (fun first _ =>
        (next.executeChain first.2).mapMemory fun rest => (first.1.setNext rest.1, rest.2)) →
      ExecutesAlike answers others (fun clock state other s =>
        RunsAlike answers others post clock state other next s) clock state other entry' s →
      RunsAlike answers others post clock state other entry' s := by
    intro entry' hchain hfirst
    unfold RunsAlike
    rw [hchain]
    refine Lockstep.andThen hfirst fun clock state other memory value hrest => ?_
    exact lockstep_mapMemory.mpr hrest
  -- An entry that is executed does not look at what follows it.
  cases entry with
  | null => exact hentry.elim
  | condition => exact hentry.elim
  | query options params store =>
    refine hgoes _ (by rw [Entry.setNext, executeChain]) ?_
    unfold ExecutesAlike at h ⊢
    rw [Entry.setNext, execute]
    rw [execute] at h
    exact h
  | «variable» function =>
    refine hgoes _ (by rw [Entry.setNext, executeChain]) (ExecutesAlike.variable ?_)
    unfold ExecutesAlike at h
    rw [execute] at h
    exact lockstep_mapMemory.mp h
  | grouped entries =>
    refine hgoes _ (by rw [Entry.setNext, executeChain]) (ExecutesAlike.grouped ?_)
    unfold ExecutesAlike at h
    rw [execute] at h
    exact lockstep_mapMemory.mp h

/-- An entry that gets to its end on both databases gets to it on the first one. -/
theorem ExecutesAlike.executes {entry : Entry σ}
    (h : ExecutesAlike answers others post clock state other entry s) :
    ExecutesAlike answers others (fun clock' state' other' s' => post clock' state' other' s' ∧
      entry.Executes (Clocked answers) (clock, state) s (clock', state') s') clock state other entry
        s := by
  refine (Lockstep.completes h).imp ?_
  rintro clock' state' other' ⟨entry', s'⟩ ⟨⟩ ⟨hpost, hcompletes⟩
  exact ⟨hpost, entry', hcompletes⟩

end Entry

end Srv.Db.Trsct
