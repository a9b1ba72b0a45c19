import WarehouseAccounting.TaskManager.PostedOperations
import WarehouseAccounting.TaskManager.StockLedger

/-!
# Operations over whole runs

The rows of `Operation` are written by triggers only, so that they follow the invoices and their
items. This holds whatever requests have been made before, and however the transactions of some more
of them are interleaved.

- `OperationsPosted.perform`: a request that is made alone, with its failed attempts.
- `operationsPosted_of_reachable`: requests one after the other, and then some attempts at the same
  time.
-/

namespace TaskMgr.Tasks

open Ufa Srv.Db Srv.Db.Trsct Srv.Db.Sql Srv.Db.DbMgr.Scpts Relational SnapshotIsolation

/-! ## Requests one after the other -/

/-- What a task leaves whose last attempt keeps an invariant. -/
theorem Circumstances.leave_preserves {σ : Type} (invariant : Tables → Prop)
    (circumstances : Circumstances) {chain : Except Exception (Entry σ × σ)} {tables : Tables}
    (h : invariant tables)
    (hattempt : ∀ entry memory history final tables' s', chain = .ok (entry, memory) →
      FailedAttempts attempt (entry, memory) history final →
      final.1.RunsTo Answers tables final.2 tables' s' → invariant tables') :
    invariant (circumstances.leave chain tables) := by
  rcases circumstances.leave_cases chain tables with
    hsame | ⟨entry, memory, history, final, s', hchain, hattempts, hruns⟩
  · rw [hsame]
    exact h
  · exact hattempt entry memory history final _ s' hchain hattempts hruns

/-- An attempt of one of the three tasks that change the stock. -/
theorem StockTask.operationsPosted (task : StockTask) {dateProvider : Nat → UInt64}
    {entry : Entry ProductsTask} {memory : ProductsTask}
    (hchain : task.chain dateProvider = .ok (entry, memory)) {history : List (List Statement)}
    {final : Entry ProductsTask × ProductsTask}
    (hattempts : FailedAttempts attempt (entry, memory) history final) {tables tables' : Tables}
    {s' : ProductsTask} (h : final.1.RunsTo Answers tables final.2 tables' s')
    (hposted : Integral schema tables ∧ OperationsPosted tables) :
    Integral schema tables' ∧ OperationsPosted tables' :=
  let stockAttempt : StockAttempt :=
    { task, dateProvider, chain := (entry, memory), built := hchain, memory := final, history
      failed := hattempts, choices := fun _ => numbered tables }
  stockAttempt.operationsPosted h hposted.1 hposted.2

/-- A request leaves the operations posted. -/
theorem OperationsPosted.perform (request : StockRequest) (circumstances : Circumstances)
    {tables : Tables} (h : Integral schema tables ∧ OperationsPosted tables) :
    Integral schema (request.perform circumstances tables) ∧
      OperationsPosted (request.perform circumstances tables) := by
  -- The three tasks that change the stock are alike.
  have hstock : ∀ (parsed : Except Exception ProductsTask)
      (chain : ProductsTask → Except Exception (Entry ProductsTask × ProductsTask))
      (task : ProductsTask → StockTask),
      (∀ products, (task products).chain circumstances.dateProvider = chain products) →
      Integral schema (circumstances.leave (parsed >>= chain) tables) ∧
        OperationsPosted (circumstances.leave (parsed >>= chain) tables) := by
    intro parsed chain task htask
    refine circumstances.leave_preserves
      (fun tables => Integral schema tables ∧ OperationsPosted tables) h ?_
    intro entry memory history final tables' s' hbuilt hattempts hruns
    obtain ⟨products, -, hchain⟩ := bind_eq_ok.mp hbuilt
    exact (task products).operationsPosted ((htask products).trans hchain) hattempts hruns h
  match request with
  | .createWarehouse body =>
    refine circumstances.leave_preserves
      (fun tables => Integral schema tables ∧ OperationsPosted tables) h ?_
    intro entry memory history final tables' s' hbuilt hattempts hruns
    obtain ⟨task, -, hchain⟩ := bind_eq_ok.mp hbuilt
    obtain ⟨options, params, htable, store, rfl⟩ := CreateWarehouse.chain_rootQuery hchain
    have hroot : (Entry.query (.insert options) params store .null :
        Entry CreateWarehouse).rootQuery = some (.insert options, params) := by
      rw [Entry.rootQuery]
    rw [hattempts.eq_of_rootQuery (fun _ _ _ => not_answers_insert_nil) hroot hruns] at hruns
    obtain ⟨rows, middle, hanswers, hnull⟩ := Entry.runsTo_query.mp hruns
    obtain ⟨hmiddle, -⟩ := Entry.runsTo_null.mp hnull
    rw [← hmiddle] at hanswers
    refine ⟨hanswers.integral h.1, h.2.answers ?_ hanswers h.1⟩
    show options.table ≠ .operation
    rw [htable]
    decide
  | .productsCreate body => exact hstock _ _ .productsCreate fun _ => rfl
  | .productsMove body => exact hstock _ _ .productsMove fun _ => rfl
  | .productsRemove body => exact hstock _ _ .productsRemove fun _ => rfl

/-- Some requests leave the operations posted. -/
theorem Reachable.operationsPosted {condition : StockRequest → Tables → Prop} {tables : Tables}
    (h : Reachable condition tables) : Integral schema tables ∧ OperationsPosted tables := by
  induction h with
  | initial => exact ⟨balanced_initialTables.integral, operationsPosted_initialTables⟩
  | request request circumstances before met ih =>
    exact OperationsPosted.perform request circumstances ih

/-! ## Transactions at the same time -/

/-- An attempt that is alone gets to its end as its chain does. -/
theorem StockAttempt.runsTo_of_alone (stockAttempt : StockAttempt) {tables tables' : Tables}
    (h : stockAttempt.client.alone schema tables = some tables') :
    ∃ s', stockAttempt.memory.1.RunsTo Answers tables stockAttempt.memory.2 tables' s' := by
  unfold Client.alone at h
  dsimp only at h
  split at h
  case h_2 => cases h
  rename_i value houtcome
  cases h
  refine ⟨_, _, Program.completes_of_run ?_ houtcome⟩
  intro clock statement state rows state' hanswers
  obtain ⟨⟨response, writes⟩, hperform, hanswers⟩ := bind_eq_ok.mp hanswers
  dsimp only at hanswers
  split at hanswers
  case isFalse => cases hanswers
  rename_i haccepts
  cases hanswers
  exact ⟨stockAttempt.choices clock, writes, execute_eq_ok.mpr ⟨hperform, haccepts⟩, rfl⟩

/-- An attempt that is alone leaves the operations posted. -/
theorem StockAttempt.operationsPosted_of_alone (stockAttempt : StockAttempt)
    {tables tables' : Tables} (h : stockAttempt.client.alone schema tables = some tables')
    (hposted : Integral schema tables ∧ OperationsPosted tables) :
    Integral schema tables' ∧ OperationsPosted tables' := by
  obtain ⟨s', hruns⟩ := stockAttempt.runsTo_of_alone h
  exact stockAttempt.operationsPosted hruns hposted.1 hposted.2

/-- Whatever requests have been made, and however some more are interleaved: the operations that are
committed are those of the items, one for each warehouse of their invoices. -/
theorem operationsPosted_of_reachable {initial : Tables}
    (hbefore : Reachable (fun _ _ => True) initial)
    {ι : Type} [DecidableEq ι] (attempts : ι → StockAttempt) {system : StockSystem ι}
    (h : SnapshotIsolation.Reachable schema (fun i => (attempts i).client) initial system) :
    OperationsPosted system.committed :=
  (h.preserves (fun i => (attempts i).guarded)
    (fun i _ _ halone hposted => (attempts i).operationsPosted_of_alone halone hposted)
    hbefore.operationsPosted).2

/-- Three removals at the same time, after an arrival. -/
theorem operationsPosted_of_reachable_threeRemovals :
    ∃ system : StockSystem (Fin 3), system.log = [0, 2] ∧ OperationsPosted system.committed := by
  have hrun : ((threeRemovalsRun.foldlM (System.advance schema fun i => (threeRemovals i).client)
      { committed := fiveStored }).map System.log) = some [0, 2] := by
    decide +kernel
  obtain ⟨system, hsystem, hlog⟩ := Option.map_eq_some_iff.mp hrun
  have hstored : Reachable (fun _ _ => True) fiveStored :=
    .request _ _ (.request _ _ .initial trivial) trivial
  exact ⟨system, hlog, operationsPosted_of_reachable hstored threeRemovals
    (.of_foldlM .start hsystem)⟩

end TaskMgr.Tasks
