import WarehouseAccounting.TaskManager.Tasks.Product

/-!
# Invoices

`Invoice` of `tasks/common/invoice.h`. `FullInsertEntry` adds a row to `Invoice` and one row to
`Invoice_Item` for every product; the id of the invoice is read from the rows of the first
statement.
-/

namespace TaskMgr.Tasks

open Ufa Srv.Db Srv.Db.Trsct

/-- `Invoice`. -/
structure Invoice where
  invoiceId : Option Int64 := none
  warehouseToId : Option Int64 := none
  warehouseFromId : Option Int64 := none
  name : Option String := none
  prettyName : Option String := none
  description : Option String := none
  createdDate : Option UInt64 := none
  createdBy : Option UInt64 := none
  deriving DecidableEq, Repr

namespace Invoice

variable {σ : Type}

/-- The columns and the parameters of `InsertInvoice`; the two warehouses are left out like the
description when they are absent. -/
def insertColumns (invoice : Invoice) : Except Exception (List Column × ValueCollector) := do
  let name ← required invoice.name
  let createdBy ← required invoice.createdBy
  let createdDate ← required invoice.createdDate
  let always := ([.name, .createdBy, .createdDate],
    ((ValueCollector.append [] (.text name)).append (unsigned createdBy)).append
      (unsigned createdDate))
  let fromAdded :=
    appendToQueryOptional always (invoice.warehouseFromId.map integer) .warehouseFromId
  let toAdded :=
    appendToQueryOptional fromAdded (invoice.warehouseToId.map integer) .warehouseToId
  return appendToQueryOptional toAdded (invoice.description.map .text) .description

/-- The statement of `InsertInvoice`, of the invoice with its time of creation. -/
def insertQuery (invoice : Invoice) : Except Exception Query := do
  if invoice.warehouseFromId.isNone && invoice.warehouseToId.isNone then
    throw .other
  let added ← invoice.insertColumns
  match QueryFactory.createInsert
    { table := .invoice, columns := added.1, returning := [.invoiceId, .prettyName] } [added.2] with
  | .ok query => return query
  | .error _ => throw .other

/-- `invoiceIdGetter`. -/
def invoiceIdGetter (results : Rows) (invoice : Invoice) : Except Exception Invoice := do
  let invoiceId ← required (← getInt64 (← Rows.at results 0 0))
  let prettyName ← required (← getString (← Rows.at results 0 1))
  return { invoice with invoiceId := some invoiceId, prettyName := some prettyName }

/-- One row of `InsertInvoiceItems`. -/
def insertItemsRow (invoiceId : Int64) (product : Product) : Except Exception ValueCollector := do
  let id ← required product.id
  let count ← required product.count
  return ((ValueCollector.append [] (integer invoiceId)).append (integer id)).append
    (integer count)

/-- The function of `InsertInvoiceItems`. -/
def insertInvoiceItems (invoice : Invoice) (products : List Product) : Script Unit := do
  let invoiceId ← Script.ofExcept (required invoice.invoiceId)
  let values ← Script.ofExcept (products.mapM (insertItemsRow invoiceId))
  let _ ← Script.executeCreated (QueryFactory.createInsert
    { table := .invoiceItem, columns := [.invoiceId, .productId, .count] } values)
  return ()

/-- `FullInsertEntry`, given the memory of the task: where its rows, its invoice and its products
are, and the statement of `InsertInvoice`. -/
def fullInsertEntry (results : σ → Rows) (store : Rows → σ → σ) (invoice : σ → Invoice)
    (setInvoice : Invoice → σ → σ) (products : σ → List Product) (query : Query) : Entry σ :=
  .grouped
    [ .query query.options query.params store .null,
      .variable (fun s =>
        match invoiceIdGetter (results s) (invoice s) with
        | .ok invoice => .done (setInvoice invoice s) ()
        | .error exception => .fail s exception) .null,
      .variable (fun s => (insertInvoiceItems (invoice s) (products s)).asCode s) .null ]
    .null

/-- The statement of `SelectEntry`. -/
def selectQuery (invoiceIds : List Int64) : Query :=
  QueryFactory.createSelect
    { table := .invoice
      columns := [.invoiceId, .warehouseToId, .warehouseFromId, .name, .prettyName, .description,
        .createdDate, .createdBy]
      condition := some (.inList .invoiceId (invoiceIds.map integer)) }

/-- An invoice from a row of these columns. -/
def fromRow (row : List (Option String)) : Except Exception Invoice := do
  let invoiceId ← required (← getInt64 (← fieldAt row 0))
  let warehouseToId ← getInt64 (← fieldAt row 1)
  let warehouseFromId ← getInt64 (← fieldAt row 2)
  let name ← required (← getString (← fieldAt row 3))
  let prettyName ← required (← getString (← fieldAt row 4))
  let description ← getString (← fieldAt row 5)
  let createdDate ← required (← getUInt64 (← fieldAt row 6))
  let createdBy ← required (← getUInt64 (← fieldAt row 7))
  return {
    invoiceId := some invoiceId
    warehouseToId
    warehouseFromId
    name := some name
    prettyName := some prettyName
    description
    createdDate := some createdDate
    createdBy := some createdBy }

/-- `SelectEntry`: the rows of the given invoices, and then the invoices they are. The rows are
kept in an own variable. -/
def selectEntry (invoices : σ → List Invoice) (setInvoices : List Invoice → σ → σ)
    (results : σ → Rows) (store : Rows → σ → σ) : Entry σ :=
  .grouped
    [ .variable (fun s =>
        match (invoices s).mapM fun invoice => required invoice.invoiceId with
        | .error exception => .fail s exception
        | .ok invoiceIds =>
          if invoiceIds.isEmpty then
            .fail s .notFound
          else
            .issue s ⟨(selectQuery invoiceIds).options, (selectQuery invoiceIds).params.toPqxx⟩
              fun rows => .done (store rows s) ()) .null,
      .variable (fun s =>
        if (results s).isEmpty then
          .fail s .notFound
        else
          match (results s).mapM fromRow with
          | .ok invoices => .done (setInvoices invoices s) ()
          | .error exception => .fail s exception) .null ]
    .null

end Invoice

end TaskMgr.Tasks
