import WarehouseAccounting.DbConnector.Transaction
import WarehouseAccounting.Foundations.Decimal

/-!
# Code inside variable entries

The closures of the tasks create entries and execute them at once, and read the fields of
results. A script is such a piece of code that keeps nothing between two statements; the fields
are read as pqxx converts them.
-/

namespace Srv.Db.Trsct

open Ufa

/-- Code that works on no memory of its own. -/
abbrev Script := Program Unit Exception Statement Rows

namespace Script

variable {α : Type}

/-- Throw an exception. -/
def throw (exception : Exception) : Script α := .fail () exception

/-- A value, or the exception that was thrown instead of it. -/
def ofExcept : Except Exception α → Script α
  | .ok value => .done () value
  | .error exception => .fail () exception

/-- `CreateQueryTransactionEntry` and `Execute` on the new entry. -/
def execute (query : Query) : Script Rows :=
  .issue () ⟨query.options, query.params.toPqxx⟩ fun rows => .done () rows

/-- The same with a query that `QueryFactory` may refuse. -/
def executeCreated (query : Except CheckFailed Query) : Script Rows :=
  match query with
  | .ok query => execute query
  | .error _ => throw .other

/-- The script as the function of a variable entry, which leaves the memory of the task. -/
def asCode {σ : Type} (script : Script α) (s : σ) : Code σ α :=
  script.mapMemory fun _ => s

/-- One statement is one question. -/
theorem allQuestions_execute {property : Statement → Prop} {query : Query}
    (h : property ⟨query.options, query.params.toPqxx⟩) :
    (execute query).AllQuestions property :=
  ⟨h, fun _ => trivial⟩

/-- A query that is refused asks nothing. -/
theorem allQuestions_executeCreated {property : Statement → Prop}
    {query : Except CheckFailed Query}
    (h : ∀ created, query = .ok created → property ⟨created.options, created.params.toPqxx⟩) :
    (executeCreated query).AllQuestions property := by
  unfold executeCreated
  split
  · rename_i created
    exact allQuestions_execute (h created rfl)
  · trivial

/-- Values and exceptions ask nothing. -/
theorem allQuestions_ofExcept {property : Statement → Prop}
    (value : Except Exception α) : (ofExcept value).AllQuestions property := by
  cases value <;> trivial

end Script

/-! ## Values or exceptions -/

section Except

variable {α β ε : Type}

/-- A value is there, and the rest goes on with it. -/
@[simp]
theorem ok_bind (value : α) (next : α → Except ε β) :
    (Except.ok value >>= next) = next value := rfl

/-- What is made from values in `Except` was made from the values. -/
theorem bind_eq_ok {first : Except ε α} {next : α → Except ε β} {value : β} :
    (first >>= next) = .ok value ↔ ∃ middle, first = .ok middle ∧ next middle = .ok value := by
  cases first with
  | error failure => simp [bind, Except.bind]
  | ok middle => simp

/-- `optional::value`. -/
def required : Option α → Except Exception α
  | some value => .ok value
  | none => .error .other

/-- A value that must be there. -/
theorem required_eq_ok {field : Option α} {value : α} :
    required field = .ok value ↔ field = some value := by
  cases field <;> simp [required]

end Except

/-! ## Fields of a result -/

/-- `row.at(index)`. -/
def fieldAt (row : List (Option String)) (index : Nat) : Except Exception (Option String) :=
  match row[index]? with
  | some field => .ok field
  | none => .error .other

/-- `results.at(row, index)`. -/
def Rows.at (rows : Rows) (row index : Nat) : Except Exception (Option String) :=
  match rows[row]? with
  | some fields => fieldAt fields index
  | none => .error .other

/-- `field.get<int64_t>()`. -/
def getInt64 : Option String → Except Exception (Option Int64)
  | none => .ok none
  | some text =>
    match Decimal.parse text with
    | some value =>
      if Int64.minValue.toInt ≤ value ∧ value ≤ Int64.maxValue.toInt then
        .ok (some (Int64.ofInt value))
      else
        .error .other
    | none => .error .other

/-- `field.get<uint64_t>()`, for times and user ids. -/
def getUInt64 : Option String → Except Exception (Option UInt64)
  | none => .ok none
  | some text =>
    match Decimal.parse text with
    | some value =>
      if 0 ≤ value ∧ value < 2 ^ 64 then .ok (some (UInt64.ofNat value.toNat)) else .error .other
    | none => .error .other

/-- `field.get<std::string>()`. -/
def getString (field : Option String) : Except Exception (Option String) :=
  .ok field

/-- `field.as<int64_t>()`: there must be a value. -/
def asInt64 (field : Option String) : Except Exception Int64 := do
  required (← getInt64 field)

end Srv.Db.Trsct
