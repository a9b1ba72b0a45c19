import WarehouseAccounting.DbConnector.Query.QueryOptions
import WarehouseAccounting.Foundations.Decimal

/-!
# Queries and their parameters

`ValueCollector` of `value_collector.h`, and the queries that `QueryFactory` creates: options
together with the collected parameters. The constructors refuse values that do not fit.
-/

namespace Srv.Db

open Ufa

/-- `ValueCollector`: the collected values, each converted to its text. -/
abbrev ValueCollector := List String

namespace ValueCollector

/-- `Append`. -/
def append (collector : ValueCollector) (value : Scalar) : ValueCollector :=
  collector ++ [value.toString]

/-- `ToPqxx`: the parameters as they are bound. The text `NULL` stands for no value. The
collector is empty afterwards, which its owner has to account for. -/
def toPqxx (collector : ValueCollector) : List (Option String) :=
  collector.map fun value => if value = "NULL" then none else some value

/-- `ExtractTo`: this collector, which gives its values away, and the one that takes them. -/
def extractTo (collector target : ValueCollector) : ValueCollector × ValueCollector :=
  ([], target ++ collector)

/-- Collecting nothing binds nothing. -/
@[simp]
theorem toPqxx_nil : toPqxx [] = [] := rfl

/-- One parameter is bound for every value. -/
@[simp]
theorem length_toPqxx (collector : ValueCollector) :
    collector.toPqxx.length = collector.length := by
  simp [toPqxx]

end ValueCollector

/-- The text of a number is never the text of null. -/
theorem Scalar.integer_ne_null (value : Int) : (Scalar.integer value).toString ≠ "NULL" := by
  intro h
  have hparse := congrArg Decimal.parse h
  have hnull : Decimal.parse "NULL" = none := by decide
  rw [Scalar.toString, Decimal.parse_toString, hnull] at hparse
  cases hparse

/-- `srv::db::IQuery`: options, and the parameters for one use of them. -/
structure Query where
  options : QueryOptions
  params : ValueCollector

namespace QueryFactory

/-- The parameters that an optional condition collects. -/
def conditionParams (condition : Option Condition) : ValueCollector :=
  (condition.map Condition.collectParams).getD []

/-- `QueryFactory::Create` with select options. -/
def createSelect (options : SelectOptions) : Query :=
  { options := .select options, params := conditionParams options.condition }

/-- `QueryFactory::Create` with insert options: the number of rows is taken from the values. -/
def createInsert (options : InsertOptions) (values : List ValueCollector) :
    Except CheckFailed Query := do
  checkTrue (!values.isEmpty) "Insert query's values is empty, doesn't make sense"
  checkTrue (values.all fun row => row.length = options.columns.length)
    "values.size() == expectedSize"
  return {
    options := .insert { options with valuesCount := values.length }
    params := values.flatten }

/-- `QueryFactory::Create` with update options: first the new values, then the condition. -/
def createUpdate (options : UpdateOptions) (values : ValueCollector) :
    Except CheckFailed Query := do
  checkTrue (values.length = options.columns.length) "Columns count doesn't match values count"
  checkTrue options.condition.isSome "UPDATE query without condition is prohibited"
  return { options := .update options, params := values ++ conditionParams options.condition }

/-- `QueryFactory::Create` with delete options. -/
def createDelete (options : DeleteOptions) : Except CheckFailed Query := do
  checkTrue options.condition.isSome "Empty condition in DELETE is prohibited"
  return { options := .delete options, params := conditionParams options.condition }

/-! ## The queries that are created -/

/-- A check and what follows it. -/
theorem checkTrue_bind_eq_ok {α : Type} {condition : Bool} {message : String}
    {next : Unit → Except CheckFailed α} {value : α} :
    (checkTrue condition message >>= next) = .ok value ↔
      condition = true ∧ next () = .ok value := by
  cases condition
  · simp [bind, Except.bind]
  · simp [bind, Except.bind]

/-- An insertion is created of at least one row, when every row has a value for each column. -/
theorem createInsert_eq_ok {options : InsertOptions} {values : List ValueCollector}
    {query : Query} :
    createInsert options values = .ok query ↔
      values ≠ [] ∧ (∀ row ∈ values, row.length = options.columns.length) ∧
        query = { options := .insert { options with valuesCount := values.length }
                  params := values.flatten } := by
  unfold createInsert
  rw [checkTrue_bind_eq_ok, checkTrue_bind_eq_ok]
  simp only [pure, Except.pure, Except.ok.injEq, Bool.not_eq_true', List.isEmpty_eq_false_iff,
    List.all_eq_true, decide_eq_true_eq, ne_eq]
  exact and_congr_right fun _ => and_congr_right fun _ => eq_comm

/-- A modification is created with a value for each column and a condition. -/
theorem createUpdate_eq_ok {options : UpdateOptions} {values : ValueCollector} {query : Query} :
    createUpdate options values = .ok query ↔
      values.length = options.columns.length ∧ options.condition.isSome = true ∧
        query = { options := .update options
                  params := values ++ conditionParams options.condition } := by
  unfold createUpdate
  rw [checkTrue_bind_eq_ok, checkTrue_bind_eq_ok, decide_eq_true_eq]
  simp only [pure, Except.pure, Except.ok.injEq]
  exact and_congr_right fun _ => and_congr_right fun _ => eq_comm

/-- A deletion is created with a condition. -/
theorem createDelete_eq_ok {options : DeleteOptions} {query : Query} :
    createDelete options = .ok query ↔
      options.condition.isSome = true ∧
        query = { options := .delete options, params := conditionParams options.condition } := by
  unfold createDelete
  rw [checkTrue_bind_eq_ok]
  simp only [pure, Except.pure, Except.ok.injEq]
  exact and_congr_right fun _ => eq_comm

end QueryFactory

end Srv.Db
