import WarehouseAccounting.DbConnector.Query.QueryManager

/-!
# Repeated queries

Options that are built again with other values, and whether the store knows them from the first
time.

- `Condition.equals_self_iff`: `Equals` is reflexive on the conditions without a `NOT`, and on these
  only.
- `QueryManager.findSupported_run`: what a search has found is found again after any calls.
- `QueryManager.reuses_iff`: a query that is repeated with other values gets the id of the first one
  exactly when its condition has no `NOT`.
-/

namespace Srv.Db

/-! ## Conditions up to their values -/

namespace Condition

mutual

/-- The condition with one value in all places. -/
def eraseValues : Condition → Condition
  | .group type conditions => .group type (groupEraseValues conditions)
  | .real column _ type => .real column (.integer 0) type
  | .inList column values => .inList column (values.map fun _ => .integer 0)
  | .not condition => .not condition.eraseValues
  | .isNull column => .isNull column

/-- The conditions of a group with one value in all places. -/
def groupEraseValues : List Condition → List Condition
  | [] => []
  | condition :: conditions => condition.eraseValues :: groupEraseValues conditions

end

mutual

/-- A `NOT` occurs in the tree. -/
def hasNot : Condition → Bool
  | .group _ conditions => groupHasNot conditions
  | .not _ => true
  | .real _ _ _ | .inList _ _ | .isNull _ => false

/-- A `NOT` occurs in one of the trees. -/
def groupHasNot : List Condition → Bool
  | [] => false
  | condition :: conditions => condition.hasNot || groupHasNot conditions

end

mutual

/-- `Equals` does not look at values. -/
theorem equals_eraseValues (condition other : Condition) :
    condition.eraseValues.equals other.eraseValues = condition.equals other := by
  match condition, other with
  | .group type conditions, .group type' others => exact groupEquals_eraseValues conditions others
  | .real column value type, .real column' value' type' => rfl
  | .inList column values, .inList column' values' => simp [eraseValues, equals]
  | .not condition, other => rw [eraseValues, not_equals, not_equals]
  | .isNull column, .isNull column' => rfl
  | .group _ _, .real _ _ _ | .group _ _, .inList _ _ | .group _ _, .not _ | .group _ _, .isNull _
  | .real _ _ _, .group _ _ | .real _ _ _, .inList _ _ | .real _ _ _, .not _
  | .real _ _ _, .isNull _ | .inList _ _, .group _ _ | .inList _ _, .real _ _ _
  | .inList _ _, .not _ | .inList _ _, .isNull _ | .isNull _, .group _ _ | .isNull _, .real _ _ _
  | .isNull _, .inList _ _ | .isNull _, .not _ => rfl

/-- The same for the conditions of two groups. -/
theorem groupEquals_eraseValues (conditions others : List Condition) :
    groupEquals (groupEraseValues conditions) (groupEraseValues others) =
      groupEquals conditions others := by
  match conditions, others with
  | [], [] | [], _ :: _ | _ :: _, [] => rfl
  | condition :: conditions, other :: others =>
    rw [groupEraseValues, groupEraseValues, groupEquals, groupEquals,
      equals_eraseValues condition other, groupEquals_eraseValues conditions others]

end

mutual

/-- A condition equals itself exactly when no `NOT` occurs in it. -/
theorem equals_self_iff (condition : Condition) :
    condition.equals condition = true ↔ condition.hasNot = false := by
  match condition with
  | .group type conditions => exact groupEquals_self_iff conditions
  | .real column value type => simp [equals, hasNot]
  | .inList column values => simp [equals, hasNot]
  | .not condition =>
    rw [not_equals]
    exact iff_of_false Bool.false_ne_true (by simp [hasNot])
  | .isNull column => simp [equals, hasNot]

/-- A group equals itself exactly when no `NOT` occurs in its conditions. -/
theorem groupEquals_self_iff (conditions : List Condition) :
    groupEquals conditions conditions = true ↔ groupHasNot conditions = false := by
  match conditions with
  | [] => exact iff_of_true rfl rfl
  | condition :: conditions =>
    rw [groupEquals, groupHasNot, Bool.and_eq_true, Bool.or_eq_false_iff,
      equals_self_iff condition, groupEquals_self_iff conditions]

end

end Condition

/-! ## Options up to their values -/

namespace QueryOptions

/-- The options with one value in all places of their condition. -/
def eraseValues : QueryOptions → QueryOptions
  | .select options =>
    .select { options with condition := options.condition.map Condition.eraseValues }
  | .insert options => .insert options
  | .update options =>
    .update { options with condition := options.condition.map Condition.eraseValues }
  | .delete options =>
    .delete { options with condition := options.condition.map Condition.eraseValues }
  | .raw options => .raw options

/-- The condition of the options. -/
def condition : QueryOptions → Option Condition
  | .select options => options.condition
  | .update options => options.condition
  | .delete options => options.condition
  | .insert _ | .raw _ => none

/-- A `NOT` occurs in the condition of the options. -/
def hasNot (options : QueryOptions) : Bool :=
  options.condition.any Condition.hasNot

/-- Values do not change the kind of the options. -/
@[simp]
theorem getIdentificator_eraseValues (options : QueryOptions) :
    options.eraseValues.getIdentificator = options.getIdentificator := by
  cases options <;> rfl

/-- Optional conditions are compared without their values. -/
theorem conditionEquals_eraseValues (condition other : Option Condition) :
    conditionEquals (condition.map Condition.eraseValues) (other.map Condition.eraseValues) =
      conditionEquals condition other := by
  match condition, other with
  | none, none | none, some _ | some _, none => rfl
  | some condition, some other => exact condition.equals_eraseValues other

/-- `Equals` does not look at values. -/
theorem equals_eraseValues (options other : QueryOptions) :
    options.eraseValues.equals other.eraseValues = options.equals other := by
  cases options <;> cases other <;> try rfl
  case select.select options other =>
    simp only [eraseValues, equals, SelectOptions.equals, conditionEquals_eraseValues]
  case update.update options other =>
    simp only [eraseValues, equals, UpdateOptions.equals, conditionEquals_eraseValues]
  case delete.delete options other =>
    simp only [eraseValues, equals, DeleteOptions.equals, conditionEquals_eraseValues]

/-- An optional condition equals itself exactly when no `NOT` occurs in it. -/
theorem conditionEquals_self_iff (condition : Option Condition) :
    conditionEquals condition condition = true ↔ condition.any Condition.hasNot = false := by
  cases condition with
  | none => exact iff_of_true rfl rfl
  | some condition => exact condition.equals_self_iff

/-- Options equal themselves exactly when no `NOT` occurs in their condition. -/
theorem equals_self_iff (options : QueryOptions) :
    options.equals options = true ↔ options.hasNot = false := by
  cases options with
  | select options =>
    simp [equals, SelectOptions.equals, hasNot, condition, conditionEquals_self_iff]
  | update options =>
    simp [equals, UpdateOptions.equals, hasNot, condition, conditionEquals_self_iff]
  | delete options =>
    simp [equals, DeleteOptions.equals, hasNot, condition, conditionEquals_self_iff]
  | insert options => simp [equals, InsertOptions.equals, hasNot, condition]
  | raw options => simp [equals, RawQueryOptions.equals, hasNot, condition]

/-- Options that differ in values only are equal to the same options. -/
theorem equals_congr {options options' : QueryOptions}
    (h : options.eraseValues = options'.eraseValues) (stored : QueryOptions) :
    stored.equals options = stored.equals options' := by
  rw [← stored.equals_eraseValues options, h, equals_eraseValues]

/-- Options that differ in values only are equal exactly when no `NOT` occurs in their
condition. -/
theorem equals_iff_of_eraseValues {options options' : QueryOptions}
    (h : options.eraseValues = options'.eraseValues) :
    options.equals options' = true ↔ options.hasNot = false := by
  rw [← equals_congr h options, equals_self_iff]

end QueryOptions

/-! ## The store -/

namespace Qry.QueryManager

/-- Options that differ in values only are searched for alike. -/
theorem findSupported_congr {options options' : QueryOptions}
    (h : options.eraseValues = options'.eraseValues) (manager : QueryManager) :
    manager.findSupported options = manager.findSupported options' := by
  have hkind : options.getIdentificator = options'.getIdentificator := by
    rw [← options.getIdentificator_eraseValues, h, QueryOptions.getIdentificator_eraseValues]
  rw [findSupported, findSupported, hkind]
  simp only [QueryOptions.equals_congr h]

/-- Storing other options keeps what a search finds. -/
theorem findSupported_store {options : QueryOptions} {manager : QueryManager} {pair : StoredQuery}
    (h : manager.findSupported options = some pair) (other : QueryOptions) :
    (manager.store other).findSupported options = some pair := by
  obtain ⟨vec, hvec, hfind⟩ := Option.bind_eq_some_iff.mp h
  refine Option.bind_eq_some_iff.mpr ?_
  by_cases hkind : options.getIdentificator = other.getIdentificator
  · -- The new options come after the ones that were found.
    rw [hkind] at hvec ⊢
    refine ⟨_, store_supportedQueries_self other manager, ?_⟩
    rw [hvec, Option.getD_some, List.find?_append, hfind]
    rfl
  · exact ⟨vec, (store_supportedQueries_of_ne hkind manager).trans hvec, hfind⟩

/-- A call keeps what a search finds. -/
theorem findSupported_getOrSupportQueryId {options : QueryOptions} {manager : QueryManager}
    {pair : StoredQuery} (h : manager.findSupported options = some pair) (tracing : Bool)
    (other : QueryOptions) :
    (manager.getOrSupportQueryId tracing other).2.findSupported options = some pair := by
  rcases hfind : manager.findSupported other with _ | pair'
  · rw [getOrSupportQueryId_of_not_found tracing hfind]
    rcases manager.addSupport_cases tracing other with ⟨-, hadd⟩ | ⟨-, -, e, hadd⟩ <;> rw [hadd]
    · exact findSupported_store h other
    · exact h
  · rw [getOrSupportQueryId_of_found tracing hfind]
    exact h

/-- Any calls keep what a search finds. -/
theorem findSupported_run {options : QueryOptions} {manager : QueryManager} {pair : StoredQuery}
    (h : manager.findSupported options = some pair) (tracing : Bool)
    (queries : List QueryOptions) :
    (manager.run tracing queries).findSupported options = some pair := by
  induction queries generalizing manager with
  | nil => exact h
  | cons other queries ih => exact ih (findSupported_getOrSupportQueryId h tracing other)

/-- Options that equal themselves are found after they got an id. -/
theorem findSupported_of_getOrSupportQueryId {tracing : Bool} {options : QueryOptions}
    {manager manager' : QueryManager} {id : QueryId}
    (hcall : manager.getOrSupportQueryId tracing options = (.ok id, manager'))
    (hself : options.equals options = true) :
    ∃ pair, manager'.findSupported options = some pair ∧ pair.1 = id := by
  rcases hfind : manager.findSupported options with _ | pair
  · rw [getOrSupportQueryId_of_not_found tracing hfind] at hcall
    rcases manager.addSupport_cases tracing options with ⟨-, hadd⟩ | ⟨-, -, e, hadd⟩ <;>
      rw [hadd] at hcall <;> cases hcall
    -- They are the last of their vector, and none before them was equal to them.
    refine ⟨(manager.currentId, options), Option.bind_eq_some_iff.mpr
      ⟨_, store_supportedQueries_self options manager, ?_⟩, rfl⟩
    have hold : ((manager.supportedQueries options.getIdentificator).getD []).find?
        (fun pair => pair.2.equals options) = none := by
      rcases hvec : manager.supportedQueries options.getIdentificator with _ | vec
      · rfl
      · rw [findSupported, hvec] at hfind
        exact hfind
    rw [List.find?_append, hold]
    simp [hself]
  · rw [getOrSupportQueryId_of_found tracing hfind] at hcall
    cases hcall
    exact ⟨pair, hfind, rfl⟩

/-- The options equal each other, and in every store the second ones get the id of the first ones
without a change of the store, whatever queries were added in between. -/
structure Reuses (options options' : QueryOptions) : Prop where
  equals : options.equals options' = true
  sameId : ∀ (tracing : Bool) (earlier between : List QueryOptions) (id : QueryId)
    (manager : QueryManager),
    (QueryManager.run tracing earlier {}).getOrSupportQueryId tracing options =
        (.ok id, manager) →
      (manager.run tracing between).getOrSupportQueryId tracing options' =
        (.ok id, manager.run tracing between)

/-- A query that is repeated with other values reuses its prepared statement exactly when no `NOT`
occurs in its condition. -/
theorem reuses_iff {options options' : QueryOptions}
    (h : options.eraseValues = options'.eraseValues) :
    Reuses options options' ↔ options.hasNot = false := by
  constructor
  · intro hreuses
    exact (QueryOptions.equals_iff_of_eraseValues h).mp hreuses.equals
  · intro hnot
    refine ⟨(QueryOptions.equals_iff_of_eraseValues h).mpr hnot, ?_⟩
    intro tracing earlier between id manager hcall
    obtain ⟨pair, hpair, rfl⟩ :=
      findSupported_of_getOrSupportQueryId hcall (options.equals_self_iff.mpr hnot)
    have hlater := findSupported_run hpair tracing between
    rw [findSupported_congr h] at hlater
    exact getOrSupportQueryId_of_found tracing hlater

/-- The selection of the product with an id. -/
def productById (id : Int) : QueryOptions :=
  .select { table := .product, condition := some (.real .productId (.integer id) .equal) }

/-- Products are selected by one prepared statement. -/
theorem reuses_iff_productById : Reuses (productById 1) (productById 2) := by
  have hsame : (productById 1).eraseValues = (productById 2).eraseValues := rfl
  exact (reuses_iff hsame).mpr rfl

/-- The products with a description are not known again. -/
theorem not_reuses_described :
    ¬ ∀ options options' : QueryOptions,
      options.eraseValues = options'.eraseValues → Reuses options options' := by
  intro h
  have hequals := (h (.select
    { table := .product, condition := some (.not (.isNull .description)) })
    _ rfl).equals
  exact absurd hequals (by decide)

end Qry.QueryManager

end Srv.Db
