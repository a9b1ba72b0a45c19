import WarehouseAccounting.DbConnector.ProductDefinitions
import WarehouseAccounting.Foundations.Serializer

/-!
# Conditions of a query

The condition trees of `db_connector/query/condition.h`: how they are written with
placeholders, which parameters they collect, and the comparison `Equals` that the store of
prepared queries relies on.

- `Condition.not_equals`: no condition equals a `NOT`, since `NotCondition::Equals` reads its
  argument where it means its own field.
- `Condition.toString_aligned`: two conditions that `Equals` accepts are written alike exactly
  when their groups have the same connectives, which `Equals` does not look at.
-/

namespace Srv.Db

open Ufa

/-- `placeholder_t`: the generator of `$1`, `$2`, ... -/
structure Placeholders where
  /-- `count()`: the number of the current placeholder. -/
  count : Nat := 1
  deriving DecidableEq, Repr

namespace Placeholders

/-- `view()` and `get()`: the text of the current placeholder. -/
def view (placeholders : Placeholders) : String :=
  "$" ++ toString placeholders.count

/-- `next()`: move on to the following placeholder. -/
def next (placeholders : Placeholders) : Placeholders :=
  { placeholders with count := placeholders.count + 1 }

end Placeholders

/-- A part of a parametrized query. -/
abbrev QueryText := Serializer CheckFailed Placeholders

/-- A fixed part of a parametrized query. -/
abbrev sql (text : String) : QueryText := Serializer.literal text

/-- `CHECK_TRUE` inside a serialization. -/
abbrev queryCheck (condition : Bool) (message : String) : QueryText :=
  Serializer.check condition ⟨message⟩

/-- Write the current placeholder and move on. -/
def placeholder : QueryText :=
  fun placeholders => .ok (placeholders.view, placeholders.next)

/-- The current placeholder is always written. -/
theorem succeeds_placeholder : Serializer.Succeeds true placeholder := by
  intro s
  rfl

/-- A value appended to the parameters: the integral and the text types that
`ValueCollector::Append` converts with `ToString`. -/
inductive Scalar where
  | integer (value : Int)
  | text (value : String)
  deriving DecidableEq, Repr

/-- `string_converters::ToString` of the value. -/
def Scalar.toString : Scalar → String
  | .integer value => ToString.toString value
  | .text value => value

/-- `srv::db::GroupConditionType`. -/
inductive GroupConditionType where
  | and
  | or
  deriving DecidableEq, Repr

/-- `string_converters::ToString(GroupConditionType)`. -/
def GroupConditionType.toString : GroupConditionType → String
  | .and => "AND"
  | .or => "OR"

/-- `srv::db::RealConditionType`. -/
inductive RealConditionType where
  | equal
  | less
  | greater
  | notEqual
  | notLess
  | notGreater
  deriving DecidableEq, Repr

/-- `string_converters::ToString(RealConditionType)`. -/
def RealConditionType.toString : RealConditionType → String
  | .equal => "="
  | .less => "<"
  | .greater => ">"
  | .notEqual => "!="
  | .notLess => ">="
  | .notGreater => "<="

/-- `string_converters::FromString<RealConditionType>`; it has no case for `!=`. -/
def RealConditionType.fromString (string : String) : Except CheckFailed RealConditionType :=
  if string = "=" then .ok .equal
  else if string = "<" then .ok .less
  else if string = ">" then .ok .greater
  else if string = ">=" then .ok .notLess
  else if string = "<=" then .ok .notGreater
  else .error ⟨"ufa::Result::NO_STRING_CONVERTER"⟩

/-- The classes that implement `ICondition`. The pointers that a group and a `NOT` hold are
never null here; the values of one column have one type, as `condition.h` asks for. -/
inductive Condition where
  /-- `GroupCondition`. -/
  | group (type : GroupConditionType) (conditions : List Condition)
  /-- `RealCondition<ValueT>`. -/
  | real (column : Column) (value : Scalar) (type : RealConditionType)
  /-- `InCondition<ValueT>`. -/
  | inList (column : Column) (values : List Scalar)
  /-- `NotCondition`. -/
  | not (condition : Condition)
  /-- `IsNullCondition`. -/
  | isNull (column : Column)

namespace Condition

mutual

/-- `ICondition::ToString(placeholders)`. -/
def toString : Condition → QueryText
  | .group type conditions =>
      queryCheck (!conditions.isEmpty) "Empty group conditions don't make sense" ++
        (sql "(" ++ groupToString type conditions)
  | .real column _ type =>
      sql ("(" ++ column.toString ++ " " ++ type.toString ++ " ") ++ (placeholder ++ sql ")")
  | .inList column values =>
      queryCheck (!values.isEmpty) "!values.empty()" ++
        (sql ("(" ++ column.toString ++ " IN (") ++
          (Serializer.separated ", " (values.map fun _ => placeholder) ++ sql "))"))
  | .not condition => sql "(NOT " ++ (condition.toString ++ sql ")")
  | .isNull column =>
      queryCheck (column != .invalid) "column != Column::Invalid" ++
        sql ("(" ++ column.toString ++ " IS NULL)")

/-- The loop of `GroupCondition::ToString`: every condition but the last is followed by the
connective, the last by the closing parenthesis. -/
def groupToString (type : GroupConditionType) : List Condition → QueryText
  | [] => sql ""
  | [condition] => condition.toString ++ sql ")"
  | condition :: next :: conditions =>
      condition.toString ++
        (sql (" " ++ type.toString ++ " ") ++ groupToString type (next :: conditions))

end

mutual

/-- `ICondition::CollectParams`: the values of the tree, from left to right. -/
def collectParams : Condition → List String
  | .group _ conditions => groupCollectParams conditions
  | .real _ value _ => [value.toString]
  | .inList _ values => values.map Scalar.toString
  | .not condition => condition.collectParams
  | .isNull _ => []

/-- The loop of `GroupCondition::CollectParams`. -/
def groupCollectParams : List Condition → List String
  | [] => []
  | condition :: conditions => condition.collectParams ++ groupCollectParams conditions

end

mutual

/-- `ICondition::Equals`, meant to compare only the part used in `ToString`. The connective of
a group is not compared. In `NotCondition::Equals` the parameter hides the field of the same
name, so the argument is compared with its own inner condition. -/
def equals : Condition → Condition → Bool
  | .group _ conditions, .group _ others => groupEquals conditions others
  | .real column _ type, .real column' _ type' => type = type' && column = column'
  | .inList column values, .inList column' values' =>
      column = column' && values.length = values'.length
  | .not _, .not condition => (Condition.not condition).equals condition
  | .isNull column, .isNull column' => column = column'
  | _, _ => false

/-- The comparison of the sizes and of the elements in `GroupCondition::Equals`. -/
def groupEquals : List Condition → List Condition → Bool
  | [], [] => true
  | condition :: conditions, other :: others =>
      condition.equals other && groupEquals conditions others
  | _, _ => false

end

/-! ## Well-formed conditions -/

mutual

/-- The checks that `ToString` makes: no empty group, no empty list and a column for
`IS NULL`. -/
def wellFormed : Condition → Bool
  | .group _ conditions => !conditions.isEmpty && groupWellFormed conditions
  | .real _ _ _ => true
  | .inList _ values => !values.isEmpty
  | .not condition => condition.wellFormed
  | .isNull column => column != .invalid

/-- Every condition of a group is well formed. -/
def groupWellFormed : List Condition → Bool
  | [] => true
  | condition :: conditions => condition.wellFormed && groupWellFormed conditions

end

open Serializer

/-- A separated list of placeholders is always written. -/
theorem succeeds_placeholders {α : Type} (values : List α) :
    Succeeds true (separated ", " (values.map fun _ => placeholder)) := by
  refine succeeds_separated _ _ fun part hpart => ?_
  obtain ⟨value, -, rfl⟩ := List.mem_map.mp hpart
  exact succeeds_placeholder

mutual

/-- A condition is written exactly when it is well formed. -/
theorem succeeds_toString (condition : Condition) :
    Succeeds condition.wellFormed condition.toString := by
  cases condition with
  | group type conditions =>
    simpa [toString, wellFormed] using (succeeds_check _ _).append
      ((succeeds_literal "(").append (succeeds_groupToString type conditions))
  | real column value type =>
    simpa [toString, wellFormed] using
      (succeeds_literal _).append (succeeds_placeholder.append (succeeds_literal ")"))
  | inList column values =>
    simpa [toString, wellFormed] using (succeeds_check _ _).append
      ((succeeds_literal _).append ((succeeds_placeholders values).append (succeeds_literal "))")))
  | not condition =>
    simpa [toString, wellFormed] using (succeeds_literal "(NOT ").append
      ((succeeds_toString condition).append (succeeds_literal ")"))
  | isNull column =>
    simpa [toString, wellFormed] using (succeeds_check _ _).append (succeeds_literal _)

/-- The conditions of a group are written exactly when all of them are well formed. -/
theorem succeeds_groupToString (type : GroupConditionType) (conditions : List Condition) :
    Succeeds (groupWellFormed conditions) (groupToString type conditions) := by
  match conditions with
  | [] => exact succeeds_literal ""
  | [condition] =>
    simpa [groupToString, groupWellFormed] using
      (succeeds_toString condition).append (succeeds_literal ")")
  | condition :: next :: conditions =>
    have htail := succeeds_groupToString type (next :: conditions)
    simpa [groupToString, groupWellFormed] using
      (succeeds_toString condition).append ((succeeds_literal _).append htail)

end

/-! ## What `Equals` compares -/

/-- No condition equals a `NOT`: the argument would have to be a `NOT` of itself, level by
level, down to a condition that is none. -/
theorem not_equals (condition other : Condition) :
    (Condition.not condition).equals other = false := by
  match other with
  | .group _ _ | .real _ _ _ | .inList _ _ | .isNull _ => rfl
  | .not inner => exact not_equals inner inner

mutual

/-- The two trees, of one shape, have the same connective in every group that prints one. -/
def connectivesAgree : Condition → Condition → Prop
  | .group type conditions, .group type' others =>
      (2 ≤ conditions.length → type = type') ∧ groupConnectivesAgree conditions others
  | .not condition, .not other => connectivesAgree condition other
  | _, _ => True

/-- `connectivesAgree` for the conditions of two groups, one by one. -/
def groupConnectivesAgree : List Condition → List Condition → Prop
  | condition :: conditions, other :: others =>
      connectivesAgree condition other ∧ groupConnectivesAgree conditions others
  | _, _ => True

end

/-- The texts of two connectives are never confused, whatever follows them. -/
theorem aligned_connective (type type' : GroupConditionType) :
    Aligned (type = type') (sql (" " ++ type.toString ++ " "))
      (sql (" " ++ type'.toString ++ " ")) := by
  have hne : ∀ rest rest' : List Char, ' ' :: 'A' :: rest ≠ ' ' :: 'O' :: rest' := by simp
  cases type <;> cases type'
  · exact (Aligned.refl _).congr (by simp)
  · refine (aligned_literal_of_ne fun rest rest' => ?_).congr (by simp)
    exact hne _ _
  · refine (aligned_literal_of_ne fun rest rest' => ?_).congr (by simp)
    exact (hne _ _).symm
  · exact (Aligned.refl _).congr (by simp)

/-- Groups that `Equals` accepts have the same number of conditions. -/
theorem groupEquals_length {conditions others : List Condition}
    (h : groupEquals conditions others = true) : conditions.length = others.length := by
  induction conditions generalizing others with
  | nil =>
    cases others with
    | nil => rfl
    | cons other others => exact absurd h Bool.false_ne_true
  | cons condition conditions ih =>
    cases others with
    | nil => exact absurd h Bool.false_ne_true
    | cons other others =>
      rw [groupEquals, Bool.and_eq_true] at h
      rw [List.length_cons, List.length_cons, ih h.2]

/-- Lists of one length are empty together. -/
theorem isEmpty_eq_of_length {α β : Type} {values : List α} {values' : List β}
    (hlength : values.length = values'.length) : values.isEmpty = values'.isEmpty := by
  rw [Bool.eq_iff_iff, List.isEmpty_iff_length_eq_zero, List.isEmpty_iff_length_eq_zero, hlength]

/-- Two lists of placeholders of one length are the same text. -/
theorem placeholders_eq_of_length {α β : Type} {values : List α} {values' : List β}
    (hlength : values.length = values'.length) :
    values.map (fun _ => placeholder) = values'.map (fun _ => placeholder) := by
  rw [List.map_const', List.map_const', hlength]

mutual

/-- Conditions that `Equals` accepts fail together, and otherwise are written alike exactly
when their connectives agree. -/
theorem toString_aligned (condition other : Condition) (h : condition.equals other = true) :
    Aligned (connectivesAgree condition other) condition.toString other.toString := by
  match condition, other with
  | .group type conditions, .group type' others =>
    have hgroup : groupEquals conditions others = true := by simpa [equals] using h
    have hempty : conditions.isEmpty = others.isEmpty :=
      isEmpty_eq_of_length (groupEquals_length hgroup)
    have hbody := (Aligned.refl (sql "(")).append
      (groupToString_aligned type type' conditions others hgroup)
    rw [toString, toString, hempty]
    exact ((Aligned.refl _).append hbody).congr (by simp [connectivesAgree])
  | .real column value type, .real column' value' type' =>
    simp only [equals, Bool.and_eq_true, decide_eq_true_eq] at h
    obtain ⟨rfl, rfl⟩ := h
    simpa [toString, connectivesAgree] using Aligned.refl (real column value type).toString
  | .inList column values, .inList column' values' =>
    simp only [equals, Bool.and_eq_true, decide_eq_true_eq] at h
    obtain ⟨rfl, hlength⟩ := h
    have hempty : values.isEmpty = values'.isEmpty := isEmpty_eq_of_length hlength
    rw [toString, toString, hempty, placeholders_eq_of_length hlength]
    exact (Aligned.refl _).congr (by simp [connectivesAgree])
  | .not inner, other =>
    rw [not_equals] at h
    exact absurd h Bool.false_ne_true
  | .isNull column, .isNull column' =>
    have hcolumn : column = column' := by simpa [equals] using h
    subst hcolumn
    exact (Aligned.refl _).congr (by simp [connectivesAgree])

/-- `toString_aligned` for the conditions of two groups. -/
theorem groupToString_aligned (type type' : GroupConditionType) (conditions others : List Condition)
    (h : groupEquals conditions others = true) :
    Aligned ((2 ≤ conditions.length → type = type') ∧ groupConnectivesAgree conditions others)
      (groupToString type conditions) (groupToString type' others) := by
  match conditions, others with
  | [], [] => exact (Aligned.refl _).congr (by simp [groupConnectivesAgree])
  | [condition], [other] =>
    have hhead : condition.equals other = true := by simpa [groupEquals] using h
    exact ((toString_aligned condition other hhead).append (Aligned.refl (sql ")"))).congr
      (by simp [groupConnectivesAgree])
  | [_], _ :: _ :: _ | _ :: _ :: _, [_] => simp [groupEquals] at h
  | condition :: next :: conditions, other :: next' :: others =>
    have hparts : condition.equals other = true ∧
        groupEquals (next :: conditions) (next' :: others) = true := by
      rwa [groupEquals, Bool.and_eq_true] at h
    have htail := groupToString_aligned type type' (next :: conditions) (next' :: others) hparts.2
    have haligned := (toString_aligned condition other hparts.1).append
      ((aligned_connective type type').append htail)
    rw [groupToString, groupToString]
    refine haligned.congr ?_
    -- The connective was compared just now, so the tail may assume it.
    simp only [groupConnectivesAgree, List.length_cons]
    constructor
    · rintro ⟨hhead, htype, -, hrest⟩
      exact ⟨fun _ => htype, hhead, hrest⟩
    · rintro ⟨htype, hhead, hrest⟩
      exact ⟨hhead, htype (by omega), fun _ => htype (by omega), hrest⟩

end

end Condition

end Srv.Db
