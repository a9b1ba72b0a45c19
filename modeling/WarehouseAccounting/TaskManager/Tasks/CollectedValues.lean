import WarehouseAccounting.TaskManager.Tasks.Product

/-!
# Collected values

A program that collects values in several collectors with `ValueCollector::Append` and the helpers
of `tasks/common/helpers.h`, and merges them with `ValueCollector::ExtractTo`. Next to the
collectors stands what they are meant to hold: the values that were present and the places of the
absent ones.

- `CollectorStep.collectors_run`: a collector holds the texts of what it is meant to hold.
- `CollectorStep.toPqxx_run_iff`: the parameters are the collected values exactly when no collected
  text is the text of null.
-/

namespace TaskMgr.Tasks

open Srv.Db

variable {κ : Type} [DecidableEq κ]

/-- A step of a program that works on the collectors `κ`. A list is never spliced into itself. -/
inductive CollectorStep (κ : Type) where
  | append (collector : κ) (value : Scalar)
  | appendToQueryOptional (collector : κ) (optionalValue : Option Scalar) (column : Column)
  | appendToQueryNullable (collector : κ) (optionalValue : Option Scalar)
  | extractTo (collector target : κ) (distinct : collector ≠ target)
  | toPqxx (collector : κ)

/-- The collectors, and the columns that are collected with them. -/
structure CollectorState (κ : Type) where
  columns : List Column := []
  collectors : κ → ValueCollector := fun _ => []

namespace CollectorStep

/-- One step on the collectors; `ToPqxx` leaves its collector empty. -/
def run (state : CollectorState κ) : CollectorStep κ → CollectorState κ
  | append collector value =>
    let params := (state.collectors collector).append value
    { state with collectors := Function.update state.collectors collector params }
  | appendToQueryOptional collector optionalValue column =>
    let query := Tasks.appendToQueryOptional (state.columns, state.collectors collector)
      optionalValue column
    { columns := query.1
      collectors := Function.update state.collectors collector query.2 }
  | appendToQueryNullable collector optionalValue =>
    let params := Tasks.appendToQueryNullable (state.collectors collector) optionalValue
    { state with collectors := Function.update state.collectors collector params }
  | extractTo collector target _ =>
    let merged := (state.collectors collector).extractTo (state.collectors target)
    let emptied := Function.update state.collectors collector merged.1
    { state with collectors := Function.update emptied target merged.2 }
  | toPqxx collector =>
    { state with collectors := Function.update state.collectors collector [] }

/-- What the collectors are meant to hold after one step: a present value, or the place of an absent
one. An absent value of `AppendToQueryOptional` has no place. -/
def collect (content : κ → List (Option Scalar)) : CollectorStep κ → κ → List (Option Scalar)
  | append collector value =>
    Function.update content collector (content collector ++ [some value])
  | appendToQueryOptional collector optionalValue _ =>
    Function.update content collector
      (content collector ++ (optionalValue.map some).toList)
  | appendToQueryNullable collector optionalValue =>
    Function.update content collector (content collector ++ [optionalValue])
  | extractTo collector target _ =>
    Function.update (Function.update content collector []) target
      (content target ++ content collector)
  | toPqxx collector => Function.update content collector []

/-- The state after the steps of a program. -/
def runAll (steps : List (CollectorStep κ)) : CollectorState κ :=
  steps.foldl run {}

/-- What the collectors are meant to hold after the steps of a program. -/
def collected (steps : List (CollectorStep κ)) : κ → List (Option Scalar) :=
  steps.foldl collect fun _ => []

/-- The text that stands for a value, or for its absence. -/
def collectedText (value : Option Scalar) : String :=
  (value.getD (.text "NULL")).toString

/-- A collector holds the text of everything that it is meant to hold. -/
def Holds (state : CollectorState κ) (content : κ → List (Option Scalar)) : Prop :=
  ∀ collector, state.collectors collector = (content collector).map collectedText

/-- To change one collector and its content alike keeps the rest as it is. -/
theorem map_update {collectors : κ → ValueCollector} {content : κ → List (Option Scalar)}
    (h : ∀ collector, collectors collector = (content collector).map collectedText)
    (changed : κ) {values : ValueCollector} {meant : List (Option Scalar)}
    (hvalues : values = meant.map collectedText) (collector : κ) :
    Function.update collectors changed values collector =
      (Function.update content changed meant collector).map collectedText := by
  by_cases hcollector : collector = changed
  · rw [hcollector, Function.update_self, Function.update_self, hvalues]
  · rw [Function.update_of_ne hcollector, Function.update_of_ne hcollector, h collector]

/-- Every step changes the texts as it changes what they stand for. -/
theorem Holds.step {state : CollectorState κ} {content : κ → List (Option Scalar)}
    (h : Holds state content) (step : CollectorStep κ) :
    Holds (step.run state) (step.collect content) := by
  cases step with
  | append collector value =>
    apply map_update h
    rw [h collector, ValueCollector.append, List.map_append]
    rfl
  | appendToQueryOptional collector optionalValue column =>
    apply map_update h
    cases optionalValue with
    | none =>
      show state.collectors collector = _
      rw [h collector, Option.map_none, Option.toList_none, List.append_nil]
    | some value =>
      show (state.collectors collector).append value = _
      rw [h collector, ValueCollector.append, List.map_append]
      rfl
  | appendToQueryNullable collector optionalValue =>
    apply map_update h
    rw [Tasks.appendToQueryNullable, h collector, ValueCollector.append, List.map_append]
    rfl
  | extractTo collector target distinct =>
    -- The source is emptied first, so the target is another collector.
    have hemptied : ∀ other, Function.update state.collectors collector [] other =
        (Function.update content collector [] other).map collectedText :=
      map_update h collector rfl
    apply map_update hemptied target
    show state.collectors target ++ state.collectors collector = _
    rw [h target, h collector, List.map_append]
  | toPqxx collector => exact map_update h collector rfl

/-- After every program a collector holds the texts of what it is meant to hold. -/
theorem collectors_run (steps : List (CollectorStep κ)) :
    Holds (runAll steps) (collected steps) := by
  suffices hrun : ∀ (state : CollectorState κ) (content : κ → List (Option Scalar)),
      Holds state content → Holds (steps.foldl run state) (steps.foldl collect content) from
    hrun {} (fun _ => []) fun _ => rfl
  induction steps with
  | nil => exact fun state content h => h
  | cons step steps ih =>
    intro state content h
    exact ih _ _ (h.step step)

/-- The text of a value is bound as the value exactly when it is not the text of null. -/
theorem bound_collectedText_iff (value : Option Scalar) :
    (if collectedText value = "NULL" then none else some (collectedText value)) =
        value.map Scalar.toString ↔
      value ≠ some (.text "NULL") := by
  cases value with
  | none => exact iff_of_true (if_pos rfl) (by simp)
  | some value =>
    cases value with
    | integer number =>
      have hne : collectedText (some (.integer number)) ≠ "NULL" :=
        Scalar.integer_ne_null number
      rw [if_neg hne]
      exact iff_of_true rfl (by simp)
    | text text =>
      show (if text = "NULL" then none else some text) = some text ↔ _
      by_cases htext : text = "NULL"
      · rw [if_pos htext, htext]
        simp
      · rw [if_neg htext]
        simp [htext]

/-- The parameters that a program has collected are its values, with null for the absent ones,
exactly when no collected text is the text of null. -/
theorem toPqxx_run_iff (steps : List (CollectorStep κ)) (collector : κ) :
    ((runAll steps).collectors collector).toPqxx =
        (collected steps collector).map (Option.map Scalar.toString) ↔
      some (.text "NULL") ∉ collected steps collector := by
  rw [collectors_run steps collector, ValueCollector.toPqxx, List.map_map, List.map_inj_left]
  -- Every place is judged on its own.
  have hplace : ∀ value : Option Scalar,
      ((fun text => if text = "NULL" then none else some text) ∘ collectedText) value =
        value.map Scalar.toString ↔ value ≠ some (.text "NULL") :=
    bound_collectedText_iff
  simp only [hplace]
  exact ⟨fun h hmem => h _ hmem rfl, fun h value hvalue heq => h (heq ▸ hvalue)⟩

/-- A product may be called like the text of null; its name is then bound as no value. -/
theorem toPqxx_run_null :
    ¬ ((runAll [append () (.text "NULL"), append () (.integer 1)]).collectors ()).toPqxx =
        (collected [append () (.text "NULL"), append () (.integer 1)] ()).map
          (Option.map Scalar.toString) := by
  decide

end CollectorStep

end TaskMgr.Tasks
