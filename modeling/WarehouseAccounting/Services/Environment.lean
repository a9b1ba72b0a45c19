import Mathlib.Algebra.Group.Nat.Even
import Mathlib.Data.String.Basic
import WarehouseAccounting.Foundations.OrderedMap
import WarehouseAccounting.Instrumental

/-!
# The environment

`environment.cpp`: the pairs of the command line and the variables of the process.

- `Environment.handleCommandLine_of_distinct`: what is kept of a command line whose keys differ.
- `Environment.handleCommandLine_duplicate_iff`: which command lines are refused.
-/

namespace Srv

open Ufa

/-- `Environment`. The order of the arguments is not looked at. -/
structure Environment where
  /-- `m_cmdArguments`. -/
  cmdArguments : OrderedMap String String
  /-- `std::getenv`. -/
  getenv : String → Option String

namespace Environment

/-- A service that has seen no command line. -/
def create (getenv : String → Option String) : Environment := ⟨.empty, getenv⟩

/-- `FormatKey`: slashes and dashes in front are skipped. -/
def formatKey (key : String) : String :=
  String.ofList (key.toList.dropWhile fun char => char = '/' || char = '-')

/-- `AddParameter`. -/
def addParameter (key value : String) (environment : Environment) : Result × Environment :=
  match environment.cmdArguments.lookup key with
  | none =>
    (.success, { environment with cmdArguments := environment.cmdArguments.insert key value })
  | some _ => (.duplicate, environment)

/-- The loop of `HandleCommandLine`: a key and its value at a time. -/
def handleParameters : List String → Environment → Result × Environment
  | key :: value :: parameters, environment =>
    match environment.addParameter (formatKey key) value with
    | (.success, environment) => handleParameters parameters environment
    | (result, environment) => (result, environment)
  | [_], environment => (.wrongFormat, environment)
  | [], environment => (.success, environment)

/-- `HandleCommandLine`: the first argument is the name of the executable. -/
def handleCommandLine (argv : List String) (environment : Environment) : Result × Environment :=
  handleParameters argv.tail environment

/-- `GetValue`: the command line goes before the variables of the process. -/
def getValue (key : String) (environment : Environment) : Except Result String :=
  match environment.cmdArguments.lookup key with
  | some value => .ok value
  | none =>
    match environment.getenv key with
    | some value => .ok value
    | none => .error .notFound

/-- What is found: the value of the command line, or else that of the process. -/
theorem toOption_getValue (key : String) (environment : Environment) :
    (environment.getValue key).toOption =
      (environment.cmdArguments.lookup key).or (environment.getenv key) := by
  rw [getValue]
  cases environment.cmdArguments.lookup key with
  | some value => rfl
  | none =>
    cases environment.getenv key with
    | some value => rfl
    | none => rfl

/-! ## The command line -/

/-- The keys and the values of a command line. -/
def parameters : List String → List (String × String)
  | key :: value :: arguments => (formatKey key, value) :: parameters arguments
  | _ => []

/-- No key comes twice. -/
def HasDistinctKeys (arguments : List String) : Prop :=
  ((parameters arguments).map Prod.fst).Nodup

instance (arguments : List String) : Decidable (HasDistinctKeys arguments) :=
  inferInstanceAs (Decidable (List.Nodup _))

/-- The loop goes on behind a key that is new. -/
theorem handleParameters_of_new {key : String} {environment : Environment}
    (h : environment.cmdArguments.lookup (formatKey key) = none) (value : String)
    (arguments : List String) :
    handleParameters (key :: value :: arguments) environment =
      handleParameters arguments { environment with
        cmdArguments := environment.cmdArguments.insert (formatKey key) value } := by
  rw [handleParameters, addParameter, h]

/-- The loop ends at a key that is there. -/
theorem handleParameters_of_known {key : String} {environment : Environment}
    (h : environment.cmdArguments.lookup (formatKey key) ≠ none) (value : String)
    (arguments : List String) :
    handleParameters (key :: value :: arguments) environment = (.duplicate, environment) := by
  obtain ⟨known, hknown⟩ := Option.ne_none_iff_exists'.mp h
  rw [handleParameters, addParameter, hknown]

/-- None of the keys is there, and none comes twice. -/
def AllNew (arguments : List String) (environment : Environment) : Prop :=
  HasDistinctKeys arguments ∧
    ∀ key ∈ (parameters arguments).map Prod.fst, environment.cmdArguments.lookup key = none

/-- All keys are new when the first is, and the others are behind it. -/
theorem allNew_cons_iff {key value : String} {arguments : List String} {environment : Environment} :
    AllNew (key :: value :: arguments) environment ↔
      environment.cmdArguments.lookup (formatKey key) = none ∧
        AllNew arguments { environment with
          cmdArguments := environment.cmdArguments.insert (formatKey key) value } := by
  have hkeys : (parameters (key :: value :: arguments)).map Prod.fst =
      formatKey key :: (parameters arguments).map Prod.fst := rfl
  have hlookup (other : String) := OrderedMap.lookup_insert (formatKey key) other value
    environment.cmdArguments
  rw [AllNew, AllNew, HasDistinctKeys, HasDistinctKeys, hkeys, List.nodup_cons]
  constructor
  · rintro ⟨⟨hfirst, hnodup⟩, hnew⟩
    refine ⟨hnew _ List.mem_cons_self, hnodup, fun other hother => ?_⟩
    have hne : other ≠ formatKey key := fun hsame => hfirst (hsame ▸ hother)
    dsimp only
    rw [hlookup, if_neg hne]
    exact hnew other (List.mem_cons_of_mem _ hother)
  · rintro ⟨hfirst, hnodup, hnew⟩
    have hne : ∀ other ∈ (parameters arguments).map Prod.fst, other ≠ formatKey key := by
      intro other hother hsame
      have hnone := hnew other hother
      dsimp only at hnone
      rw [hlookup, if_pos hsame] at hnone
      cases hnone
    refine ⟨⟨fun hmem => hne _ hmem rfl, hnodup⟩, fun other hother => ?_⟩
    rcases List.mem_cons.mp hother with rfl | hother
    · exact hfirst
    · have hnone := hnew other hother
      dsimp only at hnone
      rwa [hlookup, if_neg (hne other hother)] at hnone

/-- The loop is refused unless all keys are new. -/
theorem handleParameters_duplicate_iff (arguments : List String) (environment : Environment) :
    (handleParameters arguments environment).1 = .duplicate ↔ ¬ AllNew arguments environment := by
  induction arguments using parameters.induct generalizing environment with
  | case1 key value arguments ih =>
    rw [allNew_cons_iff]
    rcases Decidable.em (environment.cmdArguments.lookup (formatKey key) = none) with hnew | hknown
    · rw [handleParameters_of_new hnew, ih, iff_true_intro hnew, true_and]
    · rw [handleParameters_of_known hknown]
      exact iff_of_true rfl fun h => hknown h.1
  | case2 arguments hshort =>
    have hnil : parameters arguments = [] := by
      rw [parameters]
      exact hshort
    refine iff_of_false ?_ fun h => h ⟨?_, ?_⟩
    · match arguments with
      | [] => exact fun h => nomatch h
      | [_] => exact fun h => nomatch h
      | key :: value :: arguments => exact absurd rfl (hshort key value arguments)
    · rw [HasDistinctKeys, hnil]
      exact .nil
    · rw [hnil]
      exact fun _ hmem => nomatch hmem

/-- What the loop keeps of new keys, and how it ends. -/
theorem handleParameters_of_allNew {arguments : List String} {environment : Environment}
    (hnew : AllNew arguments environment) :
    (handleParameters arguments environment).1 =
        (if arguments.length % 2 = 0 then .success else .wrongFormat) ∧
      (handleParameters arguments environment).2.getenv = environment.getenv ∧
      ∀ key, (handleParameters arguments environment).2.cmdArguments.lookup key =
        (environment.cmdArguments.lookup key).or ((parameters arguments).lookup key) := by
  induction arguments using parameters.induct generalizing environment with
  | case1 key value arguments ih =>
    obtain ⟨hfirst, hrest⟩ := allNew_cons_iff.mp hnew
    obtain ⟨hresult, hgetenv, hlookup⟩ := ih hrest
    rw [handleParameters_of_new hfirst]
    refine ⟨?_, hgetenv, fun other => ?_⟩
    · have hlength : (key :: value :: arguments).length % 2 = arguments.length % 2 := by
        rw [List.length_cons, List.length_cons]
        omega
      rw [hresult, hlength]
    · rw [hlookup]
      dsimp only
      rw [OrderedMap.lookup_insert, parameters, Json.lookup_cons_ite, hfirst]
      split
      · rename_i hsame
        rw [hsame, hfirst]
        rfl
      · rfl
  | case2 arguments hshort =>
    match arguments with
    | [] => exact ⟨rfl, rfl, fun key => (Option.or_none).symm⟩
    | [_] => exact ⟨rfl, rfl, fun key => (Option.or_none).symm⟩
    | key :: value :: arguments => exact absurd rfl (hshort key value arguments)

/-- The command lines that are refused are those with a key that comes twice. -/
theorem handleCommandLine_duplicate_iff (argv : List String) (getenv : String → Option String) :
    (handleCommandLine argv (create getenv)).1 = .duplicate ↔ ¬ HasDistinctKeys argv.tail := by
  rw [handleCommandLine, handleParameters_duplicate_iff, AllNew]
  refine not_congr (and_iff_left fun key _ => OrderedMap.lookup_empty key)

/-- Of a command line whose keys differ each pair is kept, and an argument that is left over is
told. -/
theorem handleCommandLine_of_distinct {argv : List String} (h : HasDistinctKeys argv.tail)
    (getenv : String → Option String) :
    (handleCommandLine argv (create getenv)).1 =
        (if argv.tail.length % 2 = 0 then .success else .wrongFormat) ∧
      (handleCommandLine argv (create getenv)).2.getenv = getenv ∧
      ∀ key, (handleCommandLine argv (create getenv)).2.cmdArguments.lookup key =
        (parameters argv.tail).lookup key := by
  have hnew : AllNew argv.tail (create getenv) := ⟨h, fun key _ => OrderedMap.lookup_empty key⟩
  exact handleParameters_of_allNew hnew

end Environment

end Srv
