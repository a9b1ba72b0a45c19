import Mathlib.Data.List.Basic

/-!
# Result codes, checks and separators

The parts of `back/instrumental` that the rest of the development reads: the result codes of
`types.h`, the throwing checks of `check.h`, and the separated list of `string_converters.h`.
-/

namespace Ufa

/-- `ufa::Result`: the outcome codes every service and task answers with. -/
inductive Result where
  | success
  | error
  | noInterface
  | reregisteringInterface
  | notFound
  | noStringConverter
  | wrongFormat
  | duplicate
  | unauthorized
  | notImplemented
  | noConnection
  | violation
  deriving DecidableEq, Repr

/-- The `std::runtime_error` that `CHECK_TRUE` and `CHECK_SUCCESS` throw. The text keeps the
message of the check, or its expression when it has no message; file and line are left out. -/
structure CheckFailed where
  /-- The text after `message:`, or the failed expression. -/
  message : String
  deriving DecidableEq, Repr

/-- `CHECK_TRUE(condition, message)`. -/
def checkTrue (condition : Bool) (message : String) : Except CheckFailed Unit :=
  if condition then .ok () else .error ⟨message⟩

@[simp]
theorem checkTrue_true (message : String) : checkTrue true message = .ok () := rfl

@[simp]
theorem checkTrue_false (message : String) : checkTrue false message = .error ⟨message⟩ := rfl

end Ufa

namespace StringConverters

/-- `ToString(begin, end, separator)`: the elements with the separator between them. -/
def toStringList (elements : List String) (separator : String) : String :=
  match elements with
  | [] => ""
  | [element] => element
  | element :: rest => element ++ separator ++ toStringList rest separator

/-- The characters that `std::isspace` accepts. -/
def isSpace (c : Char) : Bool :=
  c = ' ' || c = '\t' || c = '\n' || c = '\x0b' || c = '\x0c' || c = '\r'

/-- `FromString<int64_t>`, which is `std::stol`: leading spaces, a sign, and the digits that
follow; what comes after them is not looked at. -/
def fromStringInt64 (text : String) : Except Ufa.CheckFailed Int64 :=
  let body := text.toList.dropWhile isSpace
  let (negative, body) :=
    match body with
    | '-' :: body => (true, body)
    | '+' :: body => (false, body)
    | body => (false, body)
  let digits := body.takeWhile Char.isDigit
  let magnitude : Int := Nat.ofDigitChars 10 digits 0
  let value := if negative then -magnitude else magnitude
  if digits.isEmpty then
    .error ⟨"stol: no conversion"⟩
  else if value < Int64.minValue.toInt || Int64.maxValue.toInt < value then
    .error ⟨"stol: out of range"⟩
  else
    .ok (Int64.ofInt value)

end StringConverters
