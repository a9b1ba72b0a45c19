import WarehouseAccounting.DbConnector.Reading

/-!
# Counting by a text of one's own

The conditions that filters are made of, and how the database reads the text
`SELECT COUNT(*) FROM ... WHERE ...` that is put together from one of them.

- `bindWhereBy_group`: what a group of such conditions comes to with its own parameters.
- `readCount_countText`: the text is read back.
- `answer_countText`: so the database answers the number of rows that pass the tests.
- `answers_of_answer`: statements on one table are answered as `Sql` says.
-/

namespace Srv.Db.Sql

open Relational DbMgr.Scpts Trsct Ufa

/-! ## Groups of tests -/

/-- A condition on one column: a comparison with a number, or `IS NULL`. -/
inductive RowTest where
  | compare (column : Column) (type : RealConditionType) (value : Int)
  | isNull (column : Column)
  deriving DecidableEq, Repr

namespace RowTest

/-- The column that is tested. -/
def column : RowTest → Column
  | .compare column _ _ => column
  | .isNull column => column

/-- The test as a condition. -/
def condition : RowTest → Condition
  | .compare column type value => .real column (.integer value) type
  | .isNull column => .isNull column

/-- All of some tests as a condition. -/
def group (tests : List RowTest) : Condition :=
  .group .and (tests.map condition)

/-- The test without its number, which is no part of a text. -/
def shape : RowTest → RowTest
  | .compare column type _ => .compare column type 0
  | .isNull column => .isNull column

/-- The parameters of a test. -/
def params : RowTest → List (Option String)
  | .compare _ _ value => [some (toString value)]
  | .isNull _ => []

/-- The test with its number as a value of the column's type. -/
def bind (types : Column → Except Exception ColumnType) :
    RowTest → Except Exception (Predicate Column)
  | .compare column type value => do
    let columnType ← types column
    let value ← bindValue columnType (some (toString value))
    return .compare column (comparisonOf type) value
  | .isNull column => do
    let _ ← types column
    return .isNull column

/-- The parameters that a group collects are those of its tests. -/
theorem toPqxx_collectParams (tests : List RowTest) :
    ValueCollector.toPqxx (group tests).collectParams = tests.flatMap params := by
  show ValueCollector.toPqxx (Condition.groupCollectParams (tests.map condition)) = _
  induction tests with
  | nil => rfl
  | cons test tests ih =>
    rw [List.map_cons, Condition.groupCollectParams, List.flatMap_cons, ← ih]
    cases test with
    | isNull column => rfl
    | compare column type value =>
      have hne := Scalar.integer_ne_null value
      show ValueCollector.toPqxx ((Scalar.integer value).toString :: _) = _
      rw [ValueCollector.toPqxx, List.map_cons, if_neg hne]
      rfl

/-- A comparison takes one parameter, whatever its own number is. -/
theorem bindConditionBy_real (types : Column → Except Exception ColumnType) (column : Column)
    (type : RealConditionType) (value other : Int) (rest : List (Option String)) :
    bindConditionBy types (.real column (.integer other) type)
        (some (toString value) :: rest) =
      ((RowTest.compare column type value).bind types).map (·, rest) := by
  rw [bindConditionBy, bind, bindParamsBy]
  cases types column with
  | error exception => rfl
  | ok columnType =>
    simp only [ok_bind]
    cases bindValue columnType (some (toString value)) <;> rfl

/-- A test takes its own parameters. -/
theorem bindConditionBy_test (types : Column → Except Exception ColumnType) (test : RowTest)
    (rest : List (Option String)) :
    bindConditionBy types test.shape.condition (test.params ++ rest) =
        (test.bind types).map (·, rest) ∧
      bindConditionBy types test.condition (test.params ++ rest) =
        (test.bind types).map (·, rest) := by
  cases test with
  | compare column type value =>
    exact ⟨bindConditionBy_real types column type value 0 rest,
      bindConditionBy_real types column type value value rest⟩
  | isNull column =>
    have hnull : bindConditionBy types (.isNull column) rest =
        ((RowTest.isNull column).bind types).map (·, rest) := by
      rw [bindConditionBy, bind]
      cases types column <;> rfl
    exact ⟨hnull, hnull⟩

/-- The conditions of a group take the parameters of their tests, whatever their own numbers
are. -/
theorem bindConditionsBy_tests (types : Column → Except Exception ColumnType)
    (tests : List RowTest) (rest : List (Option String)) :
    bindConditionsBy types ((tests.map shape).map condition) (tests.flatMap params ++ rest) =
        (tests.mapM (bind types)).map (·, rest) ∧
      bindConditionsBy types (tests.map condition) (tests.flatMap params ++ rest) =
        (tests.mapM (bind types)).map (·, rest) := by
  induction tests with
  | nil => exact ⟨rfl, rfl⟩
  | cons test tests ih =>
    obtain ⟨hshape, htest⟩ := bindConditionBy_test types test (tests.flatMap params ++ rest)
    simp only [List.map_cons, List.flatMap_cons, List.append_assoc, bindConditionsBy,
      List.mapM_cons, hshape, htest]
    cases test.bind types with
    | error exception => exact ⟨rfl, rfl⟩
    | ok predicate =>
      simp only [Except.map, ok_bind]
      rw [ih.1, ih.2]
      cases tests.mapM (bind types) <;> exact ⟨rfl, rfl⟩

/-- What a group of tests comes to with the parameters of its tests. -/
def bindAll (types : Column → Except Exception ColumnType) (tests : List RowTest) :
    Except Exception (Predicate Column) :=
  if tests.isEmpty then .error .other else (tests.mapM (bind types)).map .and

/-- A group takes the parameters of its tests, whatever its own numbers are. -/
theorem bindWhereBy_shapes (types : Column → Except Exception ColumnType)
    (tests : List RowTest) :
    bindWhereBy types (some (group (tests.map shape))) (tests.flatMap params) =
      bindAll types tests := by
  have hbind := (bindConditionsBy_tests types tests []).1
  rw [List.append_nil] at hbind
  unfold bindWhereBy group bindAll
  dsimp only
  rw [bindConditionBy, hbind]
  cases tests with
  | nil => rfl
  | cons test tests =>
    cases (test :: tests).mapM (bind types) <;> rfl

/-- A group takes the parameters of its tests. -/
theorem bindWhereBy_group (types : Column → Except Exception ColumnType)
    (tests : List RowTest) :
    bindWhereBy types (some (group tests)) (tests.flatMap params) = bindAll types tests := by
  have hbind := (bindConditionsBy_tests types tests []).2
  rw [List.append_nil] at hbind
  unfold bindWhereBy group bindAll
  dsimp only
  rw [bindConditionBy, hbind]
  cases tests with
  | nil => rfl
  | cons test tests =>
    cases (test :: tests).mapM (bind types) <;> rfl

/-! ## The words of a text -/

/-- A part of a text between two blanks. -/
abbrev Word := List Char

/-- The words of a test, after some opening parentheses and before some closing ones. -/
def words (opening closing : String) (number : Nat) : RowTest → List Word
  | .compare column type _ =>
    [(opening ++ column.toString).toList, type.toString.toList,
      ("$" ++ toString number ++ closing).toList]
  | .isNull column =>
    [(opening ++ column.toString).toList, "IS".toList, ("NULL" ++ closing).toList]

/-- The number of the placeholder after a test. -/
def nextNumber (number : Nat) : RowTest → Nat
  | .compare _ _ _ => number + 1
  | .isNull _ => number

/-- The words of a group. -/
def groupWords (opening : String) (number : Nat) : List RowTest → List Word
  | [] => []
  | [test] => test.words opening "))" number
  | test :: next :: tests =>
    test.words opening ")" number ++
      "AND".toList :: groupWords "(" (test.nextNumber number) (next :: tests)

/-- The test can be written: `IS NULL` has a column. -/
def writable : RowTest → Bool
  | .compare _ _ _ => true
  | .isNull column => column != .invalid

/-- The text of a test is that of its words. -/
theorem toString_condition {test : RowTest} (h : test.writable = true) (closing : String)
    (number : Nat) :
    ∃ text, test.condition.toString ⟨number⟩ = .ok (text, ⟨test.nextNumber number⟩) ∧
      (text ++ closing).toList =
        [' '].intercalate (test.words "(" (")" ++ closing) number) := by
  cases test with
  | compare column type value =>
    refine ⟨"(" ++ column.toString ++ " " ++ type.toString ++ " " ++
      ("$" ++ toString number ++ ")"), rfl, ?_⟩
    simp [words, List.intercalate_cons_cons]
  | isNull column =>
    refine ⟨"(" ++ column.toString ++ " IS NULL)", ?_, ?_⟩
    · show (queryCheck (column != .invalid) "column != Column::Invalid" ++
        sql ("(" ++ column.toString ++ " IS NULL)")) ⟨number⟩ = _
      rw [writable] at h
      rw [h]
      have hcheck : queryCheck true "column != Column::Invalid" ⟨number⟩ = .ok ("", ⟨number⟩) := rfl
      refine (Serializer.append_of_ok hcheck rfl).trans ?_
      rw [String.empty_append]
      rfl
    · simp [words, List.intercalate_cons_cons]

/-- The words of a group that is not empty. -/
theorem groupWords_ne_nil {tests : List RowTest} (h : tests ≠ []) (opening : String)
    (number : Nat) : groupWords opening number tests ≠ [] := by
  match tests with
  | [] => exact absurd rfl h
  | [.compare ..] | [.isNull ..] | .compare .. :: _ :: _ | .isNull .. :: _ :: _ =>
    exact List.cons_ne_nil _ _

/-- Two lists of words, one after the other. -/
theorem intercalate_append {words others : List Word} (hwords : words ≠ [])
    (hothers : others ≠ []) :
    [' '].intercalate (words ++ others) =
      [' '].intercalate words ++ ' ' :: [' '].intercalate others := by
  induction words with
  | nil => exact absurd rfl hwords
  | cons word words ih =>
    cases words with
    | nil =>
      rw [List.singleton_append, List.intercalate_cons_of_ne_nil hothers,
        List.intercalate_singleton]
      simp
    | cons next words =>
      rw [List.cons_append, List.intercalate_cons_of_ne_nil (by simp),
        List.intercalate_cons_cons, ih (List.cons_ne_nil _ _)]
      simp

/-- The text of the conditions of a group is that of their words. -/
theorem toString_groupConditions {tests : List RowTest} (hne : tests ≠ [])
    (h : ∀ test ∈ tests, test.writable = true) (number : Nat) :
    ∃ text number', Condition.groupToString .and (tests.map condition) ⟨number⟩ =
        .ok (text, ⟨number'⟩) ∧
      text.toList = [' '].intercalate (groupWords "(" number tests) := by
  induction tests generalizing number with
  | nil => exact absurd rfl hne
  | cons test tests ih =>
    cases tests with
    | nil =>
      obtain ⟨text, htext, hwords⟩ := toString_condition (h test List.mem_cons_self) ")" number
      exact ⟨text ++ ")", _, Serializer.append_of_ok htext rfl, hwords⟩
    | cons next tests =>
      obtain ⟨text, htext, hwords⟩ := toString_condition (h test List.mem_cons_self) "" number
      obtain ⟨rest, number', hrest, hrestWords⟩ := ih (List.cons_ne_nil _ _)
        (fun other hother => h other (List.mem_cons_of_mem _ hother)) (test.nextNumber number)
      have hconnective : (sql (" " ++ GroupConditionType.and.toString ++ " ") :
          QueryText) ⟨test.nextNumber number⟩ = .ok (" AND ", ⟨test.nextNumber number⟩) := rfl
      refine ⟨text ++ (" AND " ++ rest), number',
        Serializer.append_of_ok htext (Serializer.append_of_ok hconnective hrest), ?_⟩
      have hfirst : test.words "(" ")" number ≠ [] := by
        cases test <;> exact List.cons_ne_nil _ _
      rw [String.append_empty] at hwords
      have hclosing : (")" ++ "" : String) = ")" := rfl
      rw [hclosing] at hwords
      rw [groupWords, intercalate_append hfirst (List.cons_ne_nil _ _),
        List.intercalate_cons_of_ne_nil (groupWords_ne_nil (List.cons_ne_nil _ _) _ _),
        ← hrestWords, String.toList_append, hwords, String.toList_append]
      simp

/-- One more opening parenthesis belongs to the first word. -/
theorem intercalate_groupWords_cons {tests : List RowTest} (hne : tests ≠ []) (number : Nat) :
    '(' :: [' '].intercalate (groupWords "(" number tests) =
      [' '].intercalate (groupWords "((" number tests) := by
  match tests with
  | [] => exact absurd rfl hne
  | [test] =>
    cases test <;> simp [groupWords, words, List.intercalate_cons_cons]
  | test :: next :: tests =>
    have hrest := groupWords_ne_nil (List.cons_ne_nil next tests) "(" (test.nextNumber number)
    cases test <;>
      simp [groupWords, words, List.intercalate_cons_cons,
        List.intercalate_cons_of_ne_nil hrest]

end RowTest

/-! ## Reading the text -/

/-- `SELECT COUNT(*)` from a table, with the tests after `WHERE`, if there are any. -/
def countText (table : Table) (tests : List RowTest) : Except CheckFailed String :=
  if tests.isEmpty then
    .ok ("SELECT COUNT(*) FROM " ++ table.quoted)
  else
    ((RowTest.group tests).toString {}).map fun (text, _) =>
      "SELECT COUNT(*) FROM " ++ table.quoted ++ " WHERE " ++ text

/-- The tables of the database. -/
def Table.all : List Table :=
  [.color, .invoiceItem, .invoice, .operation, .product, .report, .user, .warehouse,
    .warehouseItem]

/-- The operators of comparisons. -/
def RealConditionType.all : List RealConditionType :=
  [.equal, .less, .greater, .notEqual, .notLess, .notGreater]

open RowTest

/-- The column that a word names after some opening parentheses. -/
def readColumn (opening : String) (word : Word) : Option Column :=
  Column.all.find? fun column => (opening ++ column.toString).toList = word

/-- The operator that a word is. -/
def readType (word : Word) : Option RealConditionType :=
  RealConditionType.all.find? fun type => type.toString.toList = word

/-- A test from its three words. -/
def readTest (opening closing : String) (number : Nat) (columnWord typeWord valueWord : Word) :
    Option RowTest := do
  let column ← readColumn opening columnWord
  if typeWord = "IS".toList then
    if valueWord = ("NULL" ++ closing).toList then some (.isNull column) else none
  else
    let type ← readType typeWord
    if valueWord = ("$" ++ toString number ++ closing).toList then some (.compare column type 0)
    else none

/-- The tests of a group, whose placeholders are counted from a number on. -/
def readTests (opening : String) (number : Nat) : List Word → Option (List RowTest)
  | [column, type, value] => (readTest opening "))" number column type value).map ([·])
  | column :: type :: value :: connective :: words => do
    let test ← readTest opening ")" number column type value
    if connective = "AND".toList then
      (readTests "(" (test.nextNumber number) words).map (test :: ·)
    else
      none
  | _ => none

/-- The table and the tests of a text, or nothing when it is another text. -/
def readCount (text : String) : Option (Table × List RowTest) :=
  match text.toList.splitOn ' ' with
  | select :: count :: fromWord :: tableWord :: words =>
    if [select, count, fromWord] = ["SELECT", "COUNT(*)", "FROM"].map String.toList then do
      let table ← Table.all.find? fun table => table.quoted.toList = tableWord
      match words with
      | [] => some (table, [])
      | whereWord :: words =>
        if whereWord = "WHERE".toList then (readTests "((" 1 words).map (table, ·) else none
    else
      none
  | _ => none

/-- A column is read back from its word. -/
theorem readColumn_toString (opening : String) (column : Column) :
    readColumn opening (opening ++ column.toString).toList = some column := by
  have hfind : ∀ other : Column, decide ((opening ++ other.toString).toList =
      (opening ++ column.toString).toList) = (other.toString == column.toString) := by
    intro other
    rw [String.toList_append, String.toList_append, Bool.eq_iff_iff, decide_eq_true_eq,
      List.append_cancel_left_eq, beq_iff_eq, String.toList_inj]
  unfold readColumn
  rw [funext hfind]
  cases column <;> decide

/-- A test is read back from its words, but for its number. -/
theorem readTest_words (opening closing : String) (number : Nat) (test : RowTest) :
    ∃ column type value, test.words opening closing number = [column, type, value] ∧
      readTest opening closing number column type value = some test.shape := by
  cases test with
  | compare column type value =>
    refine ⟨_, _, _, rfl, ?_⟩
    have htype : type.toString.toList ≠ "IS".toList := by
      cases type <;> decide
    have hread : readType type.toString.toList = some type := by
      cases type <;> decide
    rw [readTest, readColumn_toString]
    show (if type.toString.toList = "IS".toList then _ else _) = _
    rw [if_neg htype, hread]
    simp [shape]
  | isNull column =>
    refine ⟨_, _, _, rfl, ?_⟩
    rw [readTest, readColumn_toString]
    simp [shape]

/-- The tests of a group are read back, but for their numbers. -/
theorem readTests_groupWords {tests : List RowTest} (hne : tests ≠ []) (opening : String)
    (number : Nat) :
    readTests opening number (groupWords opening number tests) = some (tests.map shape) := by
  induction tests generalizing opening number with
  | nil => exact absurd rfl hne
  | cons test tests ih =>
    cases tests with
    | nil =>
      obtain ⟨column, type, value, hwords, hread⟩ := readTest_words opening "))" number test
      rw [groupWords, hwords, readTests, hread]
      rfl
    | cons next tests =>
      obtain ⟨column, type, value, hwords, hread⟩ := readTest_words opening ")" number test
      have hnumber : test.shape.nextNumber number = test.nextNumber number := by
        cases test <;> rfl
      rw [groupWords, hwords]
      show readTests opening number (column :: type :: value :: "AND".toList ::
        groupWords "(" (test.nextNumber number) (next :: tests)) = _
      rw [readTests, hread]
      simp [hnumber, ih (List.cons_ne_nil _ _)]

/-- No word has a blank in it. -/
theorem blank_notMem_words (opening closing : String) (hopening : ' ' ∉ opening.toList)
    (hclosing : ' ' ∉ closing.toList) (number : Nat) (test : RowTest) :
    ∀ word ∈ test.words opening closing number, ' ' ∉ word := by
  have hcolumn : ∀ column : Column, ' ' ∉ column.toString.toList := by
    intro column
    cases column <;> decide
  have hnumber : ' ' ∉ (toString number).toList := by
    rw [Nat.toString_eq_repr, Nat.toList_repr]
    intro hmem
    exact absurd (Nat.isDigit_of_mem_toDigits (by decide) (by decide) hmem) (by decide)
  cases test with
  | compare column type value =>
    have htype : ' ' ∉ type.toString.toList := by
      cases type <;> decide
    intro word hword
    rcases List.mem_cons.mp hword with rfl | hword
    · simp [hopening, hcolumn column]
    · rcases List.mem_cons.mp hword with rfl | hword
      · exact htype
      · rw [List.mem_singleton.mp hword]
        simpa [hclosing] using hnumber
  | isNull column =>
    intro word hword
    rcases List.mem_cons.mp hword with rfl | hword
    · simp [hopening, hcolumn column]
    · rcases List.mem_cons.mp hword with rfl | hword
      · decide
      · rw [List.mem_singleton.mp hword]
        simp [hclosing]

/-- No word of a group has a blank in it. -/
theorem blank_notMem_groupWords (opening : String) (hopening : ' ' ∉ opening.toList)
    (number : Nat) (tests : List RowTest) :
    ∀ word ∈ groupWords opening number tests, ' ' ∉ word := by
  induction tests generalizing opening number with
  | nil => simp [groupWords]
  | cons test tests ih =>
    cases tests with
    | nil => exact blank_notMem_words opening "))" hopening (by decide) number test
    | cons next tests =>
      intro word hword
      rw [groupWords, List.mem_append, List.mem_cons] at hword
      rcases hword with hword | rfl | hword
      · exact blank_notMem_words opening ")" hopening (by decide) number test word hword
      · decide
      · exact ih "(" (by decide) _ word hword

/-- The name of a table is read back. -/
theorem find_quoted {table : Table} (h : table ≠ .invalid) :
    (Table.all.find? fun other => other.quoted.toList = table.quoted.toList) = some table ∧
      ' ' ∉ table.quoted.toList := by
  cases table with
  | invalid => exact absurd rfl h
  | _ => exact ⟨by decide, by decide⟩

/-- The words of a text that counts. -/
def countWords (table : Table) (tests : List RowTest) : List Word :=
  ["SELECT", "COUNT(*)", "FROM", table.quoted].map String.toList ++
    if tests.isEmpty then [] else "WHERE".toList :: groupWords "((" 1 tests

/-- The text is that of its words. -/
theorem toList_countText {table : Table} {tests : List RowTest}
    (h : ∀ test ∈ tests, test.writable = true) :
    ∃ text, countText table tests = .ok text ∧
      text.toList = [' '].intercalate (countWords table tests) := by
  unfold countText countWords
  cases tests with
  | nil => exact ⟨_, rfl, by simp [List.intercalate_cons_cons]⟩
  | cons test tests =>
    obtain ⟨text, number, htext, hwords⟩ :=
      toString_groupConditions (List.cons_ne_nil test tests) h 1
    have hopening : (sql "(" : QueryText) ⟨1⟩ = .ok ("(", ⟨1⟩) := rfl
    have hcheck : queryCheck true "Empty group conditions don't make sense" ⟨1⟩ =
        .ok ("", ⟨1⟩) := rfl
    have hgroup : (RowTest.group (test :: tests)).toString {} =
        .ok ("" ++ ("(" ++ text), ⟨number⟩) :=
      Serializer.append_of_ok hcheck (Serializer.append_of_ok hopening htext)
    have hne := groupWords_ne_nil (List.cons_ne_nil test tests) "((" 1
    refine ⟨_, by rw [hgroup]; rfl, ?_⟩
    simp only [List.isEmpty_cons, Bool.false_eq_true, if_false]
    rw [intercalate_append (by simp) (List.cons_ne_nil _ _),
      List.intercalate_cons_of_ne_nil hne, ← intercalate_groupWords_cons (List.cons_ne_nil _ _),
      ← hwords]
    simp [List.intercalate_cons_cons]

/-- A text that counts is read back, but for the numbers, which are no part of it. -/
theorem readCount_countText {table : Table} (htable : table ≠ .invalid) {tests : List RowTest}
    (h : ∀ test ∈ tests, test.writable = true) :
    ∃ text, countText table tests = .ok text ∧
      readCount text = some (table, tests.map shape) := by
  obtain ⟨text, htext, hwords⟩ := toList_countText h
  obtain ⟨hfind, hblank⟩ := find_quoted htable
  refine ⟨text, htext, ?_⟩
  have hsplit : text.toList.splitOn ' ' = countWords table tests := by
    rw [hwords]
    refine List.splitOn_intercalate ' ' ?_ (by simp [countWords])
    intro word hword
    rcases List.mem_append.mp hword with hword | hword
    · simp only [List.map_cons, List.map_nil, List.mem_cons, List.not_mem_nil, or_false] at hword
      rcases hword with rfl | rfl | rfl | rfl
      · decide
      · decide
      · decide
      · exact hblank
    · split at hword
      · cases hword
      · rcases List.mem_cons.mp hword with rfl | hword
        · decide
        · exact blank_notMem_groupWords "((" (by decide) 1 tests word hword
  have hkeywords : ["SELECT".toList, "COUNT(*)".toList, "FROM".toList] =
      ["SELECT", "COUNT(*)", "FROM"].map String.toList := rfl
  unfold readCount
  rw [hsplit]
  show (if ["SELECT".toList, "COUNT(*)".toList, "FROM".toList] =
    ["SELECT", "COUNT(*)", "FROM"].map String.toList then _ else none) = _
  rw [if_pos hkeywords, hfind]
  cases tests with
  | nil => rfl
  | cons test tests =>
    show (readTests "((" 1 (groupWords "((" 1 (test :: tests))).map (table, ·) = _
    rw [readTests_groupWords (List.cons_ne_nil test tests)]
    rfl

/-! ## Answers of the database -/

/-- The answer to `SELECT COUNT(*)` with some tests. -/
def countRows (table : Table) (tests : List RowTest) (params : List (Option String))
    (tables : Tables) : Except Exception Rows := do
  let predicate ← bindWhereBy (columnType table)
    (if tests.isEmpty then none else some (RowTest.group tests)) params
  return [[some (toString ((tables table).filter predicate.selects).length)]]

/-- What the database answers to a statement, and the tables after it. -/
def answer (choices : Choices) (statement : Statement) (tables : Tables) :
    Except Exception (Rows × Tables) :=
  match statement.options with
  | .select options =>
    if options.columns.isEmpty then
      (execute choices statement tables).map fun (rows, _) => (rows, tables)
    else
      (read choices options statement.params tables).map (·, tables)
  | .raw options =>
    match readCount options.parametrizedQuery with
    | some (table, tests) => (countRows table tests statement.params tables).map (·, tables)
    | none => .ok (choices.answer, tables)
  | _ =>
    (execute choices statement tables).map fun (rows, writes) =>
      (rows, applyAll schema writes tables)

/-- The database while nothing disturbs a transaction: every commit succeeds. -/
def quietDatabase (choices : Nat → Choices) : Database Tables where
  answers clock := answer (choices clock)
  commit _ _ := .committed

/-- Rows are found in the order in which they are stored. -/
def storedOrder : Choices where
  identity _ index := (index + 1 : Nat)
  identity_pos _ index := by omega
  arrange := id
  arrange_perm rows := .refl rows
  answer := []

/-- A `SELECT` of named columns is read. -/
theorem answer_select (choices : Choices) {options : SelectOptions} (h : options.columns ≠ [])
    (params : List (Option String)) (tables : Tables) :
    answer choices ⟨.select options, params⟩ tables =
      (read choices options params tables).map (·, tables) := by
  have hempty : ¬ options.columns.isEmpty = true := by
    simpa using h
  show (if options.columns.isEmpty then _ else _) = _
  rw [if_neg hempty]

/-- Statements on one table are answered as `Sql` says. -/
theorem answers_of_answer {choices : Choices} {statement : Statement} {tables tables' : Tables}
    {rows : Rows} (hraw : statement.options.getIdentificator ≠ .raw)
    (hjoins : ∀ options, statement.options = .select options → options.joins = [])
    (h : answer choices statement tables = .ok (rows, tables')) :
    Answers tables statement rows tables' := by
  obtain ⟨options, params⟩ := statement
  have hwritten : (execute choices ⟨options, params⟩ tables).map (fun (rows, writes) =>
      (rows, applyAll schema writes tables)) = .ok (rows, tables') →
      Answers tables ⟨options, params⟩ rows tables' := by
    intro hexecute
    rcases hperformed : execute choices ⟨options, params⟩ tables with _ | ⟨rows', writes⟩
    · rw [hperformed] at hexecute
      cases hexecute
    · rw [hperformed] at hexecute
      cases hexecute
      exact ⟨choices, writes, hperformed, rfl⟩
  cases options with
  | raw options => exact absurd rfl hraw
  | insert options | update options | delete options => exact hwritten h
  | select options =>
    have hjoinsNil := hjoins options rfl
    -- A `SELECT` writes nothing, so nothing has to be accepted.
    have hexecute : execute choices ⟨.select options, params⟩ tables =
        (select choices options params tables).map fun rows => (rows, []) := by
      unfold execute perform
      dsimp only
      rw [hjoinsNil, List.isEmpty_nil, if_pos rfl]
      cases select choices options params tables with
      | error exception => rfl
      | ok rows =>
        have haccepts : accepts schema [] tables = true := by
          simp [accepts, checkAll]
        simp [Bind.bind, Except.bind, Except.map, haccepts, pure, Except.pure]
    apply hwritten
    rw [hexecute]
    by_cases hcolumns : options.columns = []
    · have hanswer : answer choices ⟨.select options, params⟩ tables =
          (execute choices ⟨.select options, params⟩ tables).map fun (rows, _) =>
            (rows, tables) := by
        show (if options.columns.isEmpty then _ else _) = _
        rw [hcolumns, List.isEmpty_nil, if_pos rfl]
      rw [hanswer, hexecute] at h
      rw [← h]
      cases select choices options params tables <;> rfl
    · rw [answer_select choices hcolumns, read_eq_select hjoinsNil hcolumns] at h
      rw [← h]
      cases select choices options params tables <;> rfl

/-- A text that counts is answered by the number of rows that pass the tests. -/
theorem answer_countText (choices : Choices) {table : Table} (htable : table ≠ .invalid)
    {tests : List RowTest} (h : ∀ test ∈ tests, test.writable = true) (tables : Tables) :
    ∃ text, countText table tests = .ok text ∧
      answer choices ⟨.raw ⟨text⟩, tests.flatMap RowTest.params⟩ tables =
        (if tests.isEmpty then .ok (.and []) else RowTest.bindAll (columnType table) tests).map
          fun predicate =>
            ([[some (toString ((tables table).filter predicate.selects).length)]], tables) := by
  obtain ⟨text, htext, hread⟩ := readCount_countText htable h
  refine ⟨text, htext, ?_⟩
  have hbind : bindWhereBy (columnType table)
      (if (tests.map RowTest.shape).isEmpty then none
        else some (RowTest.group (tests.map RowTest.shape))) (tests.flatMap RowTest.params) =
      if tests.isEmpty then .ok (.and []) else RowTest.bindAll (columnType table) tests := by
    cases tests with
    | nil => rfl
    | cons test tests => exact RowTest.bindWhereBy_shapes (columnType table) (test :: tests)
  unfold answer
  dsimp only
  rw [hread]
  dsimp only
  rw [countRows, hbind]
  cases (if tests.isEmpty then .ok (.and []) else RowTest.bindAll (columnType table) tests :
    Except Exception (Predicate Column)) <;> rfl

end Srv.Db.Sql
