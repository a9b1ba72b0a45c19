import WarehouseAccounting.TaskManager.StockPointwise

/-!
# The statement that creates products

What is stored of the parameters of an insertion, and when the statement of
`Product::InsertsEntry` is answered while nothing disturbs the transaction.

- `quiet_insert_iff`: an insertion is answered when it can be performed and its writes are
  accepted.
- `Product.quiet_insertProducts`: new products are inserted unless a name is the text of null or a
  color has more than four bytes.
-/

namespace TaskMgr.Tasks

open Ufa Srv.Db Srv.Db.Trsct Srv.Db.Sql Srv.Db.DbMgr.Scpts Relational

/-! ## Parameters -/

/-- A collected text as a parameter. -/
def parameterOf (text : String) : Option String :=
  if text = "NULL" then none else some text

/-- What is stored of a text that is bound: the text of null is no text. -/
def storedText (text : String) : Option Value :=
  (parameterOf text).map .text

/-- A text is stored unless it is the text of null. -/
theorem isSome_storedText {text : String} : (storedText text).isSome = true ↔ text ≠ "NULL" := by
  unfold storedText parameterOf
  split <;> simp [*]

/-- Then it is stored as it is. -/
theorem storedText_of_ne {text : String} (h : text ≠ "NULL") :
    storedText text = some (.text text) := by
  rw [storedText, parameterOf, if_neg h]
  rfl

/-- Only the text itself is stored as it. -/
theorem storedText_eq_some {text other : String} :
    storedText text = some (.text other) ↔ text ≠ "NULL" ∧ text = other := by
  by_cases htext : text = "NULL"
  · have hnone : storedText text = none :=
      Option.not_isSome_iff_eq_none.mp fun hsome => isSome_storedText.mp hsome htext
    rw [hnone]
    exact iff_of_false (fun h => by cases h) fun h => h.1 htext
  · rw [storedText_of_ne htext, Option.some.injEq, Value.text.injEq]
    exact ⟨fun h => ⟨htext, h⟩, fun h => h.2⟩

/-- So is a text that may be missing. -/
theorem bind_storedText_of_ne {text : Option String} (h : text ≠ some "NULL") :
    text.bind storedText = text.map .text := by
  cases text with
  | none => rfl
  | some text => exact storedText_of_ne fun hnull => h (by rw [hnull])

/-- What is stored of a text is a text. -/
theorem all_bind_storedText (text : Option String) :
    (text.bind storedText).all ColumnType.text.admits = true := by
  cases text with
  | none => rfl
  | some text =>
    show (storedText text).all ColumnType.text.admits = true
    unfold storedText
    cases parameterOf text <;> rfl

/-- A text is bound to a column of texts. -/
theorem bindValue_text (text : String) :
    bindValue .text (parameterOf text) = .ok (storedText text) := by
  unfold storedText parameterOf
  split <;> rfl

/-- A missing text is bound as the text of null is. -/
theorem bindValue_nullableText (text : Option String) :
    bindValue .text (parameterOf ((text.map Scalar.text).getD (.text "NULL")).toString) =
      .ok (text.bind storedText) := by
  cases text with
  | none => rfl
  | some text => exact bindValue_text text

/-- A number without a sign is bound when eight bytes with a sign hold it. -/
theorem bindValue_unsigned {value : UInt64} (h : value.toNat < 2 ^ 63) :
    bindValue .int8 (parameterOf (unsigned value).toString) =
      .ok (some (.integer value.toNat)) := by
  rw [parameterOf, unsigned, if_neg (Scalar.integer_ne_null value.toNat)]
  show bindValue .int8 (some (toString (value.toNat : Int))) = _
  rw [bindValue, ColumnType.parse_toString, if_pos ⟨by omega, by omega⟩]

/-- A number that may be missing is bound to a column of four bytes when they hold it. -/
theorem bindValue_nullableInteger {value : Option Int64} {field : Option Value} :
    bindValue .int4 (parameterOf ((value.map integer).getD (.text "NULL")).toString) =
        .ok field ↔
      (∀ number ∈ value, -2 ^ 31 ≤ number.toInt ∧ number.toInt ≤ 2 ^ 31 - 1) ∧
        field = value.map fun number => .integer number.toInt := by
  cases value with
  | none =>
    show Except.ok none = Except.ok field ↔ _
    simp [eq_comm]
  | some number =>
    rw [Option.map_some, Option.getD_some, parameterOf, integer,
      if_neg (Scalar.integer_ne_null number.toInt)]
    show bindValue .int4 (bound number) = .ok field ↔ _
    rw [bound, bindValue, ColumnType.parse_toString]
    by_cases hrange : -2 ^ 31 ≤ number.toInt ∧ number.toInt ≤ 2 ^ 31 - 1
    · rw [if_pos hrange]
      refine ⟨fun h => ⟨fun other hother => ?_, (Except.ok.inj h).symm⟩, fun h => ?_⟩
      · cases hother
        exact hrange
      · rw [h.2]
        rfl
    · rw [if_neg hrange]
      exact iff_of_false (fun h => by cases h) fun h => hrange (h.1 number rfl)

/-- The first parameter belongs to the first column. -/
theorem bindParams_cons {table : Table} {column : Column} {columns : List Column}
    {type : ColumnType} (htype : columnType table column = .ok type) {param : Option String}
    {value : Option Value} (hvalue : bindValue type param = .ok value)
    (params : List (Option String)) :
    bindParams table (column :: columns) (param :: params) =
      (bindParams table columns params).map fun result => (value :: result.1, result.2) := by
  rw [bindParams, htype, ok_bind, hvalue, ok_bind]
  cases bindParams table columns params <;> rfl

/-- The last parameter belongs to the last column. -/
theorem bindParams_singleton {table : Table} {column : Column} {type : ColumnType}
    (htype : columnType table column = .ok type) (param : Option String)
    (params : List (Option String)) :
    bindParams table [column] (param :: params) =
      (bindValue type param).map fun value => ([value], params) := by
  rw [bindParams, htype, ok_bind]
  cases bindValue type param <;> rfl

/-- The first row belongs to the first parameters. -/
theorem bindRows_succ {table : Table} {columns : List Column} {count : Nat}
    {params rest : List (Option String)} {rows : List (List (Option Value))} :
    bindRows table columns (count + 1) params = .ok (rows, rest) ↔
      ∃ fields others rows', bindParams table columns params = .ok (fields, others) ∧
        bindRows table columns count others = .ok (rows', rest) ∧ rows = fields :: rows' := by
  rw [bindRows]
  constructor
  · intro h
    obtain ⟨⟨fields, others⟩, hfields, h⟩ := bind_eq_ok.mp h
    obtain ⟨⟨rows', rest'⟩, hrows, h⟩ := bind_eq_ok.mp h
    cases h
    exact ⟨fields, others, rows', hfields, hrows, rfl⟩
  · rintro ⟨fields, others, rows', hfields, hrows, rfl⟩
    rw [hfields, ok_bind]
    dsimp only
    rw [hrows]
    rfl

/-- An insertion is answered when it can be performed and its writes are accepted. -/
theorem quiet_insert_iff {choices : Nat → Choices} {clock : Nat} {tables : Tables}
    {options : InsertOptions} {params : List (Option String)} {rows : Rows}
    {after : Nat × Tables} :
    Quiet choices (clock, tables) ⟨.insert options, params⟩ rows after ↔
      ∃ writes, perform (choices clock) ⟨.insert options, params⟩ tables = .ok (rows, writes) ∧
        accepts schema writes tables = true ∧
        after = (clock + 1, applyAll schema writes tables) := by
  obtain ⟨clock', tables'⟩ := after
  constructor
  · rintro ⟨hanswer, hclock⟩
    have hexecute : (execute (choices clock) ⟨.insert options, params⟩ tables).map
        (fun result => (result.1, applyAll schema result.2 tables)) = .ok (rows, tables') := hanswer
    obtain ⟨⟨rows', writes⟩, hexecuted, hpair⟩ := Exceptions.map_eq_ok_iff.mp hexecute
    cases hpair
    cases hclock
    obtain ⟨hperform, haccepts⟩ := execute_eq_ok.mp hexecuted
    exact ⟨writes, hperform, haccepts, rfl⟩
  · rintro ⟨writes, hperform, haccepts, hafter⟩
    rw [hafter]
    exact (quiet_of_perform QueryIdentificator.noConfusion QueryIdentificator.noConfusion hperform
      haccepts).1

/-! ## Products -/

/-- There is a row of the user. -/
def HasUser (tables : Tables) (userId : UInt64) : Prop :=
  ∃ row ∈ tables .user, row .userId = some (.integer userId.toNat)

/-- What the next numbers of a sequence have to be for a statement to insert so many rows with them:
all different, not those of rows that are there, and no more than eight bytes hold. -/
structure FreshNumbers (choices : Choices) (tables : Tables) (table : Table) (column : Column)
    (size : Nat) : Prop where
  injective : ∀ first < size, ∀ second < size,
    choices.identity table first = choices.identity table second → first = second
  le_maximum : ∀ index < size, choices.identity table index ≤ 2 ^ 63 - 1
  fresh : ∀ index < size, ∀ row ∈ tables table,
    row column ≠ some (.integer (choices.identity table index))

/-- Rows with fresh numbers have keys of their own. -/
theorem nodup_keys_numbered {choices : Choices} {tables : Tables} {table : Table} {column : Column}
    (hkey : (tableSchema table).primaryKey = [column])
    (hintegral : Integral schema tables) {size : Nat}
    (hnumbers : FreshNumbers choices tables table column size) {rows : List TableRow}
    (hsize : rows.length ≤ size) (hrows : ∀ index (hindex : index < rows.length),
      rows[index] column = some (.integer (choices.identity table index))) :
    ((tables table ++ rows).map (schema.keyOf table)).Nodup := by
  have hkeyOf : ∀ row : TableRow, schema.keyOf table row = ⟨table, [row column]⟩ := by
    intro row
    show (⟨table, (tableSchema table).primaryKey.map row⟩ : Key Table) = _
    rw [hkey]
    rfl
  rw [List.map_append, List.nodup_append]
  refine ⟨hintegral.keys_nodup table, ?_, ?_⟩
  · refine List.nodup_iff_injective_getElem.mpr fun first second hsame => ?_
    obtain ⟨first, hfirst⟩ := first
    obtain ⟨second, hsecond⟩ := second
    rw [List.length_map] at hfirst hsecond
    simp only [List.getElem_map, hkeyOf, hrows _ hfirst, hrows _ hsecond, Key.mk.injEq,
      List.cons.injEq, Option.some.injEq, Value.integer.injEq, true_and, and_true] at hsame
    exact Fin.ext (hnumbers.injective first (hfirst.trans_le hsize) second
      (hsecond.trans_le hsize) hsame)
  · rintro key hold other hnew rfl
    obtain ⟨row, hrow, rfl⟩ := List.mem_map.mp hold
    obtain ⟨new, hnew, hsame⟩ := List.mem_map.mp hnew
    obtain ⟨index, hindex, rfl⟩ := List.mem_iff_getElem.mp hnew
    rw [hkeyOf, hkeyOf, hrows index hindex] at hsame
    simp only [Key.mk.injEq, List.cons.injEq, true_and, and_true] at hsame
    exact hnumbers.fresh index (hindex.trans_le hsize) row hrow hsame.symm

/-- What is made of each of some products is made of its id and its count. -/
theorem Listed.mapM_eq_ok {products : List Product} {items : List (Int64 × Int64)}
    (h : Listed products items) {α : Type} {f : Product → Except Exception α}
    {g : Int64 × Int64 → α}
    (hf : ∀ (product : Product) (item : Int64 × Int64), product.id = some item.1 →
      product.count = some item.2 → f product = .ok (g item)) :
    products.mapM f = .ok (items.map g) := by
  rw [Exceptions.mapM_eq_ok_iff, List.forall₂_map_right_iff]
  exact h.imp fun product item hitem => hf product item hitem.1 hitem.2

namespace Product

/-- The color of a product has four bytes. -/
def ColorFits (product : Product) : Prop :=
  ∀ color ∈ product.mainColor, -2 ^ 31 ≤ color.toInt ∧ color.toInt ≤ 2 ^ 31 - 1

/-- What a request with its author and its time leaves open of a new product: the texts and the
color. -/
structure Authored (userId : UInt64) (product : Product) : Prop where
  name : product.name.isSome = true
  createdBy : product.createdBy = some userId
  createdDate : ∃ date : UInt64, product.createdDate = some date ∧ date.toNat < 2 ^ 63

/-- The values that are bound for a new product. -/
def fields (product : Product) : List (Option Value) :=
  [product.name.bind storedText, product.createdBy.map fun id => .integer id.toNat,
    product.createdDate.map fun date => .integer date.toNat, product.description.bind storedText,
    product.mainColor.map fun color => .integer color.toInt]

/-- The row of a new product. -/
def row (productId : Int) (product : Product) : TableRow
  | .productId => some (.integer productId)
  | .name => product.name.bind storedText
  | .prettyName =>
    DbMgr.Scpts.prettyName (some (.integer productId)) (product.name.bind storedText)
  | .description => product.description.bind storedText
  | .mainColor => product.mainColor.map fun color => .integer color.toInt
  | .createdDate => product.createdDate.map fun date => .integer date.toNat
  | .createdBy => product.createdBy.map fun id => .integer id.toNat
  | _ => none

/-- It is what is inserted with the values. -/
theorem insertedRow_fields (choices : Choices) (index : Nat) (product : Product) :
    insertedRow choices .product insertsOptions.columns index product.fields =
      product.row (choices.identity .product index) := by
  funext column
  cases column <;> rfl

section Insertion

variable {userId : UInt64} (huser : userId.toNat < 2 ^ 63)

include huser

/-- The parameters of a new product are bound when its color has four bytes. -/
theorem bindParams_insertsRow {product : Product} (hauthored : product.Authored userId)
    {values : ValueCollector} (hvalues : product.insertsRow = .ok values)
    {params rest : List (Option String)} {results : List (Option Value)} :
    bindParams .product insertsOptions.columns (ValueCollector.toPqxx values ++ params) =
        .ok (results, rest) ↔
      product.ColorFits ∧ results = product.fields ∧ rest = params := by
  obtain ⟨name, hname⟩ := Option.isSome_iff_exists.mp hauthored.name
  obtain ⟨date, hdate, hdateRange⟩ := hauthored.createdDate
  have hfields : product.fields = [storedText name, some (.integer userId.toNat),
      some (.integer date.toNat), product.description.bind storedText,
      product.mainColor.map fun color => .integer color.toInt] := by
    rw [fields, hname, hauthored.createdBy, hdate]
    rfl
  unfold insertsRow at hvalues
  rw [hname, hauthored.createdBy, hdate] at hvalues
  cases hvalues
  -- Only the color may be refused.
  have hbind : bindParams .product [.name, .createdBy, .createdDate, .description, .mainColor]
      (parameterOf name :: parameterOf (unsigned userId).toString ::
        parameterOf (unsigned date).toString ::
        parameterOf ((product.description.map Scalar.text).getD (.text "NULL")).toString ::
        parameterOf ((product.mainColor.map integer).getD (.text "NULL")).toString :: params) =
      (bindValue .int4 (parameterOf
        ((product.mainColor.map integer).getD (.text "NULL")).toString)).map fun color =>
          ([storedText name, some (.integer userId.toNat), some (.integer date.toNat),
            product.description.bind storedText, color], params) := by
    rw [bindParams_cons rfl (bindValue_text name), bindParams_cons rfl (bindValue_unsigned huser),
      bindParams_cons rfl (bindValue_unsigned hdateRange),
      bindParams_cons rfl (bindValue_nullableText _), bindParams_singleton rfl]
    cases bindValue .int4 (parameterOf
      ((product.mainColor.map integer).getD (.text "NULL")).toString) <;> rfl
  rw [hfields]
  refine (Eq.congr_left hbind).trans ?_
  rw [Exceptions.map_eq_ok_iff]
  constructor
  · rintro ⟨color, hcolor, hpair⟩
    cases hpair
    obtain ⟨hfits, rfl⟩ := bindValue_nullableInteger.mp hcolor
    exact ⟨hfits, rfl, rfl⟩
  · rintro ⟨hfits, rfl, rfl⟩
    exact ⟨_, bindValue_nullableInteger.mpr ⟨hfits, rfl⟩, rfl⟩

/-- The parameters of some new products are bound when their colors have four bytes. -/
theorem bindRows_insertsRow {products : List Product}
    (hauthored : ∀ product ∈ products, product.Authored userId) {values : List ValueCollector}
    (hvalues : products.mapM insertsRow = .ok values) {rows : List (List (Option Value))} :
    bindRows .product insertsOptions.columns values.length (ValueCollector.toPqxx values.flatten) =
        .ok (rows, []) ↔
      (∀ product ∈ products, product.ColorFits) ∧ rows = products.map fields := by
  have hforall := Exceptions.mapM_eq_ok_iff.mp hvalues
  clear hvalues
  induction hforall generalizing rows with
  | nil =>
    show Except.ok ([], []) = Except.ok (rows, []) ↔ _
    simp [eq_comm]
  | @cons product value products values hvalue _ ih =>
    rw [List.forall_mem_cons] at hauthored
    rw [List.length_cons, List.flatten_cons, toPqxx_append, bindRows_succ, List.forall_mem_cons,
      List.map_cons]
    constructor
    · rintro ⟨results, others, rows', hresults, hrows, rfl⟩
      obtain ⟨hfits, rfl, rfl⟩ :=
        (bindParams_insertsRow huser hauthored.1 hvalue).mp hresults
      obtain ⟨hothers, rfl⟩ := (ih hauthored.2).mp hrows
      exact ⟨⟨hfits, hothers⟩, rfl⟩
    · rintro ⟨⟨hfits, hothers⟩, rfl⟩
      exact ⟨_, _, _, (bindParams_insertsRow huser hauthored.1 hvalue).mpr ⟨hfits, rfl, rfl⟩,
        (ih hauthored.2).mpr ⟨hothers, rfl⟩, rfl⟩

/-- The rows of some new products. -/
def rows (choices : Choices) (products : List Product) : List TableRow :=
  products.mapIdx fun index product => product.row (choices.identity .product index)

/-- New products are inserted when their colors have four bytes. -/
theorem perform_insertProducts {choices : Choices} {products : List Product}
    (hauthored : ∀ product ∈ products, product.Authored userId) {values : List ValueCollector}
    (hvalues : products.mapM insertsRow = .ok values) (hne : values ≠ []) {tables : Tables}
    {answer : Rows} {writes : List (Write Table Column)} :
    perform choices ⟨.insert { insertsOptions with valuesCount := values.length },
        ValueCollector.toPqxx values.flatten⟩ tables = .ok (answer, writes) ↔
      (∀ product ∈ products, product.ColorFits) ∧
        answer = (rows choices products).map (project insertsOptions.returning) ∧
        writes = (rows choices products).map (Write.insert .product) := by
  have hwritable : (areWritable insertsOptions.table insertsOptions.columns &&
      areColumns insertsOptions.table insertsOptions.returning && values.length ≠ 0) = true := by
    rw [Bool.and_eq_true]
    exact ⟨by decide, by simpa using hne⟩
  have hrows : (products.map fields).mapIdx
      (insertedRow choices .product insertsOptions.columns) = rows choices products := by
    refine List.ext_getElem (by simp [rows]) fun index hindex hindex' => ?_
    simp only [rows, List.getElem_mapIdx, List.getElem_map]
    exact insertedRow_fields choices index _
  refine insert_eq_ok.trans ?_
  constructor
  · rintro ⟨-, results, hresults, hanswer, hwrites⟩
    obtain ⟨hfits, rfl⟩ := (bindRows_insertsRow huser hauthored hvalues).mp hresults
    refine ⟨hfits, ?_, ?_⟩
    · rw [hanswer, ← hrows]
      rfl
    · rw [hwrites, ← hrows]
      exact List.append_nil _
  · rintro ⟨hfits, rfl, rfl⟩
    refine ⟨hwritable, _, (bindRows_insertsRow huser hauthored hvalues).mpr ⟨hfits, rfl⟩, ?_, ?_⟩
    · rw [← hrows]
      rfl
    · rw [← hrows]
      exact (List.append_nil _).symm

/-- A new product conforms to the table when its name is stored and its color has four bytes. -/
theorem conforms_row {product : Product} (hauthored : product.Authored userId)
    (hname : product.name ≠ some "NULL") (hfits : product.ColorFits) {productId : Int}
    (hpositive : 0 < productId) (hmaximum : productId ≤ 2 ^ 63 - 1) :
    schema.conforms .product (product.row productId) = true := by
  obtain ⟨name, hnameSome⟩ := Option.isSome_iff_exists.mp hauthored.name
  obtain ⟨date, hdate, hdateRange⟩ := hauthored.createdDate
  have hne : name ≠ "NULL" := fun h => hname (by rw [hnameSome, h])
  have hstored : product.name.bind storedText = some (.text name) := by
    rw [hnameSome]
    exact storedText_of_ne hne
  have hcolor : (product.mainColor.map fun color => Value.integer color.toInt).all
      ColumnType.int4.admits = true := by
    cases hmainColor : product.mainColor with
    | none => rfl
    | some color => simpa [ColumnType.admits] using hfits color hmainColor
  simp only [Schema.conforms, schema, tableSchema, List.all_cons, List.all_nil, row, hstored,
    all_bind_storedText, hcolor, hauthored.createdBy, hdate, Option.map_some, Option.all_some,
    Option.isSome_some, DbMgr.Scpts.prettyName, ColumnType.admits, Bool.and_true, Bool.and_eq_true,
    decide_eq_true_eq, true_and]
  omega

/-- New products with their own numbers, and an author who is there, are accepted when their names
are stored. -/
theorem accepts_insertProducts {choices : Choices} {tables : Tables}
    (hintegral : Integral schema tables)
    {size : Nat} (hnumbers : FreshNumbers choices tables .product .productId size)
    (hauthor : HasUser tables userId) {products : List Product} (hsize : products.length ≤ size)
    (hauthored : ∀ product ∈ products, product.Authored userId)
    (hfits : ∀ product ∈ products, product.ColorFits) :
    accepts schema ((rows choices products).map (Write.insert .product)) tables = true ↔
      ∀ product ∈ products, product.name ≠ some "NULL" := by
  have hmem : ∀ row ∈ rows choices products, ∃ index < size, ∃ product ∈ products,
      row = product.row (choices.identity .product index) := by
    intro row hrow
    obtain ⟨index, hindex, rfl⟩ := List.mem_mapIdx.mp hrow
    exact ⟨index, hindex.trans_le hsize, _, List.getElem_mem hindex, rfl⟩
  constructor
  · intro haccepts product hproduct hname
    rw [accepts, Bool.and_eq_true] at haccepts
    obtain ⟨index, hindex, rfl⟩ := List.mem_iff_getElem.mp hproduct
    -- The row has no name, which its column requires.
    have hrow : (products[index]).row (choices.identity .product index) ∈
        applyAll schema ((rows choices products).map (Write.insert .product)) tables .product := by
      rw [applyAll_insert, if_pos rfl]
      exact List.mem_append_right _ (List.mem_mapIdx.mpr ⟨index, hindex, rfl⟩)
    have hconforms := (hintegral.applyAll haccepts.1).conforms .product _ hrow
    rw [Schema.conforms, Bool.and_eq_true, List.all_eq_true (l := _)] at hconforms
    have hrequired := List.all_eq_true.mp hconforms.2 .name (by decide)
    rw [row, hname] at hrequired
    cases hrequired
  · intro hnames
    refine accepts_insertAll rfl (fun row hrow => ?_) ?_ fun row hrow => ?_
    · obtain ⟨index, hindex, product, hproduct, rfl⟩ := hmem row hrow
      exact conforms_row huser (hauthored product hproduct) (hnames product hproduct)
        (hfits product hproduct) (choices.identity_pos _ _) (hnumbers.le_maximum _ hindex)
    · refine nodup_keys_numbered rfl hintegral hnumbers (by simpa [rows] using hsize)
        fun index hindex => ?_
      exact congrFun List.getElem_mapIdx Column.productId
    · obtain ⟨index, -, product, hproduct, rfl⟩ := hmem row hrow
      obtain ⟨user, huserRow, huserId⟩ := hauthor
      have hcreatedBy := (hauthored product hproduct).createdBy
      simp only [Schema.parentsExist, schema, tableSchema, createdByReference, List.all_cons,
        List.all_nil, Bool.and_true, row, hcreatedBy, Option.map_some, applyAll_insert,
        reduceCtorEq, if_false]
      exact List.any_eq_true.mpr ⟨user, huserRow, decide_eq_true huserId⟩

/-- The statement that inserts new products is answered when their names are stored and their
colors have four bytes. -/
theorem quiet_insertProducts {choices : Nat → Choices} {clock : Nat} {tables : Tables}
    (hintegral : Integral schema tables)
    {size : Nat} (hnumbers : FreshNumbers (choices clock) tables .product .productId size)
    (hauthor : HasUser tables userId) {products : List Product} (hsize : products.length ≤ size)
    (hauthored : ∀ product ∈ products, product.Authored userId) {values : List ValueCollector}
    (hvalues : products.mapM insertsRow = .ok values) (hne : values ≠ []) {answer : Rows}
    {after : Nat × Tables} :
    Quiet choices (clock, tables)
        ⟨.insert { insertsOptions with valuesCount := values.length },
          ValueCollector.toPqxx values.flatten⟩ answer after ↔
      (∀ product ∈ products, product.ColorFits ∧ product.name ≠ some "NULL") ∧
        answer = (rows (choices clock) products).map (project insertsOptions.returning) ∧
        after = (clock + 1, applyAll schema
          ((rows (choices clock) products).map (Write.insert .product)) tables) := by
  rw [quiet_insert_iff]
  constructor
  · rintro ⟨writes, hperform, haccepts, hafter⟩
    obtain ⟨hfits, hanswer, rfl⟩ :=
      (perform_insertProducts huser hauthored hvalues hne).mp hperform
    have hnames :=
      (accepts_insertProducts huser hintegral hnumbers hauthor hsize hauthored hfits).mp
      haccepts
    exact ⟨fun product hproduct => ⟨hfits product hproduct, hnames product hproduct⟩, hanswer,
      hafter⟩
  · rintro ⟨hstorable, hanswer, hafter⟩
    have hfits : ∀ product ∈ products, product.ColorFits :=
      fun product hproduct => (hstorable product hproduct).1
    refine ⟨_, (perform_insertProducts huser hauthored hvalues hne).mpr ⟨hfits, hanswer, rfl⟩, ?_,
      hafter⟩
    exact (accepts_insertProducts huser hintegral hnumbers hauthor hsize hauthored hfits).mpr
      fun product hproduct => (hstorable product hproduct).2

end Insertion

end Product

end TaskMgr.Tasks
