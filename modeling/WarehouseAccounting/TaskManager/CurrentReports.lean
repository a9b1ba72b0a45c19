import WarehouseAccounting.TaskManager.PeriodReports
import WarehouseAccounting.TaskManager.StockLedger
import WarehouseAccounting.TaskManager.StockPointwise

/-!
# Reports on the current stock

What `ReportsCurrent` answers: the products of the warehouse in the order of their ids, with the
counts of its rows in `Warehouse_Item`.

- `Product.figures_of_selectEntry`: the statement for the products keeps ids and counts.
- `ReportsCurrent.shown_of_respond`: the rows of `Warehouse_Item` that an answer shows.
- `ReportsCurrent.shows_ledger`: after requests that take no more than is stored, these are the
  counts of the ledger.
-/

namespace TaskMgr.Tasks

open Ufa Srv.Db Srv.Db.Trsct Srv.Db.Sql Srv.Db.DbMgr.Scpts Relational

/-! ## Ordered maps -/

section Maps

variable {α β : Type}

/-- The keys of the map ascend. -/
def Ascending (map : List (Int64 × α)) : Prop :=
  map.Pairwise fun first second => first.1 < second.1

/-- A function of the values can be applied after an assignment, or before it. -/
theorem map_mapAssign (f : α → β) (key : Int64) (value : α) (map : List (Int64 × α)) :
    (mapAssign key value map).map (Prod.map id f) =
      mapAssign key (f value) (map.map (Prod.map id f)) := by
  induction map with
  | nil => rfl
  | cons first map ih =>
    obtain ⟨key', value'⟩ := first
    rw [mapAssign, List.map_cons, Prod.map_apply, id, mapAssign]
    split
    · rfl
    · split
      · rfl
      · rw [List.map_cons, ih]
        rfl

/-- The keys after an assignment. -/
theorem mem_keys_mapAssign {key other : Int64} {value : α} {map : List (Int64 × α)} :
    other ∈ (mapAssign key value map).map Prod.fst ↔ other = key ∨ other ∈ map.map Prod.fst := by
  induction map with
  | nil => simp [mapAssign]
  | cons first map ih =>
    obtain ⟨key', value'⟩ := first
    rw [mapAssign]
    split
    · rename_i hkey
      subst hkey
      simp
    · split
      · simp
      · rw [List.map_cons, List.mem_cons, ih, List.map_cons, List.mem_cons]
        exact or_left_comm

/-- An assignment keeps the order of the keys. -/
theorem Ascending.mapAssign {key : Int64} {value : α} {map : List (Int64 × α)} (h : Ascending map) :
    Ascending (mapAssign key value map) := by
  induction map with
  | nil => exact List.pairwise_singleton _ _
  | cons first map ih =>
    obtain ⟨key', value'⟩ := first
    obtain ⟨hfirst, hrest⟩ := List.pairwise_cons.mp h
    rw [TaskMgr.Tasks.mapAssign]
    split
    · -- The value is replaced.
      rename_i hkey
      subst hkey
      exact List.pairwise_cons.mpr ⟨hfirst, hrest⟩
    · rename_i hne
      split
      · rename_i hless
        refine List.pairwise_cons.mpr ⟨fun other hother => ?_, h⟩
        rcases List.mem_cons.mp hother with rfl | hother
        · exact hless
        · exact Int64.lt_trans hless (hfirst other hother)
      · rename_i hnot
        refine List.pairwise_cons.mpr ⟨fun other hother => ?_, ih hrest⟩
        rcases mem_keys_mapAssign.mp (List.mem_map_of_mem hother) with hkey | hother'
        · rw [hkey, Int64.lt_iff_toInt_lt]
          rw [Int64.lt_iff_toInt_lt] at hnot
          have hdifferent : key.toInt ≠ key'.toInt := fun heq => hne (Int64.toInt_inj.mp heq)
          show key'.toInt < key.toInt
          omega
        · obtain ⟨entry, hentry, heq⟩ := List.mem_map.mp hother'
          rw [← heq]
          exact hfirst entry hentry

/-- A new key is added. -/
theorem mapAssign_perm {key : Int64} (value : α) {map : List (Int64 × α)}
    (h : key ∉ map.map Prod.fst) : (mapAssign key value map).Perm ((key, value) :: map) := by
  induction map with
  | nil => exact .refl _
  | cons first map ih =>
    obtain ⟨key', value'⟩ := first
    rw [List.map_cons, List.mem_cons, not_or] at h
    rw [mapAssign, if_neg h.1]
    split
    · exact .refl _
    · exact ((ih h.2).cons _).trans (.swap _ _ _)

/-- What is there can be assigned again. -/
theorem mapAssign_of_mem {key : Int64} {value : α} {map : List (Int64 × α)} (h : Ascending map)
    (hmem : (key, value) ∈ map) : mapAssign key value map = map := by
  induction map with
  | nil => cases hmem
  | cons first map ih =>
    obtain ⟨key', value'⟩ := first
    obtain ⟨hfirst, hrest⟩ := List.pairwise_cons.mp h
    rcases List.mem_cons.mp hmem with heq | hmem
    · cases heq
      rw [mapAssign, if_pos rfl]
    · have hless : key'.toInt < key.toInt := Int64.lt_iff_toInt_lt.mp (hfirst _ hmem)
      have hne : key ≠ key' := by
        rintro rfl
        omega
      have hnot : ¬ key < key' := by
        rw [Int64.lt_iff_toInt_lt]
        omega
      rw [mapAssign, if_neg hne, if_neg hnot, ih hrest hmem]

/-- What is looked up in the map is in it. -/
theorem mem_of_lookup {key : Int64} {value : α} {map : List (Int64 × α)}
    (h : map.lookup key = some value) : (key, value) ∈ map := by
  induction map with
  | nil => cases h
  | cons first map ih =>
    rw [Json.lookup_cons_ite] at h
    split at h
    · rename_i hkey
      cases h
      rw [hkey]
      exact List.mem_cons_self ..
    · exact List.mem_cons_of_mem _ (ih h)

/-- A key that is there has a value. -/
theorem mapAt_mem (fallback : α) {key : Int64} {map : List (Int64 × α)}
    (h : key ∈ map.map Prod.fst) : (key, mapAt fallback key map) ∈ map := by
  rcases hlookup : map.lookup key with _ | value
  · refine absurd (List.lookup_eq_none_iff.mp hlookup) ?_
    obtain ⟨entry, hentry, rfl⟩ := List.mem_map.mp h
    intro hnone
    simpa using hnone entry hentry
  · rw [mapAt, hlookup]
    exact mem_of_lookup hlookup

/-- Different keys that are assigned to a map, in whatever order. -/
theorem foldl_mapAssign {entries map : List (Int64 × α)} (h : Ascending map)
    (hnodup : ((map ++ entries).map Prod.fst).Nodup) :
    Ascending (entries.foldl (fun map entry => mapAssign entry.1 entry.2 map) map) ∧
      (entries.foldl (fun map entry => mapAssign entry.1 entry.2 map) map).Perm
        (map ++ entries) := by
  induction entries generalizing map with
  | nil =>
    rw [List.append_nil]
    exact ⟨h, .refl _⟩
  | cons entry entries ih =>
    have hnew : entry.1 ∉ map.map Prod.fst := by
      rw [List.map_append, List.nodup_append] at hnodup
      exact fun hmem => hnodup.2.2 _ hmem _ (List.mem_map_of_mem (List.mem_cons_self ..)) rfl
    have hperm := mapAssign_perm entry.2 hnew
    have hall : (mapAssign entry.1 entry.2 map ++ entries).Perm (map ++ entry :: entries) :=
      (hperm.append_right entries).trans List.perm_middle.symm
    obtain ⟨hascending, hrest⟩ := ih h.mapAssign ((hall.map Prod.fst).nodup_iff.mpr hnodup)
    exact ⟨hascending, hrest.trans hall⟩

end Maps

/-! ## Figures of products -/

/-- The ids and counts under the keys of a map. -/
def figures (products : List (Int64 × Product)) : List (Int64 × Option Int64 × Option Int64) :=
  products.map (Prod.map id fun product => (product.id, product.count))

/-- The figures are in the order of the products. -/
theorem ascending_figures {products : List (Int64 × Product)} :
    Ascending (figures products) ↔ Ascending products :=
  List.pairwise_map

/-- Each product of the map is under its id. -/
def UnderIds (products : List (Int64 × Product)) : Prop :=
  ∀ entry ∈ figures products, entry.2.1 = some entry.1

/-- The row of a product fills it in, and changes no figures. -/
theorem Product.figure_of_fillFromRow {row : List (Option String)} {product filled : Product}
    {key : Int64} (hkey : (do required (← getInt64 (← fieldAt row 0))) = Except.ok key)
    (h : Product.fillFromRow row product = .ok filled) :
    filled.id = some key ∧ filled.count = product.count := by
  simp only [bind_eq_ok] at hkey
  obtain ⟨_, hfield', _, hvalue', hsome'⟩ := hkey
  simp only [Product.fillFromRow, bind_eq_ok, pure, Except.pure, Except.ok.injEq] at h
  obtain ⟨_, hfield, _, hvalue, own, hsome, _, -, _, -, _, -, _, -, _, -, _, -, _, -, _, -, _, -, _,
    -, _, -, _, -, _, -, _, -, _, -, _, -, rfl⟩ := h
  cases hfield'.symm.trans hfield
  cases hvalue'.symm.trans hvalue
  cases hsome'.symm.trans hsome
  exact ⟨rfl, rfl⟩

/-- Rows of products that are in the map change no figures. -/
theorem figures_of_filled {rows : Rows} {products products' : List (Int64 × Product)}
    (hascending : Ascending products) (hids : UnderIds products)
    (hkeys : ∀ row ∈ rows, ∀ key, (do required (← getInt64 (← fieldAt row 0))) = Except.ok key →
      key ∈ products.map Prod.fst)
    (h : rows.foldlM (fun products row => do
      let id ← required (← getInt64 (← fieldAt row 0))
      return mapAssign id (← Product.fillFromRow row (mapAt {} id products)) products) products =
        .ok products') : figures products' = figures products := by
  induction rows generalizing products with
  | nil =>
    cases h
    rfl
  | cons row rows ih =>
    rw [List.foldlM_cons] at h
    obtain ⟨middle, hmiddle, hrest⟩ := bind_eq_ok.mp h
    simp only [bind_eq_ok, pure, Except.pure, Except.ok.injEq] at hmiddle
    obtain ⟨_, hfield, _, hvalue, key, hsome, filled, hfilled, rfl⟩ := hmiddle
    have hread : (do required (← getInt64 (← fieldAt row 0))) = Except.ok key := by
      rw [hfield, ok_bind, hvalue, ok_bind, hsome]
    have hmem := mapAt_mem {} (hkeys row (List.mem_cons_self ..) key hread)
    obtain ⟨hid, hcount⟩ := Product.figure_of_fillFromRow hread hfilled
    have hfigure : (key, filled.id, filled.count) ∈ figures products := by
      have hin := List.mem_map_of_mem (f := Prod.map id fun product : Product =>
        (product.id, product.count)) hmem
      have hown : (mapAt {} key products).id = some key := hids _ hin
      rw [hid, hcount, ← hown]
      exact hin
    -- The key is there, with these figures.
    have hsame : figures (mapAssign key filled products) = figures products := by
      rw [figures, map_mapAssign]
      exact mapAssign_of_mem (ascending_figures.mpr hascending) hfigure
    have hsameKeys : (mapAssign key filled products).map Prod.fst = products.map Prod.fst := by
      have hfst : ∀ map : List (Int64 × Product),
          map.map Prod.fst = (figures map).map Prod.fst := by
        intro map
        rw [figures, List.map_map]
        rfl
      rw [hfst, hsame, ← hfst]
    rw [ih hascending.mapAssign (by rw [UnderIds, hsame]; exact hids) ?_ hrest, hsame]
    intro other hother
    rw [hsameKeys]
    exact hkeys other (List.mem_cons_of_mem _ hother)

/-- `Product::SelectEntry` changes no figures. -/
theorem Product.figures_of_selectEntry {σ : Type} {products : σ → List (Int64 × Product)}
    {setProducts : List (Int64 × Product) → σ → σ} {results : σ → Rows} {store : Rows → σ → σ}
    {choices : Nat → Choices} {tables : Tables} (hintegral : Integral schema tables) {clock : Nat}
    {after : Nat × Tables} {s s' : σ} (hascending : Ascending (products s))
    (hids : UnderIds (products s))
    (h : (Product.selectEntry products setProducts results store).RunsTo
      (Program.Clocked (quietDatabase choices).answers) (clock, tables) s after s')
    (hstore : ∀ rows s, products (store rows s) = products s ∧ results (store rows s) = rows) :
    after = (clock + 1, tables) ∧ ∃ rows filled, s' = setProducts filled (store rows s) ∧
      figures filled = figures (products s) := by
  obtain ⟨middle, t, hall, hnull⟩ := Entry.runsTo_grouped.mp h
  obtain ⟨rfl, rfl⟩ := Entry.runsTo_null.mp hnull
  obtain ⟨⟨clock', state⟩, found, hquery, hall⟩ := Entry.executesAll_cons.mp hall
  obtain ⟨middle, t, hvariable, hall⟩ := Entry.executesAll_cons.mp hall
  obtain ⟨rfl, rfl⟩ := Entry.executesAll_nil.mp hall
  have hfirst := Entry.executes_variable.mp hquery
  have hsecond := Entry.executes_variable.mp hvariable
  split at hfirst
  case isTrue => exact hfirst.elim
  rename_i hsome
  obtain ⟨rows, ⟨clock'', state'⟩, ⟨hstep, hclock⟩, hstate, rfl, -⟩ := hfirst
  cases hstate
  dsimp only at hstep hclock
  subst hclock
  have hanswer : (quietDatabase choices).answers clock
      ⟨(Product.selectQuery ((products s).map Prod.fst)).options,
        (Product.selectQuery ((products s).map Prod.fst)).params.toPqxx⟩ tables = _ :=
    answers_selectByIds choices clock rfl (by decide) (List.cons_ne_nil _ _)
      (by simpa using hsome) tables
  cases hanswer.symm.trans hstep
  unfold codeOfExcept at hsecond
  split at hsecond
  case h_2 => exact hsecond.elim
  rename_i filledState hfilled
  obtain ⟨rfl, rfl, -⟩ := hsecond
  dsimp only at hfilled
  rw [(hstore _ s).1, (hstore _ s).2] at hfilled
  split at hfilled
  case isTrue => cases hfilled
  obtain ⟨filled, hfold, hfilled⟩ := bind_eq_ok.mp hfilled
  cases hfilled
  refine ⟨rfl, _, filled, rfl, figures_of_filled hascending hids ?_ hfold⟩
  -- The rows are those of the keys.
  intro row hrow key hkey
  obtain ⟨product, hproduct, rfl⟩ := List.mem_map.mp hrow
  have hmem := ((choices clock).arrange_perm _).mem_iff.mp hproduct
  obtain ⟨hstored, hany⟩ := List.mem_filter.mp hmem
  obtain ⟨id, hid, hhas⟩ := List.any_eq_true.mp hany
  have hconforms := hintegral.conforms .product product hstored
  have htyped : TypedOn [.productId, .name, .prettyName, .description, .mainColor, .createdDate,
      .createdBy] product := typedOn_of_conforms hconforms (by decide)
  have hsomeId := isSome_of_conforms hconforms (show Column.productId ∈ _ by decide)
  rw [fieldAt_project rfl, ok_bind, getInt64_idIn htyped .productId (by decide) rfl hsomeId,
    ok_bind,
    required, Except.ok.injEq] at hkey
  rw [← hkey, (hasId_iff htyped (by decide) rfl hsomeId).mp hhas]
  exact hid

namespace ReportsCurrent

variable {F : Type}

/-! ## The rows of a warehouse -/

/-- The product and the count of a row, under the id of the product. -/
def rowFigure (row : TableRow) : Int64 × Option Int64 × Option Int64 :=
  (idIn .productId row, some (idIn .productId row), some (idIn .count row))

/-- The rows of `Warehouse_Item` are put into the map, one by one. -/
theorem figures_of_foldlM {rows : List TableRow}
    (hconforms : ∀ row ∈ rows, schema.conforms .warehouseItem row = true)
    {products products' : List (Int64 × Product)}
    (h : (rows.map (project [.productId, .count])).foldlM (fun products row => do
      let id ← required (← getInt64 (← fieldAt row 0))
      let count ← required (← getInt64 (← fieldAt row 1))
      return mapAssign id { mapAt {} id products with id := some id, count := some count }
        products) products = Except.ok products') :
    figures products' = (rows.map rowFigure).foldl (fun map entry =>
      mapAssign entry.1 entry.2 map) (figures products) := by
  induction rows generalizing products with
  | nil =>
    cases h
    rfl
  | cons row rows ih =>
    have hrow := hconforms row (List.mem_cons_self ..)
    have htyped : TypedOn [.productId, .count] row := typedOn_of_conforms hrow (by decide)
    rw [List.map_cons, List.foldlM_cons] at h
    obtain ⟨middle, hmiddle, hrest⟩ := bind_eq_ok.mp h
    rw [fieldAt_project rfl, ok_bind, getInt64_idIn htyped .productId (by decide) rfl
      (isSome_of_conforms hrow (by decide)), ok_bind, required, ok_bind, fieldAt_project rfl,
      ok_bind, getInt64_idIn htyped .count (by decide) rfl (isSome_of_conforms hrow (by decide)),
      ok_bind, required, ok_bind] at hmiddle
    cases hmiddle
    rw [ih (fun other hother => hconforms other (List.mem_cons_of_mem _ hother)) hrest,
      List.map_cons, List.foldl_cons, figures, map_mapAssign]
    rfl

section Chain

variable {choices : Nat → Choices} {tables : Tables} {clock : Nat} {after : Nat × Tables}
  {task task' : ReportsCurrent F}

/-- The rows of the warehouse in `Warehouse_Item`. -/
def itemsOf (warehouseId : Int64) (tables : Tables) : List TableRow :=
  (tables .warehouseItem).filter (hasId .warehouseId warehouseId)

/-- Each of them has another product. -/
theorem itemsOf_nodup (hintegral : Integral schema tables) (warehouseId : Int64) :
    ((itemsOf warehouseId tables).map (idIn .productId)).Nodup := by
  have hkeys := hintegral.keys_nodup .warehouseItem
  have hfiltered : ((itemsOf warehouseId tables).map (schema.keyOf .warehouseItem)).Nodup :=
    hkeys.sublist (List.filter_sublist.map _)
  refine (List.nodup_map_iff_inj_on hfiltered.of_map).mpr ?_
  intro row hrow other hother hsame
  refine (List.nodup_map_iff_inj_on hfiltered.of_map).mp hfiltered row hrow other hother ?_
  obtain ⟨hstored, hwarehouse⟩ := List.mem_filter.mp hrow
  obtain ⟨hstored', hwarehouse'⟩ := List.mem_filter.mp hother
  have hproduct : ∀ row ∈ tables .warehouseItem,
      row .productId = some (.integer (idIn .productId row).toInt) := by
    intro row hrow
    have hconforms := hintegral.conforms .warehouseItem row hrow
    have htyped : TypedOn [.productId] row := typedOn_of_conforms hconforms (by decide)
    exact eq_integer_idIn htyped (by decide) rfl (isSome_of_conforms hconforms (by decide))
  -- The key is the warehouse with the product.
  show (⟨_, [row .warehouseId, row .productId]⟩ : Key Table) =
    ⟨_, [other .warehouseId, other .productId]⟩
  rw [of_decide_eq_true hwarehouse, of_decide_eq_true hwarehouse', hproduct row hstored,
    hproduct other hstored', hsame]

/-- `WarehouseItem::SelectByWarehouse` puts the rows of the warehouse into an empty map. -/
theorem figures_of_warehouseItemEntry (hintegral : Integral schema tables) {warehouseId : Int64}
    (hempty : task.products = [])
    (h : (warehouseItemEntry warehouseId).RunsTo (Program.Clocked (quietDatabase choices).answers)
      (clock, tables) task after task') :
    after = (clock + 1, tables) ∧ task'.report = task.report ∧ Ascending task'.products ∧
      UnderIds task'.products ∧
        (figures task'.products).Perm ((itemsOf warehouseId tables).map rowFigure) := by
  obtain ⟨middle, t, hall, hnull⟩ := Entry.runsTo_grouped.mp h
  obtain ⟨rfl, rfl⟩ := Entry.runsTo_null.mp hnull
  obtain ⟨⟨clock', state⟩, found, hquery, hall⟩ := Entry.executesAll_cons.mp hall
  obtain ⟨middle, t, hvariable, hall⟩ := Entry.executesAll_cons.mp hall
  obtain ⟨rfl, rfl⟩ := Entry.executesAll_nil.mp hall
  have hfirst := Entry.executes_variable.mp hquery
  have hsecond := Entry.executes_variable.mp hvariable
  obtain ⟨rows, ⟨clock'', state'⟩, ⟨hstep, hclock⟩, hstate, rfl, -⟩ := hfirst
  cases hstate
  dsimp only at hstep hclock
  subst hclock
  have hanswer : (quietDatabase choices).answers clock
      ⟨(WarehouseItem.selectByWarehouse warehouseId).options,
        (WarehouseItem.selectByWarehouse warehouseId).params.toPqxx⟩ tables = _ :=
    answers_selectById choices clock rfl (by decide) (List.cons_ne_nil _ _) warehouseId tables
  cases hanswer.symm.trans hstep
  unfold codeOfExcept at hsecond
  split at hsecond
  case h_2 => exact hsecond.elim
  rename_i filledTask hfilled
  obtain ⟨rfl, rfl, -⟩ := hsecond
  obtain ⟨products, hfold, hproducts⟩ := bind_eq_ok.mp hfilled
  cases hproducts
  have hperm : (rowsOfId (choices clock) tables .warehouseItem .warehouseId warehouseId).Perm
      (itemsOf warehouseId tables) := (choices clock).arrange_perm _
  have hfigures := figures_of_foldlM (fun row hrow => hintegral.conforms .warehouseItem row
    (List.mem_of_mem_filter (hperm.mem_iff.mp hrow))) hfold
  rw [hempty] at hfigures
  have hkeys : (([] ++ (rowsOfId (choices clock) tables .warehouseItem .warehouseId
      warehouseId).map rowFigure).map Prod.fst).Nodup := by
    rw [List.nil_append, List.map_map]
    exact ((hperm.map _).nodup_iff).mpr (itemsOf_nodup hintegral warehouseId)
  obtain ⟨hascending, hall⟩ := foldl_mapAssign List.Pairwise.nil hkeys
  have hstored : (figures products).Perm ((itemsOf warehouseId tables).map rowFigure) := by
    rw [hfigures]
    exact hall.trans (hperm.map _)
  refine ⟨rfl, rfl, ?_, ?_, hstored⟩
  · exact ascending_figures.mp (hfigures ▸ hascending)
  · intro entry hentry
    obtain ⟨row, -, rfl⟩ := List.mem_map.mp (hstored.mem_iff.mp hentry)
    rfl

/-- The file changes no products. -/
theorem products_of_createReportFile {createFile : Report → F → Except Exception (String × F)}
    {state state' : Nat × Tables}
    (h : (Entry.variable (codeOfExcept (createReportFile createFile)) .null).RunsTo
      (Program.Clocked (quietDatabase choices).answers) state task state' task') :
    task'.products = task.products := by
  obtain ⟨middle, t, hcode, hnull⟩ := Entry.runsTo_variable.mp h
  obtain ⟨rfl, rfl⟩ := Entry.runsTo_null.mp hnull
  unfold codeOfExcept at hcode
  split at hcode
  case h_2 => exact hcode.elim
  rename_i created hcreated
  obtain ⟨rfl, rfl, -⟩ := hcode
  obtain ⟨⟨filepath, files⟩, -, hcreated⟩ := bind_eq_ok.mp hcreated
  cases hcreated
  rfl

end Chain

end ReportsCurrent

/-- `Report::InsertEntry` changes the report only. -/
theorem Report.runsTo_insertEntry {σ : Type} {report : σ → Report} {setReport : Report → σ → σ}
    {results : σ → Rows} {store : Rows → σ → σ} {step : D → Statement → Rows → D → Prop}
    {state state' : D} {s s' : σ}
    (h : (Report.insertEntry report setReport results store).RunsTo step state s state' s') :
    ∃ rows stored, s' = setReport stored (store rows s) := by
  obtain ⟨middle, t, hall, hnull⟩ := Entry.runsTo_grouped.mp h
  obtain ⟨rfl, rfl⟩ := Entry.runsTo_null.mp hnull
  obtain ⟨middle, found, hquery, hall⟩ := Entry.executesAll_cons.mp hall
  obtain ⟨middle', t, hvariable, hall⟩ := Entry.executesAll_cons.mp hall
  obtain ⟨rfl, rfl⟩ := Entry.executesAll_nil.mp hall
  have hfirst := Entry.executes_variable.mp hquery
  have hsecond := Entry.executes_variable.mp hvariable
  split at hfirst
  case h_1 => exact hfirst.elim
  obtain ⟨rows, state'', -, -, rfl, -⟩ := hfirst
  unfold codeOfExcept at hsecond
  split at hsecond
  case h_2 => exact hsecond.elim
  rename_i stored hstored
  obtain ⟨-, rfl, -⟩ := hsecond
  obtain ⟨_, -, hstored⟩ := bind_eq_ok.mp hstored
  obtain ⟨_, -, hstored⟩ := bind_eq_ok.mp hstored
  obtain ⟨_, -, hstored⟩ := bind_eq_ok.mp hstored
  cases hstored
  exact ⟨rows, _, rfl⟩

/-- A warehouse that is filled in from its rows is stored. -/
theorem Warehouse.hasWarehouse_of_fillFromRows {choices : Choices} {tables : Tables} {id : Int64}
    {columns : List Column} {warehouse filled : Warehouse}
    (h : fillFromRows ((rowsOfId choices tables .warehouse .warehouseId id).map (project columns))
      warehouse = .ok filled) : HasWarehouse tables id.toInt := by
  rcases hrows : rowsOfId choices tables .warehouse .warehouseId id with _ | ⟨row, rows⟩
  · rw [hrows] at h
    cases h
  · have hmem : row ∈ rowsOfId choices tables .warehouse .warehouseId id := by
      rw [hrows]
      exact List.mem_cons_self ..
    obtain ⟨hstored, hid⟩ := List.mem_filter.mp ((choices.arrange_perm _).mem_iff.mp hmem)
    exact ⟨row, hstored, of_decide_eq_true hid⟩

/-- The products in the answer of a report on the current stock, with their counts. -/
def reportedStock (response : Json) : List (Option Int64 × Option Int64) :=
  (arrayAt "products" response).map fun product => (numberAt "id" product, numberAt "count" product)

namespace ReportsCurrent

variable {F : Type}

/-! ## Answers -/

/-- The members of a task that was parsed from these values. -/
def parsed (initiativeUserId : UInt64) (files : F) (name : String) (description : Option String)
    (warehouseId : Int64) : ReportsCurrent F where
  report :=
    { name := some name
      description
      warehouseId := some warehouseId
      createdBy := some initiativeUserId
      reportType := some 1 }
  warehouse := { warehouseId := some warehouseId }
  files

/-- `ReportsCurrent::ParseInternal`. -/
def parseInternal (initiativeUserId : UInt64) (files : F) (json : Json) :
    Except Exception (ReportsCurrent F) := do
  let name ← Json.get Json.getString json "name"
  let description ← Json.getOptional Json.getString json "description"
  let warehouseId ← Json.get Json.getInt64 json "warehouse_id"
  return parsed initiativeUserId files name description warehouseId

/-- The object of the report shows the figures. -/
theorem reportedStock_of_json {dateProvider : DateProvider} {task : ReportsCurrent F} {json : Json}
    (h : task.json dateProvider = .ok json) :
    reportedStock json = (figures task.products).map Prod.snd := by
  simp only [ReportsCurrent.json, bind_eq_ok, required_eq_ok, pure, Except.pure,
    Except.ok.injEq] at h
  obtain ⟨reportId, -, filepath, -, createdDate, -, createdBy, -, name, -, warehouseId, -, products,
    hproducts, rfl⟩ := h
  have hshown := Exceptions.map_eq_of_mapM
    (fun product => (numberAt "id" product, numberAt "count" product))
    (fun entry : Int64 × Product => (entry.2.id, entry.2.count)) hproducts
    fun entry _ product hproduct => by
      obtain ⟨hid, hcount⟩ := Product.numbers_of_reportJson hproduct
      rw [hid, hcount]
  rw [reportedStock, arrayAt, member_putAll (by simp)]
  refine Eq.trans hshown ?_
  rw [figures, List.map_map]
  rfl

section Requests

variable {tables : Tables} (choices : Nat → Choices) (dateProvider : DateProvider)
  (createFile : Report → F → Except Exception (String × F)) (initiativeUserId : UInt64) (files : F)
  (name : String) (description : Option String) (warehouseId : Int64) {json : Json}

/-- A chain that gets to its end has collected the rows of the warehouse. -/
theorem figures_of_runsTo (hintegral : Integral schema tables) {timestamp : UInt64}
    {entry : Entry (ReportsCurrent F)} {memory task' : ReportsCurrent F} {after : Nat × Tables}
    (hchain : (parsed initiativeUserId files name description warehouseId).chain timestamp
      createFile = .ok (entry, memory))
    (h : entry.RunsTo (Program.Clocked (quietDatabase choices).answers) (0, tables) memory after
      task') :
    HasWarehouse tables warehouseId.toInt ∧ Ascending (figures task'.products) ∧
      (figures task'.products).Perm ((itemsOf warehouseId tables).map rowFigure) := by
  cases hchain
  obtain ⟨_, task₁, hwarehouse, h⟩ := (Entry.runsTo_setNext_of_last (by trivial) (by rfl)).mp h
  obtain ⟨_, task₂, hitems, h⟩ := (Entry.runsTo_setNext_of_last (by trivial) (by rfl)).mp h
  obtain ⟨_, task₃, hproducts, h⟩ := (Entry.runsTo_setNext_of_last (by trivial) (by rfl)).mp h
  obtain ⟨_, task₄, hfile, hreport⟩ := (Entry.runsTo_setNext_of_last (by trivial) (by rfl)).mp h
  obtain ⟨rfl, filled, hfound, hfilled⟩ := Warehouse.runsTo_selectEntry.mp hwarehouse
  have hstored := Warehouse.hasWarehouse_of_fillFromRows hfound
  have hempty : task₁.products = [] := by
    rw [hfilled]
    rfl
  obtain ⟨rfl, -, hascending, hids, hperm⟩ :=
    figures_of_warehouseItemEntry hintegral hempty hitems
  obtain ⟨rfl, rows, filled', rfl, hfigures⟩ :=
    Product.figures_of_selectEntry hintegral hascending hids hproducts fun _ _ => ⟨rfl, rfl⟩
  have hkept := products_of_createReportFile hfile
  obtain ⟨rows', stored, rfl⟩ := Report.runsTo_insertEntry hreport
  have hsame : figures task₄.products = figures task₂.products := by
    rw [hkept]
    exact hfigures
  show _ ∧ Ascending (figures task₄.products) ∧ (figures task₄.products).Perm _
  rw [hsame]
  exact ⟨hstored, ascending_figures.mpr hascending, hperm⟩

/-- A successful answer shows the rows of the warehouse, in the order of their products. -/
theorem shown_of_respond (hintegral : Integral schema tables)
    (h : ((parsed initiativeUserId files name description warehouseId).transactionTask dateProvider
      createFile).respond (quietDatabase choices).answers tables = ⟨json, .success⟩) :
    HasWarehouse tables warehouseId.toInt ∧
    ∃ shown : List (Int64 × Int64), reportedStock json = shown.map (Prod.map some some) ∧
      Ascending shown ∧ shown.Perm ((itemsOf warehouseId tables).map fun row =>
        (idIn .productId row, idIn .count row)) := by
  have hfinish : ∀ (exception : Exception) (memory : ReportsCurrent F) (json : Json),
      finish dateProvider exception.result memory ≠ .ok (.success, json) := by
    intro exception memory json hsuccess
    obtain ⟨page, -, hdone⟩ := bind_eq_ok.mp hsuccess
    exact finishDone_result_ne_success exception _ json hdone
  have hprepare : ((parsed initiativeUserId files name description warehouseId).transactionTask
      dateProvider createFile).prepare = .ok _ := rfl
  obtain ⟨after, task', hrun, hfinished⟩ :=
    (TransactionTask.respond_eq_success hprepare hfinish).mp h
  obtain ⟨page, -, hdone⟩ := bind_eq_ok.mp hfinished
  have hjson := reportedStock_of_json (finishDone_eq_ok.mp hdone)
  obtain ⟨hstored, hascending, hperm⟩ := figures_of_runsTo choices createFile initiativeUserId files
    name description warehouseId hintegral rfl hrun
  let pair (entry : Int64 × Option Int64 × Option Int64) : Int64 × Int64 :=
    (entry.1, entry.2.2.getD 0)
  refine ⟨hstored, (figures task'.products).map pair, ?_, List.pairwise_map.mpr hascending, ?_⟩
  · rw [hjson, List.map_map]
    refine List.map_congr_left fun entry hentry => ?_
    obtain ⟨row, -, rfl⟩ := List.mem_map.mp (hperm.mem_iff.mp hentry)
    rfl
  · refine (hperm.map pair).trans (.of_eq ?_)
    rw [List.map_map]
    rfl

/-- After requests that take no more than is stored, a successful report shows the count of each
product in the ledger, and every product whose count is not zero there. -/
theorem shows_ledger
    (hreachable : Reachable (fun request tables => ¬ request.Overdraws tables) tables)
    (h : ((parsed initiativeUserId files name description warehouseId).transactionTask dateProvider
      createFile).respond (quietDatabase choices).answers tables = ⟨json, .success⟩) :
    ∃ shown : List (Int64 × Int64), reportedStock json = shown.map (Prod.map some some) ∧
      Ascending shown ∧
      (∀ item ∈ shown, item.2.toInt = ledger tables warehouseId.toInt item.1.toInt) ∧
      ∀ productId, ledger tables warehouseId.toInt productId ≠ 0 →
        ∃ item ∈ shown, item.1.toInt = productId := by
  have hbalanced := balanced_of_reachable hreachable
  have hintegral := hbalanced.integral
  obtain ⟨⟨warehouse, hwarehouse, hid⟩, shown, hshown, hascending, hperm⟩ :=
    shown_of_respond choices dateProvider createFile initiativeUserId files name description
      warehouseId hintegral h
  have hpos := hbalanced.positive warehouse hwarehouse _ hid
  have hledger : ∀ productId, stock tables warehouseId.toInt productId =
      ledger tables warehouseId.toInt productId := by
    intro productId
    rw [stock_eq_stored hintegral, ← total_single, hbalanced.balanced, ledger_eq_total tables hpos]
  have hnumbers : ∀ row ∈ itemsOf warehouseId tables,
      isItem warehouseId.toInt (idIn .productId row).toInt row = true ∧
        countOf row = (idIn .count row).toInt := by
    intro row hrow
    obtain ⟨hstored, hid⟩ := List.mem_filter.mp hrow
    have hconforms := hintegral.conforms .warehouseItem row hstored
    have htyped : TypedOn [.productId, .count] row := typedOn_of_conforms hconforms (by decide)
    have hproduct : row .productId = some (.integer (idIn .productId row).toInt) :=
      eq_integer_idIn htyped (by decide) rfl (isSome_of_conforms hconforms (by decide))
    have hcount : row .count = some (.integer (idIn .count row).toInt) :=
      eq_integer_idIn htyped (by decide) rfl (isSome_of_conforms hconforms (by decide))
    constructor
    · rw [isItem, of_decide_eq_true hid, hproduct]
      simp
    · rw [countOf, hcount]
  refine ⟨shown, hshown, hascending, ?_, ?_⟩
  · intro item hitem
    obtain ⟨row, hrow, rfl⟩ := List.mem_map.mp (hperm.mem_iff.mp hitem)
    obtain ⟨hisItem, hcount⟩ := hnumbers row hrow
    rw [← hledger, stock, ← List.head?_filter,
      WarehouseItem.filter_isItem_eq_singleton hintegral (List.mem_of_mem_filter hrow) hisItem]
    exact hcount.symm
  · intro productId hne
    -- What is not zero is the count of a row.
    rw [← hledger, stock] at hne
    split at hne
    case h_2 => exact absurd rfl hne
    rename_i row hfound
    have hisItem := List.find?_some hfound
    rw [isItem, Bool.and_eq_true, decide_eq_true_eq, decide_eq_true_eq] at hisItem
    have hrow : row ∈ itemsOf warehouseId tables :=
      List.mem_filter.mpr ⟨List.mem_of_find?_eq_some hfound, decide_eq_true hisItem.1⟩
    refine ⟨_, hperm.mem_iff.mpr (List.mem_map_of_mem hrow), ?_⟩
    have hproduct := (hnumbers row hrow).1
    rw [isItem, Bool.and_eq_true, decide_eq_true_eq, decide_eq_true_eq, hisItem.2] at hproduct
    have hsame := hproduct.2
    simp only [Option.some.injEq, Value.integer.injEq] at hsame
    exact hsame.symm

end Requests

/-- Three tables arrive after the five chairs. -/
def threeTables : ProductsBody where
  invoiceName := some "tables"
  warehouseTo := some 1
  products := [{ name := some "table", count := some 3 }]

/-- Two of the chairs have left the warehouse again. -/
def chairsAndTables : Tables :=
  (StockRequest.productsRemove (departure 2)).perform .undisturbed
    ((StockRequest.productsCreate threeTables).perform .undisturbed fiveStored)

/-- The report on the warehouse with the chairs and the tables. -/
def chairsAndTablesReport : TransactionTask :=
  (parsed 1 () "stock" none 1).transactionTask numericDates
    fun _ files => .ok ("reports/Current/stock.html", files)

/-- Three chairs and three tables are shown, as the ledger says. -/
theorem shows_ledger_chairsAndTables :
    ∃ json, chairsAndTablesReport.respond (quietDatabase fun _ => storedOrder).answers
        chairsAndTables = ⟨json, .success⟩ ∧
      ledger chairsAndTables 1 1 = 3 ∧ ledger chairsAndTables 1 2 = 3 ∧
      ∃ shown : List (Int64 × Int64), reportedStock json = shown.map (Prod.map some some) ∧
        Ascending shown ∧
        (∀ item ∈ shown, item.2.toInt = ledger chairsAndTables 1 item.1.toInt) ∧
        ∀ productId, ledger chairsAndTables 1 productId ≠ 0 →
          ∃ item ∈ shown, item.1.toInt = productId := by
  have hreachable : Reachable (fun request tables => ¬ request.Overdraws tables)
      chairsAndTables := by
    refine .request _ _ (.request _ _ (.request _ _ (.request _ _ .initial fun h => h) fun h => h)
      fun h => h) ?_
    rintro ⟨warehouseFrom, hfrom, -, -, item, hitem, hless⟩
    cases hfrom
    cases List.mem_singleton.mp hitem
    revert hless
    decide +kernel
  have hresult : (chairsAndTablesReport.respond (quietDatabase fun _ => storedOrder).answers
      chairsAndTables).result = .success := by
    decide +kernel
  have hanswer := eq_mk_of_result hresult
  exact ⟨_, hanswer, by decide +kernel, by decide +kernel,
    shows_ledger _ numericDates _ 1 () "stock" none 1 hreachable hanswer⟩

end ReportsCurrent

end TaskMgr.Tasks
