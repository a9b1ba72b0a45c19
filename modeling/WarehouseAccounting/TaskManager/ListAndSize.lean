import WarehouseAccounting.TaskManager.Subjects

/-!
# Lists and sizes

When a size task and the list task of everything, asked with the same filters on the same tables,
answer the same number.

- `Subject.respond_wholeList`: the list task answers an entry for each row that it finds.
- `Subject.list_and_size_agree_iff`: the two tasks agree when all rows that pass the filters can be
  shown and counted in 32 bits, or none of the two can be done; a filter on a warehouse is one that
  only the list knows.
-/

namespace TaskMgr.Tasks

open Ufa Srv.Db Srv.Db.Trsct Srv.Db.Sql Srv.Db.DbMgr.Scpts Relational

/-- A response with the code of success. -/
theorem result_eq_success_iff {callback : Callback} :
    callback.result = .success ↔ ∃ response, callback = ⟨response, .success⟩ := by
  constructor
  · intro h
    exact ⟨callback.response, by rw [← h]⟩
  · rintro ⟨response, rfl⟩
    rfl

/-- The number in an answer is the one that was put there. -/
theorem SizeTask.json_injective : Function.Injective SizeTask.json := by
  intro count other h
  have hnumbers : Json.integer count.toInt64 = .integer other.toInt64 := by
    injection h with hmembers
    exact congrArg Prod.snd (List.cons.inj hmembers).1
  injection hnumbers with hnumbers
  refine Int32.toInt_inj.mp ?_
  rw [← Int32.toInt_toInt64, hnumbers, Int32.toInt_toInt64]

/-- The body of a request for the whole list. -/
def listBody (filters : Option Json) : Json :=
  .object (putAll [("limit", some (.integer 0)), ("offset", some (.integer 0)),
    ("filters", filters)])

/-- The body of a request for the size. -/
def sizeBody (filters : Option Json) : Json :=
  .object (putAll [("filters", filters)])

/-- Both tasks fail, or the size is the number of the entries, of which there are none when the
list is not found. -/
def Agree (list size : Callback) : Prop :=
  (list.result ≠ .success ∧ size.result ≠ .success) ∨
    ∃ count : Int32, size = ⟨SizeTask.json count, .success⟩ ∧
      ((∃ entries, list = ⟨listJson entries, .success⟩ ∧ entries.length = count.toInt) ∨
        (list.result = .notFound ∧ count = 0))

/-- The request for the whole list. -/
def wholeList (filter : Option Condition) : ListRequest :=
  { offset := 0, filter }

/-- It is parsed from its body, and the filter is that of the body of the size. -/
theorem parseInternal_listBody (dateProvider : DateProvider) (filters : Option Json) :
    ListRequest.parseInternal dateProvider (listBody filters) =
      .ok (wholeList (filterOf dateProvider (sizeBody filters))) := by
  cases filters <;> rfl

namespace Subject

variable {tables : Tables} {filter : Option Condition} {choices : Nat → Choices}

/-- The whole list selects all rows that it finds. -/
theorem selected_wholeList {subject : Subject} {choices : Choices} {rows : List TableRow} :
    selected choices (subject.listOptions (wholeList filter))
        (selectParams (subject.listOptions (wholeList filter))) tables = .ok rows ↔
      ∃ all, found (subject.listOptions (wholeList filter))
          (selectParams (subject.listOptions (wholeList filter))) tables = .ok all ∧
        rows = ordered choices (subject.listOptions (wholeList filter)) all := by
  have hlimit : (subject.listOptions (wholeList filter)).limit = none := listOptions_limit _ _
  have hoffset : (subject.listOptions (wholeList filter)).offset = some 0 :=
    listOptions_offset _ _
  have hpageExists : pageExists (subject.listOptions (wholeList filter)) = true := by
    rw [pageExists, hlimit, hoffset]
    rfl
  rw [selected_eq_ok, and_iff_right (listOptions_exist _ _), and_iff_right hpageExists]
  refine exists_congr fun all => and_congr_right' ?_
  rw [page_of_unlimited hlimit (by rw [hoffset]; rfl)]

section Whole

variable (hintegral : Integral schema tables) (choices : Nat → Choices)
  (dateProvider : DateProvider) (subject : Subject) (filter : Option Condition)

include hintegral

/-- The list task answers an entry for each row that it finds, when there are some and all can be
shown. -/
theorem respond_wholeList {rows : List TableRow}
    (hrows : found (subject.listOptions (wholeList filter))
      (selectParams (subject.listOptions (wholeList filter))) tables = .ok rows) (hne : rows ≠ [])
    (hreadable : ∀ row ∈ rows, (subject.view (wholeList filter)).readable row = true) :
    ∃ entries, (subject.listTask dateProvider (wholeList filter)).respond
        (quietDatabase choices).answers tables = ⟨listJson entries, .success⟩ ∧
      entries.length = rows.length := by
  obtain ⟨object, hlists⟩ := subject.listsRows hintegral choices dateProvider (wholeList filter)
  have hperm := ordered_perm (choices 0) (subject.listOptions (wholeList filter)) rows
  refine ⟨_, (hlists.success _).mpr ⟨_, selected_wholeList.mpr ⟨rows, hrows, rfl⟩,
    fun heq => hne ?_, fun row hrow => ?_, rfl⟩, ?_⟩
  · rw [heq] at hperm
    exact List.nil_perm.mp hperm
  · exact hreadable row (hperm.mem_iff.mp hrow)
  · rw [List.length_map, hperm.length_eq]

/-- It only succeeds so. -/
theorem found_of_respond_wholeList
    (h : ((subject.listTask dateProvider (wholeList filter)).respond
      (quietDatabase choices).answers tables).result = .success) :
    ∃ rows, found (subject.listOptions (wholeList filter))
        (selectParams (subject.listOptions (wholeList filter))) tables = .ok rows ∧
      rows ≠ [] ∧ ∀ row ∈ rows, (subject.view (wholeList filter)).readable row = true := by
  obtain ⟨object, hlists⟩ := subject.listsRows hintegral choices dateProvider (wholeList filter)
  obtain ⟨response, hresponse⟩ := result_eq_success_iff.mp h
  obtain ⟨selected, hselected, hne, hreadable, -⟩ := (hlists.success response).mp hresponse
  obtain ⟨rows, hrows, rfl⟩ := selected_wholeList.mp hselected
  have hperm := ordered_perm (choices 0) (subject.listOptions (wholeList filter)) rows
  refine ⟨rows, hrows, fun heq => hne ?_, fun row hrow => hreadable row (hperm.mem_iff.mpr hrow)⟩
  subst heq
  exact List.perm_nil.mp hperm

/-- Without rows it is not found. -/
theorem respond_wholeList_of_nil
    (h : found (subject.listOptions (wholeList filter))
      (selectParams (subject.listOptions (wholeList filter))) tables = .ok []) :
    ((subject.listTask dateProvider (wholeList filter)).respond
      (quietDatabase choices).answers tables).result = .notFound := by
  obtain ⟨object, hlists⟩ := subject.listsRows hintegral choices dateProvider (wholeList filter)
  have hnotFound := hlists.notFound fun selected hselected => by
    obtain ⟨rows, hrows, rfl⟩ := selected_wholeList.mp hselected
    cases h.symm.trans hrows
    exact List.perm_nil.mp (ordered_perm (choices 0) _ [])
  exact congrArg Callback.result hnotFound

end Whole

/-- A filter on a warehouse is none that the products alone could be asked with. -/
theorem matching_of_bringsItems {subject : Subject} (hfilter : IsGroup filter)
    (h : subject.bringsItems (wholeList filter) = true) (tables : Tables) {rows : List TableRow} :
    subject.matching filter tables ≠ .ok rows := by
  intro hrows
  cases subject with
  | product =>
    obtain ⟨condition, hcondition⟩ : ∃ condition, filter = some condition := by
      cases filter with
      | none => cases h
      | some condition => exact ⟨condition, rfl⟩
    obtain ⟨tests, rfl⟩ := hfilter condition hcondition
    subst hcondition
    have hextend := (conditionHasWarehouseId_group tests).symm.trans h
    obtain ⟨test, htest, hcolumn⟩ := List.mem_map.mp (of_decide_eq_true hextend)
    rw [matching_group] at hrows
    obtain ⟨predicate, hpredicate, -⟩ := Exceptions.map_eq_ok_iff.mp hrows
    obtain ⟨type, htype, -⟩ := (RowTest.exists_bindAll.mp ⟨predicate, hpredicate⟩).2 test htest
    rw [hcolumn] at htype
    cases htype
  | _ => cases h

/-- The rows that pass the filters are counted in 32 bits exactly when all of them can be shown;
and when the list has to bring items in, it has no rows or cannot show them. -/
def Counted (tables : Tables) (filter : Option Condition) (subject : Subject) : Prop :=
  let options := subject.listOptions (wholeList filter)
  let readable (row : TableRow) := (subject.view (wholeList filter)).readable row = true
  (∀ rows, subject.matching filter tables = .ok rows →
      (rows.length < 2 ^ 31 ↔ ∀ row ∈ rows, readable row)) ∧
    (subject.bringsItems (wholeList filter) = true → ∀ rows,
      found options (selectParams options) tables = .ok rows →
        rows = [] ∨ ∃ row ∈ rows, ¬ readable row)

/-- The list and the size agree exactly when the rows are counted so. -/
theorem agree_respond_iff (hintegral : Integral schema tables) (hfilter : IsGroup filter)
    (choices choices' : Nat → Choices) (dateProvider : DateProvider) (subject : Subject) :
    Agree
        ((subject.listTask dateProvider (wholeList filter)).respond (quietDatabase choices).answers
          tables)
        ((subject.sizeTask filter).respond (quietDatabase choices').answers tables) ↔
      subject.Counted tables filter := by
  have hsize := respond_sizeTask hfilter choices' tables subject
  have hfail : (∀ rows, subject.matching filter tables = .ok rows → 2 ^ 31 ≤ rows.length) →
      ((subject.sizeTask filter).respond (quietDatabase choices').answers tables).result ≠
        .success := by
    intro hlarge hsuccess
    obtain ⟨response, hresponse⟩ := result_eq_success_iff.mp hsuccess
    obtain ⟨rows, hrows, hfits, -⟩ := (hsize response).mp hresponse
    exact absurd hfits (Nat.not_lt.mpr (hlarge rows hrows))
  cases hmatching : subject.matching filter tables with
  | error exception =>
    -- The size task fails, so the list task has to fail, too.
    have hfails := hfail fun rows hrows => by cases hmatching.symm.trans hrows
    constructor
    · intro hagree
      refine ⟨fun rows hrows => (by cases hmatching.symm.trans hrows), fun _ rows hrows => ?_⟩
      by_contra hshown
      push Not at hshown
      obtain ⟨entries, hentries, -⟩ :=
        respond_wholeList hintegral choices dateProvider subject filter hrows hshown.1 hshown.2
      rcases hagree with ⟨hlist, -⟩ | ⟨count, hcount, -⟩
      · exact hlist (result_eq_success_iff.mpr ⟨_, hentries⟩)
      · exact hfails (result_eq_success_iff.mpr ⟨_, hcount⟩)
    · rintro ⟨-, hitems⟩
      refine .inl ⟨fun hsuccess => ?_, hfails⟩
      obtain ⟨rows, hrows, hne, hreadable⟩ :=
        found_of_respond_wholeList hintegral choices dateProvider subject filter hsuccess
      cases hbrings : subject.bringsItems (wholeList filter) with
      | false => cases hmatching.symm.trans ((found_listOptions hbrings tables).symm.trans hrows)
      | true =>
        rcases hitems hbrings rows hrows with hnil | ⟨row, hrow, hunreadable⟩
        · exact hne hnil
        · exact hunreadable (hreadable row hrow)
  | ok rows =>
    have hbrings : subject.bringsItems (wholeList filter) = false := by
      rw [← Bool.not_eq_true]
      exact fun h => matching_of_bringsItems hfilter h tables hmatching
    have hfound := (found_listOptions hbrings tables).trans hmatching
    have hcounts : rows.length < 2 ^ 31 →
        (subject.sizeTask filter).respond (quietDatabase choices').answers tables =
          ⟨SizeTask.json (Int32.ofNat rows.length), .success⟩ :=
      fun hfits => (hsize _).mpr ⟨rows, hmatching, hfits, rfl⟩
    have hlarge : ¬ rows.length < 2 ^ 31 →
        ((subject.sizeTask filter).respond (quietDatabase choices').answers tables).result ≠
          .success := by
      intro hfits
      refine hfail fun rows' hrows' => ?_
      cases hmatching.symm.trans hrows'
      exact Nat.not_lt.mp hfits
    constructor
    · intro hagree
      refine ⟨fun rows' hrows' => ?_, fun h => (by rw [hbrings] at h; cases h)⟩
      cases hmatching.symm.trans hrows'
      constructor
      · intro hfits
        rcases hagree with ⟨-, hsize⟩ | ⟨count, hcount, ⟨entries, hentries, -⟩ | ⟨-, hzero⟩⟩
        · exact absurd (result_eq_success_iff.mpr ⟨_, hcounts hfits⟩) hsize
        · obtain ⟨shown, hshown, -, hreadable⟩ := found_of_respond_wholeList hintegral choices
            dateProvider subject filter (result_eq_success_iff.mpr ⟨_, hentries⟩)
          cases hfound.symm.trans hshown
          exact hreadable
        · -- No row is counted, so there is none.
          have hjson := congrArg Callback.response ((hcounts hfits).symm.trans hcount)
          have hlength := congrArg Int32.toInt (SizeTask.json_injective hjson)
          rw [hzero, Int32.toInt_ofNat_of_lt hfits] at hlength
          have hnil : rows = [] := List.length_eq_zero_iff.mp (Int.ofNat_eq_zero.mp hlength)
          rw [hnil]
          exact List.forall_mem_nil _
      · intro hreadable
        by_contra hfits
        have hne : rows ≠ [] := by
          rintro rfl
          exact hfits (by decide)
        obtain ⟨entries, hentries, -⟩ :=
          respond_wholeList hintegral choices dateProvider subject filter hfound hne hreadable
        rcases hagree with ⟨hlist, -⟩ | ⟨count, hcount, -⟩
        · exact hlist (result_eq_success_iff.mpr ⟨_, hentries⟩)
        · exact hlarge hfits (result_eq_success_iff.mpr ⟨_, hcount⟩)
    · rintro ⟨hrows, -⟩
      by_cases hfits : rows.length < 2 ^ 31
      · refine .inr ⟨_, hcounts hfits, ?_⟩
        by_cases hnil : rows = []
        · subst hnil
          exact .inr ⟨respond_wholeList_of_nil hintegral choices dateProvider subject filter
            hfound, rfl⟩
        · obtain ⟨entries, hentries, hlength⟩ := respond_wholeList hintegral choices dateProvider
            subject filter hfound hnil ((hrows rows hmatching).mp hfits)
          exact .inl ⟨entries, hentries, by rw [hlength, Int32.toInt_ofNat_of_lt hfits]⟩
      · refine .inl ⟨fun hsuccess => ?_, hlarge hfits⟩
        obtain ⟨shown, hshown, -, hreadable⟩ :=
          found_of_respond_wholeList hintegral choices dateProvider subject filter hsuccess
        cases hfound.symm.trans hshown
        exact hfits ((hrows rows hmatching).mpr hreadable)

/-- The list and the size that are asked for with the same filters, or both without any, agree
exactly when the rows are counted so. -/
theorem list_and_size_agree_iff (hintegral : Integral schema tables)
    (choices choices' : Nat → Choices) (dateProvider : DateProvider) (subject : Subject)
    (filters : Option Json) :
    ∃ request, ListRequest.parseInternal dateProvider (listBody filters) = .ok request ∧
      (Agree
          ((subject.listTask dateProvider request).respond (quietDatabase choices).answers tables)
          ((subject.sizeTask (filterOf dateProvider (sizeBody filters))).respond
            (quietDatabase choices').answers tables) ↔
        subject.Counted tables (filterOf dateProvider (sizeBody filters))) :=
  ⟨_, parseInternal_listBody dateProvider filters,
    agree_respond_iff hintegral (isGroup_filterOf _ _) choices choices' dateProvider subject⟩

/-- Two users pass both filters, and their list and their size agree. -/
theorem list_and_size_agree_iff_createdFilters :
    let filter := filterOf numericDates (sizeBody (some createdFilters))
    let answers := (quietDatabase fun _ => storedOrder).answers
    ∃ request, ListRequest.parseInternal numericDates (listBody (some createdFilters)) =
        .ok request ∧
      ((user.sizeTask filter).respond answers threeUsers).result = .success ∧
      Agree ((user.listTask numericDates request).respond answers threeUsers)
        ((user.sizeTask filter).respond answers threeUsers) := by
  obtain ⟨request, hrequest, hagree⟩ := list_and_size_agree_iff threeUsers_integral
    (fun _ => storedOrder) (fun _ => storedOrder) numericDates user (some createdFilters)
  have hbringsNone : user.bringsItems (wholeList (filterOf numericDates
      (sizeBody (some createdFilters)))) = false := by
    decide +kernel
  refine ⟨request, hrequest, by decide +kernel,
    hagree.mpr ⟨fun rows hrows => ?_, fun hbrings => ?_⟩⟩
  · have hfound : (user.matching (filterOf numericDates (sizeBody (some createdFilters)))
        threeUsers).toOption.map (fun rows => (rows.length, rows.all (user.view (wholeList
          (filterOf numericDates (sizeBody (some createdFilters))))).readable)) =
        some (2, true) := by
      decide +kernel
    rw [hrows] at hfound
    obtain ⟨hlength, hreadable⟩ := Prod.mk.inj (Option.some.inj hfound)
    exact iff_of_true (by omega) (List.all_eq_true.mp hreadable)
  · cases hbringsNone.symm.trans hbrings

/-! ## A product in a warehouse -/

/-- A product. -/
def shelfProduct : TableRow
  | .productId => some (.integer 7)
  | .name => some (.text "bolt")
  | .prettyName => some (.text "7_bolt")
  | .createdDate => some (.integer 0)
  | .createdBy => some (.integer 1)
  | _ => none

/-- Four of it in a warehouse. -/
def shelfItem : TableRow
  | .warehouseId => some (.integer 1)
  | .productId => some (.integer 7)
  | .count => some (.integer 4)
  | _ => none

/-- The tables with this product and this item. -/
def shelfTables : Tables
  | .product => [shelfProduct]
  | .warehouseItem => [shelfItem]
  | _ => []

/-- They meet the constraints. -/
theorem shelfTables_integral : Integral schema shelfTables where
  conforms := by
    intro table row hrow
    cases table <;> simp only [shelfTables, List.not_mem_nil, List.mem_singleton] at hrow <;>
      subst hrow <;> decide
  keys_nodup := by
    intro table
    cases table <;> simp [shelfTables]

/-- The list of the products in the warehouse has an entry, and their number cannot be asked
for. -/
theorem not_agree_productsInWarehouse :
    let filters := some (.array [equalFilter "warehouse_id" 1])
    ∃ request, ListRequest.parseInternal numericDates (listBody filters) = .ok request ∧
      ¬ Agree
          ((product.listTask numericDates request).respond
            (quietDatabase fun _ => storedOrder).answers shelfTables)
          ((product.sizeTask (filterOf numericDates (sizeBody filters))).respond
            (quietDatabase fun _ => storedOrder).answers shelfTables) := by
  intro filters
  refine ⟨_, parseInternal_listBody numericDates filters, fun hagree => ?_⟩
  have hcounted := (agree_respond_iff shelfTables_integral (isGroup_filterOf _ _) _ _ numericDates
    product).mp hagree
  have hfilter : filterOf numericDates (sizeBody filters) =
      some (RowTest.group [.compare .warehouseId .equal 1]) := by
    rfl
  rw [hfilter] at hcounted
  have hfound : found (product.listOptions (wholeList
        (some (RowTest.group [.compare .warehouseId .equal 1]))))
      (selectParams (product.listOptions (wholeList
        (some (RowTest.group [.compare .warehouseId .equal 1]))))) shelfTables =
      .ok [GetProductList.joined shelfProduct shelfItem] := by
    refine found_eq_ok.mpr ⟨rfl, .and [.compare .warehouseId .equal (some (.integer 1))], ?_, ?_⟩
    · rfl
    · show _ = List.filter _ (fromRows shelfTables (GetProductList.options _))
      rw [GetProductList.fromRows_of_extendWarehouse (by decide)]
      rfl
  rcases hcounted.2 (by decide) _ hfound with hnil | ⟨row, hrow, hunreadable⟩
  · cases hnil
  · cases List.mem_singleton.mp hrow
    revert hunreadable
    decide

end Subject

end TaskMgr.Tasks
