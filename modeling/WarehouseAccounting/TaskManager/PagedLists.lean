import Mathlib.Data.Nat.Find
import WarehouseAccounting.TaskManager.MatchingRows

/-!
# Lists that are read page by page

What a client is answered that asks a list task for its pages, each of which may be read in another
order of the rows.

- `Subject.selected_page`: limit and offset are cut to 32 bits before a page is read.
- `Subject.readsAll_iff`: the pages are all rows when the starts of the pages fit in 32 bits, all
  rows can be shown, and no page ends between rows with the same id.
- `Subject.returned_eq_window_iff`: one page has the rows of its places when the two numbers survive
  the cut.
- `Subject.pageable_of_fits`: so pages of less than 2^31 rows are all rows of a list without items.
-/

namespace TaskMgr.Tasks

open Ufa Srv.Db Srv.Db.Trsct Srv.Db.Sql Srv.Db.DbMgr.Scpts Relational Paging

/-! ## Requests for pages -/

/-- The body of a request for a page. -/
def pageBody (filters : Option Json) (limit offset : Int64) : Json :=
  .object (putAll [("limit", some (.integer limit)), ("offset", some (.integer offset)),
    ("filters", filters)])

/-- The request for a page. -/
def pageRequest (filter : Option Condition) (limit offset : Int64) : ListRequest :=
  { limit := some limit, offset, filter }

/-- It is parsed from its body. -/
theorem parseInternal_pageBody (dateProvider : DateProvider) (filters : Option Json)
    {limit : Int64} (hlimit : 0 < limit) (offset : Int64) :
    ListRequest.parseInternal dateProvider (pageBody filters limit offset) =
      .ok (pageRequest (filterOf dateProvider (sizeBody filters)) limit offset) := by
  have hkept : (some limit).filter (0 < ·) = some limit := by
    rw [Option.filter_some, if_pos (decide_eq_true hlimit)]
  have hparsed : ListRequest.parseInternal dateProvider (pageBody filters limit offset) =
      .ok { limit := (some limit).filter (0 < ·), offset,
            filter := filterOf dateProvider (sizeBody filters) } := by
    cases filters <;> rfl
  rw [hparsed, hkept]
  rfl

namespace Subject

/-- The rows whose objects a list task answers: those that it selects, when it succeeds. -/
def returned (choices : Nat → Choices) (dateProvider : DateProvider) (request : ListRequest)
    (tables : Tables) (subject : Subject) : List TableRow :=
  if ((subject.listTask dateProvider request).respond (quietDatabase choices).answers
      tables).result = .success then
    (selected (choices 0) (subject.listOptions request)
      (selectParams (subject.listOptions request)) tables).toOption.getD []
  else []

section Answers

variable {tables : Tables} (hintegral : Integral schema tables) (choices : Nat → Choices)
  (dateProvider : DateProvider) (request : ListRequest) (subject : Subject)

include hintegral

/-- A list task succeeds when it has selected rows and can show all of them. -/
theorem respond_listTask_eq_success_iff :
    ((subject.listTask dateProvider request).respond (quietDatabase choices).answers
        tables).result = .success ↔
      ∃ rows, selected (choices 0) (subject.listOptions request)
          (selectParams (subject.listOptions request)) tables = .ok rows ∧ rows ≠ [] ∧
        ∀ row ∈ rows, (subject.view request).readable row = true := by
  obtain ⟨object, hlists⟩ := subject.listsRows hintegral choices dateProvider request
  rw [result_eq_success_iff]
  constructor
  · rintro ⟨response, hresponse⟩
    obtain ⟨rows, hrows, hne, hreadable, -⟩ := (hlists.success response).mp hresponse
    exact ⟨rows, hrows, hne, hreadable⟩
  · rintro ⟨rows, hrows, hne, hreadable⟩
    exact ⟨_, (hlists.success _).mpr ⟨rows, hrows, hne, hreadable, rfl⟩⟩

/-- Then it answers an object for each of the rows. -/
theorem respond_eq_returned
    (h : ((subject.listTask dateProvider request).respond (quietDatabase choices).answers
      tables).result = .success) :
    ∃ object : TableRow → Json, (subject.listTask dateProvider request).respond
        (quietDatabase choices).answers tables =
      ⟨listJson ((subject.returned choices dateProvider request tables).map object), .success⟩ := by
  obtain ⟨object, hlists⟩ := subject.listsRows hintegral choices dateProvider request
  obtain ⟨response, hresponse⟩ := result_eq_success_iff.mp h
  obtain ⟨rows, hrows, -, -, rfl⟩ := (hlists.success response).mp hresponse
  refine ⟨object rows, ?_⟩
  rw [returned, if_pos h, hrows]
  exact hresponse

/-- Without selected rows it is not found. -/
theorem respond_listTask_of_nil
    (h : ∀ rows, selected (choices 0) (subject.listOptions request)
      (selectParams (subject.listOptions request)) tables = .ok rows → rows = []) :
    ((subject.listTask dateProvider request).respond (quietDatabase choices).answers
      tables).result = .notFound := by
  obtain ⟨object, hlists⟩ := subject.listsRows hintegral choices dateProvider request
  exact congrArg Callback.result (hlists.notFound h)

end Answers

/-! ## What is selected for a page -/

section Selected

variable {tables : Tables} {filter : Option Condition} (limit offset : Int64) (subject : Subject)

/-- The rows that are found for a page are those for the whole list. -/
theorem found_pageRequest :
    found (subject.listOptions (pageRequest filter limit offset))
        (selectParams (subject.listOptions (pageRequest filter limit offset))) tables =
      found (subject.listOptions (wholeList filter))
        (selectParams (subject.listOptions (wholeList filter))) tables := by
  have hcondition : (subject.listOptions (pageRequest filter limit offset)).condition =
      (subject.listOptions (wholeList filter)).condition := by
    rw [listOptions_condition, listOptions_condition]
    rfl
  have hbrings : subject.bringsItems (pageRequest filter limit offset) =
      subject.bringsItems (wholeList filter) := by
    cases subject <;> rfl
  cases h : subject.bringsItems (wholeList filter) with
  | false => rw [found_listOptions h, found_listOptions (hbrings.trans h)]; rfl
  | true =>
    cases subject with
    | product =>
      show found (GetProductList.options _) (selectParams (GetProductList.options _)) tables =
        found (GetProductList.options _) (selectParams (GetProductList.options _)) tables
      rw [GetProductList.options_of_extendWarehouse h,
        GetProductList.options_of_extendWarehouse (hbrings.trans h)]
      rfl
    | _ => cases h

/-- What is selected for a page: the rows of some places, in their order, when neither of the two
numbers has become negative. -/
theorem selected_page {choices : Choices} {page : List TableRow} :
    selected choices (subject.listOptions (pageRequest filter limit offset))
        (selectParams (subject.listOptions (pageRequest filter limit offset))) tables = .ok page ↔
      0 ≤ limit.toInt32.toInt ∧ 0 ≤ offset.toInt32.toInt ∧
        ∃ all, found (subject.listOptions (wholeList filter))
            (selectParams (subject.listOptions (wholeList filter))) tables = .ok all ∧
          page = window offset.toInt32.toInt.toNat limit.toInt32.toInt.toNat
            (ordered choices (subject.listOptions (wholeList filter)) all) := by
  have hlimit : (subject.listOptions (pageRequest filter limit offset)).limit =
      some limit.toInt32 := listOptions_limit _ _
  have hoffset : (subject.listOptions (pageRequest filter limit offset)).offset =
      some offset.toInt32 := listOptions_offset _ _
  have hordered : ∀ all,
      ordered choices (subject.listOptions (pageRequest filter limit offset)) all =
        ordered choices (subject.listOptions (wholeList filter)) all := by
    intro all
    obtain ⟨horderBy, hasc⟩ := listOptions_orderBy (pageRequest filter limit offset) subject
    obtain ⟨horderBy', hasc'⟩ := listOptions_orderBy (wholeList filter) subject
    rw [ordered_eq_mergeSort horderBy hasc, ordered_eq_mergeSort horderBy' hasc']
  have hpage : ∀ rows,
      page = Sql.page (subject.listOptions (pageRequest filter limit offset)) rows ↔
        page = window offset.toInt32.toInt.toNat limit.toInt32.toInt.toNat rows := by
    intro rows
    rw [Sql.page, hlimit, hoffset]
    rfl
  rw [selected_eq_ok, and_iff_right (listOptions_exist _ _), found_pageRequest, pageExists, hlimit,
    hoffset, Bool.and_eq_true, decide_eq_true_eq, decide_eq_true_eq, and_assoc]
  simp only [hordered, hpage]
  rfl

end Selected

/-- The database can execute the statement of the list. -/
def Executes (filter : Option Condition) (tables : Tables) (subject : Subject) : Prop :=
  ∃ all, found (subject.listOptions (wholeList filter))
    (selectParams (subject.listOptions (wholeList filter))) tables = .ok all

/-- It can when the filters of the request can be executed. -/
theorem executes_iff (dateProvider : DateProvider) (filters : Option Json) (tables : Tables)
    (subject : Subject) :
    subject.Executes (filterOf dateProvider (sizeBody filters)) tables ↔
      Executable dateProvider (sizeBody filters)
        (scopeOf (subject.listOptions
          (wholeList (filterOf dateProvider (sizeBody filters))))) :=
  exists_found_iff (listOptions_condition _ _) (listOptions_joinsExist _ _)

/-- The rows that match, in the order in which a list task reads them. -/
noncomputable def readOrder (choices : Nat → Choices) (filter : Option Condition)
    (tables : Tables) (subject : Subject) : List TableRow :=
  ordered (choices 0) (subject.listOptions (wholeList filter))
    (subject.matchingRows filter tables)

/-- The order of the ids. -/
def before (subject : Subject) : TableRow → TableRow → Bool :=
  orderedBefore .asc subject.idColumn

/-- The row can be shown in the list. -/
def Readable (filter : Option Condition) (subject : Subject) (row : TableRow) : Prop :=
  (subject.view (wholeList filter)).readable row = true

section Orders

variable (filter : Option Condition) (tables : Tables) (subject : Subject)

/-- Rows are read in the order of their ids. -/
theorem arranges_readOrder (choices : Nat → Choices) :
    Arranges subject.before (subject.matchingRows filter tables)
      (subject.readOrder choices filter tables) :=
  arranges_ordered (listOptions_orderBy (wholeList filter) subject).1
    (listOptions_orderBy (wholeList filter) subject).2 _ _

/-- And in each such order some time. -/
theorem exists_readOrder {order : List TableRow}
    (h : Arranges subject.before (subject.matchingRows filter tables) order) :
    ∃ choices, subject.readOrder choices filter tables = order := by
  obtain ⟨choices, hchoices⟩ := exists_ordered (listOptions_orderBy (wholeList filter) subject).1
    (listOptions_orderBy (wholeList filter) subject).2 h
  exact ⟨fun _ => choices, hchoices⟩

end Orders

/-! ## What is answered to a page -/

section Pages

variable {tables : Tables} (hintegral : Integral schema tables) {filter : Option Condition}
  (hfilter : IsGroup filter) (choices : Nat → Choices) (dateProvider : DateProvider)
  (limit offset : Int64) (subject : Subject)

include hintegral hfilter

/-- A page is found when it has rows that can all be shown. -/
theorem respond_page_eq_success_iff :
    ((subject.listTask dateProvider (pageRequest filter limit offset)).respond
        (quietDatabase choices).answers tables).result = .success ↔
      subject.Executes filter tables ∧ 0 ≤ limit.toInt32.toInt ∧ 0 ≤ offset.toInt32.toInt ∧
        window offset.toInt32.toInt.toNat limit.toInt32.toInt.toNat
            (subject.readOrder choices filter tables) ≠ [] ∧
          ∀ row ∈ window offset.toInt32.toInt.toNat limit.toInt32.toInt.toNat
            (subject.readOrder choices filter tables), subject.Readable filter row := by
  rw [respond_listTask_eq_success_iff hintegral]
  simp only [selected_page]
  constructor
  · rintro ⟨page, ⟨hlimit, hoffset, all, hall, rfl⟩, hne, hreadable⟩
    cases found_eq_matchingRows hintegral hfilter hall
    exact ⟨⟨_, hall⟩, hlimit, hoffset, hne, hreadable⟩
  · rintro ⟨⟨all, hall⟩, hlimit, hoffset, hne, hreadable⟩
    cases found_eq_matchingRows hintegral hfilter hall
    exact ⟨_, ⟨hlimit, hoffset, _, hall, rfl⟩, hne, hreadable⟩

/-- Then the rows of its places are returned. -/
theorem returned_page
    (h : ((subject.listTask dateProvider (pageRequest filter limit offset)).respond
      (quietDatabase choices).answers tables).result = .success) :
    subject.returned choices dateProvider (pageRequest filter limit offset) tables =
      window offset.toInt32.toInt.toNat limit.toInt32.toInt.toNat
        (subject.readOrder choices filter tables) := by
  obtain ⟨⟨all, hall⟩, hlimit, hoffset, -, -⟩ :=
    (respond_page_eq_success_iff hintegral hfilter choices dateProvider limit offset subject).mp h
  cases found_eq_matchingRows hintegral hfilter hall
  rw [returned, if_pos h, (selected_page limit offset subject).mpr ⟨hlimit, hoffset, _, hall, rfl⟩]
  rfl

/-- A page without rows is not found, nor is one that is refused. -/
theorem respond_page_eq_notFound
    (h : subject.Executes filter tables → 0 ≤ limit.toInt32.toInt → 0 ≤ offset.toInt32.toInt →
      window offset.toInt32.toInt.toNat limit.toInt32.toInt.toNat
        (subject.readOrder choices filter tables) = []) :
    ((subject.listTask dateProvider (pageRequest filter limit offset)).respond
      (quietDatabase choices).answers tables).result = .notFound := by
  refine respond_listTask_of_nil hintegral choices dateProvider _ subject fun page hpage => ?_
  obtain ⟨hlimit, hoffset, all, hall, rfl⟩ := (selected_page limit offset subject).mp hpage
  cases found_eq_matchingRows hintegral hfilter hall
  exact h ⟨_, hall⟩ hlimit hoffset

end Pages

/-! ## The cut to 32 bits -/

/-- A place below 2^32 stays what it is or becomes negative. -/
theorem bmod_place {place : Nat} (h : place < 2 ^ 32) :
    (0 ≤ (place : Int).bmod (2 ^ 32) ↔ place < 2 ^ 31) ∧
      (place < 2 ^ 31 → (place : Int).bmod (2 ^ 32) = place) := by
  rw [Int.bmod_def]
  omega

/-- The start of a page, when the size of the pages is cut, too. -/
theorem toInt32_start {limit : Int64} (index : Nat) (h : index * limit.toInt < 2 ^ 63)
    (hlimit : 0 < limit) :
    (Int64.ofInt (index * limit.toInt)).toInt32.toInt =
      (index * limit.toInt32.toInt).bmod (2 ^ 32) := by
  have hpos : 0 ≤ index * limit.toInt :=
    Int.mul_nonneg (Int.natCast_nonneg index) (Int.le_of_lt (Int64.lt_iff_toInt_lt.mp hlimit))
  rw [Int64.toInt_toInt32, Int64.toInt_toInt32, Int64.toInt_ofInt_of_le (by omega) (by omega),
    Int.mul_bmod_bmod]

/-! ## All pages -/

/-- The answer to the request for a page of some size. -/
def pageAnswer (choices : Nat → Choices) (dateProvider : DateProvider) (filter : Option Condition)
    (size : Int64) (tables : Tables) (subject : Subject) (index : Nat) : Callback :=
  (subject.listTask dateProvider (pageRequest filter size (.ofInt (index * size.toInt)))).respond
    (quietDatabase choices).answers tables

/-- The rows that are returned for it. -/
def returnedAt (choices : Nat → Choices) (dateProvider : DateProvider) (filter : Option Condition)
    (size : Int64) (tables : Tables) (subject : Subject) (index : Nat) : List TableRow :=
  subject.returned choices dateProvider (pageRequest filter size (.ofInt (index * size.toInt)))
    tables

/-- The requests for pages, up to the one that is not found, return each row that matches once. The
starts of these pages are numbers of 64 bits. -/
def ReadsAll (choices : Nat → Nat → Choices) (dateProvider : DateProvider)
    (filter : Option Condition) (size : Int64) (tables : Tables) (subject : Subject) : Prop :=
  ∃ count : Nat, count * size.toInt < 2 ^ 63 ∧
    (∀ index < count, (subject.pageAnswer (choices index) dateProvider filter size tables
      index).result = .success) ∧
    (subject.pageAnswer (choices count) dateProvider filter size tables count).result =
      .notFound ∧
    ((List.range count).flatMap fun index => subject.returnedAt (choices index) dateProvider filter
      size tables index).Perm (subject.matchingRows filter tables)

/-- The size of the pages after the cut. -/
def cutSize (size : Int64) : Nat :=
  size.toInt32.toInt.toNat

/-- The database can execute the statement, pages have rows, all rows can be shown, the pages with
rows start below 2^31 and not between rows with the same id, and the start of the page after them is
a number of 64 bits. -/
structure Pageable (filter : Option Condition) (size : Int64) (tables : Tables)
    (subject : Subject) : Prop where
  executes : subject.Executes filter tables
  size_pos : 0 < size.toInt32.toInt
  readable : ∀ row ∈ subject.matchingRows filter tables, subject.Readable filter row
  starts : ∀ index, index * cutSize size < (subject.matchingRows filter tables).length →
    index * cutSize size < 2 ^ 31 ∧
      ¬ Splits subject.before (subject.matchingRows filter tables) (index * cutSize size)
  ends : ∃ count : Nat, (subject.matchingRows filter tables).length ≤ count * cutSize size ∧
    count * size.toInt < 2 ^ 63

section Runs

variable {tables : Tables} (hintegral : Integral schema tables) {filter : Option Condition}
  (hfilter : IsGroup filter) {dateProvider : DateProvider} {size : Int64} (hsize : 0 < size)
  {subject : Subject}

/-- The size of the pages has at most 31 bits. -/
theorem cutSize_lt (size : Int64) : cutSize size < 2 ^ 31 := by
  have hlt := Int32.toInt_lt size.toInt32
  unfold cutSize
  omega

include hsize

/-- The start of a page as a place. -/
theorem toInt32_place {index : Nat} (h : index * size.toInt < 2 ^ 63)
    (hcut : 0 ≤ size.toInt32.toInt) :
    (Int64.ofInt (index * size.toInt)).toInt32.toInt =
      ((index * cutSize size : Nat) : Int).bmod (2 ^ 32) := by
  rw [toInt32_start index h hsize, Int.natCast_mul, cutSize, Int.toNat_of_nonneg hcut]

include hintegral hfilter

/-- A page that is found starts where it should, unless its start does not fit in 32 bits. -/
theorem start_of_page {choices : Nat → Choices} {index : Nat}
    (hindex : index * size.toInt < 2 ^ 63) (hfits : index * cutSize size < 2 ^ 32)
    (h : (subject.pageAnswer choices dateProvider filter size tables index).result = .success) :
    index * cutSize size < 2 ^ 31 ∧
      index * cutSize size < (subject.matchingRows filter tables).length ∧
      subject.returnedAt choices dateProvider filter size tables index =
        window (index * cutSize size) (cutSize size)
          (subject.readOrder choices filter tables) := by
  obtain ⟨-, hlimit, hoffset, hne, -⟩ := (respond_page_eq_success_iff hintegral hfilter choices
    dateProvider size _ subject).mp h
  have hreturned := returned_page hintegral hfilter choices dateProvider size _ subject h
  have hplace := toInt32_place hsize hindex hlimit
  obtain ⟨hnonneg, heq⟩ := bmod_place hfits
  rw [hplace] at hoffset
  have hstart := hnonneg.mp hoffset
  rw [hplace, heq hstart, Int.toNat_natCast] at hne hreturned
  refine ⟨hstart, ?_, hreturned⟩
  -- There are rows from its start on.
  rw [← (arranges_readOrder filter tables subject choices).perm.length_eq]
  by_contra hlength
  refine hne ?_
  rw [window, List.drop_eq_nil_of_le (Nat.not_lt.mp hlength), List.take_nil]

/-- So do all pages that are found, one after the other. -/
theorem start_of_success {choices : Nat → Nat → Choices} {count : Nat}
    (hcount : count * size.toInt < 2 ^ 63)
    (h : ∀ index < count, (subject.pageAnswer (choices index) dateProvider filter size tables
      index).result = .success) {index : Nat} (hindex : index < count) :
    index * cutSize size < 2 ^ 31 ∧
      index * cutSize size < (subject.matchingRows filter tables).length ∧
      subject.returnedAt (choices index) dateProvider filter size tables index =
        window (index * cutSize size) (cutSize size)
          (subject.readOrder (choices index) filter tables) := by
  have hpositive := Int64.lt_iff_toInt_lt.mp hsize
  have hrequest : index * size.toInt < 2 ^ 63 :=
    Int.lt_of_le_of_lt (Int.mul_le_mul_of_nonneg_right (by omega) (Int.le_of_lt hpositive)) hcount
  refine start_of_page hintegral hfilter hsize hrequest ?_ (h index hindex)
  induction index with
  | zero => omega
  | succ index ih =>
    -- The start before it has 31 bits.
    have hprevious : index * size.toInt < 2 ^ 63 :=
      Int.lt_of_le_of_lt (Int.mul_le_mul_of_nonneg_right (by omega) (Int.le_of_lt hpositive)) hcount
    have hstart := start_of_page hintegral hfilter hsize hprevious (ih (by omega) hprevious)
      (h index (by omega))
    have hlt := cutSize_lt size
    rw [Nat.succ_mul]
    omega

/-- A page is found when it starts before the end of the rows, all of which can be shown. -/
theorem success_of_start (h : subject.Pageable filter size tables) {choices : Nat → Choices}
    {index : Nat} (hindex : index * size.toInt < 2 ^ 63)
    (hstart : index * cutSize size < (subject.matchingRows filter tables).length) :
    (subject.pageAnswer choices dateProvider filter size tables index).result = .success := by
  have hperm := (arranges_readOrder filter tables subject choices).perm
  obtain ⟨hfits, -⟩ := h.starts index hstart
  have hplace := toInt32_place hsize hindex (Int.le_of_lt h.size_pos)
  rw [(bmod_place (by omega)).2 hfits] at hplace
  refine (respond_page_eq_success_iff hintegral hfilter choices dateProvider size _ subject).mpr
    ⟨h.executes, Int.le_of_lt h.size_pos, by omega, ?_, fun row hrow => ?_⟩
  · rw [hplace, Int.toNat_natCast, window, Ne, List.take_eq_nil_iff, List.drop_eq_nil_iff,
      hperm.length_eq]
    have hpos := h.size_pos
    omega
  · have hmem := List.mem_of_mem_drop (List.mem_of_mem_take hrow)
    exact h.readable row (hperm.mem_iff.mp hmem)

omit hintegral hfilter in
/-- The number of pages that have rows. -/
theorem exists_pageCount (h : subject.Pageable filter size tables) :
    ∃ count : Nat, (subject.matchingRows filter tables).length ≤ count * cutSize size ∧
      (∀ index < count, index * cutSize size < (subject.matchingRows filter tables).length) ∧
      count * size.toInt < 2 ^ 63 := by
  obtain ⟨more, hmore, hfits⟩ := h.ends
  have hends : ∃ count : Nat,
      (subject.matchingRows filter tables).length ≤ count * cutSize size := ⟨more, hmore⟩
  refine ⟨Nat.find hends, Nat.find_spec hends,
    fun index hindex => Nat.not_le.mp (Nat.find_min hends hindex), ?_⟩
  have hle : Nat.find hends ≤ more := Nat.find_min' hends hmore
  refine Int.lt_of_le_of_lt (Int.mul_le_mul_of_nonneg_right (by omega) ?_) hfits
  exact Int.le_of_lt (Int64.lt_iff_toInt_lt.mp hsize)

/-- What is known when all rows have been read. -/
theorem spec_of_readsAll {choices : Nat → Nat → Choices}
    (h : subject.ReadsAll choices dateProvider filter size tables)
    (hne : subject.matchingRows filter tables ≠ []) :
    subject.Executes filter tables ∧ 0 < size.toInt32.toInt ∧
      (∀ row ∈ subject.matchingRows filter tables, subject.Readable filter row) ∧
      ∃ count : Nat, count * size.toInt < 2 ^ 63 ∧
        (∀ index < count, index * cutSize size < 2 ^ 31 ∧
          index * cutSize size < (subject.matchingRows filter tables).length) ∧
        (subject.matchingRows filter tables).length ≤ count * cutSize size ∧
        (pages (fun index => subject.readOrder (choices index) filter tables) (cutSize size)
          count).Perm (subject.matchingRows filter tables) := by
  obtain ⟨count, hcount, hsuccess, -, hperm⟩ := h
  have hstarts := fun (index : Nat) (hindex : index < count) =>
    start_of_success hintegral hfilter hsize hcount hsuccess hindex
  have hreturned : ((List.range count).flatMap fun index => subject.returnedAt (choices index)
      dateProvider filter size tables index) =
        pages (fun index => subject.readOrder (choices index) filter tables) (cutSize size)
          count :=
    List.flatMap_congr fun index hindex => (hstarts index (List.mem_range.mp hindex)).2.2
  have hpages := hperm
  rw [hreturned] at hpages
  have hpos : 0 < count := by
    refine Nat.pos_of_ne_zero fun hzero => hne ?_
    subst hzero
    exact List.nil_perm.mp hperm
  obtain ⟨hexecutes, hlimit, -, hfirst, -⟩ := (respond_page_eq_success_iff hintegral hfilter
    (choices 0) dateProvider size _ subject).mp (hsuccess 0 hpos)
  refine ⟨hexecutes, ?_, fun row hrow => ?_, count, hcount,
    fun index hindex => ⟨(hstarts index hindex).1, (hstarts index hindex).2.1⟩, ?_, hpages⟩
  · by_contra hzero
    have hcut : size.toInt32.toInt.toNat = 0 := by omega
    exact hfirst (by rw [hcut, window, List.take_zero])
  · -- The row has been returned on one of the pages.
    obtain ⟨index, hindex, hpage⟩ := List.mem_flatMap.mp (hperm.mem_iff.mpr hrow)
    have hfound := hsuccess index (List.mem_range.mp hindex)
    obtain ⟨-, -, -, -, hreadable⟩ := (respond_page_eq_success_iff hintegral hfilter
      (choices index) dateProvider size _ subject).mp hfound
    refine hreadable row ?_
    rw [← returned_page hintegral hfilter (choices index) dateProvider size _ subject hfound]
    exact hpage
  · rw [← hpages.length_eq]
    exact length_pages_le _ _ _

/-- A list is read page by page exactly when there are no rows or its rows can be paged so. -/
theorem readsAll_iff :
    (∀ choices, subject.ReadsAll choices dateProvider filter size tables) ↔
      subject.matchingRows filter tables = [] ∨ subject.Pageable filter size tables := by
  have horder := isOrder_orderedBefore subject.idColumn
  constructor
  · intro h
    by_cases hne : subject.matchingRows filter tables = []
    · exact .inl hne
    obtain ⟨hexecutes, hpos, hreadable, count, hcount, hstarts, hlength, -⟩ :=
      spec_of_readsAll hintegral hfilter hsize (h fun _ _ => storedOrder) hne
    refine .inr ⟨hexecutes, hpos, hreadable, fun index hindex => ?_, count, hlength, hcount⟩
    have hlt : index < count := by
      by_contra hge
      have := Nat.mul_le_mul_right (cutSize size) (Nat.not_lt.mp hge)
      omega
    refine ⟨(hstarts index hlt).1, ?_⟩
    rcases Nat.eq_zero_or_pos index with rfl | hindexPos
    · rw [Nat.zero_mul]
      exact not_splits_zero _
    refine (pages_perm_iff horder (arranges_readOrder filter tables subject fun _ => storedOrder)
      hlength).mp (fun orders horders => ?_) index hindexPos hlt
    -- The pages are read in these orders with some choices, and there are as many of them.
    choose choices hchoices using fun index =>
      exists_readOrder filter tables subject (horders index)
    obtain ⟨-, -, -, count', -, hstarts', hlength', hperm⟩ :=
      spec_of_readsAll hintegral hfilter hsize (h choices) hne
    have hsame : count' = count := by
      rcases Nat.lt_trichotomy count' count with hless | heq | hmore
      · have := (hstarts count' hless).2
        omega
      · exact heq
      · have := (hstarts' count hmore).2
        omega
    simp only [hchoices, hsame] at hperm
    exact hperm
  · rintro (hnil | h) choices
    · refine ⟨0, by omega, fun index hindex => absurd hindex (Nat.not_lt_zero _), ?_, ?_⟩
      · refine respond_page_eq_notFound hintegral hfilter (choices 0) dateProvider size _ subject
          fun _ _ _ => ?_
        have hperm := (arranges_readOrder filter tables subject (choices 0)).perm
        rw [hnil] at hperm
        rw [List.perm_nil.mp hperm, window, List.drop_nil, List.take_nil]
      · rw [hnil]
        exact List.Perm.refl _
    · obtain ⟨count, hlength, hbefore, hcount⟩ := exists_pageCount hsize h
      have hsuccess : ∀ index < count, (subject.pageAnswer (choices index) dateProvider filter size
          tables index).result = .success := by
        intro index hindex
        refine success_of_start hintegral hfilter hsize h ?_ (hbefore index hindex)
        refine Int.lt_of_le_of_lt (Int.mul_le_mul_of_nonneg_right (by omega) ?_) hcount
        exact Int.le_of_lt (Int64.lt_iff_toInt_lt.mp hsize)
      refine ⟨count, hcount, hsuccess, ?_, ?_⟩
      · -- The page after the rows is empty, or its start has become negative.
        refine respond_page_eq_notFound hintegral hfilter _ dateProvider size _ subject
          fun _ hlimit hoffset => ?_
        have hfits : count * cutSize size < 2 ^ 32 := by
          rcases hzero : count with _ | last
          · omega
          · have hlast := (h.starts last (hbefore last (by omega))).1
            have hlt := cutSize_lt size
            rw [Nat.succ_mul]
            omega
        rw [toInt32_place hsize hcount hlimit] at hoffset ⊢
        rw [(bmod_place hfits).2 ((bmod_place hfits).1.mp hoffset), Int.toNat_natCast, window,
          List.drop_eq_nil_of_le, List.take_nil]
        rw [(arranges_readOrder filter tables subject _).perm.length_eq]
        exact hlength
      · have hreturned : ((List.range count).flatMap fun index => subject.returnedAt
            (choices index) dateProvider filter size tables index) =
              pages (fun index => subject.readOrder (choices index) filter tables) (cutSize size)
                count :=
          List.flatMap_congr fun index hindex => (start_of_success hintegral hfilter hsize hcount
            hsuccess (List.mem_range.mp hindex)).2.2
        rw [hreturned]
        refine (pages_perm_iff horder (arranges_readOrder filter tables subject (choices 0))
          hlength).mpr (fun index _ hindex => (h.starts index (hbefore index hindex)).2) _
            fun index => arranges_readOrder filter tables subject _

end Runs

/-! ## One page -/

/-- A page with rows: the database can execute the statement, the offset survives the cut, and so
does the limit unless the rows end before, all rows of the page can be shown, and no two rows with
the same id have a place on it. -/
structure Placed (filter : Option Condition) (limit offset : Int64) (tables : Tables)
    (subject : Subject) : Prop where
  executes : subject.Executes filter tables
  offset_kept : offset.toInt32.toInt = offset.toInt
  limit_pos : 0 < limit.toInt32.toInt
  limit_kept : limit.toInt32.toInt = limit.toInt ∨
    (subject.matchingRows filter tables).length ≤ offset.toInt + limit.toInt32.toInt
  readable : ∀ order, Arranges subject.before (subject.matchingRows filter tables) order →
    ∀ row ∈ window offset.toInt.toNat limit.toInt.toNat order, subject.Readable filter row
  unambiguous : ¬ Ambiguous subject.before (subject.matchingRows filter tables)
    offset.toInt.toNat limit.toInt.toNat

/-- A page after the rows: what the numbers are cut to is no page of rows that can be shown. -/
def Beyond (filter : Option Condition) (limit offset : Int64) (tables : Tables)
    (subject : Subject) : Prop :=
  subject.Executes filter tables → 0 ≤ limit.toInt32.toInt → 0 ≤ offset.toInt32.toInt →
    ∀ order, Arranges subject.before (subject.matchingRows filter tables) order →
      window offset.toInt32.toInt.toNat limit.toInt32.toInt.toNat order = [] ∨
        ∃ row ∈ window offset.toInt32.toInt.toNat limit.toInt32.toInt.toNat order,
          ¬ subject.Readable filter row

/-- A limit that stays positive does not become greater. -/
theorem toInt32_le {limit : Int64} (h : 0 < limit) : limit.toInt32.toInt ≤ limit.toInt := by
  have hpositive := Int64.lt_iff_toInt_lt.mp h
  have hzero : (0 : Int64).toInt = 0 := rfl
  rw [Int64.toInt_toInt32, Int.bmod_def]
  omega

section OnePage

variable {tables : Tables} (hintegral : Integral schema tables) {filter : Option Condition}
  (hfilter : IsGroup filter) (dateProvider : DateProvider) {limit offset : Int64}
  (subject : Subject)

include hintegral hfilter

/-- What is returned for a page whose rows are not all shown. -/
theorem returned_eq_nil_iff (choices : Nat → Choices) :
    subject.returned choices dateProvider (pageRequest filter limit offset) tables = [] ↔
      (subject.Executes filter tables → 0 ≤ limit.toInt32.toInt → 0 ≤ offset.toInt32.toInt →
        window offset.toInt32.toInt.toNat limit.toInt32.toInt.toNat
            (subject.readOrder choices filter tables) = [] ∨
          ∃ row ∈ window offset.toInt32.toInt.toNat limit.toInt32.toInt.toNat
            (subject.readOrder choices filter tables), ¬ subject.Readable filter row) := by
  have hsuccess := respond_page_eq_success_iff hintegral hfilter choices dateProvider limit offset
    subject
  by_cases h : ((subject.listTask dateProvider (pageRequest filter limit offset)).respond
      (quietDatabase choices).answers tables).result = .success
  · obtain ⟨hexecutes, hlimit, hoffset, hne, hreadable⟩ := hsuccess.mp h
    rw [returned_page hintegral hfilter choices dateProvider limit offset subject h]
    refine iff_of_false hne fun hnone => ?_
    rcases hnone hexecutes hlimit hoffset with hnil | ⟨row, hrow, hunreadable⟩
    · exact hne hnil
    · exact hunreadable (hreadable row hrow)
  · refine iff_of_true (if_neg h) fun hexecutes hlimit hoffset => ?_
    by_contra hshown
    push Not at hshown
    exact h (hsuccess.mpr ⟨hexecutes, hlimit, hoffset, hshown.1, hshown.2⟩)

/-- One page has the rows of its places, in an order that is always the same, exactly when it has
rows and is placed so, or is beyond the rows. -/
theorem returned_eq_window_iff (hlimit : 0 < limit) (hoffset : 0 ≤ offset)
    {order : List TableRow}
    (horder : Arranges subject.before (subject.matchingRows filter tables) order) :
    (∀ choices, subject.returned choices dateProvider (pageRequest filter limit offset) tables =
        window offset.toInt.toNat limit.toInt.toNat order) ↔
      (offset.toInt < (subject.matchingRows filter tables).length ∧
          subject.Placed filter limit offset tables) ∨
        ((subject.matchingRows filter tables).length ≤ offset.toInt ∧
          subject.Beyond filter limit offset tables) := by
  have hpositive : 0 < limit.toInt := Int64.lt_iff_toInt_lt.mp hlimit
  have hnonneg : 0 ≤ offset.toInt := Int64.le_iff_toInt_le.mp hoffset
  have hlength := horder.perm.length_eq
  by_cases hbeyond : (subject.matchingRows filter tables).length ≤ offset.toInt
  · -- There is no row on the page.
    have hnil : window offset.toInt.toNat limit.toInt.toNat order = [] := by
      rw [window, List.drop_eq_nil_of_le (by omega), List.take_nil]
    rw [hnil, or_iff_right (fun h => by omega), and_iff_right hbeyond]
    simp only [returned_eq_nil_iff hintegral hfilter]
    constructor
    · intro h hexecutes hlimit hoffset order horder
      obtain ⟨choices, rfl⟩ := exists_readOrder filter tables subject horder
      exact h choices hexecutes hlimit hoffset
    · intro h choices hexecutes hlimit hoffset
      exact h hexecutes hlimit hoffset _ (arranges_readOrder filter tables subject choices)
  · rw [or_iff_left (fun h => hbeyond h.1), and_iff_right (Int.not_le.mp hbeyond)]
    have hplace : offset.toInt.toNat < order.length := by omega
    have hne : window offset.toInt.toNat limit.toInt.toNat order ≠ [] := by
      rw [window, Ne, List.take_eq_nil_iff, List.drop_eq_nil_iff]
      omega
    have hcut : ∀ {order : List TableRow},
        Arranges subject.before (subject.matchingRows filter tables) order →
        0 < limit.toInt32.toInt → (limit.toInt32.toInt = limit.toInt ∨
          (subject.matchingRows filter tables).length ≤ offset.toInt + limit.toInt32.toInt) →
        window offset.toInt.toNat limit.toInt32.toInt.toNat order =
          window offset.toInt.toNat limit.toInt.toNat order := by
      intro order horder hpos hkept
      have hle := toInt32_le hlimit
      have hlength := horder.perm.length_eq
      exact window_cut (by omega)
    constructor
    · intro h
      have hshown := fun choices => (respond_page_eq_success_iff hintegral hfilter choices
        dateProvider limit offset subject).mp (by
          by_contra hfailed
          exact hne ((h choices).symm.trans (if_neg hfailed)))
      have hwindow : ∀ choices, window offset.toInt32.toInt.toNat limit.toInt32.toInt.toNat
          (subject.readOrder choices filter tables) =
            window offset.toInt.toNat limit.toInt.toNat order := by
        intro choices
        rw [← h choices, returned_page hintegral hfilter choices dateProvider limit offset subject
          ((respond_page_eq_success_iff hintegral hfilter choices dateProvider limit offset
            subject).mpr (hshown choices))]
      -- The places are those of the fixed order when the rows come in this order.
      obtain ⟨choices, hchoices⟩ := exists_readOrder filter tables subject horder
      obtain ⟨hexecutes, hnonneg', hnonneg'', -, -⟩ := hshown choices
      have hnodup : order.Nodup :=
        horder.perm.nodup_iff.mpr (nodup_matchingRows hintegral filter subject)
      have hfixed := hwindow choices
      rw [hchoices] at hfixed
      obtain ⟨hstart, hpos, hkept⟩ := window_eq_window hnodup hplace (by omega) hfixed
      have hkept : limit.toInt32.toInt = limit.toInt ∨
          (subject.matchingRows filter tables).length ≤ offset.toInt + limit.toInt32.toInt := by
        omega
      have hsame : ∀ {order' : List TableRow},
          Arranges subject.before (subject.matchingRows filter tables) order' →
          window offset.toInt.toNat limit.toInt.toNat order' =
              window offset.toInt.toNat limit.toInt.toNat order ∧
            ∀ row ∈ window offset.toInt.toNat limit.toInt.toNat order',
              subject.Readable filter row := by
        intro order' horder'
        obtain ⟨choices', rfl⟩ := exists_readOrder filter tables subject horder'
        obtain ⟨-, -, -, -, hreadable⟩ := hshown choices'
        have hshifted := hcut horder' (by omega) hkept
        rw [← hstart] at hshifted
        rw [← hstart, ← hshifted]
        exact ⟨(hwindow choices').trans (by rw [hstart]), hreadable⟩
      exact ⟨hexecutes, by omega, by omega, hkept, fun order' horder' => (hsame horder').2,
        (window_eq_iff (isOrder_orderedBefore subject.idColumn) horder _ _).mp
          fun order' horder' => (hsame horder').1⟩
    · intro h choices
      have hread := arranges_readOrder filter tables subject choices
      have hpage := hcut hread h.limit_pos h.limit_kept
      have hfixed := (window_eq_iff (isOrder_orderedBefore subject.idColumn) horder _ _).mpr
        h.unambiguous _ hread
      have hsuccess := (respond_page_eq_success_iff hintegral hfilter choices dateProvider limit
        offset subject).mpr (by
          rw [h.offset_kept, hpage]
          exact ⟨h.executes, Int.le_of_lt h.limit_pos, hnonneg, hfixed ▸ hne,
            h.readable _ hread⟩)
      rw [returned_page hintegral hfilter choices dateProvider limit offset subject hsuccess,
        h.offset_kept, hpage]
      exact hfixed

end OnePage

/-! ## The pages of a list -/

/-- The pages of a list, asked for one after the other, are the rows that match exactly when these
can be paged so, and one page has the rows of its places in one order exactly when it is placed so
or is beyond the rows. -/
theorem paged_iff {tables : Tables} (hintegral : Integral schema tables)
    (dateProvider : DateProvider) (subject : Subject) (filters : Option Json) :
    let filter := filterOf dateProvider (sizeBody filters)
    let rows := subject.matchingRows filter tables
    (∀ limit offset : Int64, 0 < limit →
        ListRequest.parseInternal dateProvider (pageBody filters limit offset) =
          .ok (pageRequest filter limit offset)) ∧
      (∀ size : Int64, 0 < size →
        ((∀ choices, subject.ReadsAll choices dateProvider filter size tables) ↔
          rows = [] ∨ subject.Pageable filter size tables)) ∧
      ∃ order, order.Perm rows ∧ ∀ limit offset : Int64, 0 < limit → 0 ≤ offset →
        ((∀ choices, subject.returned choices dateProvider (pageRequest filter limit offset)
            tables = window offset.toInt.toNat limit.toInt.toNat order) ↔
          (offset.toInt < rows.length ∧ subject.Placed filter limit offset tables) ∨
            (rows.length ≤ offset.toInt ∧ subject.Beyond filter limit offset tables)) := by
  intro filter rows
  have hfilter : IsGroup filter := isGroup_filterOf dateProvider (sizeBody filters)
  have horder := arranges_readOrder filter tables subject fun _ => storedOrder
  refine ⟨fun limit offset hlimit => parseInternal_pageBody dateProvider filters hlimit offset,
    fun size hsize => readsAll_iff hintegral hfilter hsize, _, horder.perm,
    fun limit offset hlimit hoffset => ?_⟩
  exact returned_eq_window_iff hintegral hfilter dateProvider subject hlimit hoffset horder

/-- Only products with their items can have the same id. -/
theorem eq_of_tied {tables : Tables} (hintegral : Integral schema tables)
    {filter : Option Condition} {subject : Subject}
    (h : subject.bringsItems (wholeList filter) = false) :
    ∀ row ∈ subject.matchingRows filter tables, ∀ other ∈ subject.matchingRows filter tables,
      Tied subject.before row other → row = other := by
  intro row hrow other hother htied
  have hmem := fun {row : TableRow} (hrow : row ∈ subject.matchingRows filter tables) =>
    List.mem_of_mem_filter hrow
  rw [fromRows_of_joins_nil (listOptions_joins h), listOptions_table] at hmem
  exact eq_of_id_eq hintegral subject (hmem hrow) (hmem hother) (tied_iff.mp htied)

/-- A limit of 31 bits survives the cut. -/
theorem toInt32_of_lt {limit : Int64} (h : 0 < limit) (hlt : limit.toInt < 2 ^ 31) :
    limit.toInt32.toInt = limit.toInt := by
  have hpositive := Int64.lt_iff_toInt_lt.mp h
  have hzero : (0 : Int64).toInt = 0 := rfl
  rw [Int64.toInt_toInt32, Int.bmod_def]
  omega

/-- So a list without items can be paged as far as its numbers go. -/
theorem pageable_of_fits {tables : Tables} (hintegral : Integral schema tables)
    {filter : Option Condition} {subject : Subject}
    (hbrings : subject.bringsItems (wholeList filter) = false)
    (hexecutes : subject.Executes filter tables)
    (hreadable : ∀ row ∈ subject.matchingRows filter tables, subject.Readable filter row)
    {size : Int64} (hsize : 0 < size) (hkept : size.toInt < 2 ^ 31)
    (hrows : (subject.matchingRows filter tables).length < 2 ^ 31) :
    subject.Pageable filter size tables where
  executes := hexecutes
  size_pos := by
    rw [toInt32_of_lt hsize hkept]
    exact Int64.lt_iff_toInt_lt.mp hsize
  readable := hreadable
  starts index hindex := ⟨by omega, (not_splits_and_not_ambiguous (eq_of_tied hintegral hbrings)
    _ 0 0).1⟩
  ends := by
    have hpositive : 0 < size.toInt := Int64.lt_iff_toInt_lt.mp hsize
    have hcut : 0 < cutSize size := by
      rw [cutSize, toInt32_of_lt hsize hkept]
      omega
    -- As many pages as there are rows are enough.
    refine ⟨_, Nat.le_mul_of_pos_right _ hcut, ?_⟩
    calc ((subject.matchingRows filter tables).length : Int) * size.toInt
        ≤ 2 ^ 31 * 2 ^ 31 := Int.mul_le_mul (by omega) (by omega) (by omega) (by omega)
      _ < 2 ^ 63 := by omega

/-- Two of three users pass the filters, and one comes after the other on pages of one user. -/
theorem paged_iff_createdFilters :
    let filter := filterOf numericDates (sizeBody (some createdFilters))
    let rows := user.matchingRows filter threeUsers
    rows.length = 2 ∧
      (∀ choices, user.ReadsAll choices numericDates filter 1 threeUsers) ∧
      ∃ order, order.Perm rows ∧ ∀ limit offset : Int64, 0 < limit → 0 ≤ offset →
        ((∀ choices, user.returned choices numericDates (pageRequest filter limit offset)
            threeUsers = window offset.toInt.toNat limit.toInt.toNat order) ↔
          (offset.toInt < rows.length ∧ user.Placed filter limit offset threeUsers) ∨
            (rows.length ≤ offset.toInt ∧ user.Beyond filter limit offset threeUsers)) := by
  obtain ⟨-, hreads, horder⟩ :=
    paged_iff threeUsers_integral numericDates user (some createdFilters)
  let filter := filterOf numericDates (sizeBody (some createdFilters))
  let options := user.listOptions (wholeList filter)
  have hshown : (found options (selectParams options) threeUsers).toOption.map (fun rows =>
      (rows.length, rows.all (user.view (wholeList filter)).readable)) = some (2, true) := by
    decide +kernel
  rcases hfound : found options (selectParams options) threeUsers with exception | all
  · rw [hfound] at hshown
    cases hshown
  rw [hfound] at hshown
  obtain ⟨hlength, hreadable⟩ := Prod.mk.inj (Option.some.inj hshown)
  have hrows := found_eq_matchingRows threeUsers_integral (isGroup_filterOf _ _) hfound
  rw [hrows] at hlength hreadable
  refine ⟨hlength, (hreads 1 (by decide)).mpr (.inr ?_), horder⟩
  exact pageable_of_fits threeUsers_integral (by decide +kernel) ⟨all, hfound⟩
    (List.all_eq_true.mp hreadable) (by decide) (by decide) (by rw [hlength]; decide)

/-- The first user is not found on a page of 2^31 users, whose limit has become negative. -/
theorem not_readsAll_largePage :
    (0 : Int64) < 2147483648 ∧
      ListRequest.parseInternal numericDates (pageBody none 2147483648 0) =
        .ok (pageRequest none 2147483648 0) ∧
      user.matchingRows none initialTables = [superuser] ∧
      ∀ choices, ¬ user.ReadsAll choices numericDates none 2147483648 initialTables := by
  have hgroup : IsGroup none := fun condition h => by cases h
  have hrows : user.matchingRows none initialTables = [superuser] :=
    (found_eq_matchingRows initialTables_integral hgroup
      ((found_listOptions rfl initialTables).trans (matching_none initialTables user))).symm
  refine ⟨by decide, rfl, hrows, fun choices hreads => ?_⟩
  have hne : user.matchingRows none initialTables ≠ [] := by
    rw [hrows]
    exact List.cons_ne_nil _ _
  obtain ⟨-, hpos, -⟩ :=
    spec_of_readsAll initialTables_integral hgroup (by decide) hreads hne
  revert hpos
  decide

end Subject

end TaskMgr.Tasks
