import Mathlib.Data.List.Infix

/-!
# POSIX paths, lexically

Paths as the C++ standard reads them on POSIX: an optional root directory, filenames without
slashes, and maybe a separator at the end. Nothing here looks at a file system.

- `LexicalPath.lexicallyNormal`: the normal form of `std::filesystem::path`.
- `LexicalPath.resolve`: where a path leads when `..` is taken as the parent.
- `LexicalPath.inside_append_of_noDotDot`: a relative path without `..` stays inside any root.
-/

/-- A path: the separators between its filenames are not told apart. -/
structure LexicalPath where
  /-- The path starts with a separator. -/
  rootDirectory : Bool
  /-- The filenames between the separators. -/
  filenames : List String
  /-- A separator follows the last filename. -/
  trailing : Bool
  deriving DecidableEq, Repr

namespace LexicalPath

/-- The filenames of a text: the maximal parts without a slash. -/
def splitFilenames (text : List Char) : List (List Char) :=
  (text.splitOn '/').filter fun name => !name.isEmpty

/-- The path that a text denotes. -/
def ofString (text : String) : LexicalPath where
  rootDirectory := text.toList.head? = some '/'
  filenames := (splitFilenames text.toList).map String.ofList
  trailing := text.toList.getLast? = some '/' && !(splitFilenames text.toList).isEmpty

/-- `empty()`. -/
def isEmpty (path : LexicalPath) : Bool :=
  !path.rootDirectory && path.filenames.isEmpty

/-- `is_absolute()`: on POSIX, the path has a root directory. -/
def isAbsolute (path : LexicalPath) : Bool :=
  path.rootDirectory

/-- `has_filename()`: something follows the last separator. -/
def hasFilename (path : LexicalPath) : Bool :=
  !path.filenames.isEmpty && !path.trailing

/-- `filename()`: what follows the last separator. -/
def filename (path : LexicalPath) : String :=
  if path.trailing then "" else path.filenames.getLast?.getD ""

/-- `extension()`: the filename from its last dot on, unless that is its first character. -/
def extension (path : LexicalPath) : String :=
  let text := path.filename.toList
  let suffix := text.reverse.takeWhile (· ≠ '.')
  if path.filename = ".." || text.length ≤ suffix.length + 1 then
    ""
  else
    String.ofList ('.' :: suffix.reverse)

/-- What the iterator of a path goes through: the root directory, the filenames, and the empty
path when a separator ends it. -/
def elements (path : LexicalPath) : List LexicalPath :=
  (if path.rootDirectory then [⟨true, [], false⟩] else []) ++
    path.filenames.map (fun name => ⟨false, [name], false⟩) ++
    if path.trailing then [⟨false, [], false⟩] else []

/-- The element that `filename()` names. -/
def filenameElement (path : LexicalPath) : LexicalPath where
  rootDirectory := false
  filenames := if path.hasFilename then [path.filename] else []
  trailing := false

/-- `operator/`: an absolute path replaces, any other one is appended. -/
def append (path other : LexicalPath) : LexicalPath :=
  if other.isAbsolute then
    other
  else
    { rootDirectory := path.rootDirectory
      filenames := path.filenames ++ other.filenames
      -- Appending the empty path adds a separator.
      trailing := if other.filenames.isEmpty then !path.filenames.isEmpty else other.trailing }

/-- The path that the elements make when they are appended one after the other. -/
def ofElements (elements : List LexicalPath) : LexicalPath :=
  elements.foldl append ⟨false, [], false⟩

/-! ## Walking along the filenames -/

/-- A place: some levels above the start of the walk, and from there down the names, of which
the last one comes first. -/
structure Place where
  up : Nat := 0
  down : List String := []
  deriving DecidableEq, Repr

/-- Go on with one filename. Above the root directory there is nothing. -/
def Place.enter (rootDirectory : Bool) (place : Place) (filename : String) : Place :=
  if filename = "." then
    place
  else if filename = ".." then
    match place.down with
    | _ :: down => { place with down }
    | [] => if rootDirectory then place else { place with up := place.up + 1 }
  else
    { place with down := filename :: place.down }

/-- Go on with several filenames. -/
def Place.walk (rootDirectory : Bool) (place : Place) (filenames : List String) : Place :=
  filenames.foldl (Place.enter rootDirectory) place

/-- The place that a path leads to from where it starts. -/
def resolve (path : LexicalPath) : Place :=
  Place.walk path.rootDirectory {} path.filenames

/-- The path leads to the place of the root or below it. -/
def Inside (root path : LexicalPath) : Prop :=
  path.rootDirectory = root.rootDirectory ∧ path.resolve.up = root.resolve.up ∧
    root.resolve.down <:+ path.resolve.down

/-- `lexically_normal()`. Dots are removed; a name is removed together with a `..` that follows
it, and so is a `..` after the root directory; a `..` at the end loses its separator; the path
`.` stands for what would be empty. The separator before a removed last filename stays. -/
def lexicallyNormal (path : LexicalPath) : LexicalPath :=
  if path.isEmpty then
    path
  else
    let place := path.resolve
    let filenames := List.replicate place.up ".." ++ place.down.reverse
    if filenames.isEmpty && !path.rootDirectory then
      { rootDirectory := false, filenames := ["."], trailing := false }
    else
      { rootDirectory := path.rootDirectory
        filenames
        trailing := !place.down.isEmpty &&
          (path.trailing || path.filenames.getLast? = some "." ||
            path.filenames.getLast? = some "..") }

/-- The normal form starts with `..`: the path leads above its start. -/
def Climbs (path : LexicalPath) : Prop :=
  path.filenames.head? = some ".."

instance (path : LexicalPath) : Decidable path.Climbs :=
  inferInstanceAs (Decidable (_ = _))

/-! ## Where a walk leads -/

/-- The names that a place goes down are neither `.` nor `..`. -/
def Place.Proper (place : Place) : Prop :=
  ∀ name ∈ place.down, name ≠ "." ∧ name ≠ ".."

/-- Entering a filename keeps the names proper. -/
theorem Place.Proper.enter {place : Place} (h : place.Proper) (rootDirectory : Bool)
    (filename : String) : (place.enter rootDirectory filename).Proper := by
  unfold Place.enter
  split
  · exact h
  · rename_i hdot
    split
    · split
      · rename_i name down hdown
        intro other hother
        exact h other (by rw [hdown]; exact List.mem_cons_of_mem name hother)
      · split
        · exact h
        · exact h
    · rename_i hdotdot
      intro other hother
      rcases List.mem_cons.mp hother with rfl | hother
      · exact ⟨hdot, hdotdot⟩
      · exact h other hother

/-- A walk keeps the names proper. -/
theorem Place.Proper.walk {place : Place} (h : place.Proper) (rootDirectory : Bool)
    (filenames : List String) : (place.walk rootDirectory filenames).Proper := by
  induction filenames generalizing place with
  | nil => exact h
  | cons filename filenames ih => exact ih (h.enter rootDirectory filename)

/-- The place of a path is proper. -/
theorem resolve_proper (path : LexicalPath) : path.resolve.Proper := by
  apply Place.Proper.walk
  intro name hname
  cases hname

/-- Without `..` a walk only goes down. -/
theorem Place.walk_of_noDotDot {filenames : List String} (h : ".." ∉ filenames)
    (rootDirectory : Bool) (place : Place) :
    (place.walk rootDirectory filenames).up = place.up ∧
      place.down <:+ (place.walk rootDirectory filenames).down := by
  induction filenames generalizing place with
  | nil => exact ⟨rfl, List.suffix_rfl⟩
  | cons filename filenames ih =>
    rw [List.mem_cons, not_or] at h
    obtain ⟨hup, hdown⟩ := ih h.2 (place.enter rootDirectory filename)
    have henter : (place.enter rootDirectory filename).up = place.up ∧
        place.down <:+ (place.enter rootDirectory filename).down := by
      unfold Place.enter
      split
      · exact ⟨rfl, List.suffix_rfl⟩
      · rw [if_neg (fun heq => h.1 heq.symm)]
        exact ⟨rfl, List.suffix_cons filename place.down⟩
    exact ⟨hup.trans henter.1, henter.2.trans hdown⟩

/-- A relative path without `..` leads inside the root that it is appended to. -/
theorem inside_append_of_noDotDot {path : LexicalPath} (hrelative : path.isAbsolute = false)
    (h : ".." ∉ path.filenames) (root : LexicalPath) : Inside root (root.append path) := by
  have hwalk : (root.append path).resolve =
      Place.walk root.rootDirectory root.resolve path.filenames := by
    simp [append, hrelative, resolve, Place.walk, List.foldl_append]
  have hroot : (root.append path).rootDirectory = root.rootDirectory := by
    simp [append, hrelative]
  obtain ⟨hup, hdown⟩ := Place.walk_of_noDotDot h root.rootDirectory root.resolve
  exact ⟨hroot, by rw [hwalk]; exact hup, by rw [hwalk]; exact hdown⟩

/-- Below a root directory a walk never gets above its start. -/
theorem Place.walk_up_of_rootDirectory (filenames : List String) (place : Place) :
    (place.walk true filenames).up = place.up := by
  induction filenames generalizing place with
  | nil => rfl
  | cons filename filenames ih =>
    have henter : (place.enter true filename).up = place.up := by
      unfold Place.enter
      split
      · rfl
      · split
        · split <;> rfl
        · rfl
    exact (ih _).trans henter

/-- The normal form is absolute when the path is. -/
theorem isAbsolute_lexicallyNormal (path : LexicalPath) :
    path.lexicallyNormal.isAbsolute = path.isAbsolute := by
  unfold lexicallyNormal isAbsolute
  split
  · rfl
  · dsimp only
    split
    · rename_i h
      simp only [Bool.and_eq_true, Bool.not_eq_true'] at h
      exact h.2.symm
    · rfl

/-- The normal form of a path that is not empty, but for the path `.`: the levels above the
start, and then the names below it. -/
theorem filenames_lexicallyNormal {path : LexicalPath} (hpath : path.isEmpty = false) :
    path.lexicallyNormal.filenames = ["."] ∨
      path.lexicallyNormal.filenames =
        List.replicate path.resolve.up ".." ++ path.resolve.down.reverse := by
  unfold lexicallyNormal
  rw [if_neg (by simp [hpath])]
  dsimp only
  split
  · exact .inl rfl
  · exact .inr rfl

/-- An absolute normal form does not climb. -/
theorem not_climbs_of_isAbsolute {path : LexicalPath} (habsolute : path.isAbsolute = true) :
    ¬ path.lexicallyNormal.Climbs := by
  have hroot : path.rootDirectory = true := habsolute
  have hpath : path.isEmpty = false := by simp [isEmpty, hroot]
  have hup : path.resolve.up = 0 := by
    rw [resolve, hroot]
    exact Place.walk_up_of_rootDirectory _ _
  unfold Climbs
  rcases filenames_lexicallyNormal hpath with h | h
  · rw [h]
    decide
  · -- Nothing stands before the proper names.
    rw [h, hup, List.replicate_zero, List.nil_append]
    intro hhead
    have hmem : ".." ∈ path.resolve.down := List.mem_reverse.mp (List.mem_of_head? hhead)
    exact (path.resolve_proper ".." hmem).2 rfl

/-- A normal form that does not climb has no `..` at all. -/
theorem noDotDot_of_not_climbs {path : LexicalPath} (hpath : path.isEmpty = false)
    (h : ¬ path.lexicallyNormal.Climbs) : ".." ∉ path.lexicallyNormal.filenames := by
  unfold Climbs at h
  rcases filenames_lexicallyNormal hpath with hnames | hnames
  · rw [hnames]
    decide
  · rw [hnames] at h ⊢
    -- The first filename is no `..`, so there are none before the proper names.
    rcases hup : path.resolve.up with _ | up
    · rw [List.replicate_zero, List.nil_append]
      intro hmem
      exact (path.resolve_proper ".." (List.mem_reverse.mp hmem)).2 rfl
    · rw [hup, List.replicate_succ] at h
      exact absurd rfl h

/-! ## Elements -/

/-- The elements of a path that a relative one was appended to: a separator at its end is no
element any more. -/
theorem elements_append {path relative : LexicalPath} (hrelative : relative.isAbsolute = false)
    (hne : relative.filenames ≠ []) :
    (path.append relative).elements =
      { path with trailing := false }.elements ++ relative.elements := by
  unfold isAbsolute at hrelative
  have hnonempty : relative.filenames.isEmpty = false := by simpa using hne
  simp [append, elements, isAbsolute, hrelative, hnonempty]

/-- Filenames that are appended one after the other follow each other. -/
theorem foldl_append_filenames (before names : List String) :
    (names.map fun name => (⟨false, [name], false⟩ : LexicalPath)).foldl append
      ⟨false, before, false⟩ = ⟨false, before ++ names, false⟩ := by
  induction names generalizing before with
  | nil => simp
  | cons name names ih =>
    have happend : append ⟨false, before, false⟩ ⟨false, [name], false⟩ =
        ⟨false, before ++ [name], false⟩ := rfl
    rw [List.map_cons, List.foldl_cons, happend, ih, List.append_assoc, List.singleton_append]

/-- A relative path without a separator at its end is made of its elements. -/
theorem ofElements_elements {path : LexicalPath} (hrelative : path.isAbsolute = false)
    (htrailing : path.trailing = false) : ofElements path.elements = path := by
  cases path with
  | mk rootDirectory filenames trailing =>
    cases hrelative
    cases htrailing
    simp only [ofElements, elements, Bool.false_eq_true, if_false, List.nil_append,
      List.append_nil]
    exact foldl_append_filenames [] filenames

/-! ## Filenames -/

/-- A text without slashes is one filename. -/
theorem ofString_of_notMem {text : String} (hne : text ≠ "") (h : '/' ∉ text.toList) :
    ofString text = ⟨false, [text], false⟩ := by
  have hempty : text.toList ≠ [] := fun hnil => hne (String.toList_eq_nil_iff.mp hnil)
  have hsplit : text.toList.splitOn '/' = [text.toList] := by
    have hone : (['/'].intercalate [text.toList]).splitOn '/' = [text.toList] :=
      List.splitOn_intercalate '/' (by simpa using h) (by simp)
    rwa [List.intercalate_singleton] at hone
  have hnames : splitFilenames text.toList = [text.toList] := by
    rw [splitFilenames, hsplit, List.filter_singleton, List.isEmpty_eq_false_iff.mpr hempty]
    rfl
  have hlast : text.toList.getLast? ≠ some '/' := fun hsome => h (List.mem_of_getLast? hsome)
  have hfirst : text.toList.head? ≠ some '/' := fun hsome => h (List.mem_of_head? hsome)
  simp [ofString, hnames, hlast, hfirst]

/-- It is found again. -/
theorem filenameElement_append_single (path : LexicalPath) (name : String) :
    (path.append ⟨false, [name], false⟩).filenameElement = ⟨false, [name], false⟩ := by
  simp [append, filenameElement, filename, hasFilename, isAbsolute]

/-- The filename of a path is still the filename when it is appended to another one. -/
theorem hasFilename_append_filenameElement (path other : LexicalPath) :
    (path.append other.filenameElement).hasFilename = other.hasFilename := by
  unfold append filenameElement
  rcases hfilename : other.hasFilename with _ | _
  · rcases path.filenames with _ | ⟨name, names⟩ <;> simp [hasFilename, isAbsolute]
  · simp [hasFilename, isAbsolute]

end LexicalPath
