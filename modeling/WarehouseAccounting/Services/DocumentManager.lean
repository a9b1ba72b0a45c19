import WarehouseAccounting.Instrumental
import WarehouseAccounting.Foundations.LexicalPath
import WarehouseAccounting.Foundations.Resumption

/-!
# The document manager

`document_manager.cpp`. `DocumentManager::RestoreDocument`: a path relative to the document
root is normalised, refused or put under the root. `DocumentManager::RelativizeDocument`: the root
is taken off again. `DocumentManager::CreateFile`: a file is looked for that does not exist, and
opened.

- `DocumentManager.serves_iff`: the answer keeps what the interface promises
  exactly when the normal form of the path does not climb, or has no filename.
- `DocumentManager.undoes_iff`: relativising undoes restoring exactly when no separator ends the
  root, or the path is not restored.
- `DocumentManager.createFile_allEnds`: the file that a successful `CreateFile` names is the one
  that it has opened last.
-/

namespace Srv.DocMgr

open Ufa

/-- `INDEX_FILENAME`. -/
def indexFilename : LexicalPath := LexicalPath.ofString "index.html"

/-- `DEFAULT_DOCUMENT_ROOT`. -/
def defaultDocumentRoot : LexicalPath := LexicalPath.ofString "."

/-- `DocumentManager`. -/
structure DocumentManager where
  /-- `m_rootPath`. -/
  rootPath : LexicalPath := defaultDocumentRoot

namespace DocumentManager

/-- `DocumentManager::SetSettings`, of the `documentRoot` setting. -/
def setSettings (documentRoot : Option String) (manager : DocumentManager) : DocumentManager :=
  match documentRoot with
  | some root => { manager with rootPath := LexicalPath.ofString root }
  | none => manager

/-- The normal form that `RestoreDocument` works on; no path at all means the index file. -/
def normalDocument (relPath : LexicalPath) : LexicalPath :=
  if relPath.isEmpty then indexFilename.lexicallyNormal else relPath.lexicallyNormal

/-- `DocumentManager::RestoreDocument`: the code, and what is left in `relPath`. `fileExists`
is `std::filesystem::exists`. -/
def restoreDocument (fileExists : LexicalPath → Bool) (relPath : LexicalPath)
    (checkExistance : Bool) (manager : DocumentManager) : Result × LexicalPath :=
  let relPath := normalDocument relPath
  if relPath.isAbsolute || !relPath.hasFilename then
    (.wrongFormat, relPath)
  else
    let relPath := manager.rootPath.append relPath
    if checkExistance && !fileExists relPath then
      (.notFound, relPath)
    else
      (.success, relPath)

/-- What the interface promises: a path that is restored lies under the root, and a path that
climbs above the root is answered `WRONG_FORMAT`. -/
def Serves (fileExists : LexicalPath → Bool) (relPath : LexicalPath) (checkExistance : Bool)
    (manager : DocumentManager) : Prop :=
  ((manager.restoreDocument fileExists relPath checkExistance).1 = .success →
      LexicalPath.Inside manager.rootPath
        (manager.restoreDocument fileExists relPath checkExistance).2) ∧
    ((normalDocument relPath).Climbs →
      (manager.restoreDocument fileExists relPath checkExistance).1 = .wrongFormat)

/-- A path is refused exactly when its normal form is absolute or has no filename. -/
theorem restoreDocument_wrongFormat_iff (fileExists : LexicalPath → Bool) (relPath : LexicalPath)
    (checkExistance : Bool) (manager : DocumentManager) :
    (manager.restoreDocument fileExists relPath checkExistance).1 = .wrongFormat ↔
      (normalDocument relPath).isAbsolute = true ∨
        (normalDocument relPath).hasFilename = false := by
  unfold restoreDocument
  dsimp only
  split
  · rename_i h
    simpa using h
  · rename_i h
    split <;> simpa using h

/-- A restored path is the root followed by a relative normal form. -/
theorem restoreDocument_success {fileExists : LexicalPath → Bool} {relPath : LexicalPath}
    {checkExistance : Bool} {manager : DocumentManager}
    (h : (manager.restoreDocument fileExists relPath checkExistance).1 = .success) :
    (normalDocument relPath).isAbsolute = false ∧ (normalDocument relPath).hasFilename = true ∧
      (manager.restoreDocument fileExists relPath checkExistance).2 =
        manager.rootPath.append (normalDocument relPath) := by
  unfold restoreDocument at h ⊢
  dsimp only at h ⊢
  split at h
  · cases h
  · rename_i hformat
    rw [if_neg hformat]
    split at h
    · cases h
    · rename_i hexists
      rw [if_neg hexists]
      simp only [Bool.or_eq_true, Bool.not_eq_true', not_or, Bool.not_eq_true,
        Bool.not_eq_false] at hformat
      exact ⟨hformat.1, hformat.2, rfl⟩

/-- A normal form that does not climb has no `..`. -/
theorem noDotDot_normalDocument {relPath : LexicalPath}
    (hclimbs : ¬ (normalDocument relPath).Climbs) : ".." ∉ (normalDocument relPath).filenames := by
  unfold normalDocument at hclimbs ⊢
  split at hclimbs
  · rename_i hempty
    rw [if_pos hempty]
    decide
  · rename_i hempty
    rw [if_neg hempty]
    exact LexicalPath.noDotDot_of_not_climbs (by simpa using hempty) hclimbs

/-- A normal form that climbs is relative. -/
theorem isAbsolute_of_climbs {relPath : LexicalPath} (hclimbs : (normalDocument relPath).Climbs) :
    (normalDocument relPath).isAbsolute = false := by
  unfold normalDocument at hclimbs ⊢
  split at hclimbs
  · exact absurd hclimbs (by decide)
  · rename_i hempty
    rw [if_neg hempty, LexicalPath.isAbsolute_lexicallyNormal, ← Bool.not_eq_true]
    intro habsolute
    exact LexicalPath.not_climbs_of_isAbsolute habsolute hclimbs

/-- `RestoreDocument` keeps what the interface promises exactly for the paths whose normal form
does not climb, or ends in a separator. -/
theorem serves_iff (fileExists : LexicalPath → Bool) (relPath : LexicalPath)
    (checkExistance : Bool) (manager : DocumentManager) :
    manager.Serves fileExists relPath checkExistance ↔
      ((normalDocument relPath).Climbs → (normalDocument relPath).hasFilename = false) := by
  constructor
  · rintro ⟨-, hrefuses⟩ hclimbs
    rcases (restoreDocument_wrongFormat_iff ..).mp (hrefuses hclimbs) with habsolute | hfilename
    · exact absurd (habsolute.symm.trans (isAbsolute_of_climbs hclimbs)) (by decide)
    · exact hfilename
  · intro h
    refine ⟨?_, fun hclimbs => (restoreDocument_wrongFormat_iff ..).mpr (.inr (h hclimbs))⟩
    intro hsuccess
    obtain ⟨hrelative, hfilename, hrestored⟩ := restoreDocument_success hsuccess
    have hclimbs : ¬ (normalDocument relPath).Climbs := by
      intro hclimbs
      exact absurd ((h hclimbs).symm.trans hfilename) (by decide)
    rw [hrestored]
    exact LexicalPath.inside_append_of_noDotDot hrelative (noDotDot_normalDocument hclimbs) _

/-! ## Back to the relative path -/

/-- The loop of `RelativizeDocument` over the elements of the root: the elements of the path that
follow them. -/
def behindRoot : (root elements : List LexicalPath) → Option (List LexicalPath)
  | [], elements => some elements
  | _ :: _, [] => none
  | pathElem :: root, element :: elements =>
    if element ≠ pathElem then none else behindRoot root elements

/-- `DocumentManager::RelativizeDocument`: the code, and what is left in `relPath`. -/
def relativizeDocument (relPath : LexicalPath) (manager : DocumentManager) :
    Result × LexicalPath :=
  match behindRoot manager.rootPath.elements relPath.elements with
  | none => (.wrongFormat, relPath)
  | some elements => (.success, LexicalPath.ofElements elements)

/-- The loop reaches its end exactly when the path starts with the elements of the root. -/
theorem behindRoot_eq_some {root elements rest : List LexicalPath} :
    behindRoot root elements = some rest ↔ elements = root ++ rest := by
  induction root generalizing elements with
  | nil => simp [behindRoot]
  | cons pathElem root ih =>
    cases elements with
    | nil => simp [behindRoot]
    | cons element elements =>
      rw [behindRoot, List.cons_append, List.cons.injEq]
      by_cases hsame : element = pathElem
      · rw [if_neg (not_not_intro hsame), ih, and_iff_right hsame]
      · rw [if_pos hsame]
        exact ⟨fun h => absurd h (Option.some_ne_none rest).symm, fun h => absurd h.1 hsame⟩

/-- A path that does not start with the elements of the root is refused. -/
theorem relativizeDocument_of_not_prefix {path : LexicalPath} {manager : DocumentManager}
    (h : ¬ manager.rootPath.elements <+: path.elements) :
    manager.relativizeDocument path = (.wrongFormat, path) := by
  unfold relativizeDocument
  cases hbehind : behindRoot manager.rootPath.elements path.elements with
  | none => rfl
  | some rest => exact absurd ⟨rest, (behindRoot_eq_some.mp hbehind).symm⟩ h

/-- Relativising undoes restoring: the normal form that was put under the root comes back; and a
path that does not start with the elements of the root is refused, and left as it is. -/
structure Undoes (relPath : LexicalPath) (manager : DocumentManager) : Prop where
  reverts : ∀ fileExists, (manager.restoreDocument fileExists relPath false).1 = .success →
    manager.relativizeDocument (manager.restoreDocument fileExists relPath false).2 =
      (.success, normalDocument relPath)
  refuses : ∀ path : LexicalPath, ¬ manager.rootPath.elements <+: path.elements →
    manager.relativizeDocument path = (.wrongFormat, path)

/-- Without the check of its existence, a document is restored unless its format is wrong. -/
theorem restoreDocument_false (fileExists : LexicalPath → Bool) {relPath : LexicalPath}
    (manager : DocumentManager) (hrelative : (normalDocument relPath).isAbsolute = false)
    (hfilename : (normalDocument relPath).hasFilename = true) :
    manager.restoreDocument fileExists relPath false =
      (.success, manager.rootPath.append (normalDocument relPath)) := by
  unfold restoreDocument
  simp [hrelative, hfilename]

/-- A restored path is reverted exactly when no separator ends the root. -/
theorem relativizeDocument_append (document : LexicalPath) (manager : DocumentManager)
    (hrelative : document.isAbsolute = false) (hfilename : document.hasFilename = true) :
    manager.relativizeDocument (manager.rootPath.append document) = (.success, document) ↔
      manager.rootPath.trailing = false := by
  obtain ⟨hnames, htrailing⟩ : document.filenames ≠ [] ∧ document.trailing = false := by
    simpa [LexicalPath.hasFilename] using hfilename
  have helements := @LexicalPath.elements_append manager.rootPath document hrelative hnames
  constructor
  · intro h
    by_contra hroot
    -- The root ends in the empty element, where the document goes on with a filename.
    have hlast : manager.rootPath.elements =
        { manager.rootPath with trailing := false }.elements ++ [⟨false, [], false⟩] := by
      simp [LexicalPath.elements, hroot]
    unfold relativizeDocument at h
    cases hbehind : behindRoot manager.rootPath.elements
        (manager.rootPath.append document).elements with
    | none =>
      rw [hbehind] at h
      cases h
    | some rest =>
      have hparts := behindRoot_eq_some.mp hbehind
      rw [helements, hlast, List.append_assoc, List.append_cancel_left_eq] at hparts
      obtain ⟨name, names, hcons⟩ := List.exists_cons_of_ne_nil hnames
      have hdirectory : document.rootDirectory = false := hrelative
      simp [LexicalPath.elements, hcons, hdirectory] at hparts
  · intro hroot
    have hsame : { manager.rootPath with trailing := false } = manager.rootPath := by
      rw [← hroot]
    have hbehind := behindRoot_eq_some.mpr (helements.trans (by rw [hsame]))
    unfold relativizeDocument
    rw [hbehind]
    exact congrArg (Prod.mk Result.success) (LexicalPath.ofElements_elements hrelative htrailing)

/-- Relativising undoes restoring exactly for the roots without a separator at their end, and for
the paths that are not restored at all. -/
theorem undoes_iff (relPath : LexicalPath) (manager : DocumentManager) :
    manager.Undoes relPath ↔
      manager.rootPath.trailing = false ∨ (normalDocument relPath).isAbsolute = true ∨
        (normalDocument relPath).hasFilename = false := by
  constructor
  · intro h
    by_contra hfails
    simp only [not_or, Bool.not_eq_true, Bool.not_eq_false] at hfails
    obtain ⟨hroot, hrelative, hfilename⟩ := hfails
    have hrestored := restoreDocument_false (fun _ => true) manager hrelative hfilename
    have hreverts := h.reverts (fun _ => true) (congrArg Prod.fst hrestored)
    rw [hrestored, relativizeDocument_append _ manager hrelative hfilename, hroot] at hreverts
    cases hreverts
  · intro h
    refine ⟨fun fileExists hsuccess => ?_, fun path => relativizeDocument_of_not_prefix⟩
    obtain ⟨hrelative, hfilename, hrestored⟩ := restoreDocument_success hsuccess
    rw [hrestored, relativizeDocument_append _ manager hrelative hfilename]
    rcases h with hroot | habsolute | hnone
    · exact hroot
    · rw [hrelative] at habsolute
      cases habsolute
    · rw [hfilename] at hnone
      cases hnone

/-- A root that is written with a separator at its end. -/
theorem not_undoes_separator :
    ¬ ∀ (relPath : LexicalPath) (manager : DocumentManager), manager.Undoes relPath := by
  intro h
  have hreverts := (h (LexicalPath.ofString "report.html")
    (({} : DocumentManager).setSettings (some "site/"))).reverts (fun _ => true) (by decide)
  exact absurd hreverts (by decide)

end DocumentManager

/-! ## Creating a file -/

/-- A call to the file system. -/
inductive FileCall where
  /-- `std::filesystem::exists`. -/
  | fileExists (path : LexicalPath)
  /-- `std::filesystem::create_directory`. -/
  | createDirectory (path : LexicalPath)
  /-- `std::ofstream::open` with truncation; the answer is `good()`. -/
  | openStream (path : LexicalPath)
  deriving DecidableEq, Repr

/-- Code that calls the file system and works on a stream, whose memory is whether the stream has
a file open. It throws only where the file system does. -/
abbrev FileCode (α : Type) := Program Bool Empty FileCall Bool α

/-- `EscapePath`, on the text of a path. Every byte of any other character is replaced. -/
def escapePath (path : String) : String :=
  let safeCharacters :=
    "abcdefghijklmnopqrstuvwxyzABCDEFGHIJKLMNOPQRSTUVWXYZ0123456789_\\/.".toList
  String.ofList (path.toList.flatMap fun ch =>
    if ch ∈ safeCharacters then [ch] else List.replicate ch.utf8Size '_')

/-- `fstream.open` and `fstream.good`. A stream that has a file open already fails without a call
to the file system. -/
def openStream (path : LexicalPath) (streamOpen : Bool) : FileCode Bool :=
  if streamOpen then
    .done streamOpen false
  else
    .issue streamOpen (.openStream path) fun good => .done good good

/-- The loop of `CreateDirectoriesAndOpenStream` over the elements of the path, and what follows
it. -/
def createDirectoriesFrom (path currentPath : LexicalPath) (streamOpen : Bool) :
    List LexicalPath → FileCode Bool
  | [] => openStream path streamOpen
  | element :: elements =>
    if element = path.filenameElement then
      openStream path streamOpen
    else
      let currentPath := currentPath.append element
      .issue streamOpen (.fileExists currentPath) fun found =>
        if found then
          createDirectoriesFrom path currentPath streamOpen elements
        else
          .issue streamOpen (.createDirectory currentPath) fun created =>
            if created then
              createDirectoriesFrom path currentPath streamOpen elements
            else
              .done streamOpen false

/-- `CreateDirectoriesAndOpenStream`. -/
def createDirectoriesAndOpenStream (path : LexicalPath) (streamOpen : Bool) : FileCode Bool :=
  createDirectoriesFrom path ⟨false, [], false⟩ streamOpen path.elements

namespace DocumentManager

/-- `RestoreDocument` with `checkExistance`, as code that calls the file system. -/
def restoreExisting (relPath : LexicalPath) (streamOpen : Bool) (manager : DocumentManager) :
    FileCode (Result × LexicalPath) :=
  match manager.restoreDocument (fun _ => true) relPath false with
  | (.success, path) =>
    .issue streamOpen (.fileExists path) fun found =>
      .done streamOpen (if found then .success else .notFound, path)
  | refused => .done streamOpen refused

/-- The loop of `CreateFile`. `generateRandomString` is what `GenerateRandomString` returns when
so many attempts are left. -/
def createFileFrom (generateRandomString : Nat → String) (relPath : String)
    (manager : DocumentManager) :
    (attempts : Nat) → (tweakFactor : String) → Bool → FileCode (Result × String)
  | 0, _, streamOpen => .done streamOpen (.error, relPath)
  | attempts + 1, tweakFactor, streamOpen =>
    let resultPath := relPath ++ tweakFactor
    let tweak := createFileFrom generateRandomString relPath manager attempts
      (generateRandomString attempts)
    (manager.restoreExisting (LexicalPath.ofString resultPath) streamOpen).andThen id
      fun streamOpen (code, absolutePath) =>
        if code = .notFound then
          (createDirectoriesAndOpenStream absolutePath streamOpen).andThen id
            fun streamOpen opened =>
              if opened then .done streamOpen (.success, resultPath) else tweak streamOpen
        else
          tweak streamOpen

/-- `CreateFile`, on the text of a path: the code, and what is left in `relPath`. -/
@[irreducible]
def createFile (generateRandomString : Nat → String) (relPath : String) (streamOpen : Bool)
    (manager : DocumentManager) : FileCode (Result × String) :=
  manager.createFileFrom generateRandomString relPath 100 "" streamOpen

/-- The file that a path relative to the root stands for. -/
def fileOf (relPath : String) (manager : DocumentManager) : LexicalPath :=
  (manager.restoreDocument (fun _ => true) (LexicalPath.ofString relPath) false).2

/-- Against a file system that answers which files exist, the code is `RestoreDocument`. -/
theorem run_restoreExisting (fileExists : LexicalPath → Bool) (relPath : LexicalPath)
    (streamOpen : Bool) (manager : DocumentManager) (clock : Nat) :
    ((manager.restoreExisting relPath streamOpen).run
      (fun _ question (_ : Unit) =>
        match question with
        | .fileExists path => .ok (fileExists path, ())
        | _ => .ok (false, ())) clock ()).outcome =
      .ok (manager.restoreDocument fileExists relPath true) := by
  unfold restoreExisting restoreDocument
  dsimp only
  by_cases hformat : ((normalDocument relPath).isAbsolute ||
      !(normalDocument relPath).hasFilename) = true
  · rw [if_pos hformat, if_pos hformat]
    rfl
  · rw [if_neg hformat, if_neg hformat]
    cases hfound : fileExists (manager.rootPath.append (normalDocument relPath)) <;>
      simp [Program.run, hfound]

/-- The file that was opened last. -/
def lastOpened (opened : Option LexicalPath) : FileCall → Bool → Option LexicalPath
  | .openStream path, true => some path
  | _, _ => opened

/-- A stream that is good afterwards has opened the path. -/
theorem openStream_allEnds (path : LexicalPath) (streamOpen : Bool) (opened : Option LexicalPath) :
    (openStream path streamOpen).AllEnds lastOpened
      (fun opened _ good => good = true → opened = some path) opened := by
  cases streamOpen with
  | true =>
    show false = true → opened = some path
    intro h
    cases h
  | false =>
    intro good
    show good = true → lastOpened opened (.openStream path) good = some path
    rintro rfl
    rfl

/-- What the loop reports as good is what it has opened. -/
theorem createDirectoriesFrom_allEnds (path currentPath : LexicalPath) (streamOpen : Bool)
    (elements : List LexicalPath) (opened : Option LexicalPath) :
    (createDirectoriesFrom path currentPath streamOpen elements).AllEnds lastOpened
      (fun opened _ good => good = true → opened = some path) opened := by
  induction elements generalizing currentPath opened with
  | nil => exact openStream_allEnds path streamOpen opened
  | cons element elements ih =>
    rw [createDirectoriesFrom]
    split
    · exact openStream_allEnds path streamOpen opened
    · intro found
      cases found with
      | true => exact ih _ _
      | false =>
        intro created
        cases created with
        | true => exact ih _ _
        | false =>
          intro h
          cases h

/-- A document that is not found is the file that the path stands for. -/
theorem restoreExisting_allEnds (relPath : String) (streamOpen : Bool) (manager : DocumentManager)
    (opened : Option LexicalPath) :
    (manager.restoreExisting (LexicalPath.ofString relPath) streamOpen).AllEnds lastOpened
      (fun _ _ value => value.1 = .notFound → value.2 = manager.fileOf relPath) opened := by
  unfold restoreExisting fileOf
  rcases manager.restoreDocument (fun _ => true) (LexicalPath.ofString relPath) false with
    ⟨code, path⟩
  cases code with
  | success =>
    intro found _
    rfl
  | _ =>
    intro _
    rfl

/-- The file that a successful `CreateFile` names is the one that it has opened last. -/
theorem createFileFrom_allEnds (generateRandomString : Nat → String) (relPath : String)
    (manager : DocumentManager) (attempts : Nat) (tweakFactor : String) (streamOpen : Bool)
    (opened : Option LexicalPath) :
    (manager.createFileFrom generateRandomString relPath attempts tweakFactor streamOpen).AllEnds
      lastOpened (fun opened _ value => value.1 = .success →
        opened = some (manager.fileOf value.2)) opened := by
  induction attempts generalizing tweakFactor streamOpen opened with
  | zero =>
    intro h
    cases h
  | succ attempts ih =>
    refine (restoreExisting_allEnds _ streamOpen manager opened).andThen ?_
    rintro opened streamOpen ⟨code, absolutePath⟩ hpath
    dsimp only
    split
    · rename_i hcode
      refine (createDirectoriesFrom_allEnds absolutePath _ streamOpen _ opened).andThen ?_
      intro opened streamOpen good hgood
      cases good with
      | true =>
        intro _
        rw [hgood rfl]
        exact congrArg some (hpath hcode)
      | false => exact ih _ _ _
    · exact ih _ _ _

/-- The file that a successful `CreateFile` names is the one that it has opened last. -/
theorem createFile_allEnds (generateRandomString : Nat → String) (relPath : String)
    (streamOpen : Bool) (manager : DocumentManager) (opened : Option LexicalPath) :
    (manager.createFile generateRandomString relPath streamOpen).AllEnds lastOpened
      (fun opened _ value => value.1 = .success → opened = some (manager.fileOf value.2))
      opened := by
  rw [createFile]
  exact createFileFrom_allEnds generateRandomString relPath manager 100 "" streamOpen opened

end DocumentManager

end Srv.DocMgr
