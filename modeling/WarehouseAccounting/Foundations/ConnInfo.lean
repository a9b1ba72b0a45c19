import Mathlib.Algebra.GroupWithZero.Nat
import Mathlib.Data.List.Nodup
import Mathlib.Data.List.Perm.Subperm
import Mathlib.Data.List.TakeWhile

/-!
# Connection strings of keywords and values

The grammar in which a client of a database server is told where to connect: assignments
`name = value`, separated by spaces, where a value is quoted, or goes up to the next space, and a
backslash takes the character behind it as it is. Parsing fails at an unknown name, at a missing
equals sign and at a quote that is not closed. A text is read up to its first NUL.

- `ConnInfo.weight_le`: no text holds more than its length has room for.
- `ConnInfo.read_write`: values that are written down as they are come back exactly when each of
  them is plain, and none but the last is empty.
-/

namespace ConnInfo

/-- The characters that separate assignments. -/
def isSpace (c : Char) : Bool :=
  c = ' ' || c = '\t' || c = '\n' || c = '\x0b' || c = '\x0c' || c = '\r'

/-- A name and its value. -/
abbrev Assignment := List Char × List Char

/-! ## Parsing -/

/-- The characters that do not end a name. -/
def isNameChar (c : Char) : Bool :=
  c != '=' && !isSpace c

/-- The name of an assignment, and the text behind its equals sign. -/
def readName (text : List Char) : Option (List Char × List Char) :=
  let name := text.takeWhile isNameChar
  match (text.dropWhile isNameChar).dropWhile isSpace with
  | '=' :: rest => some (name, rest)
  | _ => none

/-- A value without quotes, and the text behind the space that ends it. -/
def readUnquoted : List Char → List Char × List Char
  | [] => ([], [])
  | ['\\'] => ([], [])
  | '\\' :: c :: text => (c :: (readUnquoted text).1, (readUnquoted text).2)
  | c :: text =>
    if isSpace c then ([], text) else (c :: (readUnquoted text).1, (readUnquoted text).2)

/-- A value behind its opening quote, and the text behind the closing one. -/
def readQuoted : List Char → Option (List Char × List Char)
  | [] => none
  | ['\\'] => none
  | '\\' :: c :: text => (readQuoted text).map fun read => (c :: read.1, read.2)
  | '\'' :: text => some ([], text)
  | c :: text => (readQuoted text).map fun read => (c :: read.1, read.2)

/-- The value of an assignment, and the text behind it. -/
def readValue (text : List Char) : Option (List Char × List Char) :=
  match text.dropWhile isSpace with
  | '\'' :: rest => readQuoted rest
  | rest => some (readUnquoted rest)

/-- The assignments of a text, in their order; each takes one unit of fuel. -/
def parseFrom (known : List Char → Bool) : Nat → List Char → Option (List Assignment)
  | 0, _ => none
  | fuel + 1, text =>
    if text.dropWhile isSpace = [] then
      some []
    else do
      let (name, text) ← readName (text.dropWhile isSpace)
      let (value, text) ← readValue text
      if known name then
        let assignments ← parseFrom known fuel text
        return (name, value) :: assignments
      else
        none

/-- The assignments of a text, with fuel for as many as it has characters. -/
def parse (known : List Char → Bool) (text : List Char) : Option (List Assignment) :=
  let text := text.takeWhile (· != '\x00')
  parseFrom known (text.length + 1) text

/-- The value of a name: the last one that it is assigned. -/
def setting (assignments : List Assignment) (name : List Char) : Option (List Char) :=
  assignments.reverse.lookup name

/-! ## Writing -/

/-- Names and values, written down as they are. -/
def write : List Assignment → List Char
  | [] => []
  | [assignment] => assignment.1 ++ '=' :: assignment.2
  | assignment :: rest => assignment.1 ++ '=' :: (assignment.2 ++ ' ' :: write rest)

/-- Known names, each of them once, and without the characters that end a name. -/
structure Named (known : List Char → Bool) (assignments : List Assignment) : Prop where
  known : ∀ assignment ∈ assignments, known assignment.1 = true
  plain : ∀ assignment ∈ assignments,
    assignment.1 ≠ [] ∧ ∀ c ∈ assignment.1, isNameChar c = true
  nodup : (assignments.map Prod.fst).Nodup

/-- A value that means itself when it is not quoted. -/
structure Plain (value : List Char) : Prop where
  chars : ∀ c ∈ value, isSpace c = false ∧ c ≠ '\\'
  unquoted : value.head? ≠ some '\''

/-- The characters that assignments take at least: an equals sign and a space for each. -/
def weight (assignments : List Assignment) : Nat :=
  (assignments.map fun assignment => assignment.1.length + assignment.2.length + 2).sum

/-! ## What is read -/

/-- A value and the text behind it are shorter than what they were read from, by more than the
space between them. -/
def Longer (text value rest : List Char) : Prop :=
  value.length + rest.length + 2 ≤ text.length ∨ (rest = [] ∧ value.length + 1 ≤ text.length)

/-- What a value was read from: the value itself, the value and a space, or something longer. -/
inductive ReadFrom (text value rest : List Char) : Prop
  | whole (chars : ∀ c ∈ value, isSpace c = false ∧ c ≠ '\\') (hrest : rest = [])
      (htext : text = value)
  | spaced (chars : ∀ c ∈ value, isSpace c = false ∧ c ≠ '\\') (space : Char)
      (hspace : isSpace space = true) (htext : text = value ++ space :: rest)
  | longer (hlonger : Longer text value rest)

/-- A character that is read in the same way at the front of both changes nothing. -/
theorem Longer.cons {text value rest : List Char} (h : Longer text value rest) (c : Char) :
    Longer (c :: text) (c :: value) rest := by
  rcases h with hlength | ⟨hrest, hlength⟩
  · exact .inl (by simp only [List.length_cons]; omega)
  · exact .inr ⟨hrest, by simp only [List.length_cons]; omega⟩

/-- A longer text is longer still. -/
theorem Longer.mono {text longer value rest : List Char} (h : Longer text value rest)
    (hlength : text.length ≤ longer.length) : Longer longer value rest :=
  h.imp (fun hlonger => hlonger.trans hlength) (And.imp_right fun hlonger => hlonger.trans hlength)

/-- Behind one more character at the front, what was read from is longer. -/
theorem ReadFrom.longer_cons {text value rest : List Char} (h : ReadFrom text value rest)
    (c : Char) : Longer (c :: text) value rest := by
  cases h with
  | whole chars hrest htext =>
    rw [htext]
    exact .inr ⟨hrest, Nat.le_refl _⟩
  | spaced chars space hspace htext =>
    refine .inl ?_
    rw [htext, List.length_cons, List.length_append, List.length_cons]
    omega
  | longer hlonger => exact hlonger.mono (Nat.le_succ _)

/-- A value without quotes is read from itself, unless a backslash stands in it. -/
theorem readFrom_readUnquoted (text : List Char) :
    ReadFrom text (readUnquoted text).1 (readUnquoted text).2 := by
  fun_induction readUnquoted text with
  | case1 => exact .whole (fun _ h => absurd h List.not_mem_nil) rfl rfl
  | case2 => exact .longer (.inr ⟨rfl, Nat.le_refl _⟩)
  | case3 c text ih =>
    -- The backslash is lost.
    exact .longer ((ih.longer_cons '\\').cons c)
  | case4 c text _ _ hspace =>
    exact .spaced (fun _ h => absurd h List.not_mem_nil) c hspace rfl
  | case5 c text hlast hescape hspace ih =>
    have hc : isSpace c = false ∧ c ≠ '\\' := by
      refine ⟨by simpa using hspace, fun heq => ?_⟩
      cases text with
      | nil => exact hlast heq rfl
      | cons next text => exact hescape next text heq rfl
    cases ih with
    | whole chars hrest htext =>
      exact .whole (List.forall_mem_cons.mpr ⟨hc, chars⟩) hrest (congrArg (c :: ·) htext)
    | spaced chars space hisSpace htext =>
      exact .spaced (List.forall_mem_cons.mpr ⟨hc, chars⟩) space hisSpace
        (congrArg (c :: ·) htext)
    | longer hlonger => exact .longer (hlonger.cons c)

/-- A quoted value is shorter than what it was read from. -/
theorem length_of_readQuoted {text value rest : List Char}
    (h : readQuoted text = some (value, rest)) :
    value.length + rest.length + 1 ≤ text.length := by
  fun_induction readQuoted text generalizing value rest with
  | case1 => cases h
  | case2 => cases h
  | case3 c text ih =>
    obtain ⟨read, hread, heq⟩ := Option.map_eq_some_iff.mp h
    cases heq
    have hlength := ih hread
    simp only [List.length_cons] at hlength ⊢
    omega
  | case4 text =>
    cases h
    simp
  | case5 c text hlast hescape hclose ih =>
    obtain ⟨read, hread, heq⟩ := Option.map_eq_some_iff.mp h
    cases heq
    have hlength := ih hread
    simp only [List.length_cons] at hlength ⊢
    omega

/-- Behind spaces, what was read from is longer. -/
theorem ReadFrom.longer_dropWhile {text value rest : List Char}
    (h : ReadFrom (text.dropWhile isSpace) value rest)
    (hspace : ∃ c ∈ text.head?, isSpace c = true) : Longer text value rest := by
  obtain ⟨c, hc, hisSpace⟩ := hspace
  cases text with
  | nil => cases hc
  | cons first text =>
    cases hc
    rw [List.dropWhile_cons_of_pos hisSpace] at h
    exact (h.longer_cons c).mono (Nat.succ_le_succ (List.length_dropWhile_le isSpace text))

/-- A value is read from something longer, unless it is written without spaces before it and
without quotes. -/
theorem readValue_cases {text value rest : List Char}
    (h : readValue text = some (value, rest)) :
    Longer text value rest ∨
      (text.head? ≠ some '\'' ∧ (∀ c ∈ text.head?, isSpace c = false) ∧
        ReadFrom text value rest) := by
  have hbehind : ReadFrom (text.dropWhile isSpace) value rest ∧
      ((text.dropWhile isSpace).head? = some '\'' →
        Longer (text.dropWhile isSpace) value rest) := by
    unfold readValue at h
    split at h
    · rename_i quoted hquoted
      have hlength := length_of_readQuoted h
      have hlonger : Longer (text.dropWhile isSpace) value rest := by
        rw [hquoted]
        exact .inl (by rw [List.length_cons]; omega)
      exact ⟨.longer hlonger, fun _ => hlonger⟩
    · rename_i unquoted
      have hread := Option.some.inj h
      have hvalue := congrArg Prod.fst hread
      have hrest := congrArg Prod.snd hread
      subst hvalue hrest
      refine ⟨readFrom_readUnquoted _, fun hhead => ?_⟩
      obtain ⟨quoted, hquoted⟩ := List.head?_eq_some_iff.mp hhead
      exact absurd hquoted (unquoted quoted)
  by_cases hspace : ∃ c ∈ text.head?, isSpace c = true
  · exact .inl (hbehind.1.longer_dropWhile hspace)
  · have hnone : ∀ c ∈ text.head?, isSpace c = false := by
      intro c hc
      by_contra hisSpace
      exact hspace ⟨c, hc, by simpa using hisSpace⟩
    have hsame : text.dropWhile isSpace = text := by
      cases text with
      | nil => rfl
      | cons c text => exact List.dropWhile_cons_of_neg (by rw [hnone c rfl]; decide)
    rw [hsame] at hbehind
    by_cases hquote : text.head? = some '\''
    · exact .inl (hbehind.2 hquote)
    · exact .inr ⟨hquote, hnone, hbehind.1⟩

/-- A value and the text behind it fit into what they were read from; only at the end of a text
no space is needed between them. -/
theorem length_of_readValue {text value rest : List Char}
    (h : readValue text = some (value, rest)) :
    value.length + rest.length + 1 ≤ text.length ∨ (rest = [] ∧ value.length ≤ text.length) := by
  rcases readValue_cases h with (hlength | ⟨hrest, hlength⟩) | ⟨-, -, hread⟩
  · exact .inl (by omega)
  · exact .inr ⟨hrest, by omega⟩
  · cases hread with
    | whole chars hrest htext => exact .inr ⟨hrest, by rw [htext]⟩
    | spaced chars space hspace htext =>
      refine .inl ?_
      rw [htext, List.length_append, List.length_cons]
      omega
    | longer hlonger =>
      rcases hlonger with hlength | ⟨hrest, hlength⟩
      · exact .inl (by omega)
      · exact .inr ⟨hrest, by omega⟩

/-- A name, its equals sign and the text behind fit into what they were read from. -/
theorem length_of_readName {text name rest : List Char} (h : readName text = some (name, rest)) :
    name.length + rest.length + 1 ≤ text.length := by
  unfold readName at h
  dsimp only at h
  split at h
  · rename_i behind hbehind
    cases h
    have hdropped := List.length_dropWhile_le isSpace (text.dropWhile isNameChar)
    rw [hbehind, List.length_cons] at hdropped
    have hparts : (text.takeWhile isNameChar ++ text.dropWhile isNameChar).length = text.length :=
      congrArg List.length List.takeWhile_append_dropWhile
    rw [List.length_append] at hparts
    omega
  · cases h

/-- A name that is written down is read. -/
theorem readName_append {name : List Char} (hname : ∀ c ∈ name, isNameChar c = true)
    (rest : List Char) : readName (name ++ '=' :: rest) = some (name, rest) := by
  have hstop : ¬ isNameChar '=' = true := by decide
  have htake : (name ++ '=' :: rest).takeWhile isNameChar = name := by
    rw [List.takeWhile_append_of_pos hname, List.takeWhile_cons_of_neg hstop, List.append_nil]
  have hdrop : (name ++ '=' :: rest).dropWhile isNameChar = '=' :: rest := by
    rw [List.dropWhile_append_of_pos hname, List.dropWhile_cons_of_neg hstop]
  unfold readName
  rw [htake, hdrop, List.dropWhile_cons_of_neg (by decide)]
  rfl

/-! ## Room for assignments -/

@[simp]
theorem weight_nil : weight [] = 0 := rfl

@[simp]
theorem weight_cons (assignment : Assignment) (assignments : List Assignment) :
    weight (assignment :: assignments) =
      assignment.1.length + assignment.2.length + 2 + weight assignments := rfl

/-- What one round of parsing reads. -/
theorem parseFrom_succ_eq_some {known : List Char → Bool} {fuel : Nat} {text : List Char}
    {assignments : List Assignment} (h : parseFrom known (fuel + 1) text = some assignments) :
    (text.dropWhile isSpace = [] ∧ assignments = []) ∨
      ∃ name behindName value behind rest,
        readName (text.dropWhile isSpace) = some (name, behindName) ∧
          readValue behindName = some (value, behind) ∧
          parseFrom known fuel behind = some rest ∧ assignments = (name, value) :: rest := by
  unfold parseFrom at h
  split at h
  · rename_i hempty
    cases h
    exact .inl ⟨hempty, rfl⟩
  · obtain ⟨⟨name, behindName⟩, hname, h⟩ := Option.bind_eq_some_iff.mp h
    obtain ⟨⟨value, behind⟩, hvalue, h⟩ := Option.bind_eq_some_iff.mp h
    dsimp only at h
    split at h
    · obtain ⟨rest, hrest, h⟩ := Option.bind_eq_some_iff.mp h
      cases h
      exact .inr ⟨name, behindName, value, behind, rest, hname, hvalue, hrest, rfl⟩
    · cases h

/-- A text holds no more assignments than its length has room for: a space ends each of them but
the last. -/
theorem weight_le {known : List Char → Bool} {fuel : Nat} {text : List Char}
    {assignments : List Assignment} (h : parseFrom known fuel text = some assignments) :
    assignments = [] ∨ weight assignments ≤ text.length + 1 := by
  induction fuel generalizing text assignments with
  | zero => cases h
  | succ fuel ih =>
    rcases parseFrom_succ_eq_some h with
      ⟨-, hnil⟩ | ⟨name, behindName, value, behind, rest, hname, hvalue, hrest, rfl⟩
    · exact .inl hnil
    · have hspaces := List.length_dropWhile_le isSpace text
      have hnameLength := length_of_readName hname
      refine .inr ?_
      rw [weight_cons]
      rcases ih hrest with rfl | hweight
      · rw [weight_nil]
        rcases length_of_readValue hvalue with hlength | ⟨-, hlength⟩ <;> dsimp only <;> omega
      · rcases length_of_readValue hvalue with hlength | ⟨rfl, hlength⟩
        · dsimp only
          omega
        · -- Nothing is left to parse.
          have hnone : rest = [] := by
            cases fuel with
            | zero => cases hrest
            | succ fuel => exact (Option.some.inj hrest).symm
          rw [hnone, weight_nil]
          dsimp only
          omega

/-- Written assignments fill their text. -/
theorem length_write {assignments : List Assignment} (hne : assignments ≠ []) :
    (write assignments).length + 1 = weight assignments := by
  induction assignments with
  | nil => exact absurd rfl hne
  | cons assignment rest ih =>
    cases rest with
    | nil =>
      simp only [write, weight_cons, weight_nil, List.length_append, List.length_cons]
      omega
    | cons next rest =>
      have hrest := ih (List.cons_ne_nil next rest)
      simp only [write, weight_cons assignment, List.length_append, List.length_cons]
      omega

/-- Fewer assignments weigh no more. -/
theorem weight_le_of_sublist {assignments among : List Assignment}
    (h : assignments.Sublist among) : weight assignments ≤ weight among := by
  induction h with
  | slnil => exact Nat.le_refl _
  | cons assignment _ ih => exact ih.trans (Nat.le_add_left ..)
  | cons_cons assignment _ ih => exact Nat.add_le_add_left ih _

/-- The order of assignments does not change their weight. -/
theorem weight_eq_of_perm {assignments assignments' : List Assignment}
    (h : assignments.Perm assignments') : weight assignments = weight assignments' := by
  induction h with
  | nil => rfl
  | cons assignment _ ih => rw [weight_cons, weight_cons, ih]
  | swap assignment assignment' rest =>
    simp only [weight_cons]
    omega
  | trans _ _ ih ih' => exact ih.trans ih'

/-- Assignments that weigh no less than those they are among are all of them. -/
theorem eq_of_sublist {assignments among : List Assignment} (h : assignments.Sublist among)
    (hweight : weight among ≤ weight assignments) : assignments = among := by
  induction h with
  | slnil => rfl
  | cons assignment hsub ih =>
    have hle := weight_le_of_sublist hsub
    rw [weight_cons] at hweight
    omega
  | cons_cons assignment hsub ih =>
    rw [weight_cons, weight_cons] at hweight
    rw [ih (by omega)]

/-! ## Plain values -/

/-- Characters that stand for themselves are read up to a space. -/
theorem readUnquoted_append {value : List Char}
    (hvalue : ∀ c ∈ value, isSpace c = false ∧ c ≠ '\\') (tail : List Char) :
    readUnquoted (value ++ tail) = (value ++ (readUnquoted tail).1, (readUnquoted tail).2) := by
  induction value with
  | nil => rfl
  | cons c value ih =>
    obtain ⟨⟨hspace, hescape⟩, hrest⟩ := List.forall_mem_cons.mp hvalue
    rw [List.cons_append, readUnquoted.eq_4 _ _ (fun h _ => absurd h hescape)
      (fun _ _ h _ => absurd h hescape), hspace, ih hrest]
    rfl

/-- A plain value that does not begin with a space is read as one without quotes. -/
theorem readValue_of_plain {value : List Char} (hplain : Plain value) {tail : List Char}
    (hne : value ≠ [] ∨ tail = []) :
    readValue (value ++ tail) = some (value ++ (readUnquoted tail).1, (readUnquoted tail).2) := by
  cases value with
  | nil =>
    rw [hne.resolve_left fun h => h rfl]
    rfl
  | cons c value =>
    have hspace := (hplain.chars c List.mem_cons_self).1
    unfold readValue
    rw [List.cons_append, List.dropWhile_cons_of_neg (by rw [hspace]; decide)]
    split
    · rename_i heq
      exact absurd (congrArg List.head? heq) hplain.unquoted
    · rw [← List.cons_append, readUnquoted_append hplain.chars]

@[simp]
theorem write_singleton (assignment : Assignment) :
    write [assignment] = assignment.1 ++ '=' :: assignment.2 := rfl

@[simp]
theorem write_cons_cons (assignment next : Assignment) (rest : List Assignment) :
    write (assignment :: next :: rest) =
      assignment.1 ++ '=' :: (assignment.2 ++ ' ' :: write (next :: rest)) := rfl

/-- The text of assignments begins with the first name. -/
theorem write_cons (assignment : Assignment) (rest : List Assignment) :
    ∃ tail, (rest = [] ∧ tail = [] ∨ rest ≠ [] ∧ tail = ' ' :: write rest) ∧
      write (assignment :: rest) = assignment.1 ++ '=' :: (assignment.2 ++ tail) := by
  cases rest with
  | nil => exact ⟨[], .inl ⟨rfl, rfl⟩, by rw [List.append_nil]; rfl⟩
  | cons next rest => exact ⟨_, .inr ⟨List.cons_ne_nil next rest, rfl⟩, rfl⟩

/-- No space stands before the first name. -/
theorem dropWhile_name {name : List Char} (hne : name ≠ [])
    (hname : ∀ c ∈ name, isNameChar c = true) (text : List Char) :
    (name ++ text).dropWhile isSpace = name ++ text := by
  obtain ⟨c, name, rfl⟩ := List.exists_cons_of_ne_nil hne
  have hc := (Bool.and_eq_true_iff.mp (hname c List.mem_cons_self)).2
  rw [List.cons_append, List.dropWhile_cons_of_neg (by simpa using hc)]

/-- What one round of parsing makes of a name, an equals sign and more. -/
theorem parseFrom_name {known : List Char → Bool} {name : List Char} (hne : name ≠ [])
    (hname : ∀ c ∈ name, isNameChar c = true) (hknown : known name = true) (fuel : Nat)
    (text : List Char) :
    parseFrom known (fuel + 1) (name ++ '=' :: text) =
      (readValue text).bind fun read =>
        (parseFrom known fuel read.2).map fun rest => (name, read.1) :: rest := by
  have hnonempty : name ++ '=' :: text ≠ [] := by simp
  rw [parseFrom, dropWhile_name hne hname, if_neg hnonempty, readName_append hname]
  show ((readValue text).bind fun read => if known name = true then
    (parseFrom known fuel read.2).bind fun rest => some ((name, read.1) :: rest) else none) = _
  rw [hknown]
  cases readValue text with
  | none => rfl
  | some read => cases hrest : parseFrom known fuel read.2 <;> simp [hrest]

theorem Named.of_cons {known : List Char → Bool} {assignment : Assignment}
    {rest : List Assignment} (h : Named known (assignment :: rest)) : Named known rest where
  known next hnext := h.known next (List.mem_cons_of_mem _ hnext)
  plain next hnext := h.plain next (List.mem_cons_of_mem _ hnext)
  nodup := (List.nodup_cons.mp h.nodup).2

/-- Plain values are read back when none but the last is empty. -/
theorem parseFrom_write {known : List Char → Bool} {assignments : List Assignment}
    (hnamed : Named known assignments) (hplain : ∀ assignment ∈ assignments, Plain assignment.2)
    (hnonempty : ∀ assignment ∈ assignments.dropLast, assignment.2 ≠ []) {fuel : Nat}
    (hfuel : assignments.length < fuel) :
    parseFrom known fuel (write assignments) = some assignments := by
  induction assignments generalizing fuel with
  | nil =>
    obtain ⟨fuel, rfl⟩ := Nat.exists_eq_add_one_of_ne_zero (Nat.ne_of_gt hfuel)
    rfl
  | cons assignment rest ih =>
    obtain ⟨fuel, rfl⟩ := Nat.exists_eq_add_one_of_ne_zero (Nat.ne_of_gt (Nat.zero_lt_of_lt hfuel))
    obtain ⟨hne, hname⟩ := hnamed.plain assignment List.mem_cons_self
    have hvalue := hplain assignment List.mem_cons_self
    have hfuel' : rest.length < fuel := Nat.lt_of_succ_lt_succ hfuel
    obtain ⟨tail, htail, hwrite⟩ := write_cons assignment rest
    rw [hwrite, parseFrom_name hne hname (hnamed.known assignment List.mem_cons_self)]
    rcases htail with ⟨rfl, rfl⟩ | ⟨hrest, rfl⟩
    · have hrest : parseFrom known fuel (write []) = some [] :=
        ih hnamed.of_cons (by simp) (by simp) hfuel'
      rw [readValue_of_plain hvalue (.inr rfl)]
      show (parseFrom known fuel (write [])).map _ = _
      rw [hrest]
      simp [readUnquoted]
    · have hfirst : assignment.2 ≠ [] := by
        refine hnonempty assignment ?_
        rw [List.dropLast_cons_of_ne_nil hrest]
        exact List.mem_cons_self
      have hread : readUnquoted (' ' :: write rest) = ([], write rest) := by
        rw [readUnquoted.eq_4 _ _ (by simp) (by simp)]
        rfl
      rw [readValue_of_plain hvalue (.inl hfirst), hread]
      show (parseFrom known fuel (write rest)).map _ = _
      rw [ih hnamed.of_cons (List.forall_mem_cons.mp hplain).2 ?_ hfuel', List.append_nil]
      · rfl
      · intro next hnext
        refine hnonempty next ?_
        rw [List.dropLast_cons_of_ne_nil hrest]
        exact List.mem_cons_of_mem _ hnext

/-! ## Values that come back -/

/-- A value that is set stands among the assignments. -/
theorem mem_of_setting {assignments : List Assignment} {name value : List Char}
    (h : setting assignments name = some value) : (name, value) ∈ assignments := by
  obtain ⟨before, after, hparts, -⟩ := List.lookup_eq_some_iff.mp h
  rw [← List.mem_reverse, hparts]
  simp

/-- A text with room for no more than the given assignments, in which each of them is set, holds
these and no others. -/
theorem perm_of_settings {known : List Char → Bool} {fuel : Nat} {text : List Char}
    {assignments parsed : List Assignment} (hnamed : Named known assignments)
    (hne : assignments ≠ []) (hparse : parseFrom known fuel text = some parsed)
    (hroom : text.length + 1 ≤ weight assignments)
    (hset : ∀ assignment ∈ assignments, setting parsed assignment.1 = some assignment.2) :
    parsed.Perm assignments ∧ weight assignments = text.length + 1 := by
  have hsubset : assignments ⊆ parsed := fun assignment h => mem_of_setting (hset assignment h)
  obtain ⟨chosen, hchosen, hsub⟩ :=
    List.subperm_of_subset (List.Nodup.of_map _ hnamed.nodup) hsubset
  have hweight : weight chosen = weight assignments := weight_eq_of_perm hchosen
  have hparsed : parsed ≠ [] := by
    rintro rfl
    rw [List.sublist_nil.mp hsub] at hchosen
    exact hne hchosen.symm.eq_nil
  have hle := (weight_le hparse).resolve_left hparsed
  have hsame : chosen = parsed := eq_of_sublist hsub (by omega)
  refine ⟨hsame ▸ hchosen, ?_⟩
  have hfits := weight_le_of_sublist hsub
  omega

/-- A value at the end of a text that comes back is plain. -/
theorem plain_of_readValue {value behind : List Char}
    (h : readValue value = some (value, behind)) : Plain value := by
  have hnot : ¬ Longer value value behind := by
    rintro (hlonger | ⟨-, hlonger⟩) <;> omega
  rcases readValue_cases h with hlonger | ⟨hquote, -, hread⟩
  · exact absurd hlonger hnot
  · cases hread with
    | whole chars _ _ => exact ⟨chars, hquote⟩
    | longer hlonger => exact absurd hlonger hnot
    | spaced chars space _ htext =>
      have hlength := congrArg List.length htext
      rw [List.length_append, List.length_cons] at hlength
      omega

/-- A value before a space that comes back, without a loss in what is behind it, is plain and not
empty. -/
theorem plain_of_readValue_append {value rest behind : List Char}
    (h : readValue (value ++ ' ' :: rest) = some (value, behind)) (hne : behind ≠ [])
    (hle : rest.length ≤ behind.length) : Plain value ∧ value ≠ [] ∧ behind = rest := by
  have hlength : (value ++ ' ' :: rest).length = value.length + rest.length + 1 := by
    rw [List.length_append, List.length_cons]
    omega
  have hnot : ¬ Longer (value ++ ' ' :: rest) value behind := by
    rintro (hlonger | ⟨hbehind, -⟩)
    · omega
    · exact hne hbehind
  rcases readValue_cases h with hlonger | ⟨hquote, hspace, hread⟩
  · exact absurd hlonger hnot
  · cases hread with
    | whole _ hbehind _ => exact absurd hbehind hne
    | longer hlonger => exact absurd hlonger hnot
    | spaced chars space _ htext =>
      have hsame : ' ' :: rest = space :: behind := List.append_cancel_left htext
      refine ⟨⟨chars, fun hhead => hquote ?_⟩, ?_, (List.cons.inj hsame).2.symm⟩
      · rw [List.head?_append, hhead]
        rfl
      · rintro rfl
        exact absurd (hspace ' ' rfl) (by decide)

/-- Assignments that come back, in whatever order, have plain values, and none but the last is
empty. -/
theorem plain_of_perm {known : List Char → Bool} {fuel : Nat}
    {assignments parsed : List Assignment} (hnamed : Named known assignments)
    (hparse : parseFrom known fuel (write assignments) = some parsed)
    (hperm : parsed.Perm assignments) :
    (∀ assignment ∈ assignments, Plain assignment.2) ∧
      ∀ assignment ∈ assignments.dropLast, assignment.2 ≠ [] := by
  induction assignments generalizing fuel parsed with
  | nil => exact ⟨by simp, by simp⟩
  | cons assignment rest ih =>
    obtain ⟨hne, hname⟩ := hnamed.plain assignment List.mem_cons_self
    obtain ⟨tail, htail, hwrite⟩ := write_cons assignment rest
    cases fuel with
    | zero => cases hparse
    | succ fuel =>
      rw [hwrite, parseFrom_name hne hname (hnamed.known assignment List.mem_cons_self)] at hparse
      obtain ⟨⟨value, behind⟩, hvalue, hparse⟩ := Option.bind_eq_some_iff.mp hparse
      obtain ⟨parsed', hparse', hparsed⟩ := Option.map_eq_some_iff.mp hparse
      dsimp only at hparse' hparsed
      subst hparsed
      -- The names differ, so the first value is the one that was written first.
      have hfirst : value = assignment.2 := by
        rcases List.mem_cons.mp (hperm.subset List.mem_cons_self) with heq | hmem
        · rw [← heq]
        · exact absurd (List.mem_map_of_mem hmem) (List.nodup_cons.mp hnamed.nodup).1
      subst hfirst
      have hperm' : parsed'.Perm rest := hperm.cons_inv
      rcases htail with ⟨rfl, rfl⟩ | ⟨hrest, rfl⟩
      · rw [List.append_nil] at hvalue
        exact ⟨List.forall_mem_singleton.mpr (plain_of_readValue hvalue), by simp⟩
      · -- What is behind the first value has room for the rest, so nothing was lost.
        have hparsed : parsed' ≠ [] := by
          rintro rfl
          exact hrest hperm'.symm.eq_nil
        have hroom := (weight_le hparse').resolve_left hparsed
        have hwritten := length_write hrest
        have hweight := weight_eq_of_perm hperm'
        have hbehind : behind ≠ [] := by
          rintro rfl
          obtain ⟨next, parsed', rfl⟩ := List.exists_cons_of_ne_nil hparsed
          rw [weight_cons, List.length_nil] at hroom
          omega
        obtain ⟨hfirst, hvalueNe, rfl⟩ :=
          plain_of_readValue_append hvalue hbehind (by omega)
        obtain ⟨hplain, hnonempty⟩ := ih hnamed.of_cons hparse' hperm'
        refine ⟨List.forall_mem_cons.mpr ⟨hfirst, hplain⟩, ?_⟩
        rw [List.dropLast_cons_of_ne_nil hrest]
        exact List.forall_mem_cons.mpr ⟨hvalueNe, hnonempty⟩

/-- Different names have the values that stand beside them. -/
theorem lookup_eq_some_iff {assignments : List Assignment}
    (hnodup : (assignments.map Prod.fst).Nodup) {name value : List Char} :
    assignments.lookup name = some value ↔ (name, value) ∈ assignments := by
  rw [List.lookup_eq_some_iff]
  constructor
  · rintro ⟨before, after, rfl, -⟩
    simp
  · intro hmem
    obtain ⟨before, after, rfl⟩ := List.append_of_mem hmem
    refine ⟨before, after, rfl, fun earlier hearlier => ?_⟩
    rw [List.map_append, List.map_cons, List.nodup_append] at hnodup
    have hdiffers := hnodup.2.2 _ (List.mem_map_of_mem hearlier) _ List.mem_cons_self
    simpa using Ne.symm hdiffers

/-- When every name is assigned once, its value is the one beside it. -/
theorem setting_eq_lookup {assignments : List Assignment}
    (hnodup : (assignments.map Prod.fst).Nodup) (name : List Char) :
    setting assignments name = assignments.lookup name := by
  have hreverse : (assignments.reverse.map Prod.fst).Nodup := by
    rw [List.map_reverse]
    exact List.nodup_reverse.mpr hnodup
  ext value
  rw [setting, lookup_eq_some_iff hreverse, lookup_eq_some_iff hnodup, List.mem_reverse]

/-- There is fuel enough for as many assignments as a text has characters. -/
theorem length_le_length_write (assignments : List Assignment) :
    assignments.length ≤ (write assignments).length := by
  induction assignments with
  | nil => exact Nat.le_refl _
  | cons assignment rest ih =>
    obtain ⟨tail, htail, hwrite⟩ := write_cons assignment rest
    rw [hwrite, List.length_append, List.length_cons, List.length_cons, List.length_append]
    rcases htail with ⟨rfl, -⟩ | ⟨-, rfl⟩
    · rw [List.length_nil]
      omega
    · rw [List.length_cons]
      omega

/-- The values of different known names, written down as they are, come back exactly when they
have no NUL in them, each is plain, and none but the last is empty. -/
theorem read_write {known : List Char → Bool} {assignments : List Assignment}
    (hnamed : Named known assignments) (hne : assignments ≠ []) :
    (∃ parsed, parse known (write assignments) = some parsed ∧
        ∀ name, setting parsed name = assignments.lookup name) ↔
      '\x00' ∉ write assignments ∧ (∀ assignment ∈ assignments, Plain assignment.2) ∧
        ∀ assignment ∈ assignments.dropLast, assignment.2 ≠ [] := by
  have hfills := length_write hne
  have hprefix : (write assignments).takeWhile (· != '\x00') <+: write assignments :=
    List.takeWhile_prefix _
  constructor
  · rintro ⟨parsed, hparse, hset⟩
    have hset' : ∀ assignment ∈ assignments, setting parsed assignment.1 = some assignment.2 :=
      fun assignment hmem => (hset _).trans ((lookup_eq_some_iff hnamed.nodup).mpr hmem)
    obtain ⟨hperm, hweight⟩ := perm_of_settings hnamed hne hparse
      (by have := hprefix.length_le; omega) hset'
    -- The assignments fill the text, so it was not cut.
    have hwhole : (write assignments).takeWhile (· != '\x00') = write assignments :=
      hprefix.eq_of_length (by omega)
    refine ⟨fun hnul => ?_, ?_⟩
    · have hpassed := List.takeWhile_eq_self_iff.mp hwhole _ hnul
      exact absurd hpassed (by decide)
    · unfold parse at hparse
      rw [hwhole] at hparse
      exact plain_of_perm hnamed hparse hperm
  · rintro ⟨hnul, hplain, hnonempty⟩
    have hwhole : (write assignments).takeWhile (· != '\x00') = write assignments := by
      refine List.takeWhile_eq_self_iff.mpr fun c hc => ?_
      simpa using fun heq : c = '\x00' => hnul (heq ▸ hc)
    refine ⟨assignments, ?_, setting_eq_lookup hnamed.nodup⟩
    unfold parse
    rw [hwhole]
    exact parseFrom_write hnamed hplain hnonempty
      (Nat.lt_succ_of_le (length_le_length_write assignments))

end ConnInfo
