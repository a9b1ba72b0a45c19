import Mathlib.Data.List.Nodup
import Mathlib.Data.String.Basic
import WarehouseAccounting.Foundations.Decimal
import WarehouseAccounting.Foundations.NumberedTokens
import WarehouseAccounting.StringConverters
import WarehouseAccounting.Webserver.Session

/-!
# Query strings

What `ConvertFromParams` of `base_session.cpp` makes of the query part of a target.

- `StringConverters.fromStringInt64_eq_ok`: the number that `std::stol` reads.
- `paramsRounds_eq`: the loop over the pairs comes to its end.
- `convertFromParams_encodeParams`: pairs with different keys become the members of an object.
- `convertFromParams_iff`: they are decoded as they were encoded exactly when no text begins with a
  64-bit integer.
-/

/-! ## Numbers -/

namespace StringConverters

open NumberPrefix

/-- `std::stol` reads the sign first, and then the digits. -/
theorem fromStringInt64_eq (text : String) :
    fromStringInt64 text =
      (let signed := readSign (text.toList.dropWhile isSpace)
      let digits := signed.2.takeWhile Char.isDigit
      if digits.isEmpty then .error ⟨"stol: no conversion"⟩
      else if value (signed.1, digits) < Int64.minValue.toInt ||
          Int64.maxValue.toInt < value (signed.1, digits) then .error ⟨"stol: out of range"⟩
      else .ok (Int64.ofInt (value (signed.1, digits)))) := rfl

/-- What `std::stol` reads: the number that the text begins with, if it has 64 bits. -/
theorem fromStringInt64_eq_ok {text : String} {number : Int64} :
    fromStringInt64 text = .ok number ↔
      ∃ negative digits, BeginsWith isSpace text.toList negative digits ∧
        Json.fitsInt64 (value (negative, digits)) = true ∧
        number = Int64.ofInt (value (negative, digits)) := by
  have hread : ∀ negative digits, BeginsWith isSpace text.toList negative digits ↔
      NumberPrefix.read isSpace text.toList = some (negative, digits) :=
    fun negative digits => (read_eq_some separates_isSpace).symm
  simp only [hread, NumberPrefix.read]
  rw [fromStringInt64_eq]
  dsimp only
  generalize (readSign (text.toList.dropWhile isSpace)).1 = sign
  generalize (readSign (text.toList.dropWhile isSpace)).2.takeWhile Char.isDigit = number'
  by_cases hdigits : number' = []
  · rw [if_pos hdigits, if_pos (by rw [hdigits]; rfl)]
    exact iff_of_false (fun h => by cases h) fun ⟨_, _, h, _⟩ => by cases h
  · rw [if_neg hdigits, if_neg (by simpa using hdigits)]
    have hrange : (value (sign, number') < Int64.minValue.toInt ||
        Int64.maxValue.toInt < value (sign, number')) =
          !Json.fitsInt64 (value (sign, number')) := by
      rw [Json.fitsInt64, Bool.eq_iff_iff]
      simp only [Bool.or_eq_true, decide_eq_true_eq, Bool.not_eq_true', Bool.and_eq_false_iff,
        decide_eq_false_iff_not]
      omega
    rw [hrange]
    cases hfits : Json.fitsInt64 (value (sign, number')) with
    | false =>
      refine iff_of_false (fun h => by cases h) ?_
      rintro ⟨negative, digits, h, hfits', -⟩
      cases h
      rw [hfits] at hfits'
      cases hfits'
    | true =>
      rw [Bool.not_true, if_neg Bool.false_ne_true, Except.ok.injEq]
      constructor
      · rintro rfl
        exact ⟨sign, number', rfl, hfits, rfl⟩
      · rintro ⟨negative, digits, h, -, rfl⟩
        cases h
        rfl

end StringConverters

/-! ## Members of an object -/

namespace Json

/-- The members are in the order of their keys. -/
def Sorted (members : List (String × Json)) : Prop :=
  members.Pairwise fun member other => member.1 < other.1

/-- A member with a new key is added. -/
theorem emplace_perm {key : String} {members : List (String × Json)}
    (h : ∀ member ∈ members, member.1 ≠ key) (value : Json) :
    (emplace key value members).Perm ((key, value) :: members) := by
  induction members with
  | nil => exact List.Perm.refl _
  | cons first members ih =>
    obtain ⟨hfirst, hrest⟩ := List.forall_mem_cons.mp h
    obtain ⟨key', value'⟩ := first
    rw [emplace, if_neg hfirst.symm]
    split
    · exact List.Perm.refl _
    · exact ((ih hrest).cons _).trans (List.Perm.swap _ _ _)

/-- A member with a new key is added in its place. -/
theorem sorted_emplace {key : String} {members : List (String × Json)}
    (h : ∀ member ∈ members, member.1 ≠ key) (hsorted : Sorted members) (value : Json) :
    Sorted (emplace key value members) := by
  induction members with
  | nil => exact List.pairwise_singleton _ _
  | cons first members ih =>
    obtain ⟨hfirst, hrest⟩ := List.forall_mem_cons.mp h
    obtain ⟨hbefore, htail⟩ := List.pairwise_cons.mp hsorted
    obtain ⟨key', value'⟩ := first
    rw [emplace, if_neg hfirst.symm]
    split
    · rename_i hless
      refine List.pairwise_cons.mpr ⟨?_, hsorted⟩
      exact List.forall_mem_cons.mpr
        ⟨hless, fun member hmember => lt_trans hless (hbefore member hmember)⟩
    · rename_i hless
      -- The first key stays before the new one.
      have hgreater : key' < key := lt_of_le_of_ne (not_lt.mp hless) hfirst
      refine List.pairwise_cons.mpr ⟨fun member hmember => ?_, ih hrest htail⟩
      rcases List.mem_cons.mp ((emplace_perm hrest value).mem_iff.mp hmember) with rfl | hmember
      · exact hgreater
      · exact hbefore member hmember

/-- Members with different keys are added in their places. -/
theorem foldl_emplace {members : List (String × Json)} (hdistinct : (members.map Prod.fst).Nodup) :
    ((members.foldl (fun object member => emplace member.1 member.2 object) []).Perm members) ∧
      Sorted (members.foldl (fun object member => emplace member.1 member.2 object) []) := by
  -- Generalised over the members that are there already.
  suffices hfold : ∀ object : List (String × Json), Sorted object →
      (∀ member ∈ members, ∀ old ∈ object, old.1 ≠ member.1) →
      ((members.foldl (fun object member => emplace member.1 member.2 object) object).Perm
        (members ++ object)) ∧
      Sorted (members.foldl (fun object member => emplace member.1 member.2 object) object) by
    have hnil := hfold [] List.Pairwise.nil fun _ _ old hold => absurd hold List.not_mem_nil
    rwa [List.append_nil] at hnil
  induction members with
  | nil => exact fun object hsorted _ => ⟨List.Perm.refl _, hsorted⟩
  | cons member members ih =>
    intro object hsorted hnew
    obtain ⟨hmember, hrest⟩ := List.forall_mem_cons.mp hnew
    rw [List.map_cons, List.nodup_cons] at hdistinct
    obtain ⟨hperm, hsorted'⟩ := ih hdistinct.2 (emplace member.1 member.2 object)
      (sorted_emplace hmember hsorted member.2) (by
        intro next hnext old hold
        rcases List.mem_cons.mp ((emplace_perm hmember member.2).mem_iff.mp hold) with rfl | hold
        · exact fun heq => hdistinct.1 (heq ▸ List.mem_map_of_mem hnext)
        · exact hrest next hnext old hold)
    refine ⟨?_, hsorted'⟩
    rw [List.foldl_cons]
    exact hperm.trans (((emplace_perm hmember member.2).append_left members).trans
      List.perm_middle)

end Json

namespace Ws.Session

open NumberPrefix StringConverters

/-! ## The loop -/

/-- The loop of `ConvertFromParams` over the pairs, for a number of rounds: what it returns, if it
comes to its end. -/
def paramsRounds : Nat → List Char → List (String × Json) → Option (List (String × Json))
  | 0, _, _ => none
  | fuel + 1, target, result =>
    if '&' ∈ target then
      paramsRounds fuel ((target.dropWhile (· ≠ '&')).drop 1)
        (handlePair result (target.takeWhile (· ≠ '&')))
    else
      some (handlePair result target)

/-- The loop comes to its end, and has handled the parts between the separators. -/
theorem paramsRounds_eq {fuel : Nat} {target : List Char} (hfuel : target.length < fuel)
    (result : List (String × Json)) :
    paramsRounds fuel target result = some ((target.splitOn '&').foldl handlePair result) := by
  induction fuel generalizing target result with
  | zero => exact absurd hfuel (Nat.not_lt_zero _)
  | succ fuel ih =>
    rw [paramsRounds]
    split
    · rename_i hmem
      -- The separator goes with the part before it.
      obtain ⟨rest, hrest, htarget, hpart⟩ := NumberedTokens.exists_cut hmem
      have hlength : rest.length < fuel := by
        have := congrArg List.length htarget
        rw [List.length_append, List.length_cons] at this
        omega
      rw [hrest, List.drop_one, List.tail_cons, ih hlength]
      conv_rhs => rw [htarget, List.splitOn_append_cons_self_of_not_mem hpart, List.foldl_cons]
    · rename_i hmem
      rw [List.splitOn_eq_singleton hmem, List.foldl_cons, List.foldl_nil]

/-- `ConvertFromParams` with its loop, for a number of rounds. -/
def convertFromParamsRounds (fuel : Nat) (target : String) : Option Json :=
  let text := target.toList
  if '?' ∈ text then
    let firstIndex := text.idxOf '?' + 1
    let lastIndex := text.idxOf '#'
    let params :=
      if firstIndex ≤ lastIndex then (text.drop firstIndex).take (lastIndex - firstIndex)
      else text.drop firstIndex
    (paramsRounds fuel params []).map .object
  else
    some .null

/-- `ConvertFromParams` returns after no more rounds than the target has characters. -/
theorem convertFromParamsRounds_eq {fuel : Nat} {target : String}
    (hfuel : target.toList.length < fuel) :
    convertFromParamsRounds fuel target = some (convertFromParams target) := by
  unfold convertFromParamsRounds convertFromParams
  dsimp only
  split
  · rw [paramsRounds_eq]
    · rfl
    · refine Nat.lt_of_le_of_lt ?_ hfuel
      split
      · exact ((List.take_sublist _ _).trans (List.drop_sublist _ _)).length_le
      · exact (List.drop_sublist _ _).length_le
  · rfl

/-! ## Encoded pairs -/

/-- The text of a pair. -/
def pairText (pair : String × String) : List Char :=
  pair.1.toList ++ '=' :: pair.2.toList

/-- A path, the pairs behind a question mark, and maybe a fragment. -/
def encodeParams (path : String) (pairs : List (String × String)) (fragment : Option String) :
    String :=
  String.ofList (path.toList ++ '?' :: (['&'].intercalate (pairs.map pairText) ++
    (fragment.map fun text => '#' :: text.toList).getD []))

/-- The text has none of the characters that divide a target. -/
def Undivided (text : String) : Prop :=
  ∀ divider ∈ ['?', '&', '=', '#'], divider ∉ text.toList

/-- The 64-bit integer that a text is the decimal of. -/
def int64Of (text : String) : Option Int64 :=
  (Decimal.parse text).bind fun number =>
    if Json.fitsInt64 number = true then some (Int64.ofInt number) else none

/-- What a value means: the integer that it is, or its text. -/
def meant (text : String) : Json :=
  ((int64Of text).map Json.integer).getD (.string text)

/-- The text begins with a 64-bit integer, behind spaces and a sign. -/
def BeginsWithInt64 (text : String) : Prop :=
  ∃ negative digits, BeginsWith isSpace text.toList negative digits ∧
    Json.fitsInt64 (value (negative, digits)) = true

/-- What `handlePair` makes of a value. -/
def converted (text : String) : Json :=
  match fromStringInt64 text with
  | .ok number => .integer number
  | .error _ => .string text

/-- The document is the object of the pairs, with the values that they mean. -/
def Decodes (json : Json) (pairs : List (String × String)) : Prop :=
  ∃ members, json = .object members ∧
    members.Perm (pairs.map fun pair => (pair.1, meant pair.2)) ∧ Json.Sorted members

/-- What a joined text has is in its parts, or between them. -/
theorem mem_intercalate {separator char : Char} {parts : List (List Char)}
    (h : char ∈ [separator].intercalate parts) :
    char = separator ∨ ∃ part ∈ parts, char ∈ part := by
  induction parts with
  | nil => exact absurd h List.not_mem_nil
  | cons part parts ih =>
    cases parts with
    | nil =>
      rw [List.intercalate_singleton] at h
      exact .inr ⟨part, List.mem_cons_self, h⟩
    | cons next parts =>
      rw [List.intercalate_cons_cons, List.mem_append, List.mem_append, List.mem_singleton] at h
      rcases h with (h | h) | h
      · exact .inr ⟨part, List.mem_cons_self, h⟩
      · exact .inl h
      · rcases ih h with h | ⟨other, hother, h⟩
        · exact .inl h
        · exact .inr ⟨other, List.mem_cons_of_mem part hother, h⟩

/-- A pair has no divider but the equals sign. -/
theorem not_mem_pairText {pair : String × String}
    (h : Undivided pair.1 ∧ Undivided pair.2) {divider : Char}
    (hdivider : divider ∈ ['?', '&', '#']) : divider ∉ pairText pair := by
  have hall : divider ∈ ['?', '&', '=', '#'] := by
    revert hdivider
    simp only [List.mem_cons, List.not_mem_nil, or_false]
    tauto
  have hequals : divider ≠ '=' := by
    rintro rfl
    revert hdivider
    decide
  rw [pairText, List.mem_append, List.mem_cons]
  rintro (hmem | hmem | hmem)
  · exact h.1 divider hall hmem
  · exact hequals hmem
  · exact h.2 divider hall hmem

/-- A pair becomes a member, with its value converted. -/
theorem handlePair_pairText {pair : String × String} (h : Undivided pair.1)
    (members : List (String × Json)) :
    handlePair members (pairText pair) = Json.emplace pair.1 (converted pair.2) members := by
  have hkey : '=' ∉ pair.1.toList := h '=' (by decide)
  have hmem : '=' ∈ pairText pair := List.mem_append_right _ List.mem_cons_self
  rw [handlePair, if_pos hmem, pairText, NumberedTokens.takeWhile_cut hkey,
    NumberedTokens.dropWhile_cut hkey, List.drop_one, List.tail_cons, String.ofList_toList,
    String.ofList_toList]
  dsimp only
  unfold converted
  cases fromStringInt64 pair.2 <;> rfl

/-- The pairs between the separators are handled one after the other. -/
theorem foldl_handlePair {pairs : List (String × String)}
    (hpairs : ∀ pair ∈ pairs, Undivided pair.1 ∧ Undivided pair.2) :
    ((['&'].intercalate (pairs.map pairText)).splitOn '&').foldl handlePair [] =
      pairs.foldl (fun object pair => Json.emplace pair.1 (converted pair.2) object) [] := by
  cases pairs with
  | nil => rfl
  | cons pair pairs =>
    rw [List.splitOn_intercalate '&' ?_ (by simp), List.foldl_map]
    · exact List.foldl_ext _ _ _ fun object pair hpair =>
        handlePair_pairText (hpairs pair hpair).1 object
    · intro part hpart
      obtain ⟨other, hother, rfl⟩ := List.mem_map.mp hpart
      exact not_mem_pairText (hpairs other hother) (by decide)

/-- The pairs of a target become the members of an object, one after the other. -/
theorem convertFromParams_encodeParams {path : String} (hpath : '?' ∉ path.toList ∧
      '#' ∉ path.toList) {pairs : List (String × String)}
    (hpairs : ∀ pair ∈ pairs, Undivided pair.1 ∧ Undivided pair.2) (fragment : Option String) :
    convertFromParams (encodeParams path pairs fragment) =
      .object (pairs.foldl (fun object pair =>
        Json.emplace pair.1 (converted pair.2) object) []) := by
  let joined := ['&'].intercalate (pairs.map pairText)
  let rest := (fragment.map fun text => '#' :: text.toList).getD []
  have htext : (encodeParams path pairs fragment).toList =
      path.toList ++ '?' :: (joined ++ rest) := String.toList_ofList
  have hjoined : '#' ∉ joined := by
    intro hmem
    rcases mem_intercalate hmem with h | ⟨part, hpart, h⟩
    · exact absurd h (by decide)
    · obtain ⟨pair, hpair, rfl⟩ := List.mem_map.mp hpart
      exact not_mem_pairText (hpairs pair hpair) (by decide) h
  have hfirst : (path.toList ++ '?' :: (joined ++ rest)).idxOf '?' = path.toList.length := by
    rw [List.idxOf_append_of_notMem hpath.1, List.idxOf_cons_self, Nat.add_zero]
  -- The fragment begins right behind the pairs.
  have hlast : (path.toList ++ '?' :: (joined ++ rest)).idxOf '#' =
      path.toList.length + 1 + joined.length := by
    have hbefore : '#' ∉ path.toList ++ '?' :: joined := by
      rw [List.mem_append, List.mem_cons]
      rintro (h | h | h)
      · exact hpath.2 h
      · exact absurd h (by decide)
      · exact hjoined h
    have hparts : path.toList ++ '?' :: (joined ++ rest) =
        (path.toList ++ '?' :: joined) ++ rest := by
      rw [List.append_assoc, List.cons_append]
    have hrest : rest.idxOf '#' = 0 := by
      cases fragment <;> simp [rest]
    rw [hparts, List.idxOf_append_of_notMem hbefore, hrest, List.length_append, List.length_cons]
    omega
  have hdrop : (path.toList ++ '?' :: (joined ++ rest)).drop (path.toList.length + 1) =
      joined ++ rest := by
    rw [← List.drop_drop, List.drop_left, List.drop_one, List.tail_cons]
  have hlength : path.toList.length + 1 + joined.length - (path.toList.length + 1) =
      joined.length := by omega
  unfold convertFromParams
  dsimp only
  rw [htext, hfirst, hlast, if_pos (List.mem_append_right _ List.mem_cons_self),
    if_pos (by omega), hdrop, hlength, List.take_left]
  rw [foldl_handlePair hpairs]

/-- A decimal is a sign and digits. -/
theorem exists_digits_of_parse {text : String} {number : Int}
    (h : Decimal.parse text = some number) :
    ∃ negative sign digits, IsSign negative sign ∧ text.toList = sign ++ digits ∧ digits ≠ [] ∧
      (∀ digit ∈ digits, digit.isDigit = true) ∧ number = value (negative, digits) := by
  have hdigits : ∀ {digits : List Char} {magnitude : Nat},
      Decimal.parseDigits digits = some magnitude → digits ≠ [] ∧
        (∀ digit ∈ digits, digit.isDigit = true) ∧
        magnitude = Nat.ofDigitChars 10 digits 0 := by
    intro digits magnitude hparse
    unfold Decimal.parseDigits at hparse
    split at hparse
    · cases hparse
    · rename_i hvalid
      rw [Bool.or_eq_true, not_or, List.isEmpty_iff, Bool.not_eq_true, Bool.not_eq_false',
        List.all_eq_true] at hvalid
      exact ⟨hvalid.1, hvalid.2, (Option.some.inj hparse).symm⟩
  unfold Decimal.parse at h
  split at h
  · rename_i digits htext
    obtain ⟨magnitude, hparse, rfl⟩ := Option.map_eq_some_iff.mp h
    obtain ⟨hne, hall, rfl⟩ := hdigits hparse
    exact ⟨true, ['-'], digits, .minus, htext, hne, hall, rfl⟩
  · obtain ⟨magnitude, hparse, rfl⟩ := Option.map_eq_some_iff.mp h
    obtain ⟨hne, hall, rfl⟩ := hdigits hparse
    exact ⟨false, [], text.toList, .missing, rfl, hne, hall, rfl⟩

/-- A text that is an integer is read whole. -/
theorem fromStringInt64_of_int64Of {text : String} {number : Int64}
    (h : int64Of text = some number) : fromStringInt64 text = .ok number := by
  obtain ⟨parsed, hparse, hfits⟩ := Option.bind_eq_some_iff.mp h
  obtain ⟨negative, sign, digits, hsign, htext, hne, hdigits, rfl⟩ :=
    exists_digits_of_parse hparse
  have hread := read_digits separates_isSpace hsign hne hdigits
  rw [← htext] at hread
  split at hfits
  · rename_i hrange
    exact fromStringInt64_eq_ok.mpr ⟨negative, digits,
      (read_eq_some separates_isSpace).mp hread, hrange, (Option.some.inj hfits).symm⟩
  · cases hfits

/-- A value is converted to what it means unless it is a text that begins with an integer. -/
theorem converted_eq_meant_iff (text : String) :
    converted text = meant text ↔ (int64Of text = none → ¬ BeginsWithInt64 text) := by
  unfold converted meant
  cases hinteger : int64Of text with
  | some number =>
    rw [fromStringInt64_of_int64Of hinteger]
    exact iff_of_true rfl fun h => by cases h
  | none =>
    rw [Option.map_none, Option.getD_none]
    cases hread : fromStringInt64 text with
    | ok number =>
      obtain ⟨negative, digits, hbegins, hfits, -⟩ := fromStringInt64_eq_ok.mp hread
      exact iff_of_false (fun h => by cases h) fun h => h rfl ⟨negative, digits, hbegins, hfits⟩
    | error failure =>
      refine iff_of_true rfl fun _ => ?_
      rintro ⟨negative, digits, hbegins, hfits⟩
      rw [fromStringInt64_eq_ok.mpr ⟨negative, digits, hbegins, hfits, rfl⟩] at hread
      cases hread

/-- Values that are converted member by member. -/
theorem perm_converted_iff {pairs : List (String × String)}
    (hdistinct : (pairs.map Prod.fst).Nodup) :
    (pairs.map fun pair => (pair.1, converted pair.2)).Perm
        (pairs.map fun pair => (pair.1, meant pair.2)) ↔
      ∀ pair ∈ pairs, converted pair.2 = meant pair.2 := by
  constructor
  · intro h pair hpair
    -- The member that means the value has the same key, so it is that of the pair.
    have hmem := h.mem_iff.mp (List.mem_map_of_mem hpair)
    obtain ⟨other, hother, hsame⟩ := List.mem_map.mp hmem
    obtain ⟨hkey, hvalue⟩ := Prod.mk.inj hsame
    have heq : other = pair := List.inj_on_of_nodup_map hdistinct hother hpair hkey
    rw [← hvalue, heq]
  · intro h
    rw [List.map_congr_left fun pair hpair => by rw [h pair hpair]]

/-- `ConvertFromParams` returns for every target. Pairs with different keys are decoded as they were
encoded exactly when no text that is no integer begins with one. -/
theorem convertFromParams_iff (target path : String) (pairs : List (String × String))
    (fragment : Option String) (hpath : '?' ∉ path.toList ∧ '#' ∉ path.toList)
    (hdistinct : (pairs.map Prod.fst).Nodup)
    (hpairs : ∀ pair ∈ pairs, Undivided pair.1 ∧ Undivided pair.2) :
    (∀ fuel, target.toList.length < fuel →
      convertFromParamsRounds fuel target = some (convertFromParams target)) ∧
    (Decodes (convertFromParams (encodeParams path pairs fragment)) pairs ↔
      ∀ pair ∈ pairs, int64Of pair.2 = none → ¬ BeginsWithInt64 pair.2) := by
  refine ⟨fun fuel hfuel => convertFromParamsRounds_eq hfuel, ?_⟩
  let members := pairs.map fun pair => (pair.1, converted pair.2)
  have hkeys : (members.map Prod.fst).Nodup := by
    rwa [List.map_map]
  obtain ⟨hperm, hsorted⟩ := Json.foldl_emplace hkeys
  rw [List.foldl_map] at hperm hsorted
  rw [convertFromParams_encodeParams hpath hpairs fragment]
  have hvalues : (∀ pair ∈ pairs, converted pair.2 = meant pair.2) ↔
      ∀ pair ∈ pairs, int64Of pair.2 = none → ¬ BeginsWithInt64 pair.2 :=
    forall₂_congr fun pair _ => converted_eq_meant_iff pair.2
  rw [← hvalues, ← perm_converted_iff hdistinct]
  constructor
  · rintro ⟨object, hobject, hmeant, -⟩
    rw [Json.object.injEq] at hobject
    exact hperm.symm.trans (hobject ▸ hmeant)
  · intro h
    exact ⟨_, rfl, hperm.trans h, hsorted⟩

/-- A name and a number are decoded. -/
theorem decodes_name_number :
    (∀ fuel, "/api/products?name=box&limit=5".toList.length < fuel →
      convertFromParamsRounds fuel "/api/products?name=box&limit=5" =
        some (convertFromParams "/api/products?name=box&limit=5")) ∧
    (Decodes (convertFromParams (encodeParams "/api/products" [("name", "box"), ("limit", "5")]
        none)) [("name", "box"), ("limit", "5")] ↔
      ∀ pair ∈ [("name", "box"), ("limit", "5")],
        int64Of pair.2 = none → ¬ BeginsWithInt64 pair.2) :=
  convertFromParams_iff "/api/products?name=box&limit=5" "/api/products"
    [("name", "box"), ("limit", "5")] none (by decide) (by decide) (by
      intro pair hpair
      simp only [List.mem_cons, List.not_mem_nil, or_false] at hpair
      rcases hpair with rfl | rfl <;> simp [Undivided])

/-- A date is decoded as its year. -/
theorem convertFromParams_date :
    ¬ Decodes (convertFromParams (encodeParams "/api/invoices" [("from", "2024-01-01")] none))
      [("from", "2024-01-01")] := by
  rintro ⟨members, hobject, hperm, -⟩
  have hconverted : convertFromParams (encodeParams "/api/invoices" [("from", "2024-01-01")] none) =
      .object [("from", .integer 2024)] := by
    rfl
  rw [hconverted] at hobject
  cases hobject
  have hmember := hperm.mem_iff.mp List.mem_cons_self
  have hmeant : meant "2024-01-01" = .string "2024-01-01" := by
    rfl
  rw [List.map_singleton, hmeant, List.mem_singleton] at hmember
  cases congrArg Prod.snd hmember

end Ws.Session
