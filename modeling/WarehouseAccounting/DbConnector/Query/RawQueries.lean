import WarehouseAccounting.DbConnector.Query.QueryOptions
import WarehouseAccounting.Foundations.NumberedTokens

/-!
# Raw queries behind other placeholders

What `RawQueryOptions::SerializeParametrized` of `raw_query.cpp` does when the generator has already
handed out placeholders: it looks for `$1`, `$2`, ... one after the other, each behind the one
before.

- `RawQueryOptions.shiftPlaceholders_segments`: the loop, on the segments behind the dollar signs.
- `RawQueryOptions.serializeParametrized_shift_iff`: the query is shifted as a whole exactly when
  its placeholders are `$1` to `$n`, each once and in this order.
-/

namespace Srv.Db

open NumberedTokens

/-- A placeholder is a dollar sign and its number. -/
theorem Placeholders.toList_view (placeholders : Placeholders) :
    placeholders.view.toList = '$' :: Nat.toDigits 10 placeholders.count := by
  rw [view, String.toList_append, Nat.toString_eq_repr, Nat.toList_repr]
  rfl

/-! ## Searching -/

/-- A search that begins with a character passes over text without it. -/
theorem splitAtFirst_append {marker : Char} {head : List Char} (h : marker ∉ head)
    (needle text : List Char) :
    splitAtFirst (marker :: needle) (head ++ text) =
      (splitAtFirst (marker :: needle) text).map fun parts => (head ++ parts.1, parts.2) := by
  induction head with
  | nil =>
    rw [List.nil_append]
    cases splitAtFirst (marker :: needle) text <;> rfl
  | cons char head ih =>
    have hchar : marker ≠ char := fun heq => h (heq ▸ List.mem_cons_self)
    have hprefix : (marker :: needle).isPrefixOf (char :: (head ++ text)) = false := by
      simp [List.isPrefixOf, hchar]
    rw [List.cons_append, splitAtFirst, hprefix, if_neg Bool.false_ne_true,
      ih fun hmem => h (List.mem_cons_of_mem char hmem), Option.map_map]
    rfl

/-- Nothing is found in a text without the first character. -/
theorem splitAtFirst_eq_none {marker : Char} {text : List Char} (h : marker ∉ text)
    (needle : List Char) : splitAtFirst (marker :: needle) text = none := by
  have hnil := splitAtFirst_append h needle []
  rw [List.append_nil] at hnil
  rw [hnil]
  rfl

/-- A number stands at the start of a text when it stands at the start of its first segment. -/
theorem prefix_intercalate_iff {number : Nat} {segment : List Char}
    {segments : List (List Char)} :
    Nat.toDigits 10 number <+: ['$'].intercalate (segment :: segments) ↔
      Nat.toDigits 10 number <+: segment := by
  cases segments with
  | nil => rw [List.intercalate_singleton]
  | cons next segments =>
    rw [List.intercalate_cons_cons, List.append_assoc]
    constructor
    · intro h
      rcases List.prefix_or_prefix_of_prefix h (List.prefix_append segment _) with h' | h'
      · exact h'
      · -- The number would go on with the dollar sign behind the segment.
        obtain ⟨rest, hrest⟩ := h'
        cases rest with
        | nil =>
          rw [List.append_nil] at hrest
          exact hrest ▸ List.prefix_rfl
        | cons char rest =>
          rw [← hrest] at h
          obtain ⟨behind, hbehind⟩ := h
          rw [List.append_assoc] at hbehind
          have hchar : char = '$' :=
            (List.cons.inj (List.append_cancel_left hbehind)).1
          have hmem : '$' ∈ Nat.toDigits 10 number := by
            rw [← hrest, hchar]
            simp
          exact absurd (isDigit_toDigits hmem) (by decide)
    · exact fun h => h.trans (List.prefix_append segment _)

/-! ## The loop -/

namespace RawQueryOptions

/-- The loop leaves what the search passes over. -/
theorem shiftPlaceholders_append {query before : List Char} {refPlaceholders : Placeholders}
    (h : splitAtFirst refPlaceholders.view.toList (before ++ query) =
      (splitAtFirst refPlaceholders.view.toList query).map fun parts =>
        (before ++ parts.1, parts.2))
    (fuel : Nat) (placeholders : Placeholders) :
    shiftPlaceholders fuel (before ++ query) refPlaceholders placeholders =
      (before ++ (shiftPlaceholders fuel query refPlaceholders placeholders).1,
        (shiftPlaceholders fuel query refPlaceholders placeholders).2) := by
  cases fuel with
  | zero => rfl
  | succ fuel =>
    rw [shiftPlaceholders, shiftPlaceholders, h]
    cases splitAtFirst refPlaceholders.view.toList query with
    | none => rfl
    | some parts => simp

/-- The loop replaces the numbers of the segments in order, and takes a placeholder for each. -/
theorem shiftPlaceholders_segments {segments : List (List Char)}
    (hsegments : ∀ segment ∈ segments, '$' ∉ segment) {head : List Char} (hhead : '$' ∉ head)
    {fuel : Nat} (hfuel : segments.length ≤ fuel) (expected replacement : Nat) :
    shiftPlaceholders fuel (['$'].intercalate (head :: segments)) ⟨expected⟩ ⟨replacement⟩ =
      (['$'].intercalate (head :: (replaceInOrder expected replacement segments).1),
        ⟨replacement + (replaceInOrder expected replacement segments).2⟩) := by
  induction segments generalizing head fuel expected replacement with
  | nil =>
    rw [List.intercalate_singleton, replaceInOrder]
    cases fuel with
    | zero => rw [shiftPlaceholders, List.intercalate_singleton]; rfl
    | succ fuel =>
      rw [shiftPlaceholders, Placeholders.toList_view, splitAtFirst_eq_none hhead,
        List.intercalate_singleton]
      rfl
  | cons segment segments ih =>
    obtain ⟨hsegment, hrest⟩ := List.forall_mem_cons.mp hsegments
    obtain ⟨fuel, rfl⟩ : ∃ rounds, fuel = rounds + 1 := ⟨fuel - 1, by simp at hfuel; omega⟩
    have hrounds : segments.length ≤ fuel := by simpa using hfuel
    rw [List.intercalate_cons_cons, List.append_assoc, replaceInOrder]
    by_cases hprefix : Nat.toDigits 10 expected <+: segment
    · -- The placeholder is found behind the head, and the loop goes on behind its number.
      rw [if_pos (by rwa [List.isPrefixOf_iff_prefix])]
      have hdollar : '$' ∉ segment.drop (Nat.toDigits 10 expected).length :=
        fun hmem => hsegment (List.mem_of_mem_drop hmem)
      have hfound : splitAtFirst ('$' :: Nat.toDigits 10 expected)
          (['$'] ++ ['$'].intercalate (segment :: segments)) =
          some ([], ['$'].intercalate
            (segment.drop (Nat.toDigits 10 expected).length :: segments)) := by
        obtain ⟨rest, rfl⟩ := hprefix
        have hcut : ['$'].intercalate ((Nat.toDigits 10 expected ++ rest) :: segments) =
            Nat.toDigits 10 expected ++ ['$'].intercalate (rest :: segments) := by
          cases segments with
          | nil => rw [List.intercalate_singleton, List.intercalate_singleton]
          | cons next segments =>
            rw [List.intercalate_cons_cons, List.intercalate_cons_cons, List.append_assoc,
              List.append_assoc, List.append_assoc]
        rw [List.singleton_append, splitAtFirst, hcut, if_pos (by simp), List.drop_left,
          List.length_cons, List.drop_succ_cons, List.drop_left]
      rw [shiftPlaceholders, Placeholders.toList_view, splitAtFirst_append hhead, hfound]
      simp only [Option.map_some]
      rw [Placeholders.next, Placeholders.next, ih hrest hdollar hrounds]
      simp only [List.append_nil, Prod.mk.injEq]
      rw [List.intercalate_cons_cons, Placeholders.toList_view]
      refine ⟨?_, ?_⟩
      · generalize (replaceInOrder (expected + 1) (replacement + 1) segments).1 = after
        cases after with
        | nil => simp
        | cons next after => simp [List.intercalate_cons_cons]
      · rw [Placeholders.mk.injEq]
        omega
    · -- The search goes on in the segment.
      rw [if_neg (by rwa [List.isPrefixOf_iff_prefix])]
      have hpass : splitAtFirst (Placeholders.mk expected).view.toList
          ((head ++ ['$']) ++ ['$'].intercalate (segment :: segments)) =
          (splitAtFirst (Placeholders.mk expected).view.toList
            (['$'].intercalate (segment :: segments))).map fun parts =>
              ((head ++ ['$']) ++ parts.1, parts.2) := by
        have hdiffers : ¬ ('$' :: Nat.toDigits 10 expected).isPrefixOf
            ('$' :: ['$'].intercalate (segment :: segments)) = true := by
          rw [List.isPrefixOf_iff_prefix, List.cons_prefix_cons, prefix_intercalate_iff]
          exact fun h => hprefix h.2
        rw [Placeholders.toList_view, List.append_assoc, splitAtFirst_append hhead,
          List.singleton_append, splitAtFirst, if_neg hdiffers, Option.map_map]
        simp [Function.comp_def]
      rw [← List.append_assoc, shiftPlaceholders_append hpass,
        ih hrest hsegment (by omega), List.intercalate_cons_cons]

/-- A raw query behind `k` placeholders has `k` added to each of its own, and takes `n` of them,
exactly when its placeholders are `$1` to `$n`, each once and in this order. -/
theorem serializeParametrized_shift_iff (text : String) (n k : Nat) (hk : 1 ≤ k) :
    (RawQueryOptions.mk text).serializeParametrized ⟨k + 1⟩ =
        .ok (String.ofList (renumber '$' k text.toList), ⟨k + 1 + n⟩) ↔
      tokens '$' text.toList = (List.range' 1 n).map (Nat.toDigits 10) := by
  obtain ⟨head, segments, hparts⟩ :=
    List.exists_cons_of_ne_nil (List.splitOn_ne_nil '$' text.toList)
  have htext : text.toList = ['$'].intercalate (head :: segments) := by
    rw [← hparts, List.intercalate_splitOn]
  -- The parts of the query, and those of the two results, have no dollar sign.
  have hmarker : ∀ part ∈ head :: segments, '$' ∉ part := fun part hpart =>
    not_mem_of_mem_splitOn (hparts ▸ hpart)
  obtain ⟨hhead, hsegments⟩ := List.forall_mem_cons.mp hmarker
  have hreplaced := @not_mem_replaceInOrder '$' rfl segments hsegments 1 (k + 1)
  have hrenumbered : ∀ segment ∈ segments.map (renumberSegment k), '$' ∉ segment := by
    intro segment hmem
    obtain ⟨original, horiginal, rfl⟩ := List.mem_map.mp hmem
    exact not_mem_renumberSegment rfl (hsegments original horiginal) k
  have hloop := shiftPlaceholders_segments hsegments hhead
    (length_le_length_intercalate '$' head segments) 1 (k + 1)
  rw [← htext] at hloop
  have hcount : k + 1 > 1 := by omega
  have hresult : (RawQueryOptions.mk text).serializeParametrized ⟨k + 1⟩ =
      .ok (String.ofList (['$'].intercalate (head :: (replaceInOrder 1 (k + 1) segments).1)),
        ⟨k + 1 + (replaceInOrder 1 (k + 1) segments).2⟩) := by
    show (if k + 1 > 1 then _ else _) = _
    rw [if_pos hcount]
    show Except.ok (String.ofList (shiftPlaceholders _ text.toList ⟨1⟩ ⟨k + 1⟩).1, _) = _
    rw [hloop]
  rw [hresult, renumber, tokens, hparts, List.headD_cons, List.tail_cons,
    ← replaceInOrder_iff hk segments 1 n, Nat.add_comm 1 k, Except.ok.injEq, Prod.mk.injEq,
    Placeholders.mk.injEq, Nat.add_left_cancel_iff, String.ofList_inj,
    intercalate_inj hhead hreplaced hrenumbered, Prod.ext_iff]

/-- The two placeholders of this query are shifted behind one other. -/
theorem serializeParametrized_shift_in_order :
    (RawQueryOptions.mk "SELECT $1, $2").serializeParametrized ⟨1 + 1⟩ =
      .ok (String.ofList (renumber '$' 1 "SELECT $1, $2".toList), ⟨1 + 1 + 2⟩) :=
  (serializeParametrized_shift_iff "SELECT $1, $2" 2 1 (by decide)).mpr (by decide)

/-- A placeholder in front of the ones that are looked for first keeps its number. -/
theorem serializeParametrized_shift_out_of_order :
    ¬ (RawQueryOptions.mk "SELECT $2, $1").serializeParametrized ⟨1 + 1⟩ =
      .ok (String.ofList (renumber '$' 1 "SELECT $2, $1".toList), ⟨1 + 1 + 2⟩) := by
  have hresult : (RawQueryOptions.mk "SELECT $2, $1").serializeParametrized ⟨1 + 1⟩ =
      .ok ("SELECT $2, $2", ⟨3⟩) := by
    rfl
  rw [hresult]
  intro h
  -- Only one placeholder was taken.
  have hcount : 3 = 1 + 1 + 2 := congrArg (fun result => result.2.count) (Except.ok.inj h)
  exact absurd hcount (by decide)

end RawQueryOptions

end Srv.Db
