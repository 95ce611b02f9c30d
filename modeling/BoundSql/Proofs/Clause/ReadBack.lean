import Mathlib
import BoundSql.Proofs.Clause.Exactness
import BoundSql.Proofs.Condition.Addressing

/-!
The WHERE text of search criteria is read back in one way, and reading it gives the conditions
in normal form. The normal form is a tree of the grammar that holds the values themselves; the
text holds placeholders in their places, numbered from left to right.
-/

namespace BoundSql

namespace Condition

mutual

/-- The predicate that a condition stands for. A comparison with null that is no null test has
none, and its place is taken by the comparison itself. -/
def normal : Condition → Predicate Value
  | .compare op column value =>
      if value.isNull then
        match op.nullTest? with
        | some isNull => .nullTest column isNull
        | none => .compare column op value
      else .compare column op value
  | .nullTest column isNull => .nullTest column isNull
  | .member _ [] negated => .constant negated
  | .member column (value :: values) negated => .member column negated value values
  | .group _ [] => .constant true
  | .group logic (child :: children) => .enclose logic child.normal (normalsOf children)

def normalsOf : List Condition → List (Predicate Value)
  | [] => []
  | c :: cs => c.normal :: normalsOf cs

end

theorem normals_of_eq_map (cs : List Condition) : normalsOf cs = cs.map normal := by
  induction cs with
  | nil => rfl
  | cons c cs ih => rw [normalsOf, ih, List.map_cons]

theorem columns_normal (c : Condition) : ∀ column ∈ c.normal.columns, column ∈ c.columns := by
  induction c using tree_induction with
  | compare op column value =>
      cases null : value.isNull <;> cases test : op.nullTest? <;>
        simp [normal, null, test, Predicate.columns, columns]
  | nullTest column isNull => simp [normal, Predicate.columns, columns]
  | member column values negated => cases values <;> simp [normal, Predicate.columns, columns]
  | group logic children ih =>
      intro column present
      rw [columns, columns_of_eq_flatMap, List.mem_flatMap]
      cases children with
      | nil => simp [normal, Predicate.columns] at present
      | cons child children =>
          rw [normal, Predicate.columns_enclose, Predicate.columns_of_eq_flatMap,
            normals_of_eq_map, List.flatMap_map, List.mem_append, List.mem_flatMap] at present
          rcases present with inChild | ⟨c, member, inRest⟩
          · exact ⟨child, List.mem_cons_self, ih child List.mem_cons_self column inChild⟩
          · have inside := List.mem_cons_of_mem child member
            exact ⟨c, inside, ih c inside column inRest⟩

theorem signs_normals {cs : List Condition} (signs : ∀ c ∈ cs, c.normal.signs = c.leaves) :
    Predicate.signsOf (normalsOf cs) = leavesOf cs := by
  induction cs with
  | nil => rfl
  | cons c cs ih =>
      rw [List.forall_mem_cons] at signs
      rw [normalsOf, Predicate.signsOf, leavesOf, signs.1, ih signs.2]

/-- The values that stand in the normal form are the leaf values. -/
theorem signs_normal {c : Condition} (clean : c.failures = []) : c.normal.signs = c.leaves := by
  induction c using tree_induction with
  | compare op column value =>
      cases null : value.isNull with
      | false => simp [normal, null, leaves, Predicate.signs]
      | true =>
          cases test : op.nullTest? with
          | some isNull => simp [normal, null, test, leaves, Predicate.signs]
          | none => simp [failures, null, test] at clean
  | nullTest column isNull => rfl
  | member column values negated => cases values <;> rfl
  | group logic children ih =>
      have childClean := (failures_of_eq_nil_iff _).mp clean
      cases children with
      | nil => rfl
      | cons child children =>
          rw [List.forall_mem_cons] at childClean ih
          have head := ih.1 childClean.1
          have tail := signs_normals (fun c member => ih.2 c member (childClean.2 c member))
          rw [normal, Predicate.signs_enclose, leaves, leavesOf, head, tail]

end Condition

/-- The predicates of a WHERE clause; without conditions it is a single one that always holds. -/
def Criteria.normal (criteria : Criteria) : List (Predicate Value) :=
  match criteria.conditions with
  | [] => [.constant true]
  | conditions => conditions.map Condition.normal

/-- Pieces spell a predicate whose signs are the placeholders of their parameters. -/
structure Dialect.Spells (dialect : Dialect) (number : Nat) (pieces : List Piece)
    (p : Predicate String) : Prop where
  text : p.text = dialect.spelling number pieces
  signs : p.signs = dialect.marks number (paramPaths pieces)

structure Dialect.SpellsAll (dialect : Dialect) (logic : Logic) (number : Nat)
    (drafts : List Draft) (ps : List (Predicate String)) : Prop where
  text : Predicate.follow logic ps = dialect.spelling number
    (drafts.flatMap fun draft => .text (" " ++ logic.sql ++ " ") :: draft.pieces)
  signs : Predicate.signsOf ps = dialect.marks number
    (drafts.flatMap fun draft => paramPaths draft.pieces)

theorem Dialect.spells_all_cons {dialect : Dialect} {logic : Logic} {number : Nat} {draft : Draft}
    {drafts : List Draft} {p : Predicate String} {ps : List (Predicate String)}
    (head : dialect.Spells number draft.pieces p)
    (tail : dialect.SpellsAll logic (number + (paramPaths draft.pieces).length) drafts ps) :
    dialect.SpellsAll logic number (draft :: drafts) (p :: ps) := by
  constructor
  · rw [Predicate.follow, head.text, tail.text, List.flatMap_cons, List.cons_append,
      spelling_text, spelling_append, to_list_logic, List.append_assoc]
  · rw [Predicate.signsOf, head.signs, tail.signs, List.flatMap_cons, marks_append]

namespace Condition

theorem drafts_spell (dialect : Dialect) (logic : Logic) (base : Path) (i number : Nat)
    (cs : List Condition)
    (spells : ∀ c ∈ cs, ∀ base number,
      ∃ p, dialect.Spells number (c.draft base).pieces p ∧ p.shape = c.normal.shape) :
    ∃ ps, dialect.SpellsAll logic number (drafts base i cs) ps ∧
      ps.map Predicate.shape = cs.map fun c => c.normal.shape := by
  induction cs generalizing i number with
  | nil => exact ⟨[], ⟨rfl, rfl⟩, rfl⟩
  | cons c cs ih =>
      obtain ⟨p, head, shape⟩ := spells c List.mem_cons_self (base ++ [.index i]) number
      obtain ⟨ps, tail, shapes⟩ := ih (i + 1)
        (number + (paramPaths (c.draft (base ++ [.index i])).pieces).length)
        (fun other member => spells other (List.mem_cons_of_mem _ member))
      exact ⟨p :: ps, Dialect.spells_all_cons head tail, by simp [shape, shapes]⟩

theorem null_test_spells (dialect : Dialect) (base : Path) (number : Nat) (column : String)
    (isNull : Bool) :
    dialect.Spells number (draft base (.nullTest column isNull)).pieces
      (.nullTest column isNull) := by
  constructor
  · rw [draft, Predicate.text, Draft.text, Dialect.spelling_text, to_list_null_test,
      Dialect.spelling_nil, List.append_nil]
  · rfl

theorem positions_spell (dialect : Dialect) (base : Path) (number length : Nat) :
    ∃ first rest, dialect.marks number (Draft.positionPaths base (length + 1)) = first :: rest ∧
      rest.length = length ∧
      dialect.spelling number (Draft.positions base (length + 1)).pieces =
        first.toList ++ Predicate.moreSigns rest := by
  obtain ⟨path, paths, split⟩ : ∃ path paths,
      Draft.positionPaths base (length + 1) = path :: paths := by
    apply List.exists_cons_of_length_pos
    rw [Draft.length_position_paths]
    omega
  have lengths := congrArg List.length split
  rw [Draft.length_position_paths, List.length_cons, Nat.add_right_cancel_iff] at lengths
  refine ⟨_, _, by rw [split, Dialect.marks], ?_, ?_⟩
  · rw [Dialect.length_marks, lengths]
  · rw [Draft.positions_eq_joined, split, Draft.pieces_params, Dialect.spelling_param,
      Dialect.spelling_params]
    rfl

theorem member_spells (dialect : Dialect) (base : Path) (number : Nat) (column : String)
    (value : Value) (values : List Value) (negated : Bool) :
    ∃ p, dialect.Spells number (draft base (.member column (value :: values) negated)).pieces p ∧
      p.shape = (normal (.member column (value :: values) negated)).shape := by
  obtain ⟨first, rest, marks, length, spelled⟩ :=
    positions_spell dialect (base ++ [.key "values"]) number values.length
  have complete := Draft.complete_positions (base ++ [.key "values"]) (values.length + 1)
  refine ⟨.member column negated first rest, ⟨?_, ?_⟩, ?_⟩
  · rw [draft_member_cons, Draft.pieces_append rfl, Draft.pieces_append complete]
    simp only [Draft.text, List.cons_append, List.nil_append, Dialect.spelling_text,
      Dialect.spelling_append, spelled, Dialect.spelling_nil, to_list_member, Predicate.text,
      List.append_assoc]
    rfl
  · rw [params_member, marks, Predicate.signs]
  · simp [normal, Predicate.shape, length]

theorem group_spells (dialect : Dialect) (base : Path) (number : Nat) (logic : Logic)
    (child : Condition) (children : List Condition) (clean : failuresOf (child :: children) = [])
    (spells : ∀ c ∈ child :: children, ∀ base number,
      ∃ p, dialect.Spells number (c.draft base).pieces p ∧ p.shape = c.normal.shape) :
    ∃ p, dialect.Spells number (draft base (.group logic (child :: children))).pieces p ∧
      p.shape = (normal (.group logic (child :: children))).shape := by
  obtain ⟨first, head, firstShape⟩ :=
    spells child List.mem_cons_self (base ++ [.key "children"] ++ [.index 0]) number
  obtain ⟨rest, tail, restShapes⟩ := drafts_spell dialect logic (base ++ [.key "children"]) 1
    (number + (paramPaths (child.draft (base ++ [.key "children"] ++ [.index 0])).pieces).length)
    children (fun c member => spells c (List.mem_cons_of_mem _ member))
  have complete := (Draft.complete_joined_iff (" " ++ logic.sql ++ " ") _).mpr
    (complete_drafts (base ++ [.key "children"]) 0 clean)
  refine ⟨.enclose logic first rest, ⟨?_, ?_⟩, ?_⟩
  · rw [draft_group_cons, Draft.pieces_append rfl, Draft.pieces_append complete, drafts,
      Draft.pieces_joined _ _ _ complete, Predicate.text_enclose, head.text, tail.text]
    simp only [Draft.text, List.cons_append, List.nil_append, Dialect.spelling_text,
      Dialect.spelling_append, Dialect.spelling_nil, List.append_nil]
    rfl
  · rw [params_group base logic child children clean, Predicate.signs_enclose, head.signs,
      tail.signs, drafts, List.flatMap_cons, Dialect.marks_append]
  · rw [normal, Predicate.shape_enclose, Predicate.shape_enclose, firstShape, restShapes,
      normals_of_eq_map, List.map_map]
    rfl

theorem draft_spells (dialect : Dialect) (base : Path) (number : Nat) {c : Condition}
    (clean : c.failures = []) :
    ∃ p, dialect.Spells number (c.draft base).pieces p ∧ p.shape = c.normal.shape := by
  induction c using tree_induction generalizing base number with
  | compare op column value =>
      cases null : value.isNull with
      | false =>
          refine ⟨.compare column op (dialect.placeholder number (base ++ [.key "value"])),
            ⟨?_, ?_⟩, by simp [normal, null, Predicate.shape]⟩
          · rw [draft_compare_of_value base op column null, Draft.pieces_append rfl, Draft.text,
              Draft.param, List.cons_append, List.nil_append, Dialect.spelling_text,
              Dialect.spelling_param, Dialect.spelling_nil, List.append_nil, to_list_compare,
              Predicate.text]
          · rw [draft_compare_of_value base op column null]
            rfl
      | true =>
          have isNull := Value.eq_null_of_is_null null
          subst isNull
          cases test : op.nullTest? with
          | some isNull =>
              rw [draft_compare_of_null base op column test]
              exact ⟨_, null_test_spells dialect base number column isNull,
                by simp [normal, test, Value.isNull, Predicate.shape]⟩
          | none => simp [failures, test, Value.isNull] at clean
  | nullTest column isNull => exact ⟨_, null_test_spells dialect base number column isNull, rfl⟩
  | member column values negated =>
      cases values with
      | nil =>
          refine ⟨.constant negated, ⟨?_, ?_⟩, rfl⟩
          · cases negated <;> simp [draft, Draft.text, Predicate.text]
          · simp [draft, Draft.text, Predicate.signs, Dialect.marks]
      | cons value values => exact member_spells dialect base number column value values negated
  | group logic children ih =>
      cases children with
      | nil =>
          refine ⟨.constant true, ⟨?_, ?_⟩, rfl⟩
          · simp [draft, Draft.text, Predicate.text]
          · simp [draft, Draft.text, Predicate.signs, Dialect.marks]
      | cons child children =>
          have childClean := (failures_of_eq_nil_iff _).mp clean
          exact group_spells dialect base number logic child children clean
            (fun c member base number => ih c member base number (childClean c member))

end Condition

/-- No key of the path holds a closing brace, so the path may stand in a named placeholder. -/
def Path.Plain (path : Path) : Prop := ∀ name, Segment.key name ∈ path → '\x7d' ∉ name.toList

theorem to_list_number (n : Nat) : (toString n).toList = Nat.toDigits 10 n := Nat.toList_repr

theorem digits_plain (n : Nat) : '\x7d' ∉ (toString n).toList := by
  intro member
  rw [to_list_number] at member
  have digit := Nat.isDigit_of_mem_toDigits (by decide) (by decide) member
  exact absurd digit (by decide)

theorem Path.segment_text_plain {segment : Segment}
    (plain : ∀ name, segment = .key name → '\x7d' ∉ name.toList) :
    '\x7d' ∉ (segmentText segment).toList := by
  cases segment with
  | key name =>
      have nameFree := plain name rfl
      rw [segmentText, String.toList_append, List.mem_append]
      rintro (point | inName)
      · exact absurd point (by decide)
      · exact nameFree inName
  | index i =>
      rw [segmentText, String.toList_append, String.toList_append, List.mem_append, List.mem_append]
      rintro ((bracket | digit) | bracket)
      · exact absurd bracket (by decide)
      · exact digits_plain i digit
      · exact absurd bracket (by decide)

theorem Path.segment_texts_plain {path : Path} (plain : path.Plain) :
    '\x7d' ∉ (String.join (path.map segmentText)).toList := by
  rw [String.toList_join, List.flatMap_map, List.mem_flatMap]
  rintro ⟨segment, member, brace⟩
  exact segment_text_plain (fun name same => plain name (same ▸ member)) brace

theorem Path.text_plain {path : Path} (plain : path.Plain) : '\x7d' ∉ path.text.toList := by
  unfold Path.text
  split
  · decide
  · rename_i name rest
    have restPlain : Path.Plain rest := fun other member =>
      plain other (List.mem_cons_of_mem _ member)
    rw [String.toList_append, List.mem_append]
    rintro (inName | inRest)
    · exact plain name List.mem_cons_self inName
    · exact segment_texts_plain restPlain inRest
  · exact segment_texts_plain plain

theorem Dialect.placeholder_is_sign (dialect : Dialect) (number : Nat) {path : Path}
    (plain : path.Plain) : dialect.IsSign (dialect.placeholder number path) := by
  have numbered : Nat.toDigits 10 number ≠ [] ∧ ∀ c ∈ Nat.toDigits 10 number, c.isDigit :=
    ⟨Nat.toDigits_ne_nil,
      fun _ member => Nat.isDigit_of_mem_toDigits (by decide) (by decide) member⟩
  cases dialect with
  | named =>
      refine ⟨path.text.toList, Path.text_plain plain, ?_⟩
      rw [placeholder, String.toList_append, String.toList_append, List.append_assoc]
      rfl
  | postgres =>
      refine ⟨_, numbered.1, numbered.2, ?_⟩
      rw [placeholder, String.toList_append, to_list_number]
      rfl
  | sqlite =>
      refine ⟨_, numbered.1, numbered.2, ?_⟩
      rw [placeholder, String.toList_append, to_list_number]
      rfl
  | mysql =>
      show "?".toList = ['?']
      rfl

theorem Dialect.marks_are_signs (dialect : Dialect) (number : Nat) {paths : List Path}
    (plain : ∀ path ∈ paths, path.Plain) :
    ∀ mark ∈ dialect.marks number paths, dialect.IsSign mark := by
  induction paths generalizing number with
  | nil => simp [marks]
  | cons path paths ih =>
      rw [List.forall_mem_cons] at plain
      rw [marks, List.forall_mem_cons]
      exact ⟨dialect.placeholder_is_sign number plain.1, ih (number + 1) plain.2⟩

theorem Condition.plain_of_resolve (c : Condition) {path : Path} {value : Value}
    (resolved : c.resolve path = some value) : path.Plain := by
  induction c using Condition.tree_induction generalizing path with
  | compare op column present =>
      obtain ⟨rfl, -⟩ := (Condition.resolve_compare_iff ..).mp resolved
      intro name member
      cases List.mem_singleton.mp member
      decide
  | nullTest column isNull => simp [Condition.resolve] at resolved
  | member column values negated =>
      obtain ⟨i, rfl, -⟩ := (Condition.resolve_member_iff ..).mp resolved
      intro name member
      simp only [List.mem_cons, Segment.key.injEq, reduceCtorEq, List.not_mem_nil, or_false]
        at member
      subst member
      decide
  | group logic children ih =>
      obtain ⟨i, rest, child, rfl, present, below⟩ := (Condition.resolve_group_iff ..).mp resolved
      have restPlain := ih child (List.mem_of_getElem? present) below
      intro name member
      simp only [List.mem_cons, Segment.key.injEq, reduceCtorEq, false_or] at member
      rcases member with rfl | inRest
      · decide
      · exact restPlain name inRest

theorem is_clause_of_shapes {dialect : Dialect} {text : List Char} {first : Predicate String}
    {rest : List (Predicate String)} {ps : List (Predicate Value)}
    (spelled : chainText first (rest.map fun p => (.and, p)) = text)
    (shapes : (first :: rest).map Predicate.shape = ps.map Predicate.shape)
    (identifiers : ∀ column ∈ Predicate.columnsOf ps, isIdentifier column = true)
    (signs : ∀ sign ∈ Predicate.signsOf (first :: rest), dialect.IsSign sign) :
    IsClause dialect text (first :: rest) := by
  have formed : ∀ p ∈ first :: rest, p.WellFormed dialect := by
    intro p member
    constructor
    · intro column inColumns
      apply identifiers column
      rw [← Predicate.columns_of_same_shapes shapes, Predicate.columns_of_eq_flatMap,
        List.mem_flatMap]
      exact ⟨p, member, inColumns⟩
    · intro sign inSigns
      apply signs sign
      rw [Predicate.signs_of_eq_flatMap, List.mem_flatMap]
      exact ⟨p, member, inSigns⟩
  rw [List.forall_mem_cons] at formed
  refine ⟨spelled, formed.1, ?_⟩
  intro link member
  obtain ⟨p, inRest, rfl⟩ := List.mem_map.mp member
  exact formed.2 p inRest

namespace Criteria

theorem plain_of_resolve (criteria : Criteria) {path : Path} {value : Value}
    (resolved : criteria.resolve path = some value) : path.Plain := by
  obtain ⟨i, rest, c, rfl, -, below⟩ := (criteria.resolve_iff ..).mp resolved
  have restPlain := c.plain_of_resolve below
  intro name member
  simp only [List.mem_cons, Segment.key.injEq, reduceCtorEq, false_or] at member
  rcases member with rfl | inRest
  · decide
  · exact restPlain name inRest

theorem plain_params (criteria : Criteria)
    (clean : Condition.failuresOf criteria.conditions = []) :
    ∀ path ∈ paramPaths (criteria.draft []).pieces, path.Plain := by
  rw [criteria.params_draft [] clean]
  intro path member
  obtain ⟨⟨_, value⟩, bound, rfl⟩ := List.mem_map.mp member
  exact criteria.plain_of_resolve ((criteria.mem_bindings_iff ..).mp bound).1

/-- The WHERE pieces spell predicates of the normal form's shape. -/
theorem draft_spells (criteria : Criteria) (dialect : Dialect) (base : Path) (number : Nat)
    (clean : Condition.failuresOf criteria.conditions = []) :
    ∃ first rest,
      chainText first (rest.map fun p => (.and, p)) =
          dialect.spelling number (criteria.draft base).pieces ∧
        Predicate.signsOf (first :: rest) =
          dialect.marks number (paramPaths (criteria.draft base).pieces) ∧
        (first :: rest).map Predicate.shape = criteria.normal.map Predicate.shape := by
  obtain ⟨conditions, orders, groups⟩ := criteria
  cases conditions with
  | nil => exact ⟨.constant true, [], by rfl, rfl, rfl⟩
  | cons c cs =>
      have eachClean := (Condition.failures_of_eq_nil_iff _).mp clean
      have eachComplete := Condition.complete_drafts (base ++ [.key "conditions"]) 0 clean
      have complete := (Draft.complete_joined_iff " AND " _).mpr eachComplete
      rw [Condition.drafts] at complete eachComplete
      obtain ⟨first, head, shape⟩ := Condition.draft_spells dialect
        (base ++ [.key "conditions"] ++ [.index 0]) number (eachClean c List.mem_cons_self)
      obtain ⟨rest, tail, shapes⟩ := Condition.drafts_spell dialect .and
        (base ++ [.key "conditions"]) 1
        (number + (paramPaths (c.draft (base ++ [.key "conditions"] ++ [.index 0])).pieces).length)
        cs
        (fun d member base number =>
          Condition.draft_spells dialect base number (eachClean d (List.mem_cons_of_mem _ member)))
      refine ⟨first, rest, ?_, ?_, ?_⟩
      · rw [Criteria.draft, Condition.clause_cons, Condition.drafts, chain_text_same_word,
          Draft.pieces_joined _ _ _ complete, Dialect.spelling_append, head.text, tail.text]
        rfl
      · rw [Criteria.draft, Condition.clause_cons, Condition.drafts,
          param_paths_joined _ _ eachComplete, List.flatMap_cons, Dialect.marks_append,
          Predicate.signsOf, head.signs, tail.signs]
      · simp [normal, shape, shapes]

theorem columns_normal (criteria : Criteria) :
    ∀ column ∈ Predicate.columnsOf criteria.normal,
      column ∈ Condition.columnsOf criteria.conditions := by
  obtain ⟨conditions, orders, groups⟩ := criteria
  cases conditions with
  | nil => simp [normal, Predicate.columnsOf, Predicate.columns]
  | cons c cs =>
      intro column present
      rw [normal, Predicate.columns_of_eq_flatMap, List.flatMap_map, List.mem_flatMap] at present
      obtain ⟨d, member, inNormal⟩ := present
      rw [Condition.columns_of_eq_flatMap, List.mem_flatMap]
      exact ⟨d, member, d.columns_normal column inNormal⟩

theorem signs_normal (criteria : Criteria)
    (clean : Condition.failuresOf criteria.conditions = []) :
    Predicate.signsOf criteria.normal = criteria.leaves := by
  obtain ⟨conditions, orders, groups⟩ := criteria
  have eachClean := (Condition.failures_of_eq_nil_iff _).mp clean
  cases conditions with
  | nil => rfl
  | cons c cs =>
      show Predicate.signsOf ((c :: cs).map Condition.normal) = Condition.leavesOf (c :: cs)
      rw [← Condition.normals_of_eq_map]
      exact Condition.signs_normals (fun d member => Condition.signs_normal (eachClean d member))

/-- The WHERE text is derived as a clause of the normal form's shape. -/
theorem draft_derives (criteria : Criteria) (dialect : Dialect)
    (identifiers : ∀ column ∈ Condition.columnsOf criteria.conditions, isIdentifier column = true)
    (clean : Condition.failuresOf criteria.conditions = []) :
    ∃ clause,
      IsClause dialect (dialect.sql (criteria.draft []).pieces).toList clause ∧
        Predicate.signsOf clause = dialect.marks 1 (paramPaths (criteria.draft []).pieces) ∧
        clause.map Predicate.shape = criteria.normal.map Predicate.shape := by
  obtain ⟨first, rest, text, signs, shapes⟩ := criteria.draft_spells dialect [] 1 clean
  rw [← Dialect.to_list_sql] at text
  refine ⟨first :: rest, is_clause_of_shapes text shapes ?_ ?_, signs, shapes⟩
  · exact fun column inColumns => identifiers column (criteria.columns_normal column inColumns)
  · rw [signs]
    exact dialect.marks_are_signs 1 (criteria.plain_params clean)

end Criteria

/-- Reading the WHERE text of criteria whose columns are identifiers. The reader consumes the
whole text and returns the conditions in normal form and in order: its predicates have their
shapes, its signs are the placeholders of the parameters from left to right, and these are bound
to the values of the normal form. The grammar derives the text as this clause alone, and no chain
of predicates that has the text is joined by anything but AND. -/
theorem where_text_read_back (criteria : Criteria) (dialect : Dialect) (statement : Statement)
    (identifiers : ∀ column ∈ Condition.columnsOf criteria.conditions, isIdentifier column = true)
    (built : criteria.statement dialect = .ok statement) :
    ∃ clause : List (Predicate String),
      Clause.read dialect statement.sql.toList = some clause ∧
      clause.map Predicate.shape = criteria.normal.map Predicate.shape ∧
      Predicate.signsOf clause = dialect.marks 1 statement.params ∧
      statement.bind criteria.resolve = .ok (Predicate.signsOf criteria.normal) ∧
      (∀ other, IsClause dialect statement.sql.toList other ↔ other = clause) ∧
      ∀ first links, IsChain dialect statement.sql.toList first links →
        first :: links.map Prod.snd = clause ∧ ∀ link ∈ links, link.1 = .and := by
  obtain ⟨complete, rfl⟩ := (Draft.statement_eq_ok_iff ..).mp built
  have clean := Criteria.clean_of_complete complete
  have addresses := criteria.statement_addresses built
  obtain ⟨clause, derived, signs, shapes⟩ := criteria.draft_derives dialect identifiers clean
  have read := (Clause.read_eq_some_iff ..).mpr derived
  refine ⟨clause, read, shapes, signs, ?_, ?_, ?_⟩
  · rw [criteria.signs_normal clean]
    exact addresses.binds
  · intro other
    rw [← Clause.read_eq_some_iff, read, Option.some.injEq, eq_comm]
  · intro first links chain
    cases clause with
    | nil => exact derived.elim
    | cons first' rest =>
        obtain ⟨rfl, rfl⟩ := Clause.chain_unique chain derived
        simp

/-- A search whose columns are words of the grammar, with every shape that is collapsed. -/
def keywordSearch : Criteria :=
  .ofConditions
    [.compare .eq "NOT" .null,
      .group .or
        [.compare .lt "OR" (.int 18),
          .group .and [.member "IN" [.null, .text "x) OR (1=1"] true],
          .group .or []],
      .member "AND" [] false]

theorem keyword_search_read_back :
    (∀ column ∈ Condition.columnsOf keywordSearch.conditions, isIdentifier column = true) ∧
      ∃ statement clause,
        keywordSearch.statement .postgres = .ok statement ∧
        statement.sql = "NOT IS NULL AND (OR < $1 OR (IN NOT IN ($2, $3)) OR 1=1) AND 1=0" ∧
        Clause.read .postgres statement.sql.toList = some clause ∧
        clause.map Predicate.shape = keywordSearch.normal.map Predicate.shape ∧
        ∀ other, IsClause .postgres statement.sql.toList other ↔ other = clause := by
  have identifiers :
      ∀ column ∈ Condition.columnsOf keywordSearch.conditions, isIdentifier column = true := by
    decide
  obtain ⟨clause, read, shapes, -, -, unique, -⟩ :=
    where_text_read_back keywordSearch .postgres _ identifiers rfl
  exact ⟨identifiers, _, clause, rfl, rfl, read, shapes, unique⟩

end BoundSql
