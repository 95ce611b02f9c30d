import Mathlib
import BoundSql.Proofs.Clause.ReadBack

/-!
What a WHERE text says together with the values that are bound to it. The text gives the shapes of
the predicates, and the values stand in the places of the placeholders, so both determine the
predicates. Those of search criteria are the normal form, and if their columns are identifiers, no
other predicates are said by the same statement.
-/

namespace BoundSql

namespace Predicate

variable {π : Type}

mutual

theorem length_signs_shape : (p : Predicate π) → p.shape.signs.length = p.signs.length
  | .compare _ _ _ => rfl
  | .nullTest _ _ => rfl
  | .member _ _ _ rest => by
      rw [shape, signs, signs, List.length_cons, List.length_cons, List.length_map]
  | .constant _ => rfl
  | .bracket inner => length_signs_shape inner
  | .group _ first second rest => by
      rw [shape, signs, signs, List.length_append, List.length_append, List.length_append,
        List.length_append, length_signs_shape first, length_signs_shape second,
        length_signs_shapes rest]

theorem length_signs_shapes :
    (ps : List (Predicate π)) → (signsOf (shapesOf ps)).length = (signsOf ps).length
  | [] => rfl
  | p :: ps => by
      rw [shapesOf, signsOf, signsOf, List.length_append, List.length_append, length_signs_shape p,
        length_signs_shapes ps]

end

theorem signs_of_append {p q : Predicate π} (same : p.shape = q.shape) {more more' : List π}
    (signs : p.signs ++ more = q.signs ++ more') : p.signs = q.signs ∧ more = more' := by
  have lengths := congrArg (fun shape => shape.signs.length) same
  rw [length_signs_shape, length_signs_shape] at lengths
  exact List.append_inj signs lengths

mutual

/-- A predicate is determined by its shape and its signs. -/
theorem eq_of_shape_of_signs :
    (p q : Predicate π) → p.shape = q.shape → p.signs = q.signs → p = q
  | .compare _ _ _, q, same, signs => by
      cases q <;> simp_all [shape, Predicate.signs]
  | .nullTest _ _, q, same, _ => by
      cases q <;> simp_all [shape]
  | .member _ _ _ _, q, same, signs => by
      cases q <;> simp_all [shape, Predicate.signs]
  | .constant _, q, same, _ => by
      cases q <;> simp_all [shape]
  | .bracket inner, q, same, signs => by
      cases q with
      | bracket other =>
          rw [eq_of_shape_of_signs inner other (Predicate.bracket.inj same) signs]
      | _ => simp [shape] at same
  | .group logic first second rest, q, same, signs => by
      cases q with
      | group logic' first' second' rest' =>
          obtain ⟨rfl, firsts, seconds, rests⟩ := Predicate.group.inj same
          rw [Predicate.signs, Predicate.signs, List.append_assoc, List.append_assoc] at signs
          obtain ⟨firstSigns, others⟩ := signs_of_append firsts signs
          obtain ⟨secondSigns, restSigns⟩ := signs_of_append seconds others
          rw [eq_of_shape_of_signs first first' firsts firstSigns,
            eq_of_shape_of_signs second second' seconds secondSigns,
            eq_of_shapes_of_signs rest rest' rests restSigns]
      | _ => simp [shape] at same

theorem eq_of_shapes_of_signs :
    (ps qs : List (Predicate π)) → shapesOf ps = shapesOf qs → signsOf ps = signsOf qs → ps = qs
  | [], [], _, _ => rfl
  | [], _ :: _, same, _ => by simp [shapesOf] at same
  | _ :: _, [], same, _ => by simp [shapesOf] at same
  | p :: ps, q :: qs, same, signs => by
      obtain ⟨heads, tails⟩ := List.cons.inj same
      obtain ⟨headSigns, tailSigns⟩ := signs_of_append heads signs
      rw [eq_of_shape_of_signs p q heads headSigns, eq_of_shapes_of_signs ps qs tails tailSigns]

end

end Predicate

/-- The statement is the text of these predicates joined by AND, with its placeholders in the
places of their values, and the values are bound to them in order. -/
structure Statement.Says (statement : Statement) (dialect : Dialect) (root : Resolver)
    (ps : List (Predicate Value)) : Prop where
  spelled : ∃ first rest,
    chainText first (rest.map fun p => (.and, p)) = statement.sql.toList ∧
      Predicate.signsOf (first :: rest) = dialect.marks 1 statement.params ∧
      (first :: rest).map Predicate.shape = ps.map Predicate.shape
  bound : statement.bind root = .ok (Predicate.signsOf ps)

namespace Criteria

variable {criteria : Criteria} {dialect : Dialect} {statement : Statement}

theorem says_normal (built : criteria.statement dialect = .ok statement) :
    statement.Says dialect criteria.resolve criteria.normal := by
  obtain ⟨complete, rfl⟩ := (Draft.statement_eq_ok_iff ..).mp built
  have clean := clean_of_complete complete
  constructor
  · obtain ⟨first, rest, text, signs, shapes⟩ := criteria.draft_spells dialect [] 1 clean
    exact ⟨first, rest, text.trans (dialect.to_list_sql _).symm, signs, shapes⟩
  · rw [criteria.signs_normal clean]
    exact (criteria.statement_addresses built).binds

theorem derived_of_says (built : criteria.statement dialect = .ok statement)
    {ps : List (Predicate Value)} (said : statement.Says dialect criteria.resolve ps)
    (identifiers : ∀ column ∈ Predicate.columnsOf ps, isIdentifier column = true) :
    ∃ clause, IsClause dialect statement.sql.toList clause ∧
      clause.map Predicate.shape = ps.map Predicate.shape := by
  obtain ⟨complete, rfl⟩ := (Draft.statement_eq_ok_iff ..).mp built
  obtain ⟨first, rest, text, signs, shapes⟩ := said.spelled
  refine ⟨first :: rest, is_clause_of_shapes text shapes identifiers ?_, shapes⟩
  rw [signs]
  exact dialect.marks_are_signs 1 (criteria.plain_params (clean_of_complete complete))

/-- A statement of criteria says its normal form, and no other predicates whose columns are
identifiers. -/
theorem says_iff (built : criteria.statement dialect = .ok statement)
    (identifiers : ∀ column ∈ Condition.columnsOf criteria.conditions, isIdentifier column = true)
    {ps : List (Predicate Value)} :
    (statement.Says dialect criteria.resolve ps ∧
      ∀ column ∈ Predicate.columnsOf ps, isIdentifier column = true) ↔ ps = criteria.normal := by
  have own : ∀ column ∈ Predicate.columnsOf criteria.normal, isIdentifier column = true :=
    fun column member => identifiers column (criteria.columns_normal column member)
  constructor
  · rintro ⟨said, others⟩
    obtain ⟨clause, derived, shapes⟩ := derived_of_says built (says_normal built) own
    obtain ⟨clause', derived', shapes'⟩ := derived_of_says built said others
    have read := (Clause.read_eq_some_iff ..).mpr derived
    rw [(Clause.read_eq_some_iff ..).mpr derived'] at read
    cases read
    have signs := said.bound.symm.trans (says_normal built).bound
    apply Predicate.eq_of_shapes_of_signs
    · rw [Predicate.shapes_of_eq_map, Predicate.shapes_of_eq_map, ← shapes, ← shapes']
    · exact Except.ok.inj signs
  · rintro rfl
    exact ⟨says_normal built, own⟩

end Criteria

end BoundSql
