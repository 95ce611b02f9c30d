import Mathlib
import BoundSql.Criteria.Basic
import BoundSql.Proofs.Condition.Tree

/-!
The placeholders of a condition address exactly the values of its tree. The bindings of a tree
list each value under its path, depth first and left to right. The writer writes their paths,
the resolver finds their values there and nothing anywhere else, a null that is compared with
apart; so binding a statement gives the leaf values in order, each of them once.
-/

namespace BoundSql

namespace Condition

mutual

/-- The values of a tree, left to right: those that are compared with, except null, and those
of lists. -/
def leaves : Condition → List Value
  | .compare _ _ value => if value.isNull then [] else [value]
  | .nullTest _ _ => []
  | .member _ values _ => values
  | .group _ children => leavesOf children

def leavesOf : List Condition → List Value
  | [] => []
  | c :: cs => c.leaves ++ leavesOf cs

end

inductive NullCompared : Condition → Path → Prop
  | here (op : Comparison) (column : String) :
      NullCompared (.compare op column .null) [.key "value"]
  | child {logic : Logic} {children : List Condition} {i : Nat} {c : Condition} {rest : Path}
      (present : children[i]? = some c) (below : NullCompared c rest) :
      NullCompared (.group logic children) (.key "children" :: .index i :: rest)

mutual

/-- The values of a tree with the paths that lead to them. -/
def bindings : Condition → List (Path × Value)
  | .compare _ _ value => if value.isNull then [] else [([.key "value"], value)]
  | .nullTest _ _ => []
  | .member _ values _ => values.zipIdx.map fun item => ([.key "values", .index item.2], item.1)
  | .group _ children =>
      (bindingsFrom 0 children).map fun binding => (.key "children" :: binding.1, binding.2)

def bindingsFrom (i : Nat) : List Condition → List (Path × Value)
  | [] => []
  | c :: cs =>
      (c.bindings.map fun binding => (.index i :: binding.1, binding.2)) ++ bindingsFrom (i + 1) cs

end

theorem params_drafts (base : Path) (i : Nat) (cs : List Condition)
    (params : ∀ c ∈ cs, ∀ base,
      paramPaths (c.draft base).pieces = c.bindings.map fun binding => base ++ binding.1) :
    ((drafts base i cs).flatMap fun draft => paramPaths draft.pieces) =
      (bindingsFrom i cs).map fun binding => base ++ binding.1 := by
  induction cs generalizing i with
  | nil => rfl
  | cons c cs ih =>
      have head := params c List.mem_cons_self (base ++ [.index i])
      have tail := ih (i + 1) (fun other member => params other (List.mem_cons_of_mem _ member))
      rw [drafts, List.flatMap_cons, head, tail, bindingsFrom, List.map_append, List.map_map]
      simp only [Function.comp_def, List.append_assoc, List.singleton_append]

theorem params_member (base : Path) (column : String) (value : Value) (values : List Value)
    (negated : Bool) :
    paramPaths (draft base (.member column (value :: values) negated)).pieces =
      Draft.positionPaths (base ++ [.key "values"]) (values.length + 1) := by
  rw [draft_member_cons, Draft.pieces_append rfl,
    Draft.pieces_append (Draft.complete_positions _ _), param_paths_append, param_paths_append,
    param_paths_positions]
  simp [Draft.text]

theorem params_group (base : Path) (logic : Logic) (child : Condition) (children : List Condition)
    (clean : failuresOf (child :: children) = []) :
    paramPaths (draft base (.group logic (child :: children))).pieces =
      (drafts (base ++ [.key "children"]) 0 (child :: children)).flatMap
        fun draft => paramPaths draft.pieces := by
  have complete := complete_drafts (base ++ [.key "children"]) 0 clean
  rw [draft_group_cons, Draft.pieces_append rfl,
    Draft.pieces_append ((Draft.complete_joined_iff _ _).mpr complete), param_paths_append,
    param_paths_append, param_paths_joined _ _ complete]
  simp [Draft.text]

theorem params_draft (base : Path) {c : Condition} (clean : c.failures = []) :
    paramPaths (c.draft base).pieces = c.bindings.map fun binding => base ++ binding.1 := by
  induction c using tree_induction generalizing base with
  | compare op column value =>
      cases null : value.isNull with
      | false =>
          rw [draft_compare_of_value base op column null]
          simp only [bindings, null]
          rfl
      | true =>
          have isNull := Value.eq_null_of_is_null null
          subst isNull
          cases test : op.nullTest? with
          | some isNull => rw [draft_compare_of_null base op column test]; rfl
          | none => simp [failures, test, Value.isNull] at clean
  | nullTest column isNull => rfl
  | member column values negated =>
      cases values with
      | nil => simp [draft, bindings, Draft.text]
      | cons value values =>
          rw [params_member, bindings, List.map_map, Draft.positionPaths, List.range_eq_range',
            show values.length + 1 = (value :: values).length from rfl, ← List.zipIdx_map_snd,
            List.map_map]
          simp [Function.comp_def]
  | group logic children ih =>
      cases children with
      | nil => simp [draft, bindings, bindingsFrom, Draft.text]
      | cons child children =>
          have childClean := (failures_of_eq_nil_iff _).mp clean
          rw [params_group base logic child children clean,
            params_drafts _ _ _ (fun c member base => ih c member base (childClean c member)),
            bindings, List.map_map]
          simp [Function.comp_def]

theorem values_bindings_from (i : Nat) (cs : List Condition)
    (values : ∀ c ∈ cs, c.bindings.map Prod.snd = c.leaves) :
    (bindingsFrom i cs).map Prod.snd = leavesOf cs := by
  induction cs generalizing i with
  | nil => rfl
  | cons c cs ih =>
      have head := values c List.mem_cons_self
      have tail := ih (i + 1) (fun other member => values other (List.mem_cons_of_mem _ member))
      rw [bindingsFrom, List.map_append, List.map_map, tail, leavesOf, ← head]
      rfl

theorem values_bindings (c : Condition) : c.bindings.map Prod.snd = c.leaves := by
  induction c using tree_induction with
  | compare op column value => cases null : value.isNull <;> simp [bindings, leaves, null]
  | nullTest column isNull => rfl
  | member column values negated =>
      rw [bindings, List.map_map, leaves]
      exact List.zipIdx_map_fst 0 values
  | group logic children ih =>
      rw [bindings, List.map_map, leaves, ← values_bindings_from 0 children ih]
      rfl

theorem resolve_compare_iff (op : Comparison) (column : String) (value found : Value)
    (path : Path) :
    resolve (.compare op column value) path = some found ↔
      path = [.key "value"] ∧ found = value := by
  constructor
  · intro resolved
    unfold resolve at resolved
    split at resolved <;> simp_all
  · rintro ⟨rfl, rfl⟩
    rfl

theorem resolve_member_iff (column : String) (values : List Value) (negated : Bool)
    (found : Value) (path : Path) :
    resolve (.member column values negated) path = some found ↔
      ∃ i, path = [.key "values", .index i] ∧ values[i]? = some found := by
  constructor
  · intro resolved
    unfold resolve at resolved
    split at resolved <;> simp_all
  · rintro ⟨i, rfl, present⟩
    exact present

theorem resolve_group_iff (logic : Logic) (children : List Condition) (found : Value)
    (path : Path) :
    resolve (.group logic children) path = some found ↔
      ∃ i rest child, path = .key "children" :: .index i :: rest ∧
        children[i]? = some child ∧ child.resolve rest = some found := by
  constructor
  · intro resolved
    unfold resolve at resolved
    split at resolved <;> simp_all [resolve_at_eq_bind, Option.bind_eq_some_iff]
  · rintro ⟨i, rest, child, rfl, present, resolved⟩
    rw [resolve, resolve_at_eq_bind, present]
    exact resolved

theorem mem_bindings_from_iff (i : Nat) (cs : List Condition) (path : Path) (value : Value) :
    (path, value) ∈ bindingsFrom i cs ↔
      ∃ j c rest, cs[j]? = some c ∧ path = .index (i + j) :: rest ∧ (rest, value) ∈ c.bindings := by
  induction cs generalizing i with
  | nil => simp [bindingsFrom]
  | cons c cs ih =>
      rw [bindingsFrom, List.mem_append, ih]
      constructor
      · rintro (inHead | ⟨j, d, rest, present, rfl, bound⟩)
        · obtain ⟨binding, bound, same⟩ := List.mem_map.mp inHead
          cases same
          exact ⟨0, c, binding.1, rfl, rfl, bound⟩
        · exact ⟨j + 1, d, rest, present, by rw [Nat.add_assoc, Nat.add_comm 1], bound⟩
      · rintro ⟨j, d, rest, present, rfl, bound⟩
        cases j with
        | zero =>
            cases present
            exact .inl (List.mem_map.mpr ⟨(rest, value), bound, rfl⟩)
        | succ j =>
            exact .inr ⟨j, d, rest, present, by rw [Nat.add_assoc, Nat.add_comm 1], bound⟩

theorem mem_bindings_under_iff (name : String) (cs : List Condition) (path : Path)
    (value : Value) :
    ((path, value) ∈ (bindingsFrom 0 cs).map fun binding => (.key name :: binding.1, binding.2)) ↔
      ∃ i rest c, path = .key name :: .index i :: rest ∧ cs[i]? = some c ∧
        (rest, value) ∈ c.bindings := by
  rw [List.mem_map]
  constructor
  · rintro ⟨⟨below, found⟩, inside, same⟩
    cases same
    obtain ⟨i, c, rest, present, rfl, bound⟩ := (mem_bindings_from_iff ..).mp inside
    rw [Nat.zero_add]
    exact ⟨i, rest, c, rfl, present, bound⟩
  · rintro ⟨i, rest, c, rfl, present, bound⟩
    have inside := (mem_bindings_from_iff 0 cs (.index i :: rest) value).mpr
      ⟨i, c, rest, present, by rw [Nat.zero_add], bound⟩
    exact ⟨_, inside, rfl⟩

/-- A path is bound to a value when it leads there and not to a null that is compared with. -/
theorem mem_bindings_iff (c : Condition) (path : Path) (value : Value) :
    (path, value) ∈ c.bindings ↔ c.resolve path = some value ∧ ¬c.NullCompared path := by
  induction c using tree_induction generalizing path with
  | compare op column present =>
      rw [resolve_compare_iff]
      cases null : present.isNull with
      | false =>
          have notCompared : ¬(compare op column present).NullCompared path := by
            rintro ⟨⟩
            simp [Value.isNull] at null
          simp [bindings, null, notCompared]
      | true =>
          have isNull := Value.eq_null_of_is_null null
          subst isNull
          simp only [bindings, Value.isNull, if_true, List.not_mem_nil, false_iff, not_and,
            not_not]
          rintro ⟨rfl, rfl⟩
          exact .here op column
  | nullTest column isNull =>
      simp [bindings, resolve]
  | member column values negated =>
      have notCompared : ¬(member column values negated).NullCompared path := by rintro ⟨⟩
      rw [resolve_member_iff]
      simp only [bindings, List.mem_map, Prod.mk.injEq, Prod.exists, notCompared,
        not_false_eq_true, and_true, List.mem_zipIdx_iff_getElem?]
      constructor
      · rintro ⟨found, i, present, rfl, rfl⟩
        exact ⟨i, rfl, present⟩
      · rintro ⟨i, rfl, present⟩
        exact ⟨value, i, present, rfl, rfl⟩
  | group logic children ih =>
      rw [resolve_group_iff, bindings, mem_bindings_under_iff]
      constructor
      · rintro ⟨i, rest, child, rfl, present, bound⟩
        obtain ⟨resolved, notCompared⟩ := (ih child (List.mem_of_getElem? present) rest).mp bound
        refine ⟨⟨i, rest, child, rfl, present, resolved⟩, ?_⟩
        rintro (_ | ⟨present', below⟩)
        cases present.symm.trans present'
        exact notCompared below
      · rintro ⟨⟨i, rest, child, rfl, present, resolved⟩, notCompared⟩
        have bound := (ih child (List.mem_of_getElem? present) rest).mpr
          ⟨resolved, fun below => notCompared (.child present below)⟩
        exact ⟨i, rest, child, rfl, present, bound⟩

theorem nodup_bindings_from (i : Nat) (cs : List Condition)
    (nodup : ∀ c ∈ cs, (c.bindings.map Prod.fst).Nodup) :
    ((bindingsFrom i cs).map Prod.fst).Nodup := by
  induction cs generalizing i with
  | nil => exact List.nodup_nil
  | cons c cs ih =>
      have head := nodup c List.mem_cons_self
      have tail := ih (i + 1) (fun other member => nodup other (List.mem_cons_of_mem _ member))
      have headPaths : (c.bindings.map fun binding => (Segment.index i :: binding.1, binding.2)).map
          Prod.fst = (c.bindings.map Prod.fst).map (Segment.index i :: ·) := by
        simp only [List.map_map, Function.comp_def]
      rw [bindingsFrom, List.map_append, headPaths, List.nodup_append']
      refine ⟨head.map (fun _ _ same => (List.cons.inj same).2), tail, ?_⟩
      intro path inHead inTail
      obtain ⟨below, -, rfl⟩ := List.mem_map.mp inHead
      obtain ⟨⟨later, value⟩, bound, same⟩ := List.mem_map.mp inTail
      obtain ⟨j, d, rest, -, rfl, -⟩ := (mem_bindings_from_iff ..).mp bound
      simp only [List.cons.injEq, Segment.index.injEq] at same
      omega

theorem nodup_bindings_under (name : String) {cs : List Condition}
    (nodup : ∀ c ∈ cs, (c.bindings.map Prod.fst).Nodup) :
    (((bindingsFrom 0 cs).map fun binding => (Segment.key name :: binding.1, binding.2)).map
      Prod.fst).Nodup := by
  have paths : ((bindingsFrom 0 cs).map fun binding =>
      (Segment.key name :: binding.1, binding.2)).map Prod.fst =
        ((bindingsFrom 0 cs).map Prod.fst).map (Segment.key name :: ·) := by
    simp only [List.map_map, Function.comp_def]
  rw [paths]
  exact (nodup_bindings_from 0 cs nodup).map (fun _ _ same => (List.cons.inj same).2)

theorem nodup_bindings (c : Condition) : (c.bindings.map Prod.fst).Nodup := by
  induction c using tree_induction with
  | compare op column value => cases null : value.isNull <;> simp [bindings, null]
  | nullTest column isNull => exact List.nodup_nil
  | member column values negated =>
      have paths : (bindings (member column values negated)).map Prod.fst =
          (List.range values.length).map fun i => [.key "values", .index i] := by
        rw [bindings, List.map_map, List.range_eq_range', ← List.zipIdx_map_snd, List.map_map]
        rfl
      rw [paths]
      exact List.nodup_range.map (fun _ _ same => by simpa using same)
  | group logic children ih =>
      rw [bindings]
      exact nodup_bindings_under "children" ih

end Condition

/-- A statement's placeholders stand for the given values of an object in this order, and they
are the paths of the object, each once, except those on which a null is compared with. -/
structure Statement.Addresses (statement : Statement) (root : Resolver) (values : List Value)
    (nullCompared : Path → Prop) : Prop where
  binds : statement.bind root = .ok values
  distinct : statement.params.Nodup
  reached : ∀ path, path ∈ statement.params ↔
    (∃ value, root path = some value) ∧ ¬nullCompared path

theorem mapM_bind_path {root : Resolver} (bindings : List (Path × Value))
    (resolves : ∀ binding ∈ bindings, root binding.1 = some binding.2) :
    (bindings.map Prod.fst).mapM (bindPath root) = .ok (bindings.map Prod.snd) := by
  induction bindings with
  | nil => rfl
  | cons binding bindings ih =>
      have head : bindPath root binding.1 = .ok binding.2 := by
        rw [bindPath, resolves binding List.mem_cons_self]
      have tail := ih (fun other member => resolves other (List.mem_cons_of_mem _ member))
      rw [List.map_cons, List.mapM_cons, head, tail]
      rfl

theorem Statement.addresses_of_bindings {statement : Statement} {root : Resolver}
    {values : List Value} {nullCompared : Path → Prop} (bindings : List (Path × Value))
    (params : statement.params = bindings.map Prod.fst) (snds : bindings.map Prod.snd = values)
    (nodup : (bindings.map Prod.fst).Nodup)
    (bound : ∀ path value, (path, value) ∈ bindings ↔
      root path = some value ∧ ¬nullCompared path) :
    statement.Addresses root values nullCompared := by
  constructor
  · rw [Statement.bind, params, ← snds]
    exact mapM_bind_path bindings fun binding member => ((bound ..).mp member).1
  · rwa [params]
  · intro path
    rw [params, List.mem_map]
    constructor
    · rintro ⟨⟨_, value⟩, member, rfl⟩
      obtain ⟨resolved, notCompared⟩ := (bound ..).mp member
      exact ⟨⟨value, resolved⟩, notCompared⟩
    · rintro ⟨⟨value, resolved⟩, notCompared⟩
      exact ⟨(path, value), (bound ..).mpr ⟨resolved, notCompared⟩, rfl⟩

namespace Criteria

def leaves (criteria : Criteria) : List Value := Condition.leavesOf criteria.conditions

def NullCompared (criteria : Criteria) (path : Path) : Prop :=
  ∃ i c rest, path = .key "conditions" :: .index i :: rest ∧
    criteria.conditions[i]? = some c ∧ c.NullCompared rest

def bindings (criteria : Criteria) : List (Path × Value) :=
  (Condition.bindingsFrom 0 criteria.conditions).map fun binding =>
    (.key "conditions" :: binding.1, binding.2)

theorem params_draft (base : Path) (criteria : Criteria)
    (clean : Condition.failuresOf criteria.conditions = []) :
    paramPaths (criteria.draft base).pieces =
      criteria.bindings.map fun binding => base ++ binding.1 := by
  obtain ⟨conditions, orders, groups⟩ := criteria
  cases conditions with
  | nil => rfl
  | cons c cs =>
      have eachClean := (Condition.failures_of_eq_nil_iff _).mp clean
      rw [Criteria.draft, Condition.clause_cons,
        param_paths_joined _ _ (Condition.complete_drafts _ 0 clean),
        Condition.params_drafts _ _ _
          (fun d member base => Condition.params_draft base (eachClean d member)),
        bindings, List.map_map]
      simp only [Function.comp_def, List.append_assoc, List.singleton_append]

theorem clean_of_complete {base : Path} {criteria : Criteria}
    (complete : (criteria.draft base).failure = none) :
    Condition.failuresOf criteria.conditions = [] := by
  rwa [Criteria.draft, Condition.failure_clause, List.head?_eq_none_iff] at complete

theorem resolve_iff (criteria : Criteria) (path : Path) (value : Value) :
    criteria.resolve path = some value ↔
      ∃ i rest c, path = .key "conditions" :: .index i :: rest ∧
        criteria.conditions[i]? = some c ∧ c.resolve rest = some value := by
  constructor
  · intro resolved
    unfold resolve at resolved
    split at resolved <;> simp_all [Condition.resolve_at_eq_bind, Option.bind_eq_some_iff]
  · rintro ⟨i, rest, c, rfl, present, resolved⟩
    rw [resolve, Condition.resolve_at_eq_bind, present]
    exact resolved

theorem mem_bindings_iff (criteria : Criteria) (path : Path) (value : Value) :
    (path, value) ∈ criteria.bindings ↔
      criteria.resolve path = some value ∧ ¬criteria.NullCompared path := by
  rw [resolve_iff, bindings, Condition.mem_bindings_under_iff]
  constructor
  · rintro ⟨i, rest, c, rfl, present, bound⟩
    obtain ⟨resolved, notCompared⟩ := (c.mem_bindings_iff ..).mp bound
    refine ⟨⟨i, rest, c, rfl, present, resolved⟩, ?_⟩
    rintro ⟨i', c', rest', same, present', below⟩
    cases same
    cases present.symm.trans present'
    exact notCompared below
  · rintro ⟨⟨i, rest, c, rfl, present, resolved⟩, notCompared⟩
    have bound := (c.mem_bindings_iff rest value).mpr
      ⟨resolved, fun below => notCompared ⟨i, c, rest, rfl, present, below⟩⟩
    exact ⟨i, rest, c, rfl, present, bound⟩

theorem nodup_bindings (criteria : Criteria) : (criteria.bindings.map Prod.fst).Nodup := by
  rw [bindings]
  exact Condition.nodup_bindings_under "conditions" (fun c _ => c.nodup_bindings)

theorem values_bindings (criteria : Criteria) :
    criteria.bindings.map Prod.snd = criteria.leaves := by
  rw [bindings, List.map_map, leaves,
    ← Condition.values_bindings_from 0 criteria.conditions (fun c _ => c.values_bindings)]
  rfl

theorem statement_addresses (criteria : Criteria) {dialect : Dialect} {statement : Statement}
    (built : criteria.statement dialect = .ok statement) :
    statement.Addresses criteria.resolve criteria.leaves criteria.NullCompared := by
  obtain ⟨complete, rfl⟩ := (Draft.statement_eq_ok_iff ..).mp built
  apply Statement.addresses_of_bindings criteria.bindings _ criteria.values_bindings
    criteria.nodup_bindings criteria.mem_bindings_iff
  rw [criteria.params_draft [] (clean_of_complete complete)]
  rfl

end Criteria

theorem Condition.statement_addresses (c : Condition) {dialect : Dialect} {statement : Statement}
    (built : c.statement dialect = .ok statement) :
    statement.Addresses c.resolve c.leaves c.NullCompared := by
  unfold Condition.statement at built
  cases checked : c.checkColumns with
  | error error => rw [checked] at built; contradiction
  | ok passed =>
      rw [checked] at built
      obtain ⟨complete, rfl⟩ := (Draft.statement_eq_ok_iff ..).mp built
      apply Statement.addresses_of_bindings c.bindings _ c.values_bindings c.nodup_bindings
        c.mem_bindings_iff
      rw [Condition.params_draft [] (Condition.clean_of_complete complete)]
      rfl

/-- In a WHERE clause and in a condition that stands alone, the placeholders address the values
of the tree: binding gives the leaf values from left to right, no placeholder stands twice, and
there is one on every path that leads to a value, unless it is a null that is compared with. -/
theorem placeholders_address_leaves :
    (∀ (criteria : Criteria) (dialect : Dialect) (statement : Statement),
      criteria.statement dialect = .ok statement →
        statement.Addresses criteria.resolve criteria.leaves criteria.NullCompared) ∧
    ∀ (c : Condition) (dialect : Dialect) (statement : Statement),
      c.statement dialect = .ok statement →
        statement.Addresses c.resolve c.leaves c.NullCompared :=
  ⟨fun criteria _ _ built => criteria.statement_addresses built,
    fun c _ _ built => c.statement_addresses built⟩

def nestedSearch : Criteria :=
  .ofConditions
    [.compare .ne "deleted" .null,
      .group .or
        [.compare .like "name" (.text "a%"),
          .group .and [.member "rank" [.null, .int 3] false, .member "tag" [] true]]]

theorem nested_search_placeholders :
    (∃ statement, nestedSearch.statement .mysql = .ok statement ∧
      statement.sql = "deleted IS NOT NULL AND (name LIKE ? OR (rank IN (?, ?) AND 1=1))" ∧
      statement.Addresses nestedSearch.resolve [.text "a%", .null, .int 3]
        nestedSearch.NullCompared) ∧
    ∃ statement, (Condition.member "rank" [.null, .int 3] true).statement .sqlite = .ok statement ∧
      statement.sql = "rank NOT IN (?1, ?2)" ∧
      statement.Addresses (Condition.member "rank" [.null, .int 3] true).resolve [.null, .int 3]
        (Condition.member "rank" [.null, .int 3] true).NullCompared :=
  ⟨⟨_, rfl, rfl, placeholders_address_leaves.1 nestedSearch .mysql _ rfl⟩,
    ⟨_, rfl, rfl,
      placeholders_address_leaves.2 (.member "rank" [.null, .int 3] true) .sqlite _ rfl⟩⟩

end BoundSql
