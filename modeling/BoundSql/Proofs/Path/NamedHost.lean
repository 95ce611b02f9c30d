import Mathlib
import BoundSql.Proofs.ChangeSet.SetClause
import BoundSql.Proofs.Condition.Addressing
import BoundSql.Proofs.Path.Reader
import BoundSql.Proofs.Writing.DialectIndependence

/-!
Hosts that bind values by name. Such a host sees the named placeholders of a statement and nothing
of the paths behind them. The placeholders of criteria, and of assignments to columns that are
identifiers, are texts of paths with legible segments, so no two of them are the same, and looking
them up gives the values that binding the paths gives.
-/

namespace BoundSql

def Statement.names (statement : Statement) : List String := Dialect.named.marks 1 statement.params

namespace Resolver

def byName (root : Resolver) (sign : String) : Option Value := (Dialect.shown? sign).bind root

/-- The look-up finds the values of an object under the placeholders of their paths. -/
def KnownTo (root : Resolver) (look : String → Option Value) : Prop :=
  ∀ path value, root path = some value →
    ∀ number, look (Dialect.named.placeholder number path) = some value

/-- Values are only found at paths that can be told from their texts. -/
def Legible (root : Resolver) : Prop := ∀ path value, root path = some value → path.Legible

variable {root : Resolver}

theorem known_by_name (legible : root.Legible) : root.KnownTo root.byName := by
  intro path value found number
  rw [byName, Dialect.shown_placeholder number (legible path value found), Option.bind_some, found]

theorem found_of_bind {paths : List Path} {values : List Value}
    (binds : paths.mapM (bindPath root) = .ok values) :
    List.Forall₂ (fun path value => root path = some value) paths values := by
  induction paths generalizing values with
  | nil =>
      cases binds
      exact .nil
  | cons path paths ih =>
      rw [List.mapM_cons] at binds
      obtain ⟨value, here, binds⟩ := ok_of_bind binds
      obtain ⟨others, there, binds⟩ := ok_of_bind binds
      cases binds
      refine .cons ?_ (ih there)
      rw [bindPath] at here
      split at here
      · rename_i present resolved
        cases here
        exact resolved
      · cases here

theorem legible_of_found (legible : root.Legible) {paths : List Path} {values : List Value}
    (found : List.Forall₂ (fun path value => root path = some value) paths values) :
    ∀ path ∈ paths, path.Legible := by
  induction found with
  | nil => exact nofun
  | cons here there ih => exact List.forall_mem_cons.mpr ⟨legible _ _ here, ih⟩

theorem looked_up {look : String → Option Value} (known : root.KnownTo look) {paths : List Path}
    {values : List Value}
    (found : List.Forall₂ (fun path value => root path = some value) paths values)
    (number : Nat) : (Dialect.named.marks number paths).mapM look = some values := by
  induction found generalizing number with
  | nil => rfl
  | cons here there ih =>
      rw [Dialect.marks, List.mapM_cons, known _ _ here number, ih]
      rfl

end Resolver

theorem marks_named (number : Nat) (paths : List Path) :
    Dialect.named.marks number paths = paths.map (Dialect.named.placeholder 1) := by
  induction paths generalizing number with
  | nil => rfl
  | cons path paths ih =>
      rw [Dialect.marks, ih, List.map_cons]
      rfl

/-- A statement of the named dialect that a host can bind by the texts of its placeholders. -/
structure Statement.BoundByName (statement : Statement) (root : Resolver) (values : List Value) :
    Prop where
  /-- The text is literals and the named placeholders in turn. -/
  written : ∃ template : Template, statement = template.statement .named
  distinct : statement.names.Nodup
  binds : statement.bind root = .ok values
  found : statement.names.mapM root.byName = some values
  agrees : ∀ look, root.KnownTo look → statement.names.mapM look = some values

theorem Draft.bound_by_name {draft : Draft} {root : Resolver} {statement : Statement}
    {values : List Value} (built : draft.statement .named = .ok statement)
    (distinct : statement.params.Nodup) (legible : root.Legible)
    (binds : statement.bind root = .ok values) : statement.BoundByName root values := by
  have found := Resolver.found_of_bind binds
  have params := Resolver.legible_of_found legible found
  refine ⟨?_, ?_, binds, ?_, ?_⟩
  · obtain ⟨-, rfl⟩ := (Draft.statement_eq_ok_iff ..).mp built
    exact ⟨.ofPieces draft.pieces, (Template.statement_of_pieces .named draft.pieces).symm⟩
  · rw [Statement.names, marks_named]
    refine distinct.map_on ?_
    intro path member other present same
    have shown := Dialect.shown_placeholder 1 (params path member)
    rw [same, Dialect.shown_placeholder 1 (params other present)] at shown
    exact (Option.some.inj shown).symm
  · exact Resolver.looked_up (Resolver.known_by_name legible) found 1
  · intro look known
    exact Resolver.looked_up known found 1

theorem legible_of_identifier {column : String} (identifier : isIdentifier column = true) :
    (Segment.key column).Legible := by
  refine ⟨?_, ChangeSet.not_mem_identifier identifier (by decide),
    ChangeSet.not_mem_identifier identifier (by decide)⟩
  rintro rfl
  exact absurd identifier (by decide)

theorem legible_of_position {name : String} (identifier : isIdentifier name = true) (i : Nat)
    {rest : Path} (legible : rest.Legible) : Path.Legible (.key name :: .index i :: rest) :=
  List.forall_mem_cons.mpr
    ⟨legible_of_identifier identifier, List.forall_mem_cons.mpr ⟨trivial, legible⟩⟩

theorem Condition.legible_resolve (c : Condition) : Resolver.Legible c.resolve := by
  intro path found resolved
  induction c using Condition.tree_induction generalizing path with
  | compare op column value =>
      obtain ⟨rfl, -⟩ := (Condition.resolve_compare_iff ..).mp resolved
      exact List.forall_mem_singleton.mpr (legible_of_identifier (by decide))
  | nullTest column isNull => simp [Condition.resolve] at resolved
  | member column values negated =>
      obtain ⟨i, rfl, -⟩ := (Condition.resolve_member_iff ..).mp resolved
      exact legible_of_position (by decide) i (List.forall_mem_nil _)
  | group logic children ih =>
      obtain ⟨i, rest, child, rfl, present, below⟩ := (Condition.resolve_group_iff ..).mp resolved
      have restLegible := ih child (List.mem_of_getElem? present) rest below
      exact legible_of_position (by decide) i restLegible

theorem Criteria.legible_resolve (criteria : Criteria) : Resolver.Legible criteria.resolve := by
  intro path found resolved
  obtain ⟨i, rest, c, rfl, -, below⟩ := (criteria.resolve_iff ..).mp resolved
  exact legible_of_position (by decide) i (c.legible_resolve rest found below)

theorem ChangeSet.legible_resolve {changes : ChangeSet}
    (identifiers : Identifiers changes.columns) : Resolver.Legible changes.resolve := by
  intro path value resolved
  unfold ChangeSet.resolve at resolved
  split at resolved
  · rename_i column
    have present : column ∈ changes.columns := by
      by_contra absent
      rw [ChangeSet.get?, (Association.lookup_eq_none_iff changes.entries column).mpr absent]
        at resolved
      cases resolved
    have legible := legible_of_identifier (identifiers column present)
    have updates := legible_of_identifier (show isIdentifier "updates" = true by decide)
    exact List.forall_mem_cons.mpr ⟨updates, List.forall_mem_singleton.mpr legible⟩
  · cases resolved

/-- The text of a path identifies it: a reader finds the segments again, so paths with the same
text are the same. The named placeholders of criteria and of assignments to identifiers are
therefore pairwise different, and a host that knows nothing but their texts binds the values that
binding the paths gives. -/
theorem path_text_identifies_path :
    (∀ (text : String) (path : Path),
      Path.read text = some path ↔ path.Legible ∧ path.text = text) ∧
    (∀ path other : Path, path.Legible → other.Legible → path.text = other.text → path = other) ∧
    (∀ (criteria : Criteria) (statement : Statement), criteria.statement .named = .ok statement →
      statement.BoundByName criteria.resolve criteria.leaves) ∧
    ∀ (steps : List ChangeSet.Step) (statement : Statement),
      Identifiers (ChangeSet.reached steps).columns →
      (ChangeSet.reached steps).statement .named = .ok statement →
        statement.BoundByName (ChangeSet.reached steps).resolve
          ((ChangeSet.reached steps).bound.map Prod.snd) := by
  refine ⟨Path.read_eq_some_iff, fun path other => Path.text_injective, ?_, ?_⟩
  · intro criteria statement built
    have addresses := criteria.statement_addresses built
    exact Draft.bound_by_name built addresses.distinct criteria.legible_resolve addresses.binds
  · intro steps statement identifiers built
    have distinct := ChangeSet.nodup_columns_reached steps
    have params : statement.params = (ChangeSet.reached steps).bound.map ChangeSet.entryPath := by
      have shape := (ChangeSet.reached steps).statement_eq .named
      rw [built] at shape
      split at shape
      · cases shape
      · cases shape
        rfl
    have paths := ChangeSet.nodup_paths distinct
    have binds := ChangeSet.bind_bound distinct
    rw [← params] at paths binds
    exact Draft.bound_by_name built paths (ChangeSet.legible_resolve identifiers) binds

def rankedOrOwned : Criteria :=
  .ofConditions
    [.compare .eq "kind" (.text "note"),
      .group .or [.member "rank" [.int 1, .int 2] false, .compare .gt "owner" (.int 7)]]

def promotion : List ChangeSet.Step :=
  [.set (.raw "name") (.text "Bo"), .clear (.raw "left"), .set (.raw "rank") (.int 4)]

theorem search_and_promotion_bound_by_name :
    Path.read "list[12].age" = some [.key "list", .index 12, .key "age"] ∧
    (∃ statement, rankedOrOwned.statement .named = .ok statement ∧
      statement.names = ["#\x7bconditions[0].value\x7d",
        "#\x7bconditions[1].children[0].values[0]\x7d",
        "#\x7bconditions[1].children[0].values[1]\x7d",
        "#\x7bconditions[1].children[1].value\x7d"] ∧
      statement.BoundByName rankedOrOwned.resolve [.text "note", .int 1, .int 2, .int 7]) ∧
    ∃ statement, (ChangeSet.reached promotion).statement .named = .ok statement ∧
      statement.names = ["#\x7bupdates.name\x7d", "#\x7bupdates.rank\x7d"] ∧
      statement.BoundByName (ChangeSet.reached promotion).resolve [.text "Bo", .int 4] := by
  obtain ⟨reads, -, ofCriteria, ofChanges⟩ := path_text_identifies_path
  have legible : Path.Legible [.key "list", .index 12, .key "age"] := by
    simp [Path.Legible, Segment.Legible]
  have identifiers : Identifiers (ChangeSet.reached promotion).columns := by
    show ∀ name ∈ ["name", "left", "rank"], isIdentifier name = true
    decide
  refine ⟨(reads _ _).mpr ⟨legible, by decide⟩, ?_, ?_⟩
  · exact ⟨_, rfl, by decide, ofCriteria rankedOrOwned _ rfl⟩
  · exact ⟨_, rfl, by decide, ofChanges promotion _ identifiers rfl⟩

end BoundSql
