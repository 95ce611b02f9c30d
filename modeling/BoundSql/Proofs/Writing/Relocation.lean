import Mathlib
import BoundSql.Proofs.Condition.Addressing
import BoundSql.Proofs.Writing.DialectIndependence

/-!
Conditions written at another place. Where a condition is written, under which base its values lie
and how many placeholders stand before it, decides nothing but the front of its paths and the
numbers of its placeholders: the literals, the order of the placeholders and the way it ends are
those of the condition written alone. An object in which the values of the condition lie under the
base gives the placeholders the same values, as a group does for its children and criteria for
their conditions.
-/

namespace BoundSql

def Piece.under (base : Path) : Piece → Piece
  | .text s => .text s
  | .param path => .param (base ++ path)

theorem param_paths_under (base : Path) (pieces : List Piece) :
    paramPaths (pieces.map (Piece.under base)) = (paramPaths pieces).map (base ++ ·) := by
  induction pieces with
  | nil => rfl
  | cons piece pieces ih =>
      cases piece with
      | text s => exact ih
      | param path => exact congrArg ((base ++ path) :: ·) ih

namespace Draft

def under (base : Path) (draft : Draft) : Draft :=
  ⟨draft.pieces.map (Piece.under base), draft.failure⟩

theorem under_append (base : Path) (first second : Draft) :
    (first ++ second).under base = first.under base ++ second.under base := by
  cases failed : first.failure with
  | some e =>
      have stopped : first.failure ≠ none := by simp [failed]
      have stoppedUnder : (first.under base).failure ≠ none := stopped
      rw [append_of_failure_ne_none stopped, append_of_failure_ne_none stoppedUnder]
  | none =>
      have completeUnder : (first.under base).failure = none := failed
      rw [append_of_failure_eq_none failed, append_of_failure_eq_none completeUnder]
      exact congrArg (Draft.mk · second.failure) List.map_append

theorem under_joined (base : Path) (separator : String) (drafts : List Draft) :
    (joined separator drafts).under base = joined separator (drafts.map (under base)) := by
  induction drafts with
  | nil => rfl
  | cons draft rest ih =>
      cases rest with
      | nil => rfl
      | cons next rest =>
          rw [joined_cons_cons, under_append, under_append, ih]
          rfl

theorem under_positions (base path : Path) (length : Nat) :
    (positions path length).under base = positions (base ++ path) length := by
  rw [positions, under_joined, positions, List.map_map]
  congr 2
  funext i
  exact congrArg param (List.append_assoc base path [.index i]).symm

/-- A parameter of joined drafts is one of theirs, also where writing stopped at one of them. -/
theorem mem_params_append {first second : Draft} {path : Path}
    (member : path ∈ paramPaths (first ++ second).pieces) :
    path ∈ paramPaths first.pieces ∨ path ∈ paramPaths second.pieces := by
  cases failed : first.failure with
  | some e =>
      have stopped : first.failure ≠ none := by simp [failed]
      rw [append_of_failure_ne_none stopped] at member
      exact .inl member
  | none =>
      rw [append_of_failure_eq_none failed, param_paths_append, List.mem_append] at member
      exact member

theorem mem_params_joined {separator : String} {drafts : List Draft} {path : Path}
    (member : path ∈ paramPaths (joined separator drafts).pieces) :
    ∃ draft ∈ drafts, path ∈ paramPaths draft.pieces := by
  induction drafts with
  | nil => cases member
  | cons draft rest ih =>
      cases rest with
      | nil => exact ⟨draft, List.mem_singleton_self draft, member⟩
      | cons next rest =>
          rw [joined_cons_cons] at member
          obtain inHead | later := mem_params_append member
          · exact ⟨draft, List.mem_cons_self, inHead⟩
          · obtain inSeparator | inTail := mem_params_append later
            · cases inSeparator
            · obtain ⟨other, present, inside⟩ := ih inTail
              exact ⟨other, List.mem_cons_of_mem _ present, inside⟩

end Draft

namespace Condition

theorem drafts_under (base path : Path) (i : Nat) (cs : List Condition)
    (each : ∀ c ∈ cs, ∀ path, c.draft (base ++ path) = (c.draft path).under base) :
    drafts (base ++ path) i cs = (drafts path i cs).map (Draft.under base) := by
  induction cs generalizing i with
  | nil => rfl
  | cons c cs ih =>
      obtain ⟨head, tail⟩ := List.forall_mem_cons.mp each
      rw [drafts, drafts, List.map_cons, ih (i + 1) tail, ← head, List.append_assoc]

/-- What a condition writes depends on the base only by the front of its paths. -/
theorem draft_under (base path : Path) (c : Condition) :
    c.draft (base ++ path) = (c.draft path).under base := by
  induction c using tree_induction generalizing path with
  | compare op column value =>
      cases null : value.isNull with
      | false =>
          rw [draft_compare_of_value _ op column null, draft_compare_of_value _ op column null,
            Draft.under_append, List.append_assoc]
          rfl
      | true =>
          rw [Value.eq_null_of_is_null null]
          cases op <;> rfl
  | nullTest column isNull => rfl
  | member column values negated =>
      cases values with
      | nil => rfl
      | cons value values =>
          rw [draft_member_cons, draft_member_cons, Draft.under_append, Draft.under_append,
            Draft.under_positions, List.append_assoc]
          rfl
  | group logic children ih =>
      cases children with
      | nil => rfl
      | cons child children =>
          rw [draft_group_cons, draft_group_cons, Draft.under_append, Draft.under_append,
            Draft.under_joined, List.append_assoc, drafts_under _ _ _ _ ih]
          rfl

theorem draft_eq_under (base : Path) (c : Condition) : c.draft base = (c.draft []).under base := by
  rw [← draft_under, List.append_nil]

theorem resolve_child {logic : Logic} {children : List Condition} {i : Nat} {c : Condition}
    (present : children[i]? = some c) (path : Path) :
    (group logic children).resolve ([.key "children", .index i] ++ path) = c.resolve path := by
  show resolveAt children i path = c.resolve path
  rw [resolve_at_eq_bind, present, Option.bind_some]

/-- Every path that a condition writes leads to a value, also if it stops halfway. -/
theorem resolve_of_mem_params (c : Condition) {path : Path}
    (member : path ∈ paramPaths (c.draft []).pieces) : (c.resolve path).isSome := by
  induction c using tree_induction generalizing path with
  | compare op column value =>
      cases null : value.isNull with
      | false =>
          rw [draft_compare_of_value _ op column null] at member
          rw [List.mem_singleton.mp member]
          rfl
      | true =>
          rw [Value.eq_null_of_is_null null] at member
          cases op <;> cases member
  | nullTest column isNull => cases member
  | member column values negated =>
      cases values with
      | nil => cases member
      | cons value values =>
          rw [params_member] at member
          obtain ⟨i, inside, rfl⟩ := List.mem_map.mp member
          have bound : i < (value :: values).length := List.mem_range.mp inside
          show ((value :: values)[i]?).isSome
          rw [List.getElem?_eq_getElem bound]
          rfl
  | group logic children ih =>
      cases children with
      | nil => cases member
      | cons child children =>
          rw [draft_group_cons] at member
          obtain inOpening | later := Draft.mem_params_append member
          · cases inOpening
          obtain inside | inClosing := Draft.mem_params_append later
          · obtain ⟨draft, present, inDraft⟩ := Draft.mem_params_joined inside
            obtain ⟨i, position⟩ := List.mem_iff_getElem?.mp present
            rw [getElem?_drafts, Nat.zero_add, Option.map_eq_some_iff] at position
            obtain ⟨c, atPosition, rfl⟩ := position
            rw [draft_eq_under, Draft.under, param_paths_under] at inDraft
            obtain ⟨below, inChild, rfl⟩ := List.mem_map.mp inDraft
            rw [List.nil_append, List.singleton_append, resolve_child atPosition]
            exact ih c (List.mem_of_getElem? atPosition) inChild
          · cases inClosing

end Condition

namespace Template

def numbers (template : Template) : List Nat := List.range' 1 template.rest.length

def text (template : Template) (dialect : Dialect) (numbers : List Nat) : String :=
  template.first ++ String.join (List.zipWith
    (fun number slot => dialect.placeholder number slot.1 ++ slot.2) numbers template.rest)

def under (base : Path) (template : Template) : Template :=
  ⟨template.first, template.rest.map fun slot => (base ++ slot.1, slot.2)⟩

theorem params_under (base : Path) (template : Template) :
    (template.under base).params = template.params.map (base ++ ·) := by
  simp only [params, under, List.map_map, Function.comp_def]

theorem numbers_under (base : Path) (template : Template) :
    (template.under base).numbers = template.numbers := by
  rw [numbers, under, List.length_map, numbers]

theorem of_pieces_under (base : Path) (pieces : List Piece) :
    ofPieces (pieces.map (Piece.under base)) = (ofPieces pieces).under base := by
  induction pieces with
  | nil => rfl
  | cons piece pieces ih =>
      cases piece with
      | text s =>
          rw [List.map_cons, Piece.under, ofPieces, ih]
          rfl
      | param path =>
          rw [List.map_cons, Piece.under, ofPieces, ih]
          rfl

theorem weave_eq (dialect : Dialect) (number : Nat) (slots : List (Path × String)) :
    weave dialect number slots = String.join (List.zipWith
      (fun number slot => dialect.placeholder number slot.1 ++ slot.2)
      (List.range' number slots.length) slots) := by
  induction slots generalizing number with
  | nil => rfl
  | cons slot slots ih =>
      rw [weave, ih, List.length_cons, List.range'_succ, List.zipWith_cons_cons, String.join_cons]

theorem join_texts_after (dialect : Dialect) (before : Nat) (pieces : List Piece) :
    String.join (dialect.texts (before + 1) pieces) =
      (ofPieces pieces).text dialect ((ofPieces pieces).numbers.map (before + ·)) := by
  rw [join_texts, weave_eq, text, numbers, List.map_add_range']

/-- Where the placeholders show no paths, a base changes no text. -/
theorem text_under {dialect : Dialect} (positional : dialect ≠ .named) (base : Path)
    (template : Template) (numbers : List Nat) :
    (template.under base).text dialect numbers = template.text dialect numbers := by
  have same : ∀ (number : Nat) (path : Path),
      dialect.placeholder number (base ++ path) = dialect.placeholder number path := by
    intro number path
    cases dialect with
    | named => exact absurd rfl positional
    | _ => rfl
  simp only [text, under, List.zipWith_map_right, same]

end Template

/-- What is written into any writer under any base, told by what is written alone: it ends in the
same way and adds the same literals and the same placeholders, with the base in front of their
paths and with numbers that go on after those of the writer. -/
structure Writer.Relocates (write : Path → Action Writer Unit) (outcome : Except Error Unit)
    (template : Template) : Prop where
  alone : ∀ dialect, (write []).run (.new dialect) =
    (outcome, ⟨dialect, template.text dialect template.numbers, template.params⟩)
  after : ∀ (base : Path) (w : Writer), (write base).run w =
    (outcome, ⟨w.dialect,
      w.sql ++ (template.under base).text w.dialect (template.numbers.map (w.params.length + ·)),
      w.params ++ template.params.map (base ++ ·)⟩)
  positional : ∀ (base : Path) (w : Writer), w.dialect ≠ .named →
    ((write base).run w).2.sql =
      w.sql ++ template.text w.dialect (template.numbers.map (w.params.length + ·))

theorem Writer.extend_eq (w : Writer) (pieces : List Piece) :
    w.extend pieces =
      ⟨w.dialect,
        w.sql ++ (Template.ofPieces pieces).text w.dialect
          ((Template.ofPieces pieces).numbers.map (w.params.length + ·)),
        w.params ++ (Template.ofPieces pieces).params⟩ := by
  rw [extend, Template.join_texts_after, Template.params_of_pieces]

theorem Writer.relocates_of_writes {write : Path → Action Writer Unit} {draft : Draft}
    (alone : Writes (write []) draft) (under : ∀ base, Writes (write base) (draft.under base)) :
    Relocates write draft.outcome (.ofPieces draft.pieces) := by
  have after : ∀ (base : Path) (w : Writer), (write base).run w =
      (draft.outcome, ⟨w.dialect,
        w.sql ++ ((Template.ofPieces draft.pieces).under base).text w.dialect
          ((Template.ofPieces draft.pieces).numbers.map (w.params.length + ·)),
        w.params ++ (Template.ofPieces draft.pieces).params.map (base ++ ·)⟩) := by
    intro base w
    rw [under base w, extend_eq, Draft.under, Template.of_pieces_under, Template.params_under,
      Template.numbers_under]
    rfl
  refine ⟨?_, after, ?_⟩
  · intro dialect
    have first : (Template.ofPieces draft.pieces).numbers.map (0 + ·) =
        (Template.ofPieces draft.pieces).numbers := by
      simp only [Nat.zero_add, List.map_id']
    rw [alone, extend_eq]
    simp only [new, List.length_nil, first, String.empty_append, List.nil_append]
  · intro base w positional
    rw [after, Template.text_under positional]

theorem Writer.condition_relocates (c : Condition) :
    Relocates (condition · c) (c.draft []).outcome (.ofPieces (c.draft []).pieces) := by
  apply relocates_of_writes (writes_condition [] c)
  intro base
  rw [← Condition.draft_eq_under]
  exact writes_condition base c

theorem Dialect.sql_under {dialect : Dialect} (positional : dialect ≠ .named) (base : Path)
    (pieces : List Piece) : dialect.sql (pieces.map (Piece.under base)) = dialect.sql pieces := by
  have under := Template.join_texts_after dialect 0 (pieces.map (Piece.under base))
  rw [Template.of_pieces_under, Template.numbers_under, Template.text_under positional,
    ← Template.join_texts_after] at under
  exact under

theorem bind_of_values {params : List Path} {root : Resolver} (value : Path → Value)
    (found : ∀ path ∈ params, root path = some (value path)) :
    params.mapM (bindPath root) = .ok (params.map value) := by
  have binds := mapM_bind_path (params.map fun path => (path, value path)) fun binding member => by
    obtain ⟨path, present, rfl⟩ := List.mem_map.mp member
    exact found path present
  simpa only [List.map_map, Function.comp_def, List.map_id'] using binds

theorem Draft.bound_of_values {draft : Draft} {root : Resolver} {values : List Value}
    (binds : (paramPaths draft.pieces).mapM (bindPath root) = .ok values) (dialect : Dialect) :
    (draft.statement dialect >>= fun statement => statement.bound root) =
      draft.outcome.map fun _ => ⟨dialect.sql draft.pieces, values⟩ := by
  unfold Draft.statement Draft.outcome
  cases draft.failure with
  | some e => rfl
  | none =>
      show ((paramPaths draft.pieces).mapM (bindPath root) >>= _) = _
      rw [binds]
      rfl

theorem Criteria.resolve_condition {criteria : Criteria} {i : Nat} {c : Condition}
    (present : criteria.conditions[i]? = some c) (path : Path) :
    criteria.resolve ([.key "conditions", .index i] ++ path) = c.resolve path := by
  show Condition.resolveAt criteria.conditions i path = c.resolve path
  rw [Condition.resolve_at_eq_bind, present, Option.bind_some]

namespace Condition

/-- The values to which the placeholders of a condition lead, also if it is written under a base. -/
theorem placeholders_bind (c : Condition) :
    ∃ values, (paramPaths (c.draft []).pieces).mapM (bindPath c.resolve) = .ok values ∧
      ∀ (root : Resolver) (base : Path), (∀ path, root (base ++ path) = c.resolve path) →
        ((paramPaths (c.draft []).pieces).map (base ++ ·)).mapM (bindPath root) = .ok values := by
  have found : ∀ path ∈ paramPaths (c.draft []).pieces,
      c.resolve path = some ((c.resolve path).getD .null) := by
    intro path member
    obtain ⟨value, resolved⟩ := Option.isSome_iff_exists.mp (c.resolve_of_mem_params member)
    rw [resolved, Option.getD_some]
  refine ⟨_, bind_of_values _ found, ?_⟩
  intro root base leads
  have binds := mapM_bind_path ((paramPaths (c.draft []).pieces).map fun path =>
      (base ++ path, (c.resolve path).getD .null)) fun binding member => by
    obtain ⟨path, present, rfl⟩ := List.mem_map.mp member
    exact (leads path).trans (found path present)
  simpa only [List.map_map, Function.comp_def] using binds

/-- A condition that stands alone is first checked for its columns, and then is as good as the
only condition of criteria. -/
theorem bound_alone (c : Condition) {criteria : Criteria} (only : criteria.conditions = [c])
    {dialect : Dialect} (positional : dialect ≠ .named) :
    (c.statement dialect >>= fun statement => statement.bound c.resolve) =
      c.checkColumns >>= fun _ => criteria.statement dialect >>= fun statement =>
        statement.bound criteria.resolve := by
  have first : criteria.conditions[0]? = some c := by
    rw [only]
    rfl
  have written : criteria.draft [] = (c.draft []).under [.key "conditions", .index 0] := by
    rw [Criteria.draft, only, ← draft_eq_under]
    rfl
  obtain ⟨values, alone, elsewhere⟩ := c.placeholders_bind
  have there := elsewhere criteria.resolve _ (Criteria.resolve_condition first)
  rw [← param_paths_under] at there
  have same : ((c.draft []).statement dialect >>= fun statement => statement.bound c.resolve) =
      criteria.statement dialect >>= fun statement => statement.bound criteria.resolve := by
    rw [Criteria.statement, written, Draft.bound_of_values alone, Draft.bound_of_values there,
      Draft.under, Dialect.sql_under positional]
    rfl
  rw [← same, Condition.statement]
  cases c.checkColumns <;> rfl

end Condition

/-- A condition may be written under any base and behind any text. Writing it ends as it does
alone, leaves what was written before, and adds what it writes alone with the base in front of its
paths and the numbers of its placeholders moved on by those before, also if it fails. Its
placeholders lead to the same values in every object that holds the condition under the base, as
groups hold their children and criteria their conditions. So a condition alone and the only one of
criteria have the same text and the same bound values where placeholders show no paths. -/
theorem condition_written_anywhere (c : Condition) :
    ∃ outcome template values,
      Writer.Relocates (Writer.condition · c) outcome template ∧
      template.params.mapM (bindPath c.resolve) = .ok values ∧
      (∀ (root : Resolver) (base : Path), (∀ path, root (base ++ path) = c.resolve path) →
        (template.params.map (base ++ ·)).mapM (bindPath root) = .ok values) ∧
      (∀ (logic : Logic) (children : List Condition) (i : Nat), children[i]? = some c →
        ∀ path, (Condition.group logic children).resolve ([.key "children", .index i] ++ path) =
          c.resolve path) ∧
      (∀ (criteria : Criteria) (i : Nat), criteria.conditions[i]? = some c →
        ∀ path, criteria.resolve ([.key "conditions", .index i] ++ path) = c.resolve path) ∧
      ∀ (criteria : Criteria) (dialect : Dialect), criteria.conditions = [c] → dialect ≠ .named →
        (c.statement dialect >>= fun statement => statement.bound c.resolve) =
          c.checkColumns >>= fun _ => criteria.statement dialect >>= fun statement =>
            statement.bound criteria.resolve := by
  obtain ⟨values, alone, elsewhere⟩ := c.placeholders_bind
  rw [← Template.params_of_pieces] at alone elsewhere
  refine ⟨_, _, values, Writer.condition_relocates c, alone, elsewhere, ?_, ?_, ?_⟩
  · intro logic children i present
    exact Condition.resolve_child present
  · intro criteria i present
    exact Criteria.resolve_condition present
  · intro criteria dialect only positional
    exact c.bound_alone only positional

def ranked : Condition :=
  .group .or [.compare .like "name" (.text "a%"), .member "rank" [.null, .int 3] false]

def ownedAndRanked : Criteria := .ofConditions [.compare .eq "owner" (.int 7), ranked]

def rankedPaths : List Path :=
  [[.key "children", .index 0, .key "value"],
    [.key "children", .index 1, .key "values", .index 0],
    [.key "children", .index 1, .key "values", .index 1]]

def ownerWritten : Writer :=
  ⟨.sqlite, "owner = ?1 AND ", [[.key "conditions", .index 0, .key "value"]]⟩

theorem ranked_written_second :
    ((Writer.condition [] ranked).run (.new .sqlite)).2 =
      ⟨.sqlite, "(name LIKE ?1 OR rank IN (?2, ?3))", rankedPaths⟩ ∧
    ((Writer.condition [.key "conditions", .index 1] ranked).run ownerWritten).2 =
      ⟨.sqlite, "owner = ?1 AND (name LIKE ?2 OR rank IN (?3, ?4))",
        ownerWritten.params ++ rankedPaths.map ([.key "conditions", .index 1] ++ ·)⟩ ∧
    ((Writer.condition [.key "conditions", .index 1] ranked).run ownerWritten).1 =
      ((Writer.condition [] ranked).run (.new .sqlite)).1 ∧
    (∀ path, (Condition.group .and [.nullTest "id" false, ranked]).resolve
      ([.key "children", .index 1] ++ path) = ranked.resolve path) ∧
    (∀ path, ownedAndRanked.resolve ([.key "conditions", .index 1] ++ path) =
      ranked.resolve path) ∧
    (rankedPaths.map ([.key "conditions", .index 1] ++ ·)).mapM
      (bindPath ownedAndRanked.resolve) = .ok [.text "a%", .null, .int 3] ∧
    (Criteria.ofConditions [ranked]).conditions = [ranked] ∧ Dialect.mysql ≠ .named ∧
    (ranked.statement .mysql >>= fun statement => statement.bound ranked.resolve) =
      ranked.checkColumns >>= fun _ =>
        (Criteria.ofConditions [ranked]).statement .mysql >>= fun statement =>
          statement.bound (Criteria.ofConditions [ranked]).resolve := by
  obtain ⟨outcome, template, values, relocates, binds, elsewhere, child, held, alone⟩ :=
    condition_written_anywhere ranked
  have written : ((Writer.condition [] ranked).run (.new .sqlite)).2 =
      ⟨.sqlite, "(name LIKE ?1 OR rank IN (?2, ?3))", rankedPaths⟩ := by decide +kernel
  have params : template.params = rankedPaths := by
    rw [relocates.alone] at written
    exact congrArg Writer.params written
  have found : rankedPaths.mapM (bindPath ranked.resolve) =
      .ok [.text "a%", .null, .int 3] := rfl
  have second : ownedAndRanked.conditions[1]? = some ranked := rfl
  have there := elsewhere ownedAndRanked.resolve _ (held ownedAndRanked 1 second)
  rw [params, ← binds, params, found] at there
  refine ⟨written, by decide +kernel, ?_, child .and _ 1 rfl, held ownedAndRanked 1 second, there,
    rfl, nofun, alone (.ofConditions [ranked]) .mysql rfl nofun⟩
  rw [relocates.after, relocates.alone]

end BoundSql
