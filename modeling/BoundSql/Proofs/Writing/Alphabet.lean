import Mathlib
import BoundSql.Writing
import BoundSql.Proofs.Clause.ReadBack
import BoundSql.Proofs.Criteria.Identifiers

/-!
The characters of what search criteria and change sets write. Their texts consist of keywords,
signs, placeholders and columns. The keywords, the signs and the placeholders of all dialects are
spelled from one small alphabet, in which no quote, comment mark, line break or character beyond
ASCII occurs, and so are identifiers. Values and patterns reach no text at all.
-/

namespace BoundSql

/-- The signs of SQL and those of the placeholders of all dialects. -/
def signs : List Char :=
  [' ', '=', '<', '>', '(', ')', ',', '$', '?', '#', '\x7b', '\x7d', '.', '[', ']']

def isHarmless (c : Char) : Bool := isIdentifierPart c || signs.contains c

/-- Quotes, what ends a statement or begins a comment, the wildcard, the escape character and line
breaks. -/
def offenders : List Char :=
  ['\x27', '\x22', '\x60', ';', '-', '/', '*', '%', '\\', '\n', '\r']

theorem not_offender_of_harmless {c : Char} (harmless : isHarmless c = true) : c ∉ offenders := by
  intro offender
  have none : offenders.all (fun c => !isHarmless c) = true := by decide
  have harmful := List.all_eq_true.mp none c offender
  rw [harmless] at harmful
  cases harmful

theorem ascii_of_harmless {c : Char} (harmless : isHarmless c = true) : c.toNat < 128 := by
  simp only [isHarmless, isIdentifierPart, Char.isAlphanum, Char.isAlpha, Char.isUpper,
    Char.isLower, Char.isDigit, Bool.or_eq_true, Bool.and_eq_true, decide_eq_true_eq, beq_iff_eq,
    ge_iff_le, UInt32.le_iff_toNat_le, List.contains_iff_mem] at harmless
  change ((((65 ≤ c.toNat ∧ c.toNat ≤ 90) ∨ 97 ≤ c.toNat ∧ c.toNat ≤ 122) ∨
    48 ≤ c.toNat ∧ c.toNat ≤ 57) ∨ c = '_') ∨ _ at harmless
  obtain (letterOrDigit | underscore) | sign := harmless
  · omega
  · rw [underscore]
    decide
  · have all : signs.all (fun c => c.toNat < 128) = true := by decide
    simpa using List.all_eq_true.mp all c sign

def Harmless (s : String) : Prop := ∀ c ∈ s.toList, isHarmless c = true

instance (s : String) : Decidable (Harmless s) :=
  decidable_of_iff (s.toList.all isHarmless = true) List.all_eq_true

theorem Harmless.append {s t : String} (first : Harmless s) (second : Harmless t) :
    Harmless (s ++ t) := by
  rw [Harmless, String.toList_append, List.forall_mem_append]
  exact ⟨first, second⟩

theorem harmless_join {parts : List String} (all : ∀ part ∈ parts, Harmless part) :
    Harmless (String.join parts) := by
  intro c member
  rw [String.toList_join, List.mem_flatMap] at member
  obtain ⟨part, present, inside⟩ := member
  exact all part present c inside

theorem harmless_intercalate {separator : String} (between : Harmless separator)
    {parts : List String} (all : ∀ part ∈ parts, Harmless part) :
    Harmless (separator.intercalate parts) := by
  induction parts with
  | nil =>
      intro c member
      simp at member
  | cons part rest ih =>
      rw [List.forall_mem_cons] at all
      cases rest with
      | nil =>
          rw [String.intercalate_singleton]
          exact all.1
      | cons next rest =>
          rw [String.intercalate_cons_cons]
          exact (all.1.append between).append (ih all.2)

theorem harmless_of_identifier {name : String} (identifier : isIdentifier name = true) :
    Harmless name := by
  intro c member
  rw [isHarmless, Clause.identifier_parts identifier c member, Bool.true_or]

theorem harmless_number (n : Nat) : Harmless (toString n) := by
  intro c member
  rw [to_list_number] at member
  have digit : c.isDigit = true := Nat.isDigit_of_mem_toDigits (by decide) (by decide) member
  simp [isHarmless, isIdentifierPart, Char.isAlphanum, digit]

def Segment.Harmless : Segment → Prop
  | .key name => BoundSql.Harmless name
  | .index _ => True

def Path.Harmless (path : Path) : Prop := ∀ segment ∈ path, segment.Harmless

theorem Path.Harmless.then_key {path : Path} (harmless : path.Harmless) {name : String}
    (key : BoundSql.Harmless name) : Path.Harmless (path ++ [.key name]) :=
  List.forall_mem_append.mpr ⟨harmless, List.forall_mem_singleton.mpr key⟩

theorem Path.Harmless.then_index {path : Path} (harmless : path.Harmless) (i : Nat) :
    Path.Harmless (path ++ [.index i]) :=
  List.forall_mem_append.mpr ⟨harmless, List.forall_mem_singleton.mpr trivial⟩

theorem Segment.text_harmless {segment : Segment} (harmless : segment.Harmless) :
    BoundSql.Harmless (Path.segmentText segment) := by
  cases segment with
  | key name => exact .append (by decide) harmless
  | index i => exact .append (.append (by decide) (harmless_number i)) (by decide)

theorem Path.segment_texts_harmless {path : Path} (harmless : path.Harmless) :
    BoundSql.Harmless (String.join (path.map segmentText)) := by
  apply harmless_join
  intro text member
  obtain ⟨segment, present, same⟩ := List.mem_map.mp member
  rw [← same]
  exact Segment.text_harmless (harmless segment present)

theorem Path.text_harmless {path : Path} (harmless : path.Harmless) :
    BoundSql.Harmless path.text := by
  unfold Path.text
  split
  · decide
  · rename_i name rest
    have parts := List.forall_mem_cons.mp harmless
    exact .append parts.1 (segment_texts_harmless parts.2)
  · exact segment_texts_harmless harmless

theorem Dialect.placeholder_harmless (dialect : Dialect) (number : Nat) {path : Path}
    (harmless : path.Harmless) : Harmless (dialect.placeholder number path) := by
  cases dialect with
  | named => exact .append (.append (by decide) (Path.text_harmless harmless)) (by decide)
  | postgres => exact .append (by decide) (harmless_number number)
  | sqlite => exact .append (by decide) (harmless_number number)
  | mysql =>
      show Harmless "?"
      decide

def Piece.Harmless : Piece → Prop
  | .text s => BoundSql.Harmless s
  | .param path => path.Harmless

theorem Dialect.texts_harmless (dialect : Dialect) (number : Nat) {pieces : List Piece}
    (all : ∀ piece ∈ pieces, piece.Harmless) :
    ∀ text ∈ dialect.texts number pieces, Harmless text := by
  induction pieces generalizing number with
  | nil => exact nofun
  | cons piece rest ih =>
      rw [List.forall_mem_cons] at all
      cases piece with
      | text s => exact List.forall_mem_cons.mpr ⟨all.1, ih number all.2⟩
      | param path =>
          exact List.forall_mem_cons.mpr
            ⟨dialect.placeholder_harmless number all.1, ih (number + 1) all.2⟩

namespace Draft

/-- What a draft has written is harmless, whether it goes on or has failed. -/
def Harmless (draft : Draft) : Prop := ∀ piece ∈ draft.pieces, piece.Harmless

theorem harmless_text {s : String} (harmless : BoundSql.Harmless s) : (text s).Harmless :=
  List.forall_mem_singleton.mpr harmless

theorem harmless_param {path : Path} (harmless : path.Harmless) : (param path).Harmless :=
  List.forall_mem_singleton.mpr harmless

theorem harmless_fail (e : Error) : (fail e).Harmless := nofun

theorem Harmless.append {first second : Draft} (before : first.Harmless)
    (after : second.Harmless) : (first ++ second).Harmless := by
  cases failed : first.failure with
  | some e =>
      have notNone : first.failure ≠ none := by simp [failed]
      rw [append_of_failure_ne_none notNone]
      exact before
  | none =>
      rw [append_of_failure_eq_none failed]
      exact List.forall_mem_append.mpr ⟨before, after⟩

theorem harmless_joined {separator : String} (between : BoundSql.Harmless separator)
    {drafts : List Draft} (all : ∀ draft ∈ drafts, draft.Harmless) :
    (joined separator drafts).Harmless := by
  induction drafts with
  | nil => exact nofun
  | cons draft rest ih =>
      rw [List.forall_mem_cons] at all
      cases rest with
      | nil => exact all.1
      | cons next rest => exact all.1.append ((harmless_text between).append (ih all.2))

theorem harmless_positions {base : Path} (harmless : base.Harmless) (length : Nat) :
    (positions base length).Harmless := by
  apply harmless_joined (by decide)
  intro draft member
  obtain ⟨i, -, same⟩ := List.mem_map.mp member
  rw [← same]
  exact harmless_param (harmless.then_index i)

end Draft

theorem identifiers_of_member {cs : List Condition}
    (identifiers : Identifiers (cs.flatMap Condition.columns)) {c : Condition} (member : c ∈ cs) :
    Identifiers c.columns := by
  intro column inside
  exact identifiers column (List.mem_flatMap.mpr ⟨c, member, inside⟩)

namespace Condition

theorem harmless_operator (op : Comparison) : Harmless op.sql := by
  cases op <;> decide

theorem harmless_null_test (isNull : Bool) :
    Harmless (if isNull then " IS NULL" else " IS NOT NULL") := by
  cases isNull <;> decide

theorem drafts_harmless {base : Path} (harmless : base.Harmless) (i : Nat) {cs : List Condition}
    (each : ∀ c ∈ cs, ∀ base : Path, base.Harmless → (c.draft base).Harmless) :
    ∀ draft ∈ drafts base i cs, draft.Harmless := by
  induction cs generalizing i with
  | nil => exact nofun
  | cons c cs ih =>
      rw [List.forall_mem_cons] at each
      rw [drafts, List.forall_mem_cons]
      exact ⟨each.1 _ (harmless.then_index i), ih (i + 1) each.2⟩

theorem draft_harmless {c : Condition} (identifiers : Identifiers c.columns) {base : Path}
    (harmless : base.Harmless) : (c.draft base).Harmless := by
  induction c using tree_induction generalizing base with
  | compare op column value =>
      have name := harmless_of_identifier (identifiers column (List.mem_singleton_self column))
      cases null : value.isNull with
      | true =>
          rw [Value.eq_null_of_is_null null]
          cases test : op.nullTest? with
          | some isNull =>
              rw [draft_compare_of_null base op column test]
              exact Draft.harmless_text (name.append (harmless_null_test isNull))
          | none =>
              rw [draft_compare_of_no_test base op column test]
              exact Draft.harmless_fail _
      | false =>
          rw [draft_compare_of_value base op column null]
          apply Draft.Harmless.append
          · apply Draft.harmless_text
            exact ((name.append (by decide)).append (harmless_operator op)).append (by decide)
          · exact Draft.harmless_param (harmless.then_key (by decide))
  | nullTest column isNull =>
      have name := harmless_of_identifier (identifiers column (List.mem_singleton_self column))
      exact Draft.harmless_text (name.append (harmless_null_test isNull))
  | member column values negated =>
      have name := harmless_of_identifier (identifiers column (List.mem_singleton_self column))
      cases values with
      | nil =>
          apply Draft.harmless_text
          cases negated <;> decide
      | cons value values =>
          have opening : Harmless (if negated then " NOT IN (" else " IN (") := by
            cases negated <;> decide
          rw [draft_member_cons]
          apply (Draft.harmless_text (name.append opening)).append
          exact (Draft.harmless_positions (harmless.then_key (by decide)) _).append
            (Draft.harmless_text (by decide))
  | group logic children ih =>
      cases children with
      | nil => exact Draft.harmless_text (by decide)
      | cons child children =>
          have separator : Harmless (" " ++ logic.sql ++ " ") := by
            cases logic <;> decide
          rw [columns, columns_of_eq_flatMap] at identifiers
          -- The base moves on to the children, and every child is under its position there.
          have below : Path.Harmless (base ++ [.key "children"]) := harmless.then_key (by decide)
          have members := drafts_harmless below 0 fun c member _ there =>
            ih c member (identifiers_of_member identifiers member) there
          rw [draft_group_cons]
          apply (Draft.harmless_text (by decide)).append
          exact (Draft.harmless_joined separator members).append
            (Draft.harmless_text (by decide))

theorem clause_harmless {cs : List Condition} (identifiers : Identifiers (cs.flatMap columns))
    {base : Path} (harmless : base.Harmless) : (clause base cs).Harmless := by
  cases cs with
  | nil => exact Draft.harmless_text (by decide)
  | cons c cs =>
      rw [clause_cons]
      apply Draft.harmless_joined (by decide)
      apply drafts_harmless (harmless.then_key (by decide))
      intro other member _ below
      exact draft_harmless (identifiers_of_member identifiers member) below

end Condition

theorem ChangeSet.draft_harmless {changes : ChangeSet} (identifiers : Identifiers changes.columns)
    {base : Path} (harmless : base.Harmless) : (changes.draft base).Harmless := by
  have each : ∀ entry ∈ changes.entries, (assignment base entry).Harmless := by
    intro entry member
    have name := harmless_of_identifier (identifiers entry.1 (List.mem_map_of_mem member))
    unfold assignment
    cases entry.2.isNull with
    | true => exact Draft.harmless_text (name.append (by decide))
    | false =>
        have updates : Path.Harmless (base ++ [.key "updates"]) := harmless.then_key (by decide)
        have there := updates.then_key name
        rw [List.append_assoc] at there
        exact (Draft.harmless_text (name.append (by decide))).append (Draft.harmless_param there)
  unfold draft
  split
  · exact Draft.harmless_fail _
  · apply Draft.harmless_joined (by decide)
    intro part member
    obtain ⟨entry, present, same⟩ := List.mem_map.mp member
    rw [← same]
    exact each entry present

namespace Criteria

theorem group_clause_harmless {groups : List String} (identifiers : Identifiers groups) :
    (groupClause groups).Harmless := by
  cases groups with
  | nil => exact nofun
  | cons group groups =>
      apply Draft.harmless_text
      apply Harmless.append (by decide)
      apply harmless_intercalate (by decide)
      intro name member
      exact harmless_of_identifier (identifiers name member)

theorem order_clause_harmless {orders : List OrderItem}
    (identifiers : Identifiers (orders.map OrderItem.column)) :
    (orderClause orders).Harmless := by
  cases orders with
  | nil => exact nofun
  | cons order orders =>
      apply Draft.harmless_text
      apply Harmless.append (by decide)
      apply harmless_intercalate (by decide)
      intro text member
      obtain ⟨item, present, same⟩ := List.mem_map.mp member
      have name := harmless_of_identifier (identifiers item.column (List.mem_map_of_mem present))
      have direction : Harmless (if item.ascending then " ASC" else " DESC") := by
        cases item.ascending <;> decide
      rw [← same]
      exact name.append direction

end Criteria

theorem Dialect.sql_harmless (dialect : Dialect) {pieces : List Piece}
    (all : ∀ piece ∈ pieces, piece.Harmless) : Harmless (dialect.sql pieces) :=
  harmless_join (dialect.texts_harmless 1 all)

/-- The ways to write the clauses of criteria and a change set. -/
def clauses (criteria : Criteria) (changes : ChangeSet) : List Write :=
  [.clause criteria.conditions [], .assignments changes [], .groupBy criteria.groups,
    .orderBy criteria.orders]

theorem clauses_harmless {criteria : Criteria} {changes : ChangeSet}
    (identifiers : Identifiers criteria.columns) (assigned : Identifiers changes.columns) :
    ∀ write ∈ clauses criteria changes, write.draft.Harmless := by
  have root : Path.Harmless [] := nofun
  obtain ⟨conditions, orders, groups⟩ := criteria.identifiers_columns_iff.mp identifiers
  intro write member
  simp only [clauses, List.mem_cons, List.not_mem_nil, or_false] at member
  obtain same | same | same | same := member
  · rw [same]
    exact Condition.clause_harmless conditions root
  · rw [same]
    exact ChangeSet.draft_harmless assigned root
  · rw [same]
    exact Criteria.group_clause_harmless groups
  · rw [same]
    exact Criteria.order_clause_harmless orders

theorem transcript_harmless {writes : List Write} (dialect : Dialect)
    (all : ∀ write ∈ writes, write.draft.Harmless) :
    Harmless (Write.transcript writes dialect).sql := by
  apply dialect.sql_harmless
  intro piece member
  obtain ⟨write, present, inside⟩ := List.mem_flatMap.mp member
  exact all write present piece inside

theorem Draft.Harmless.statement {draft : Draft} (harmless : draft.Harmless) {dialect : Dialect}
    {statement : Statement} (made : draft.statement dialect = .ok statement) :
    BoundSql.Harmless statement.sql := by
  obtain ⟨-, same⟩ := (draft.statement_eq_ok_iff dialect statement).mp made
  rw [same]
  exact dialect.sql_harmless harmless

/-- Whatever steps were taken, and however many of them failed, the columns that were stored are
identifiers, and the texts written from what was stored are harmless. -/
theorem reached_texts_harmless (steps : List Criteria.Step) (assignments : List ChangeSet.Step)
    (trusted : ∀ step ∈ steps, ∀ ref ∈ step.refs, ref.Trusted)
    (assignmentsTrusted : ∀ step ∈ assignments, ∀ ref ∈ step.refs, ref.Trusted) :
    Identifiers (Criteria.reached steps).columns ∧
    Identifiers (ChangeSet.reached assignments).columns ∧
    (∀ dialect statement, (Criteria.reached steps).statement dialect = .ok statement →
      Harmless statement.sql) ∧
    (∀ dialect statement, (ChangeSet.reached assignments).statement dialect = .ok statement →
      Harmless statement.sql) ∧
    (∀ writes ⊆ clauses (.reached steps) (.reached assignments), ∀ dialect,
      Harmless (Write.transcript writes dialect).sql) ∧
    ∀ c, isHarmless c = true → c.toNat < 128 ∧ c ∉ offenders := by
  have identifiers := Criteria.identifiers_reached steps trusted
  have assigned := ChangeSet.identifiers_reached assignments assignmentsTrusted
  have written := clauses_harmless identifiers assigned
  have root : Path.Harmless [] := nofun
  have searched := Condition.clause_harmless
    ((Criteria.identifiers_columns_iff _).mp identifiers).1 root
  have changed := ChangeSet.draft_harmless assigned root
  refine ⟨identifiers, assigned, ?_, ?_, ?_, ?_⟩
  · intro dialect statement made
    exact searched.statement made
  · intro dialect statement made
    exact changed.statement made
  · intro writes chosen dialect
    exact transcript_harmless dialect fun write member => written write (chosen member)
  · intro c harmless
    exact ⟨ascii_of_harmless harmless, not_offender_of_harmless harmless⟩

def hostileSteps : List Criteria.Step :=
  [.compare .eq (.raw "name; DROP TABLE t") (.int 1) false,
    .group .or
      [some (.group .and [.compare .ne "owner" (.text "x' OR 1=1 --"), .nullTest "a-b" true])],
    .group .or
      [some (.group .and [.compare .ne "owner" (.text "x' OR 1=1 --"), .nullTest "left" true]),
        some (.member "id" [.int 1, .int 2] true)],
    .like (.field "note") (some "%'") false,
    .groupBy [.raw "owner", .raw "left"],
    .orderBy (.raw "id/**/") true,
    .orderBy (.field "id") false]

def hostileAssignments : List ChangeSet.Step :=
  [.set (.raw "note") (.text "';--"), .set (.raw "no\te") .null, .clear (.field "left")]

theorem hostile_texts_harmless :
    (∀ step ∈ hostileSteps, ∀ ref ∈ step.refs, ref.Trusted) ∧
    (∀ step ∈ hostileAssignments, ∀ ref ∈ step.refs, ref.Trusted) ∧
    Identifiers (Criteria.reached hostileSteps).columns ∧
    Identifiers (ChangeSet.reached hostileAssignments).columns ∧
    ∃ text,
      (Write.transcript (clauses (.reached hostileSteps) (.reached hostileAssignments))
        .postgres).sql = text ∧
      text = "((owner <> $1 AND left IS NULL) OR id NOT IN ($2, $3)) AND note LIKE $4" ++
        "note = $5, left = NULL GROUP BY owner, left ORDER BY id DESC" ∧
      Harmless text := by
  have trusted : ∀ step ∈ hostileSteps, ∀ ref ∈ step.refs, ref.Trusted := by
    have fields : isIdentifier "note" = true ∧ isIdentifier "id" = true := by decide
    simpa [hostileSteps, Criteria.Step.refs, ColumnRef.Trusted] using fields
  have assignmentsTrusted : ∀ step ∈ hostileAssignments, ∀ ref ∈ step.refs, ref.Trusted := by
    have left : isIdentifier "left" = true := by decide
    simpa [hostileAssignments, ChangeSet.Step.refs, ColumnRef.Trusted] using left
  obtain ⟨identifiers, assigned, -, -, texts, -⟩ :=
    reached_texts_harmless hostileSteps hostileAssignments trusted assignmentsTrusted
  refine ⟨trusted, assignmentsTrusted, identifiers, assigned, _, rfl, ?_, ?_⟩
  · decide +kernel
  · exact texts _ (List.Subset.refl _) .postgres

end BoundSql
