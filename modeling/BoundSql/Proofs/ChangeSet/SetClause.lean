import Mathlib
import BoundSql.Proofs.ChangeSet.Runs
import BoundSql.Proofs.Clause.ReadBack
import BoundSql.Proofs.Command.Binding

/-!
The SET clause of a change set that a run of steps has reached. It is the list of its assignments,
in which null is written as a literal and every other value has a placeholder of its own. A
placeholder names its column, so it leads to the value of its own assignment because no column
stands twice. A text of identifiers can be cut at its separators again, which gives back the
columns and tells which of them are set to null.
-/

namespace BoundSql

namespace Text

/-- The parts between the places where a separator stands, whose first character is `mark`. -/
def cut (mark : Char) (more : List Char) : List Char → List (List Char)
  | [] => [[]]
  | c :: rest =>
      match _h : (mark :: more).isPrefixOf? (c :: rest) with
      | some tail => [] :: cut mark more tail
      | none => (cut mark more rest).modifyHead (c :: ·)
termination_by text => text.length
decreasing_by
  · rw [List.isPrefixOf?_eq_some_iff_append_eq] at _h
    rw [← _h, List.cons_append, List.length_cons, List.length_append]
    omega
  · exact Nat.lt_succ_self rest.length

def parts (separator text : String) : List String :=
  match separator.toList with
  | [] => [text]
  | mark :: more => (cut mark more text.toList).map String.ofList

variable {mark : Char} {more : List Char}

theorem cut_separator (rest : List Char) :
    cut mark more (mark :: more ++ rest) = [] :: cut mark more rest := by
  have stands : (mark :: more).isPrefixOf? (mark :: (more ++ rest)) = some rest := by
    rw [List.isPrefixOf?_eq_some_iff_append_eq, List.cons_append]
  rw [List.cons_append, cut]
  split
  · rename_i tail found
    rw [stands] at found
    cases found
    rfl
  · rename_i missing
    rw [stands] at missing
    cases missing

theorem cut_cons {c : Char} (differ : c ≠ mark) (rest : List Char) :
    cut mark more (c :: rest) = (cut mark more rest).modifyHead (c :: ·) := by
  rw [cut]
  split
  · rename_i tail found
    rw [List.isPrefixOf?_eq_some_iff_append_eq, List.cons_append, List.cons.injEq] at found
    exact absurd found.1.symm differ
  · rfl

theorem cut_of_absent {part : List Char} (absent : mark ∉ part) :
    cut mark more part = [part] := by
  induction part with
  | nil => rw [cut]
  | cons c rest ih =>
      rw [List.mem_cons, not_or] at absent
      rw [cut_cons (Ne.symm absent.1), ih absent.2]
      rfl

theorem cut_append {part : List Char} (absent : mark ∉ part) (rest : List Char) :
    cut mark more (part ++ (mark :: more ++ rest)) = part :: cut mark more rest := by
  induction part with
  | nil => exact cut_separator rest
  | cons c front ih =>
      rw [List.mem_cons, not_or] at absent
      rw [List.cons_append, cut_cons (Ne.symm absent.1), ih absent.2]
      rfl

theorem cut_intercalate (part : List Char) (others : List (List Char))
    (absent : ∀ other ∈ part :: others, mark ∉ other) :
    cut mark more ((mark :: more).intercalate (part :: others)) = part :: others := by
  induction others generalizing part with
  | nil =>
      rw [List.intercalate_singleton]
      exact cut_of_absent (absent part List.mem_cons_self)
  | cons next rest ih =>
      rw [List.forall_mem_cons] at absent
      rw [List.intercalate_cons_cons, List.append_assoc, cut_append absent.1,
        ih next absent.2]

/-- Joined texts are cut apart again where the separator begins with a character of its own. -/
theorem parts_intercalate {separator : String} (begins : separator.toList = mark :: more)
    {texts : List String} (some : texts ≠ []) (absent : ∀ text ∈ texts, mark ∉ text.toList) :
    parts separator (separator.intercalate texts) = texts := by
  obtain ⟨text, others, rfl⟩ := List.exists_cons_of_ne_nil some
  have absentAll : ∀ other ∈ (text :: others).map String.toList, mark ∉ other := by
    intro other member
    obtain ⟨original, present, rfl⟩ := List.mem_map.mp member
    exact absent original present
  rw [List.map_cons] at absentAll
  rw [parts, begins, String.toList_intercalate, begins, List.map_cons]
  dsimp only
  rw [cut_intercalate _ _ absentAll, ← List.map_cons (f := String.toList), List.map_map]
  simp

end Text

namespace ChangeSet

/-- The entries whose values are bound; null is written as a literal. -/
def bound (changes : ChangeSet) : List (String × Value) :=
  changes.entries.filter fun entry => !entry.2.isNull

def entryPath (entry : String × Value) : Path := [.key "updates", .key entry.1]

/-- An entry as it is written, when the next placeholder has this number. -/
def entryText (dialect : Dialect) (number : Nat) (entry : String × Value) : String :=
  entry.1 ++ " = " ++
    if entry.2.isNull then "NULL" else dialect.placeholder number (entryPath entry)

def entryTexts (dialect : Dialect) : Nat → List (String × Value) → List String
  | _, [] => []
  | number, entry :: rest =>
      entryText dialect number entry ::
        entryTexts dialect (if entry.2.isNull then number else number + 1) rest

theorem complete_assignment (base : Path) (entry : String × Value) :
    (assignment base entry).failure = none := by
  unfold assignment
  split <;> rfl

theorem complete_assignments (base : Path) (entries : List (String × Value)) :
    (Draft.joined ", " (entries.map (assignment base))).failure = none := by
  rw [Draft.complete_joined_iff]
  intro draft member
  obtain ⟨entry, -, rfl⟩ := List.mem_map.mp member
  exact complete_assignment base entry

theorem count_assignment (number : Nat) (entry : String × Value) :
    number + (paramPaths (assignment [] entry).pieces).length =
      if entry.2.isNull then number else number + 1 := by
  unfold assignment
  split <;> rfl

theorem spelling_assignment (dialect : Dialect) (number : Nat) (entry : String × Value) :
    dialect.spelling number (assignment [] entry).pieces =
      (entryText dialect number entry).toList := by
  unfold assignment entryText
  cases entry.2.isNull with
  | true => simp [Draft.text]
  | false =>
      have pieces : (Draft.text (entry.1 ++ " = ") ++ Draft.param (entryPath entry)).pieces =
          [.text (entry.1 ++ " = "), .param (entryPath entry)] := rfl
      simp only [Bool.false_eq_true, if_false, List.nil_append]
      rw [← entryPath, pieces, Dialect.spelling_text, Dialect.spelling_param,
        Dialect.spelling_nil, List.append_nil, String.toList_append, String.toList_append,
        String.toList_append]

theorem spelling_assignments (dialect : Dialect) (number : Nat)
    (entries : List (String × Value)) :
    dialect.spelling number (Draft.joined ", " (entries.map (assignment []))).pieces =
      (", ".intercalate (entryTexts dialect number entries)).toList := by
  rw [String.toList_intercalate]
  induction entries generalizing number with
  | nil => rfl
  | cons entry rest ih =>
      have complete := complete_assignment [] entry
      cases rest with
      | nil =>
          rw [List.map_cons, List.map_nil, entryTexts, entryTexts, List.map_cons, List.map_nil,
            List.intercalate_singleton]
          exact spelling_assignment dialect number entry
      | cons next rest =>
          have split : ", ".toList.intercalate
              ((entryTexts dialect number (entry :: next :: rest)).map String.toList) =
                (entryText dialect number entry).toList ++ ", ".toList ++ ", ".toList.intercalate
                  ((entryTexts dialect (if entry.2.isNull then number else number + 1)
                    (next :: rest)).map String.toList) :=
            List.intercalate_cons_cons
          rw [split, List.append_assoc, ← ih, List.map_cons, List.map_cons,
            Draft.joined_cons_cons, Draft.pieces_append complete, Draft.pieces_append rfl,
            Dialect.spelling_append, spelling_assignment, count_assignment, Draft.text,
            List.cons_append, List.nil_append, Dialect.spelling_text]

def readEntry (text : String) : Option (String × Bool) :=
  match Text.parts " = " text with
  | [column, value] => some (column, value == "NULL")
  | _ => none

def readClause (text : String) : List (Option (String × Bool)) :=
  (Text.parts ", " text).map readEntry

theorem not_mem_identifier {column : String} (identifier : isIdentifier column = true) {c : Char}
    (foreign : isIdentifierPart c = false) : c ∉ column.toList := by
  intro member
  rw [Clause.identifier_parts identifier c member] at foreign
  cases foreign

theorem not_mem_number (number : Nat) {c : Char} (foreign : isIdentifierPart c = false) :
    c ∉ (toString number).toList := by
  intro member
  rw [to_list_number] at member
  have digit : c.isDigit = true := Nat.isDigit_of_mem_toDigits (by decide) (by decide) member
  simp [isIdentifierPart, Char.isAlphanum, digit] at foreign

theorem not_mem_placeholder (dialect : Dialect) (number : Nat) {entry : String × Value}
    (identifier : isIdentifier entry.1 = true) {c : Char} (foreign : isIdentifierPart c = false)
    (noSign : c ∉ ['#', '\x7b', '\x7d', '.', '$', '?']) :
    c ∉ (dialect.placeholder number (entryPath entry)).toList := by
  have notColumn := not_mem_identifier identifier foreign
  have notNumber := not_mem_number number foreign
  have notUpdates := not_mem_identifier (show isIdentifier "updates" = true by decide) foreign
  have path : (Path.text (entryPath entry)).toList =
      "updates".toList ++ '.' :: entry.1.toList := by
    simp [entryPath, Path.text, Path.segmentText]
  simp only [List.mem_cons, List.not_mem_nil, or_false, not_or] at noSign
  obtain ⟨hash, opening, closing, point, dollar, question⟩ := noSign
  cases dialect with
  | named =>
      rw [Dialect.placeholder, String.toList_append, String.toList_append, path]
      simp only [List.mem_append, List.mem_cons, not_or]
      exact ⟨⟨by simp [hash, opening], notUpdates, point, notColumn⟩, by simp [closing]⟩
  | postgres =>
      rw [Dialect.placeholder, String.toList_append, List.mem_append, not_or]
      exact ⟨by simp [dollar], notNumber⟩
  | sqlite =>
      rw [Dialect.placeholder, String.toList_append, List.mem_append, not_or]
      exact ⟨by simp [question], notNumber⟩
  | mysql => simp [Dialect.placeholder, question]

theorem not_mem_entry_text (dialect : Dialect) (number : Nat) {entry : String × Value}
    (identifier : isIdentifier entry.1 = true) : ',' ∉ (entryText dialect number entry).toList := by
  have notColumn := not_mem_identifier identifier (show isIdentifierPart ',' = false by decide)
  have notPlaceholder := not_mem_placeholder dialect number identifier
    (show isIdentifierPart ',' = false by decide) (by decide)
  rw [entryText, String.toList_append, String.toList_append, List.mem_append, List.mem_append,
    not_or, not_or]
  refine ⟨⟨notColumn, by decide⟩, ?_⟩
  split
  · decide
  · exact notPlaceholder

theorem placeholder_ne_null (dialect : Dialect) (number : Nat) (path : Path) :
    dialect.placeholder number path ≠ "NULL" := by
  intro same
  have chars := congrArg String.toList same
  cases dialect <;> simp [Dialect.placeholder, String.toList_append] at chars

/-- A written assignment is cut at its sign of equality. -/
theorem read_entry_text (dialect : Dialect) (number : Nat) {entry : String × Value}
    (identifier : isIdentifier entry.1 = true) :
    readEntry (entryText dialect number entry) = some (entry.1, entry.2.isNull) := by
  have notColumn := not_mem_identifier identifier (show isIdentifierPart ' ' = false by decide)
  have notPlaceholder := not_mem_placeholder dialect number identifier
    (show isIdentifierPart ' ' = false by decide) (by decide)
  have begins : " = ".toList = ' ' :: ['=', ' '] := rfl
  have twoParts {value : String} (absent : ' ' ∉ value.toList) :
      Text.parts " = " (entry.1 ++ " = " ++ value) = [entry.1, value] := by
    have joined : entry.1 ++ " = " ++ value = " = ".intercalate [entry.1, value] := by
      rw [String.intercalate_cons_cons, String.intercalate_singleton]
    rw [joined]
    apply Text.parts_intercalate begins (List.cons_ne_nil _ _)
    simpa using ⟨notColumn, absent⟩
  rw [readEntry, entryText]
  cases entry.2.isNull with
  | true =>
      rw [if_pos rfl, twoParts (by decide)]
      rfl
  | false =>
      rw [if_neg (by decide), twoParts notPlaceholder]
      have notNull := beq_false_of_ne (placeholder_ne_null dialect number (entryPath entry))
      simp only [notNull]

theorem read_entry_texts (dialect : Dialect) (number : Nat) {entries : List (String × Value)}
    (identifiers : ∀ entry ∈ entries, isIdentifier entry.1 = true) :
    (entryTexts dialect number entries).map readEntry =
      entries.map fun entry => some (entry.1, entry.2.isNull) := by
  induction entries generalizing number with
  | nil => rfl
  | cons entry rest ih =>
      rw [List.forall_mem_cons] at identifiers
      rw [entryTexts, List.map_cons, List.map_cons, read_entry_text dialect number identifiers.1,
        ih _ identifiers.2]

theorem not_mem_entry_texts (dialect : Dialect) (number : Nat) {entries : List (String × Value)}
    (identifiers : ∀ entry ∈ entries, isIdentifier entry.1 = true) :
    ∀ text ∈ entryTexts dialect number entries, ',' ∉ text.toList := by
  induction entries generalizing number with
  | nil => exact nofun
  | cons entry rest ih =>
      rw [List.forall_mem_cons] at identifiers
      rw [entryTexts, List.forall_mem_cons]
      exact ⟨not_mem_entry_text dialect number identifiers.1, ih _ identifiers.2⟩

theorem read_clause_texts (dialect : Dialect) {entries : List (String × Value)}
    (some : entries ≠ []) (identifiers : ∀ entry ∈ entries, isIdentifier entry.1 = true) :
    readClause (", ".intercalate (entryTexts dialect 1 entries)) =
      entries.map fun entry => .some (entry.1, entry.2.isNull) := by
  have begins : ", ".toList = ',' :: [' '] := rfl
  have texts : entryTexts dialect 1 entries ≠ [] := by
    cases entries with
    | nil => exact absurd rfl some
    | cons entry rest => exact List.cons_ne_nil _ _
  rw [readClause, Text.parts_intercalate begins texts (not_mem_entry_texts dialect 1 identifiers),
    read_entry_texts dialect 1 identifiers]

theorem failure_draft (changes : ChangeSet) (base : Path) :
    (changes.draft base).failure =
      if changes.entries = [] then some (.nothingToWrite "UpdateSpec") else none := by
  obtain ⟨entries⟩ := changes
  cases entries with
  | nil => rfl
  | cons entry rest => exact complete_assignments base (entry :: rest)

theorem statement_eq (changes : ChangeSet) (dialect : Dialect) :
    changes.statement dialect =
      if changes.entries = [] then .error (.nothingToWrite "UpdateSpec")
      else .ok ⟨", ".intercalate (entryTexts dialect 1 changes.entries),
        changes.bound.map entryPath⟩ := by
  have failure := changes.failure_draft []
  have params := changes.has_params_draft []
  obtain ⟨entries⟩ := changes
  cases entries with
  | nil => rfl
  | cons entry rest =>
      have complete : (draft [] ⟨entry :: rest⟩).failure = none := failure
      have text : dialect.sql (draft [] ⟨entry :: rest⟩).pieces =
          ", ".intercalate (entryTexts dialect 1 (entry :: rest)) := by
        rw [← String.toList_inj, Dialect.to_list_sql]
        exact spelling_assignments dialect 1 (entry :: rest)
      have paths : paramPaths (draft [] ⟨entry :: rest⟩).pieces =
          (bound ⟨entry :: rest⟩).map entryPath := by
        rw [params complete, bindings, List.map_map]
        rfl
      rw [if_neg (List.cons_ne_nil _ _), statement, Draft.statement, complete]
      dsimp only
      rw [text, paths]

theorem nodup_columns_reached (steps : List Step) : (reached steps).columns.Nodup := by
  rw [reached, keep_all]
  exact (put_all_summarizes (assigned steps)).distinct

/-- Where no column stands twice, the path of an entry leads to its own value. -/
theorem resolve_entry {changes : ChangeSet} (distinct : changes.columns.Nodup)
    {entry : String × Value} (member : entry ∈ changes.entries) :
    changes.resolve (entryPath entry) = some entry.2 :=
  (Association.mem_iff_lookup distinct entry.1 entry.2).mp member

theorem nodup_paths {changes : ChangeSet} (distinct : changes.columns.Nodup) :
    (changes.bound.map entryPath).Nodup := by
  have columns : (changes.bound.map Prod.fst).Nodup :=
    distinct.sublist (List.filter_sublist.map Prod.fst)
  have paths : changes.bound.map entryPath =
      (changes.bound.map Prod.fst).map fun column => [.key "updates", .key column] := by
    rw [List.map_map]
    rfl
  rw [paths]
  exact columns.map fun column other same => by simpa using same

theorem bind_bound {changes : ChangeSet} (distinct : changes.columns.Nodup) :
    (changes.bound.map entryPath).mapM (bindPath changes.resolve) =
      .ok (changes.bound.map Prod.snd) := by
  have resolves : ∀ binding ∈ changes.bound.map fun entry => (entryPath entry, entry.2),
      changes.resolve binding.1 = some binding.2 := by
    intro binding member
    obtain ⟨entry, present, rfl⟩ := List.mem_map.mp member
    exact resolve_entry distinct (List.mem_of_mem_filter present)
  have binds := mapM_bind_path _ resolves
  rwa [List.map_map, List.map_map] at binds

/-- The SET clause of what a run of steps has reached. It fails exactly when there is nothing to
write. Otherwise it is the list of the assignments, null as a literal; there is one placeholder
for each value that is not null, and it leads to that value; and a clause of identifiers is cut
into the columns again, with the information which of them are set to null. -/
theorem set_clause_of_run (steps : List Step) (dialect : Dialect) :
    ((∃ e, (reached steps).statement dialect = .error e) ↔ (reached steps).entries = []) ∧
    (∀ e, (reached steps).statement dialect = .error e → e = .nothingToWrite "UpdateSpec") ∧
    ∀ statement, (reached steps).statement dialect = .ok statement →
      statement.sql = ", ".intercalate (entryTexts dialect 1 (reached steps).entries) ∧
      statement.params = (reached steps).bound.map entryPath ∧
      statement.params.Nodup ∧
      (∀ entry ∈ (reached steps).bound,
        (reached steps).resolve (entryPath entry) = some entry.2) ∧
      statement.bind (reached steps).resolve = .ok ((reached steps).bound.map Prod.snd) ∧
      (Identifiers (reached steps).columns →
        readClause statement.sql =
          (reached steps).entries.map fun entry => some (entry.1, entry.2.isNull)) := by
  have distinct := nodup_columns_reached steps
  rw [statement_eq]
  by_cases nothing : (reached steps).entries = []
  · rw [if_pos nothing]
    refine ⟨⟨fun _ => nothing, fun _ => ⟨_, rfl⟩⟩, ?_, nofun⟩
    rintro e same
    cases same
    rfl
  · rw [if_neg nothing]
    refine ⟨⟨nofun, fun empty => absurd empty nothing⟩, nofun, ?_⟩
    rintro statement same
    cases same
    refine ⟨rfl, rfl, nodup_paths distinct, ?_, bind_bound distinct, ?_⟩
    · intro entry member
      exact resolve_entry distinct (List.mem_of_mem_filter member)
    · intro identifiers
      apply read_clause_texts dialect nothing
      intro entry member
      exact identifiers entry.1 (List.mem_map_of_mem member)

theorem set_clause_of_amendments :
    (reached amendments).statement .postgres =
        .ok ⟨"name = $1, email = NULL, left = $2",
          [[.key "updates", .key "name"], [.key "updates", .key "left"]]⟩ ∧
      Statement.bind ⟨"name = $1, email = NULL, left = $2",
          [[.key "updates", .key "name"], [.key "updates", .key "left"]]⟩
        (reached amendments).resolve = .ok [.text "Bo", .bool true] ∧
      readClause "name = $1, email = NULL, left = $2" =
        [some ("name", false), some ("email", true), some ("left", false)] := by
  have written : (reached amendments).statement .postgres =
      .ok ⟨"name = $1, email = NULL, left = $2",
        [[.key "updates", .key "name"], [.key "updates", .key "left"]]⟩ := by
    rfl
  obtain ⟨-, -, ofStatement⟩ := set_clause_of_run amendments .postgres
  obtain ⟨-, -, -, -, binds, read⟩ := ofStatement _ written
  have bound : (reached amendments).bound.map Prod.snd = [.text "Bo", .bool true] := by
    decide
  have entries : (reached amendments).entries =
      [("name", .text "Bo"), ("email", .null), ("left", .bool true)] := by
    decide
  have identifiers : Identifiers (reached amendments).columns := by
    rw [columns, entries, Identifiers]
    decide
  have assignments := read identifiers
  rw [entries] at assignments
  exact ⟨written, binds.trans (congrArg _ bound), assignments⟩

end ChangeSet

end BoundSql
