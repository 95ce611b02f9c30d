import Mathlib
import BoundSql.Proofs.Clause.Reader

/-!
The reader reads exactly what the grammar derives. Predicates are read back in front of any rest
that does not go on with a digit, so each of them ends where it ends, and neither a clause nor a
chain is derived in two ways.
-/

namespace BoundSql.Clause

theorem verb_word_eq_cons (verb : Verb) : ∃ tail, verb.word = ' ' :: tail := by
  rcases verb with (_ | _) | (_ | _) | _ <;> exact ⟨_, rfl⟩

theorem logic_word_ne_nil (logic : Logic) : logic.word ≠ [] := by cases logic <;> decide

theorem logic_word_eq_cons (logic : Logic) : ∃ tail, logic.word = ' ' :: tail := ⟨_, rfl⟩

theorem logic_word_stops (logic : Logic) (tail : List Char) : Stops (logic.word ++ tail) := by
  obtain ⟨rest, begins⟩ := logic_word_eq_cons logic
  simp [Stops, begins]

theorem close_stops (rest : List Char) : Stops (')' :: rest) := by simp [Stops]

theorem more_signs_stops (more : List String) (rest : List Char) :
    Stops (Predicate.moreSigns more ++ ')' :: rest) := by
  cases more with
  | nil => exact close_stops rest
  | cons sign more => simp [Stops, Predicate.moreSigns]

theorem follow_stops (logic : Logic) (ps : List (Predicate String)) {rest : List Char}
    (stops : Stops rest) : Stops (Predicate.follow logic ps ++ rest) := by
  cases ps with
  | nil => exact stops
  | cons p ps =>
      rw [Predicate.follow, List.append_assoc, List.append_assoc]
      exact logic_word_stops logic _

theorem read_leaf_append {dialect : Dialect} {column : String} {verb : Verb}
    {operand rest : List Char} {p : Predicate String} (identifier : isIdentifier column = true)
    (reads : readOperand dialect column verb operand = some (p, rest)) :
    readLeaf dialect (column.toList ++ (verb.word ++ operand)) = some (p, rest) := by
  have stops : ∀ c ∈ (verb.word ++ operand).head?, isIdentifierPart c = false := by
    obtain ⟨tail, begins⟩ := verb_word_eq_cons verb
    rw [begins]
    rintro c ⟨⟩
    decide
  simp only [readLeaf, read_column_append identifier stops, read_verb_append, reads,
    Option.bind_eq_bind, Option.bind_some]

theorem read_operand_member_append {dialect : Dialect} {column first : String} {negated : Bool}
    {more : List String} {rest : List Char} (firstSign : dialect.IsSign first)
    (moreSigns : ∀ sign ∈ more, dialect.IsSign sign) :
    readOperand dialect column (.member negated)
        (first.toList ++ (Predicate.moreSigns more ++ ')' :: rest)) =
      some (.member column negated first more, rest) := by
  have enough : more.length ≤ (Predicate.moreSigns more ++ ')' :: rest).length := by
    have nonempty : ", ".toList ≠ [] := by decide
    rw [List.length_append]
    exact Nat.le_add_right_of_le (length_le_flatMap nonempty String.toList more)
  have signsRead : readMany ", ".toList (readSign dialect)
      (Predicate.moreSigns more ++ ')' :: rest).length (Predicate.moreSigns more ++ ')' :: rest) =
        some (more, ')' :: rest) :=
    read_many_append String.toList more _ _ enough (fun tail => by simp [Stops])
      (close_stops rest) rfl
      (fun sign member tail stops => read_sign_append (moreSigns sign member) stops)
  have closes : [')'].isPrefixOf? (')' :: rest) = some rest := rfl
  simp only [readOperand, read_sign_append firstSign (more_signs_stops more rest), signsRead,
    closes, Option.bind_eq_bind, Option.bind_some]

theorem read_predicate_column {dialect : Dialect} {column : String} (fuel : Nat)
    (tail : List Char) (identifier : isIdentifier column = true) :
    readPredicate dialect (fuel + 1) (column.toList ++ tail) =
      readLeaf dialect (column.toList ++ tail) := by
  unfold isIdentifier at identifier
  split at identifier
  · simp at identifier
  · rename_i c cs spelled
    simp only [Bool.and_eq_true] at identifier
    rw [spelled, List.cons_append]
    have noBracket : c ≠ '(' := by
      rintro rfl
      exact absurd identifier.1 (by decide)
    have noDigit : c ≠ '1' := by
      rintro rfl
      exact absurd identifier.1 (by decide)
    rw [readPredicate.eq_def]
    split <;> simp_all

theorem read_many_follow {read : List Char → Option (Predicate String × List Char)}
    (logic : Logic) (ps : List (Predicate String)) (rest : List Char) (stops : Stops rest)
    (ends : logic.word.isPrefixOf? rest = none)
    (reads : ∀ p ∈ ps, ∀ tail, Stops tail → read (p.text ++ tail) = some (p, tail)) :
    readMany logic.word read (Predicate.follow logic ps ++ rest).length
        (Predicate.follow logic ps ++ rest) = some (ps, rest) := by
  rw [Predicate.follow_eq_flatMap]
  have enough := length_le_flatMap (logic_word_ne_nil logic) Predicate.text ps
  refine read_many_append Predicate.text ps _ rest ?_ (logic_word_stops logic) stops ends reads
  rw [List.length_append]
  exact Nat.le_add_right_of_le enough

theorem read_bracketed_single (read : List Char → Option (Predicate String × List Char))
    (inner : Predicate String) (rest : List Char) :
    readBracketed read inner (')' :: rest) = some (.bracket inner, rest) := rfl

/-- A reader that reads the other predicates of a group reads the group to its end. -/
theorem read_bracketed_group {read : List Char → Option (Predicate String × List Char)}
    (logic : Logic) (first second : Predicate String) (more : List (Predicate String))
    (rest : List Char)
    (reads : ∀ p ∈ second :: more, ∀ tail, Stops tail → read (p.text ++ tail) = some (p, tail)) :
    readBracketed read first
        (logic.word ++ (second.text ++ (Predicate.follow logic more ++ ')' :: rest))) =
      some (.group logic first second more, rest) := by
  rw [List.forall_mem_cons] at reads
  have goesOn : ∀ tail, [')'].isPrefixOf? (logic.word ++ tail) = none := by
    intro tail
    cases logic <;> rfl
  have noWord : logic.word.isPrefixOf? (')' :: rest) = none := by cases logic <;> rfl
  have secondRead := reads.1 _ (follow_stops logic more (close_stops rest))
  have moreRead := read_many_follow logic more _ (close_stops rest) noWord reads.2
  have closes : [')'].isPrefixOf? (')' :: rest) = some rest := rfl
  simp only [readBracketed, goesOn, read_logic_append, secondRead, moreRead, closes,
    Option.bind_eq_bind, Option.bind_some]

theorem read_predicate_append {dialect : Dialect} (fuel : Nat) (p : Predicate String)
    (rest : List Char) (formed : p.WellFormed dialect) (enough : p.text.length < fuel)
    (stops : Stops rest) :
    readPredicate dialect fuel (p.text ++ rest) = some (p, rest) := by
  induction fuel generalizing p rest with
  | zero => simp at enough
  | succ fuel ih =>
      cases p with
      | compare column op sign =>
          have identifier := formed.columns column (by simp [Predicate.columns])
          have isSign := formed.signs sign (by simp [Predicate.signs])
          rw [Predicate.text, List.append_assoc, List.append_assoc,
            read_predicate_column fuel _ identifier]
          apply read_leaf_append identifier
          simp only [readOperand, read_sign_append isSign stops, Option.bind_eq_bind,
            Option.bind_some]
      | nullTest column isNull =>
          have identifier := formed.columns column (by simp [Predicate.columns])
          rw [Predicate.text, List.append_assoc, read_predicate_column fuel _ identifier]
          exact read_leaf_append identifier rfl
      | member column negated first more =>
          have identifier := formed.columns column (by simp [Predicate.columns])
          have firstSign := formed.signs first (by simp [Predicate.signs])
          have moreSigns : ∀ sign ∈ more, dialect.IsSign sign := by
            intro sign member
            exact formed.signs sign (by simp [Predicate.signs, member])
          simp only [Predicate.text, List.append_assoc]
          rw [read_predicate_column fuel _ identifier]
          exact read_leaf_append identifier (read_operand_member_append firstSign moreSigns)
      | constant truth => cases truth <;> rfl
      | bracket inner =>
          rw [Predicate.well_formed_bracket_iff] at formed
          have innerRead := ih inner (')' :: rest) formed
            (by simp only [Predicate.text, List.length_cons, List.length_append] at enough; omega)
            (close_stops rest)
          simp only [Predicate.text, List.cons_append, List.append_assoc, List.nil_append,
            readPredicate, innerRead, Option.bind_eq_bind, Option.bind_some, read_bracketed_single]
      | group logic first second more =>
          obtain ⟨firstFormed, secondFormed, moreFormed⟩ :=
            (Predicate.well_formed_group_iff ..).mp formed
          simp only [Predicate.text, List.length_cons, List.length_append,
            Predicate.follow_eq_flatMap] at enough
          have firstRead := ih first
            (logic.word ++ (second.text ++ (Predicate.follow logic more ++ ')' :: rest)))
            firstFormed (by omega) (logic_word_stops logic _)
          have othersRead : ∀ p ∈ second :: more, ∀ tail, Stops tail →
              readPredicate dialect fuel (p.text ++ tail) = some (p, tail) := by
            rw [List.forall_mem_cons]
            refine ⟨fun tail => ih second tail secondFormed (by omega), ?_⟩
            intro p member tail
            have bound := length_le_of_mem logic.word Predicate.text member
            exact ih p tail (moreFormed p member) (by omega)
          have groupRead := read_bracketed_group logic first second more rest othersRead
          simp only [Predicate.text, List.cons_append, List.append_assoc, List.nil_append,
            readPredicate, firstRead, Option.bind_eq_bind, Option.bind_some, groupRead]

theorem read_operand_sound {dialect : Dialect} {column : String} {verb : Verb}
    {text rest : List Char} {p : Predicate String} (identifier : isIdentifier column = true)
    (found : readOperand dialect column verb text = some (p, rest)) :
    p.WellFormed dialect ∧ column.toList ++ (verb.word ++ text) = p.text ++ rest := by
  cases verb with
  | nullTest isNull =>
      simp only [readOperand, Option.some.injEq, Prod.mk.injEq] at found
      obtain ⟨rfl, rfl⟩ := found
      refine ⟨⟨by simpa [Predicate.columns] using identifier, by simp [Predicate.signs]⟩, ?_⟩
      simp only [Predicate.text, List.append_assoc]
  | compare op =>
      simp only [readOperand, Option.bind_eq_bind, Option.bind_eq_some_iff, Option.some.injEq,
        Prod.mk.injEq, Prod.exists] at found
      obtain ⟨sign, tail, signFound, rfl, rfl⟩ := found
      obtain ⟨isSign, spelled⟩ := read_sign_sound signFound
      refine ⟨⟨by simpa [Predicate.columns] using identifier,
        by simpa [Predicate.signs] using isSign⟩, ?_⟩
      simp only [Predicate.text, List.append_assoc, spelled]
  | member negated =>
      simp only [readOperand, Option.bind_eq_bind, Option.bind_eq_some_iff, Option.some.injEq,
        Prod.mk.injEq, Prod.exists, List.isPrefixOf?_eq_some_iff_append_eq] at found
      obtain ⟨first, afterFirst, firstFound, more, afterMore, moreFound, tail, closes, rfl, rfl⟩ :=
        found
      obtain ⟨firstSign, firstSpelled⟩ := read_sign_sound firstFound
      obtain ⟨moreSigns, moreSpelled⟩ := read_many_sound String.toList dialect.IsSign
        (fun _ _ _ => read_sign_sound) moreFound
      refine ⟨⟨by simpa [Predicate.columns] using identifier, ?_⟩, ?_⟩
      · intro sign member
        rcases List.mem_cons.mp member with rfl | member
        · exact firstSign
        · exact moreSigns sign member
      · rw [firstSpelled, moreSpelled, ← closes]
        simp only [Predicate.text, Predicate.moreSigns, List.append_assoc]

theorem read_leaf_sound {dialect : Dialect} {text rest : List Char} {p : Predicate String}
    (found : readLeaf dialect text = some (p, rest)) :
    p.WellFormed dialect ∧ text = p.text ++ rest := by
  simp only [readLeaf, Option.bind_eq_bind, Option.bind_eq_some_iff, Prod.exists] at found
  obtain ⟨column, afterColumn, columnFound, verb, operand, verbFound, operandFound⟩ := found
  obtain ⟨identifier, columnSpelled⟩ := read_column_sound columnFound
  obtain ⟨formed, spelled⟩ := read_operand_sound identifier operandFound
  refine ⟨formed, ?_⟩
  rw [columnSpelled, read_verb_sound verbFound, spelled]

theorem read_bracketed_sound {dialect : Dialect}
    {read : List Char → Option (Predicate String × List Char)} {first p : Predicate String}
    {text rest : List Char}
    (sound : ∀ text p rest, read text = some (p, rest) →
      p.WellFormed dialect ∧ text = p.text ++ rest)
    (firstFormed : first.WellFormed dialect)
    (found : readBracketed read first text = some (p, rest)) :
    p.WellFormed dialect ∧ '(' :: (first.text ++ text) = p.text ++ rest := by
  unfold readBracketed at found
  split at found
  · rename_i tail closes
    simp only [Option.some.injEq, Prod.mk.injEq] at found
    obtain ⟨rfl, rfl⟩ := found
    refine ⟨(Predicate.well_formed_bracket_iff ..).mpr firstFormed, ?_⟩
    rw [← List.isPrefixOf?_eq_some_iff_append_eq.mp closes]
    simp only [Predicate.text, List.cons_append, List.append_assoc]
  · simp only [Option.bind_eq_bind, Option.bind_eq_some_iff, Option.some.injEq, Prod.mk.injEq,
      Prod.exists, List.isPrefixOf?_eq_some_iff_append_eq] at found
    obtain ⟨logic, afterWord, wordFound, second, afterSecond, secondFound, more, afterMore,
      moreFound, tail, closes, rfl, rfl⟩ := found
    obtain ⟨secondFormed, secondSpelled⟩ := sound _ _ _ secondFound
    obtain ⟨moreFormed, moreSpelled⟩ := read_many_sound Predicate.text
      (fun p => p.WellFormed dialect) sound moreFound
    refine ⟨(Predicate.well_formed_group_iff ..).mpr ⟨firstFormed, secondFormed, moreFormed⟩, ?_⟩
    rw [read_logic_sound wordFound, secondSpelled, moreSpelled, ← closes]
    simp only [Predicate.text, Predicate.follow_eq_flatMap, List.cons_append, List.append_assoc]

theorem read_predicate_sound {dialect : Dialect} (fuel : Nat) {text rest : List Char}
    {p : Predicate String} (found : readPredicate dialect fuel text = some (p, rest)) :
    p.WellFormed dialect ∧ text = p.text ++ rest := by
  induction fuel generalizing text p rest with
  | zero => simp [readPredicate] at found
  | succ fuel ih =>
      have constantFormed : ∀ truth, (Predicate.constant truth).WellFormed dialect :=
        fun truth => ⟨by simp [Predicate.columns], by simp [Predicate.signs]⟩
      rw [readPredicate.eq_def] at found
      split at found
      · contradiction
      · simp only [Option.bind_eq_bind, Option.bind_eq_some_iff, Prod.exists] at found
        obtain ⟨first, afterFirst, firstFound, bracketed⟩ := found
        rename_i fuelEq
        cases fuelEq
        obtain ⟨firstFormed, firstSpelled⟩ := ih firstFound
        rw [firstSpelled]
        exact read_bracketed_sound (fun _ _ _ => ih) firstFormed bracketed
      · simp only [Option.some.injEq, Prod.mk.injEq] at found
        obtain ⟨rfl, rfl⟩ := found
        exact ⟨constantFormed true, rfl⟩
      · simp only [Option.some.injEq, Prod.mk.injEq] at found
        obtain ⟨rfl, rfl⟩ := found
        exact ⟨constantFormed false, rfl⟩
      · exact read_leaf_sound found

/-- Reading a clause and deriving it are the same. -/
theorem read_eq_some_iff (dialect : Dialect) (text : List Char)
    (clause : List (Predicate String)) :
    read dialect text = some clause ↔ IsClause dialect text clause := by
  constructor
  · intro found
    simp only [read, Option.bind_eq_bind, Option.bind_eq_some_iff, Prod.exists,
      Option.ite_none_right_eq_some, Option.some.injEq] at found
    obtain ⟨first, afterFirst, firstFound, more, rest, moreFound, rfl, rfl⟩ := found
    obtain ⟨firstFormed, firstSpelled⟩ := read_predicate_sound _ firstFound
    obtain ⟨moreFormed, moreSpelled⟩ := read_many_sound Predicate.text
      (fun p => p.WellFormed dialect) (fun _ _ _ => read_predicate_sound _) moreFound
    refine ⟨?_, firstFormed, by simpa using moreFormed⟩
    rw [chain_text_same_word, Predicate.follow_eq_flatMap, firstSpelled, moreSpelled,
      List.append_nil]
  · intro derived
    cases clause with
    | nil => exact derived.elim
    | cons first more =>
        obtain ⟨spelled, firstFormed, moreFormed⟩ := derived
        rw [chain_text_same_word] at spelled
        subst spelled
        have restStops : Stops (Predicate.follow .and more) := by
          have stops := follow_stops .and more (show Stops [] by simp [Stops])
          rwa [List.append_nil] at stops
        have firstRead := read_predicate_append
          ((first.text ++ Predicate.follow .and more).length + 1) first _ firstFormed
          (by rw [List.length_append]; omega) restStops
        have moreRead := read_many_follow .and more [] (by simp [Stops]) rfl
          (fun p member tail => read_predicate_append
            ((first.text ++ Predicate.follow .and more).length + 1) p tail
            (moreFormed (.and, p) (List.mem_map.mpr ⟨p, member, rfl⟩))
            (by
              have bound := length_le_of_mem Logic.and.word Predicate.text member
              rw [← Predicate.follow_eq_flatMap] at bound
              rw [List.length_append]
              omega))
        rw [List.append_nil] at moreRead
        simp only [read, firstRead, Option.bind_eq_bind, Option.bind_some, moreRead, if_true]

/-- Predicates end where they end: two of them with rests that end numbers are the same when
their texts are. -/
theorem text_append_inj {dialect : Dialect} {p q : Predicate String} {rest rest' : List Char}
    (formed : p.WellFormed dialect) (formed' : q.WellFormed dialect) (stops : Stops rest)
    (stops' : Stops rest') (same : p.text ++ rest = q.text ++ rest') : p = q ∧ rest = rest' := by
  have fuel : p.text.length < max p.text.length q.text.length + 1 ∧
      q.text.length < max p.text.length q.text.length + 1 := by omega
  have read := read_predicate_append _ p rest formed fuel.1 stops
  rw [same, read_predicate_append _ q rest' formed' fuel.2 stops'] at read
  simp only [Option.some.injEq, Prod.mk.injEq] at read
  exact ⟨read.1.symm, read.2.symm⟩

theorem links_stop (links : List (Logic × Predicate String)) :
    Stops (links.flatMap fun link => link.1.word ++ link.2.text) := by
  cases links with
  | nil => simp [Stops]
  | cons link links =>
      rw [List.flatMap_cons, List.append_assoc]
      exact logic_word_stops _ _

theorem links_unique {dialect : Dialect} (links links' : List (Logic × Predicate String))
    (formed : ∀ link ∈ links, link.2.WellFormed dialect)
    (formed' : ∀ link ∈ links', link.2.WellFormed dialect)
    (same : (links.flatMap fun link => link.1.word ++ link.2.text) =
      links'.flatMap fun link => link.1.word ++ link.2.text) : links = links' := by
  have word_ne : ∀ (logic : Logic) (tail : List Char), logic.word ++ tail ≠ [] := by
    intro logic tail
    simp [logic_word_ne_nil]
  induction links generalizing links' with
  | nil =>
      cases links' with
      | nil => rfl
      | cons link' links' =>
          rw [List.flatMap_cons, List.append_assoc] at same
          exact absurd same.symm (word_ne _ _)
  | cons link links ih =>
      cases links' with
      | nil =>
          rw [List.flatMap_cons, List.append_assoc] at same
          exact absurd same (word_ne _ _)
      | cons link' links' =>
          rw [List.flatMap_cons, List.flatMap_cons, List.append_assoc, List.append_assoc] at same
          have wordRead := read_logic_append link.1 (link.2.text ++ links.flatMap
            fun link => link.1.word ++ link.2.text)
          rw [same, read_logic_append] at wordRead
          simp only [Option.some.injEq, Prod.mk.injEq] at wordRead
          obtain ⟨sameLogic, sameTail⟩ := wordRead
          obtain ⟨samePredicate, sameLinks⟩ := text_append_inj
            (formed' link' List.mem_cons_self) (formed link List.mem_cons_self)
            (links_stop links') (links_stop links) sameTail
          have more := ih links' (fun other member => formed other (List.mem_cons_of_mem _ member))
            (fun other member => formed' other (List.mem_cons_of_mem _ member)) sameLinks.symm
          rw [more, Prod.ext sameLogic.symm samePredicate.symm]

/-- A text is a chain in at most one way. So in the text of a clause, whose words are all AND,
no OR stands beside them outside of brackets. -/
theorem chain_unique {dialect : Dialect} {text : List Char} {first first' : Predicate String}
    {links links' : List (Logic × Predicate String)} (derived : IsChain dialect text first links)
    (derived' : IsChain dialect text first' links') : first = first' ∧ links = links' := by
  have same := derived.derives.trans derived'.derives.symm
  obtain ⟨sameFirst, sameLinks⟩ := text_append_inj derived.first_formed derived'.first_formed
    (links_stop links) (links_stop links') same
  exact ⟨sameFirst, links_unique links links' derived.links_formed derived'.links_formed sameLinks⟩

end BoundSql.Clause
