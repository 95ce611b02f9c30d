import Mathlib
import BoundSql.Proofs.Clause.Exactness

/-!
Reading a WHERE clause by the precedence of SQL. AND binds tighter than OR, and brackets bind
tightest, so a clause is a list of alternatives, each of which is a conjunction of factors; the
text is read from left to right, and nothing in it is assumed to stand in brackets. Values may be
literals or placeholders. The placeholders of a clause are known beforehand and in their order,
and at the place of a value the next of them is taken if it stands there.
-/

namespace BoundSql

inductive Operand where
  | sign (text : String)
  | literal (text : String)
deriving DecidableEq, Repr, Inhabited

/-- A factor of a conjunction. Brackets hold alternatives, each of which is a conjunction. -/
inductive Factor where
  | compare (column : String) (op : Comparison) (operand : Operand)
  | nullTest (column : String) (isNull : Bool)
  | member (column : String) (negated : Bool) (operands : List Operand)
  | constant (truth : Bool)
  | nested (alternatives : List (List Factor))
deriving Repr, Inhabited

mutual

def Factor.holds (truth : Factor → Bool) : Factor → Bool
  | .nested alternatives => Factor.someHold truth alternatives
  | .compare column op operand => truth (.compare column op operand)
  | .nullTest column isNull => truth (.nullTest column isNull)
  | .member column negated operands => truth (.member column negated operands)
  | .constant value => value

def Factor.allHold (truth : Factor → Bool) : List Factor → Bool
  | [] => true
  | factor :: factors => factor.holds truth && Factor.allHold truth factors

def Factor.someHold (truth : Factor → Bool) : List (List Factor) → Bool
  | [] => false
  | factors :: alternatives => Factor.allHold truth factors || Factor.someHold truth alternatives

end

theorem Factor.last_holds (truth : Factor → Bool) (factors : List Factor) (last : Factor)
    (holds : Factor.someHold truth [factors ++ [last]] = true) : last.holds truth = true := by
  have whole : Factor.allHold truth (factors ++ [last]) = true := by
    simpa [Factor.someHold] using holds
  clear holds
  induction factors with
  | nil => simpa [Factor.allHold] using whole
  | cons factor factors ih =>
      rw [List.cons_append, Factor.allHold, Bool.and_eq_true] at whole
      exact ih whole.2

namespace Predicate

mutual

/-- The factor that a predicate of the clause grammar is, whatever stands beside it. -/
def factor : Predicate String → Factor
  | .compare column op sign => .compare column op (.sign sign)
  | .nullTest column isNull => .nullTest column isNull
  | .member column negated first rest => .member column negated ((first :: rest).map .sign)
  | .constant truth => .constant truth
  | .bracket inner => .nested [[inner.factor]]
  | .group .and first second rest => .nested [first.factor :: second.factor :: factorsOf rest]
  | .group .or first second rest =>
      .nested ([first.factor] :: [second.factor] :: (factorsOf rest).map fun factor => [factor])

def factorsOf : List (Predicate String) → List Factor
  | [] => []
  | p :: ps => p.factor :: factorsOf ps

end

theorem factors_of_eq_map (ps : List (Predicate String)) : factorsOf ps = ps.map factor := by
  induction ps with
  | nil => rfl
  | cons p ps ih => rw [factorsOf, ih, List.map_cons]

end Predicate

namespace Precedence

def takeSign : List Char → List Char × List Char
  | '-' :: text => (['-'], text)
  | '+' :: text => (['+'], text)
  | text => ([], text)

def takeDigits (text : List Char) : List Char × List Char :=
  (text.takeWhile Char.isDigit, text.dropWhile Char.isDigit)

def takeFraction : List Char → List Char × List Char
  | '.' :: text => ('.' :: (takeDigits text).1, (takeDigits text).2)
  | text => ([], text)

def takeExponent : List Char → List Char × List Char
  | [] => ([], [])
  | c :: text =>
      let (sign, power) := takeSign text
      let (digits, rest) := takeDigits power
      if (c = 'e' ∨ c = 'E') ∧ digits ≠ [] then (c :: (sign ++ digits), rest) else ([], c :: text)

/-- A number with a sign, a fraction and an exponent, all but some digits of which may be left
out. -/
def readNumber (text : List Char) : Option (List Char × List Char) :=
  let (sign, text) := takeSign text
  let (whole, text) := takeDigits text
  let (fraction, text) := takeFraction text
  let (exponent, text) := takeExponent text
  if whole = [] ∧ fraction.length < 2 then none
  else some (sign ++ (whole ++ (fraction ++ exponent)), text)

def readQuoted (quote : Char) : List Char → Option (List Char × List Char)
  | [] => none
  | [c] => if c = quote then some ([quote], []) else none
  | c :: d :: text =>
      if c ≠ quote then
        (readQuoted quote (d :: text)).map fun (quoted, rest) => (c :: quoted, rest)
      else if d ≠ quote then some ([quote], d :: text)
      else (readQuoted quote text).map fun (quoted, rest) => (quote :: quote :: quoted, rest)

def readLiteral : List Char → Option (String × List Char)
  | [] => none
  | c :: text =>
      if c = '\x27' ∨ c = '"' then
        (readQuoted c text).map fun (quoted, rest) => (String.ofList (c :: quoted), rest)
      else (readNumber (c :: text)).map fun (number, rest) => (String.ofList number, rest)

def isLiteral (text : String) : Bool := readLiteral text.toList = some (text, [])

abbrev Input := List String × List Char

def readSign : Input → Option (Operand × Input)
  | ([], _) => none
  | (mark :: marks, text) =>
      (mark.toList.isPrefixOf? text).map fun rest => (.sign mark, (marks, rest))

def readTerm (input : Input) : Option (Operand × Input) :=
  match readSign input with
  | some found => some found
  | none => (readLiteral input.2).map fun (literal, rest) => (.literal literal, (input.1, rest))

def readListed {α : Type} (word : List Char) (read : Input → Option (α × Input)) :
    Nat → Input → Option (List α × Input)
  | 0, _ => none
  | fuel + 1, input => do
      let (item, (marks, text)) ← read input
      match word.isPrefixOf? text with
      | none => some ([item], (marks, text))
      | some rest =>
          let (items, input) ← readListed word read fuel (marks, rest)
          some (item :: items, input)

def readOperand (column : String) : Verb → Input → Option (Factor × Input)
  | .nullTest isNull, input => some (.nullTest column isNull, input)
  | .compare op, input => do
      let (operand, input) ← readTerm input
      some (.compare column op operand, input)
  | .member negated, input => do
      let (operands, (marks, text)) ← readListed ", ".toList readTerm (input.2.length + 1) input
      let rest ← [')'].isPrefixOf? text
      some (.member column negated operands, (marks, rest))

def readLeaf : Input → Option (Factor × Input)
  | (marks, text) => do
      let (column, text) ← Clause.readColumn text
      let (verb, text) ← Clause.readVerb text
      readOperand column verb (marks, text)

def readConjunction (read : Input → Option (Factor × Input)) (input : Input) :
    Option (List Factor × Input) :=
  readListed Logic.and.word read (input.2.length + 1) input

def readAlternatives (read : Input → Option (Factor × Input)) (input : Input) :
    Option (List (List Factor) × Input) :=
  readListed Logic.or.word (readConjunction read) (input.2.length + 1) input

/-- One factor. The fuel bounds the depth of brackets. -/
def readFactor : Nat → Input → Option (Factor × Input)
  | 0, _ => none
  | fuel + 1, (marks, '(' :: text) => do
      let (alternatives, (marks, text)) ← readAlternatives (readFactor fuel) (marks, text)
      let rest ← [')'].isPrefixOf? text
      some (.nested alternatives, (marks, rest))
  | _ + 1, (marks, '1' :: '=' :: '1' :: rest) => some (.constant true, (marks, rest))
  | _ + 1, (marks, '1' :: '=' :: '0' :: rest) => some (.constant false, (marks, rest))
  | _ + 1, input => readLeaf input

/-- The alternatives of a clause that is the whole text and has these placeholders. -/
def read (marks : List String) (text : List Char) : Option (List (List Factor)) := do
  let (alternatives, (left, rest)) ← readAlternatives (readFactor (text.length + 1)) (marks, text)
  if left = [] ∧ rest = [] then some alternatives else none

theorem read_term_sign (sign : String) (marks : List String) (rest : List Char) :
    readTerm (sign :: marks, sign.toList ++ rest) = some (.sign sign, (marks, rest)) := by
  have stripped : sign.toList.isPrefixOf? (sign.toList ++ rest) = some rest :=
    List.isPrefixOf?_eq_some_iff_append_eq.mpr rfl
  rw [readTerm, readSign, stripped]
  rfl

theorem read_term_literal {literal : String} (isLiteral : isLiteral literal = true) :
    readTerm ([], literal.toList) = some (.literal literal, ([], [])) := by
  have whole : readLiteral literal.toList = some (literal, []) := of_decide_eq_true isLiteral
  show (readLiteral literal.toList).map _ = _
  rw [whole]
  rfl

theorem read_listed_append {α β : Type} {word : List Char} {read : Input → Option (α × Input)}
    (spell : β → List Char) (signs : β → List String) (value : β → α) (items : List β)
    (fuel : Nat) (enough : items.length < fuel) {marks marks' : List String}
    {text rest : List Char} {last : α} (lastRead : read (marks, text) = some (last, (marks', rest)))
    (ends : word.isPrefixOf? rest = none)
    (reads : ∀ item ∈ items, ∀ marks tail,
      read (signs item ++ marks, spell item ++ (word ++ tail)) =
        some (value item, (marks, word ++ tail))) :
    readListed word read fuel
        (items.flatMap signs ++ marks, items.flatMap (fun item => spell item ++ word) ++ text) =
      some (items.map value ++ [last], (marks', rest)) := by
  induction items generalizing fuel with
  | nil =>
      cases fuel with
      | zero => simp at enough
      | succ fuel =>
          simp only [List.flatMap_nil, List.nil_append, List.map_nil, readListed, lastRead, ends,
            Option.bind_eq_bind, Option.bind_some]
  | cons item items ih =>
      cases fuel with
      | zero => simp at enough
      | succ fuel =>
          rw [List.forall_mem_cons] at reads
          have stripped : ∀ tail, word.isPrefixOf? (word ++ tail) = some tail := fun _ =>
            List.isPrefixOf?_eq_some_iff_append_eq.mpr rfl
          have later := ih fuel (by simpa using enough) reads.2
          simp only [List.flatMap_cons, List.append_assoc, readListed, reads.1, stripped, later,
            Option.bind_eq_bind, Option.bind_some, List.map_cons, List.cons_append]

theorem length_le_spelled {β : Type} {word : List Char} (nonempty : word ≠ [])
    (spell : β → List Char) (items : List β) (text : List Char) :
    items.length < (items.flatMap (fun item => spell item ++ word) ++ text).length + 1 := by
  have positive : 0 < word.length := List.length_pos_of_ne_nil nonempty
  induction items with
  | nil => simp
  | cons item items ih =>
      simp only [List.flatMap_cons, List.length_append, List.length_cons] at ih ⊢
      omega

theorem spelled_in_front {β : Type} (word : List Char) (spell : β → List Char) (first : β)
    (others : List β) :
    spell first ++ (others.flatMap fun item => word ++ spell item) ++ word =
      (first :: others).flatMap fun item => spell item ++ word := by
  induction others generalizing first with
  | nil => simp
  | cons second others ih =>
      have later := ih second
      simp only [List.flatMap_cons, List.append_assoc] at later ⊢
      rw [later]

theorem read_listed_chain {α β : Type} {word : List Char} {read : Input → Option (α × Input)}
    (nonempty : word ≠ []) (spell : β → List Char) (signs : β → List String) (value : β → α)
    (first : β) (others : List β) (marks : List String) {rest : List Char}
    (ends : word.isPrefixOf? rest = none)
    (reads : ∀ item ∈ first :: others, ∀ marks tail, (tail = rest ∨ ∃ more, tail = word ++ more) →
      read (signs item ++ marks, spell item ++ tail) = some (value item, (marks, tail))) :
    let text := spell first ++ ((others.flatMap fun item => word ++ spell item) ++ rest)
    readListed word read (text.length + 1) ((first :: others).flatMap signs ++ marks, text) =
      some ((first :: others).map value, (marks, rest)) := by
  obtain ⟨items, last, split⟩ : ∃ items last, first :: others = items ++ [last] :=
    ⟨_, _, (List.dropLast_append_getLast (List.cons_ne_nil first others)).symm⟩
  have text : spell first ++ (others.flatMap fun item => word ++ spell item) =
      (items.flatMap fun item => spell item ++ word) ++ spell last := by
    have fronts := spelled_in_front word spell first others
    rw [split, List.flatMap_append, List.flatMap_singleton, ← List.append_assoc] at fronts
    exact List.append_cancel_right fronts
  dsimp only
  rw [split] at reads ⊢
  rw [← List.append_assoc, text, List.append_assoc, List.flatMap_append, List.flatMap_singleton,
    List.map_append, List.append_assoc]
  apply read_listed_append spell signs value items _ (length_le_spelled nonempty spell items _)
  · exact reads last (List.mem_append_right items List.mem_cons_self) marks rest (Or.inl rfl)
  · exact ends
  · intro item member marks tail
    exact reads item (List.mem_append_left _ member) marks _ (Or.inr ⟨tail, rfl⟩)

theorem read_leaf_append {column : String} {verb : Verb} {marks : List String}
    {operand : List Char} {found : Factor × Input} (identifier : isIdentifier column = true)
    (reads : readOperand column verb (marks, operand) = some found) :
    readLeaf (marks, column.toList ++ (verb.word ++ operand)) = some found := by
  have stops : ∀ c ∈ (verb.word ++ operand).head?, isIdentifierPart c = false := by
    obtain ⟨tail, begins⟩ := Clause.verb_word_eq_cons verb
    rw [begins]
    rintro c ⟨⟩
    decide
  simp only [readLeaf, Clause.read_column_append identifier stops, Clause.read_verb_append, reads,
    Option.bind_eq_bind, Option.bind_some]

theorem read_factor_column {column : String} (fuel : Nat) (marks : List String)
    (tail : List Char) (identifier : isIdentifier column = true) :
    readFactor (fuel + 1) (marks, column.toList ++ tail) =
      readLeaf (marks, column.toList ++ tail) := by
  unfold isIdentifier at identifier
  split at identifier
  · simp at identifier
  · rename_i c cs spelled
    simp only [Bool.and_eq_true] at identifier
    rw [spelled, List.cons_append]
    have noBracket : c ≠ '(' := by
      rintro rfl
      exact absurd identifier.1 (by decide)
    have noDigit : c ≠ '1' := by
      rintro rfl
      exact absurd identifier.1 (by decide)
    rw [readFactor.eq_def]
    split <;> simp_all

theorem read_compare_append {column : String} {op : Comparison} {marks : List String}
    {text : List Char} {operand : Operand} {input : Input} (fuel : Nat)
    (identifier : isIdentifier column = true)
    (reads : readTerm (marks, text) = some (operand, input)) :
    readFactor (fuel + 1) (marks, column.toList ++ ((Verb.compare op).word ++ text)) =
      some (.compare column op operand, input) := by
  rw [read_factor_column fuel marks _ identifier]
  apply read_leaf_append identifier
  rw [readOperand, reads]
  rfl

theorem read_operand_member_append (column first : String) (negated : Bool) (more : List String)
    (marks : List String) (rest : List Char) :
    readOperand column (.member negated)
        ((first :: more) ++ marks, first.toList ++ (Predicate.moreSigns more ++ ')' :: rest)) =
      some (.member column negated ((first :: more).map .sign), (marks, rest)) := by
  have nonempty : ", ".toList ≠ [] := by decide
  have ends : ", ".toList.isPrefixOf? (')' :: rest) = none := rfl
  have listed := read_listed_chain nonempty String.toList (fun sign => [sign]) Operand.sign first
    more marks ends fun sign _ marks tail _ => read_term_sign sign marks tail
  dsimp only at listed
  rw [List.flatMap_singleton'] at listed
  have closes : [')'].isPrefixOf? (')' :: rest) = some rest := rfl
  simp only [readOperand, Predicate.moreSigns, listed, closes, Option.bind_eq_bind,
    Option.bind_some]

/-- A reader of factors that reads these predicates in front of anything. -/
def ReadsAll (read : Input → Option (Factor × Input)) (ps : List (Predicate String)) : Prop :=
  ∀ p ∈ ps, ∀ marks tail, read (p.signs ++ marks, p.text ++ tail) = some (p.factor, (marks, tail))

section Brackets

variable {read : Input → Option (Factor × Input)} {first : Predicate String}
  {others : List (Predicate String)}

theorem read_conjunction_append (reads : ReadsAll read (first :: others)) (marks : List String)
    {rest : List Char} (ends : Logic.and.word.isPrefixOf? rest = none) :
    readConjunction read (first.signs ++ (Predicate.signsOf others ++ marks),
        first.text ++ (Predicate.follow .and others ++ rest)) =
      some ((first :: others).map Predicate.factor, (marks, rest)) := by
  have listed := read_listed_chain (Clause.logic_word_ne_nil .and) Predicate.text Predicate.signs
    Predicate.factor first others marks ends
    fun p member marks tail _ => reads p member marks tail
  rw [List.flatMap_cons, List.append_assoc, ← Predicate.signs_of_eq_flatMap] at listed
  rw [readConjunction, Predicate.follow_eq_flatMap]
  exact listed

theorem read_alternatives_single {input : Input} {factors : List Factor} {marks : List String}
    {rest : List Char} (reads : readConjunction read input = some (factors, (marks, rest)))
    (ends : Logic.or.word.isPrefixOf? rest = none) :
    readAlternatives read input = some ([factors], (marks, rest)) := by
  rw [readAlternatives, readListed]
  simp only [reads, ends, Option.bind_eq_bind, Option.bind_some]

/-- Predicates joined by OR are alternatives of one factor each. -/
theorem read_alternatives_append (reads : ReadsAll read (first :: others)) (marks : List String)
    {rest : List Char} (ends : Logic.or.word.isPrefixOf? rest = none)
    (endsConjunction : Logic.and.word.isPrefixOf? rest = none) :
    readAlternatives read (first.signs ++ (Predicate.signsOf others ++ marks),
        first.text ++ (Predicate.follow .or others ++ rest)) =
      some ((first :: others).map fun p => [p.factor], (marks, rest)) := by
  have each : ∀ p ∈ first :: others, ∀ marks tail,
      (tail = rest ∨ ∃ more, tail = Logic.or.word ++ more) →
        readConjunction read (p.signs ++ marks, p.text ++ tail) =
          some ([p.factor], (marks, tail)) := by
    intro p member marks tail follows
    have alone : ReadsAll read [p] := fun other isOther => by
      rw [List.mem_singleton.mp isOther]
      exact reads p member
    have noAnd : Logic.and.word.isPrefixOf? tail = none := by
      obtain rfl | ⟨more, rfl⟩ := follows
      · exact endsConjunction
      · rfl
    exact read_conjunction_append alone marks noAnd
  have listed := read_listed_chain (Clause.logic_word_ne_nil .or) Predicate.text Predicate.signs
    (fun p => [p.factor]) first others marks ends each
  rw [List.flatMap_cons, List.append_assoc, ← Predicate.signs_of_eq_flatMap] at listed
  rw [readAlternatives, Predicate.follow_eq_flatMap]
  exact listed

end Brackets

theorem read_nested {fuel : Nat} {marks marks' : List String} {text rest : List Char}
    {alternatives : List (List Factor)}
    (reads : readAlternatives (readFactor fuel) (marks, text) =
      some (alternatives, (marks', ')' :: rest))) :
    readFactor (fuel + 1) (marks, '(' :: text) = some (.nested alternatives, (marks', rest)) := by
  have closes : [')'].isPrefixOf? (')' :: rest) = some rest := rfl
  simp only [readFactor, reads, closes, Option.bind_eq_bind, Option.bind_some]

theorem factor_enclose (logic : Logic) (first : Predicate String)
    (others : List (Predicate String)) :
    (Predicate.enclose logic first others).factor =
      .nested (match logic with
        | .and => [(first :: others).map Predicate.factor]
        | .or => (first :: others).map fun p => [p.factor]) := by
  cases others with
  | nil => cases logic <;> rfl
  | cons second more =>
      cases logic <;> simp [Predicate.enclose, Predicate.factor, Predicate.factors_of_eq_map]

theorem length_lt_enclose (logic : Logic) (first : Predicate String)
    (others : List (Predicate String)) :
    ∀ p ∈ first :: others, p.text.length < (Predicate.enclose logic first others).text.length := by
  rw [Predicate.text_enclose, Predicate.follow_eq_flatMap, List.forall_mem_cons]
  simp only [List.length_cons, List.length_append, List.length_nil]
  refine ⟨by omega, ?_⟩
  intro p member
  have inside := Clause.length_le_of_mem logic.word Predicate.text member
  omega

theorem read_enclosed {fuel : Nat} (logic : Logic) {first : Predicate String}
    {others : List (Predicate String)} (reads : ReadsAll (readFactor fuel) (first :: others))
    (marks : List String) (rest : List Char) :
    readFactor (fuel + 1) ((Predicate.enclose logic first others).signs ++ marks,
        (Predicate.enclose logic first others).text ++ rest) =
      some ((Predicate.enclose logic first others).factor, (marks, rest)) := by
  have noAnd : Logic.and.word.isPrefixOf? (')' :: rest) = none := rfl
  have noOr : Logic.or.word.isPrefixOf? (')' :: rest) = none := rfl
  rw [Predicate.text_enclose, Predicate.signs_enclose, factor_enclose]
  simp only [List.cons_append, List.append_assoc, List.nil_append]
  apply read_nested
  cases logic with
  | and => exact read_alternatives_single (read_conjunction_append reads marks noAnd) noOr
  | or => exact read_alternatives_append reads marks noOr noAnd

/-- A predicate is read as the factor that it is, whatever stands behind it. -/
theorem read_factor_append (fuel : Nat) (p : Predicate String) (marks : List String)
    (rest : List Char) (identifiers : ∀ column ∈ p.columns, isIdentifier column = true)
    (enough : p.text.length < fuel) :
    readFactor fuel (p.signs ++ marks, p.text ++ rest) = some (p.factor, (marks, rest)) := by
  induction fuel generalizing p marks rest with
  | zero => simp at enough
  | succ fuel ih =>
      -- What stands in brackets is shorter than the brackets.
      have enclosed : ∀ logic first others, p = Predicate.enclose logic first others →
          readFactor (fuel + 1) (p.signs ++ marks, p.text ++ rest) =
            some (p.factor, (marks, rest)) := by
        rintro logic first others rfl
        apply read_enclosed
        intro q member marks tail
        have shorter := length_lt_enclose logic first others q member
        refine ih q marks tail ?_ (by omega)
        intro column inColumns
        apply identifiers column
        rw [Predicate.columns_enclose, Predicate.columns_of_eq_flatMap, ← List.flatMap_cons]
        exact List.mem_flatMap.mpr ⟨q, member, inColumns⟩
      cases p with
      | compare column op sign =>
          have identifier := identifiers column (by simp [Predicate.columns])
          rw [Predicate.text, List.append_assoc, List.append_assoc]
          exact read_compare_append fuel identifier (read_term_sign sign marks rest)
      | nullTest column isNull =>
          have identifier := identifiers column (by simp [Predicate.columns])
          rw [Predicate.text, List.append_assoc, read_factor_column fuel _ _ identifier]
          exact read_leaf_append identifier rfl
      | member column negated first more =>
          have identifier := identifiers column (by simp [Predicate.columns])
          simp only [Predicate.text, List.append_assoc]
          rw [read_factor_column fuel _ _ identifier]
          exact read_leaf_append identifier
            (read_operand_member_append column first negated more marks rest)
      | constant truth => cases truth <;> rfl
      | bracket inner => exact enclosed .and inner [] rfl
      | group logic first second more => exact enclosed logic first (second :: more) rfl

/-- Predicates joined by AND, and behind them a comparison with a literal, are read as one
conjunction of which the comparison is the last factor. -/
theorem read_with_last {first : Predicate String} {others : List (Predicate String)}
    {column literal : String} (identifiers : ∀ p ∈ first :: others, ∀ c ∈ p.columns,
      isIdentifier c = true) (identifier : isIdentifier column = true)
    (isLiteral : isLiteral literal = true) :
    read (Predicate.signsOf (first :: others))
        (first.text ++ Predicate.follow .and others ++
          (" AND " ++ column ++ " = " ++ literal).toList) =
      some [(first :: others).map Predicate.factor ++
        [.compare column .eq (.literal literal)]] := by
  have spelled : first.text ++ Predicate.follow .and others ++
      (" AND " ++ column ++ " = " ++ literal).toList =
        ((first :: others).flatMap fun p => p.text ++ Logic.and.word) ++
          (column.toList ++ ((Verb.compare .eq).word ++ literal.toList)) := by
    rw [← spelled_in_front, Predicate.follow_eq_flatMap]
    simp only [String.toList_append, List.append_assoc]
    rfl
  rw [spelled, Predicate.signs_of_eq_flatMap]
  generalize whole : ((first :: others).flatMap fun p => p.text ++ Logic.and.word) ++
    (column.toList ++ ((Verb.compare .eq).word ++ literal.toList)) = text
  have lastRead : readFactor (text.length + 1)
      ([], column.toList ++ ((Verb.compare .eq).word ++ literal.toList)) =
        some (.compare column .eq (.literal literal), ([], [])) :=
    read_compare_append text.length identifier (read_term_literal isLiteral)
  have reads : ReadsAll (readFactor (text.length + 1)) (first :: others) := by
    intro p member marks tail
    apply read_factor_append _ p marks tail (identifiers p member)
    have inside := Clause.length_le_of_mem []
      (fun p : Predicate String => p.text ++ Logic.and.word) member
    simp only [List.nil_append, List.length_append] at inside
    rw [← whole, List.length_append]
    omega
  have conjunction : readConjunction (readFactor (text.length + 1))
      ((first :: others).flatMap Predicate.signs, text) =
        some ((first :: others).map Predicate.factor ++
          [.compare column .eq (.literal literal)], ([], [])) := by
    have enough := length_le_spelled (Clause.logic_word_ne_nil .and) Predicate.text
      (first :: others) (column.toList ++ ((Verb.compare .eq).word ++ literal.toList))
    have ends : Logic.and.word.isPrefixOf? ([] : List Char) = none := rfl
    have listed := read_listed_append Predicate.text Predicate.signs Predicate.factor
      (first :: others) _ enough lastRead ends
      fun p member marks tail => reads p member marks _
    rwa [List.append_nil, whole] at listed
  simp only [read, read_alternatives_single conjunction rfl, Option.bind_eq_bind,
    Option.bind_some, and_self, if_true]

/-- Side by side, AND binds tighter than OR. -/
example : (read ["$1"] "a = $1 AND b = 'x OR y' OR c IS NULL".toList).map
    (fun alternatives => alternatives.map List.length) = some [2, 1] := by decide

end Precedence

end BoundSql
