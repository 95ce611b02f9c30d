import Mathlib
import BoundSql.Proofs.Draft
import BoundSql.Condition.Basic

/-!
The grammar of WHERE clauses. A derivation is a tree, and the text that it derives is read off
the tree, so that a text is read in one way when it is the text of one tree only. Predicates are
kept apart from the signs that stand for their values: a tree holds placeholders, values or
nothing in these places. Clauses are stated as a special case of chains, in which predicates
follow one another without brackets and every link may be AND or OR.
-/

namespace BoundSql

/-- A predicate of the grammar; `π` is what stands in the places of its values. -/
inductive Predicate (π : Type) where
  | compare (column : String) (op : Comparison) (sign : π)
  | nullTest (column : String) (isNull : Bool)
  | member (column : String) (negated : Bool) (first : π) (rest : List π)
  | constant (truth : Bool)
  | bracket (inner : Predicate π)
  | group (logic : Logic) (first second : Predicate π) (rest : List (Predicate π))
deriving Repr, Inhabited

inductive Verb where
  | nullTest (isNull : Bool)
  | member (negated : Bool)
  | compare (op : Comparison)
deriving DecidableEq, Repr, Inhabited

def Verb.word : Verb → List Char
  | .nullTest true => " IS NULL".toList
  | .nullTest false => " IS NOT NULL".toList
  | .member false => " IN (".toList
  | .member true => " NOT IN (".toList
  | .compare op => ' ' :: (op.sql.toList ++ [' '])

def Logic.word (logic : Logic) : List Char := ' ' :: (logic.sql.toList ++ [' '])

namespace Predicate

variable {π : Type}

/-- The signs after the first one of a list. -/
def moreSigns (signs : List String) : List Char :=
  signs.flatMap fun sign => ", ".toList ++ sign.toList

mutual

def text : Predicate String → List Char
  | .compare column op sign => column.toList ++ (Verb.compare op).word ++ sign.toList
  | .nullTest column isNull => column.toList ++ (Verb.nullTest isNull).word
  | .member column negated first rest =>
      column.toList ++ (Verb.member negated).word ++ first.toList ++ moreSigns rest ++ [')']
  | .constant truth => if truth then "1=1".toList else "1=0".toList
  | .bracket inner => '(' :: (inner.text ++ [')'])
  | .group logic first second rest =>
      '(' :: (first.text ++ logic.word ++ second.text ++ follow logic rest ++ [')'])

def follow (logic : Logic) : List (Predicate String) → List Char
  | [] => []
  | p :: ps => logic.word ++ p.text ++ follow logic ps

end

mutual

def columns : Predicate π → List String
  | .compare column _ _ => [column]
  | .nullTest column _ => [column]
  | .member column _ _ _ => [column]
  | .constant _ => []
  | .bracket inner => inner.columns
  | .group _ first second rest => first.columns ++ second.columns ++ columnsOf rest

def columnsOf : List (Predicate π) → List String
  | [] => []
  | p :: ps => p.columns ++ columnsOf ps

end

mutual

/-- The signs of a predicate, left to right. -/
def signs : Predicate π → List π
  | .compare _ _ sign => [sign]
  | .nullTest _ _ => []
  | .member _ _ first rest => first :: rest
  | .constant _ => []
  | .bracket inner => inner.signs
  | .group _ first second rest => first.signs ++ second.signs ++ signsOf rest

def signsOf : List (Predicate π) → List π
  | [] => []
  | p :: ps => p.signs ++ signsOf ps

end

mutual

/-- A predicate without its signs, of which only their number is left. -/
def shape : Predicate π → Predicate Unit
  | .compare column op _ => .compare column op ()
  | .nullTest column isNull => .nullTest column isNull
  | .member column negated _ rest => .member column negated () (rest.map fun _ => ())
  | .constant truth => .constant truth
  | .bracket inner => .bracket inner.shape
  | .group logic first second rest => .group logic first.shape second.shape (shapesOf rest)

def shapesOf : List (Predicate π) → List (Predicate Unit)
  | [] => []
  | p :: ps => p.shape :: shapesOf ps

end

theorem follow_eq_flatMap (logic : Logic) (ps : List (Predicate String)) :
    follow logic ps = ps.flatMap fun p => logic.word ++ p.text := by
  induction ps with
  | nil => rfl
  | cons p ps ih => rw [follow, ih, List.flatMap_cons]

theorem columns_of_eq_flatMap (ps : List (Predicate π)) : columnsOf ps = ps.flatMap columns := by
  induction ps with
  | nil => rfl
  | cons p ps ih => rw [columnsOf, ih, List.flatMap_cons]

theorem signs_of_eq_flatMap (ps : List (Predicate π)) : signsOf ps = ps.flatMap signs := by
  induction ps with
  | nil => rfl
  | cons p ps ih => rw [signsOf, ih, List.flatMap_cons]

theorem shapes_of_eq_map (ps : List (Predicate π)) : shapesOf ps = ps.map shape := by
  induction ps with
  | nil => rfl
  | cons p ps ih => rw [shapesOf, ih, List.map_cons]

mutual

theorem columns_shape : (p : Predicate π) → p.shape.columns = p.columns
  | .compare _ _ _ => rfl
  | .nullTest _ _ => rfl
  | .member _ _ _ _ => rfl
  | .constant _ => rfl
  | .bracket inner => columns_shape inner
  | .group _ first second rest => by
      rw [shape, columns, columns, columns_shape first, columns_shape second, columns_shapes rest]

theorem columns_shapes : (ps : List (Predicate π)) → columnsOf (shapesOf ps) = columnsOf ps
  | [] => rfl
  | p :: ps => by rw [shapesOf, columnsOf, columnsOf, columns_shape p, columns_shapes ps]

end

theorem columns_of_same_shapes {ρ : Type} {ps : List (Predicate π)} {qs : List (Predicate ρ)}
    (same : ps.map shape = qs.map shape) : columnsOf ps = columnsOf qs := by
  rw [← columns_shapes ps, ← columns_shapes qs, shapes_of_eq_map, shapes_of_eq_map, same]

end Predicate

namespace Predicate

variable {π : Type}

/-- Predicates in brackets. A single one forgets the word that would join it to others. -/
def enclose (logic : Logic) (first : Predicate π) : List (Predicate π) → Predicate π
  | [] => .bracket first
  | second :: rest => .group logic first second rest

theorem text_enclose (logic : Logic) (first : Predicate String) (rest : List (Predicate String)) :
    (enclose logic first rest).text = '(' :: (first.text ++ follow logic rest ++ [')']) := by
  cases rest with
  | nil => rw [enclose, text, follow, List.append_nil]
  | cons second rest => simp only [enclose, text, follow, List.append_assoc]

theorem signs_enclose (logic : Logic) (first : Predicate π) (rest : List (Predicate π)) :
    (enclose logic first rest).signs = first.signs ++ signsOf rest := by
  cases rest with
  | nil => rw [enclose, signs, signsOf, List.append_nil]
  | cons second rest => simp only [enclose, signs, signsOf, List.append_assoc]

theorem columns_enclose (logic : Logic) (first : Predicate π) (rest : List (Predicate π)) :
    (enclose logic first rest).columns = first.columns ++ columnsOf rest := by
  cases rest with
  | nil => rw [enclose, columns, columnsOf, List.append_nil]
  | cons second rest => simp only [enclose, columns, columnsOf, List.append_assoc]

theorem shape_enclose (logic : Logic) (first : Predicate π) (rest : List (Predicate π)) :
    (enclose logic first rest).shape = enclose logic first.shape (rest.map shape) := by
  cases rest with
  | nil => rfl
  | cons second rest => rw [enclose, shape, shapes_of_eq_map, List.map_cons, enclose]

end Predicate

theorem to_list_null_test (column : String) (isNull : Bool) :
    (column ++ if isNull then " IS NULL" else " IS NOT NULL").toList =
      column.toList ++ (Verb.nullTest isNull).word := by
  rw [String.toList_append]
  cases isNull <;> rfl

theorem to_list_member (column : String) (negated : Bool) :
    (column ++ if negated then " NOT IN (" else " IN (").toList =
      column.toList ++ (Verb.member negated).word := by
  rw [String.toList_append]
  cases negated <;> rfl

theorem to_list_compare (column : String) (op : Comparison) :
    (column ++ " " ++ op.sql ++ " ").toList = column.toList ++ (Verb.compare op).word := by
  rw [String.toList_append, String.toList_append, String.toList_append, List.append_assoc,
    List.append_assoc]
  rfl

theorem to_list_logic (logic : Logic) : (" " ++ logic.sql ++ " ").toList = logic.word := by
  rw [String.toList_append, String.toList_append, List.append_assoc]
  rfl

/-- The texts that are placeholders of a dialect. A named placeholder ends at the first closing
brace, and a numbered one has at least one digit. -/
def Dialect.IsSign (dialect : Dialect) (sign : String) : Prop :=
  match dialect with
  | .named => ∃ body : List Char, '\x7d' ∉ body ∧ sign.toList = '#' :: '\x7b' :: (body ++ ['\x7d'])
  | .postgres => ∃ digits : List Char, digits ≠ [] ∧ (∀ c ∈ digits, c.isDigit) ∧
      sign.toList = '$' :: digits
  | .sqlite => ∃ digits : List Char, digits ≠ [] ∧ (∀ c ∈ digits, c.isDigit) ∧
      sign.toList = '?' :: digits
  | .mysql => sign.toList = ['?']

/-- The terminals of a tree belong to their classes: columns are identifiers, and signs are
placeholders of the dialect. -/
structure Predicate.WellFormed (dialect : Dialect) (p : Predicate String) : Prop where
  columns : ∀ column ∈ p.columns, isIdentifier column = true
  signs : ∀ sign ∈ p.signs, dialect.IsSign sign

namespace Predicate

theorem well_formed_bracket_iff (dialect : Dialect) (inner : Predicate String) :
    (bracket inner).WellFormed dialect ↔ inner.WellFormed dialect :=
  ⟨fun formed => ⟨formed.columns, formed.signs⟩, fun formed => ⟨formed.columns, formed.signs⟩⟩

theorem well_formed_group_iff (dialect : Dialect) (logic : Logic)
    (first second : Predicate String) (rest : List (Predicate String)) :
    (group logic first second rest).WellFormed dialect ↔
      first.WellFormed dialect ∧ second.WellFormed dialect ∧
        ∀ p ∈ rest, p.WellFormed dialect := by
  constructor
  · rintro ⟨columns, signs⟩
    simp only [Predicate.columns, Predicate.signs, columns_of_eq_flatMap, signs_of_eq_flatMap,
      List.mem_append, List.mem_flatMap] at columns signs
    refine ⟨⟨fun c member => columns c (.inl (.inl member)),
      fun s member => signs s (.inl (.inl member))⟩,
      ⟨fun c member => columns c (.inl (.inr member)),
        fun s member => signs s (.inl (.inr member))⟩, ?_⟩
    intro p present
    exact ⟨fun c member => columns c (.inr ⟨p, present, member⟩),
      fun s member => signs s (.inr ⟨p, present, member⟩)⟩
  · rintro ⟨firstFormed, secondFormed, restFormed⟩
    constructor
    · simp only [Predicate.columns, columns_of_eq_flatMap, List.mem_append, List.mem_flatMap]
      rintro c ((member | member) | ⟨p, present, member⟩)
      · exact firstFormed.columns c member
      · exact secondFormed.columns c member
      · exact (restFormed p present).columns c member
    · simp only [Predicate.signs, signs_of_eq_flatMap, List.mem_append, List.mem_flatMap]
      rintro s ((member | member) | ⟨p, present, member⟩)
      · exact firstFormed.signs s member
      · exact secondFormed.signs s member
      · exact (restFormed p present).signs s member

end Predicate

/-- The text of a predicate and of more predicates, each behind a word of its own. -/
def chainText (first : Predicate String) (links : List (Logic × Predicate String)) : List Char :=
  first.text ++ links.flatMap fun link => link.1.word ++ link.2.text

theorem chain_text_same_word (first : Predicate String) (logic : Logic)
    (rest : List (Predicate String)) :
    chainText first (rest.map fun p => (logic, p)) = first.text ++ Predicate.follow logic rest := by
  rw [chainText, List.flatMap_map, Predicate.follow_eq_flatMap]

/-- The text is derived as a chain: predicates that stand side by side, joined by any words. -/
structure IsChain (dialect : Dialect) (text : List Char) (first : Predicate String)
    (links : List (Logic × Predicate String)) : Prop where
  derives : chainText first links = text
  first_formed : first.WellFormed dialect
  links_formed : ∀ link ∈ links, link.2.WellFormed dialect

/-- The text is derived as a clause: one or more predicates joined by AND. -/
def IsClause (dialect : Dialect) (text : List Char) : List (Predicate String) → Prop
  | [] => False
  | first :: rest => IsChain dialect text first (rest.map fun p => (.and, p))

end BoundSql
