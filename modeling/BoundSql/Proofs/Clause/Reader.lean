import Mathlib
import BoundSql.Proofs.Clause.Grammar

/-!
A reader for the grammar of WHERE clauses. Each part of it takes the front of a text and gives
back the rest. For every part there are two facts: it reads what was spelled, provided that the
rest does not go on with a digit, and whatever it reads was spelled. This module proves them for
words, columns, signs and lists.
-/

namespace BoundSql.Clause

/-- What follows a number must not begin with a digit. -/
def Stops (rest : List Char) : Prop := ∀ c ∈ rest.head?, c.isDigit = false

def verbs : List Verb :=
  [.nullTest true, .nullTest false, .member false, .member true, .compare .eq, .compare .ne,
    .compare .gt, .compare .ge, .compare .lt, .compare .le, .compare .like]

def readVerb (text : List Char) : Option (Verb × List Char) :=
  verbs.findSome? fun verb => (verb.word.isPrefixOf? text).map fun rest => (verb, rest)

def readLogic (text : List Char) : Option (Logic × List Char) :=
  [Logic.and, Logic.or].findSome? fun logic =>
    (logic.word.isPrefixOf? text).map fun rest => (logic, rest)

def readColumn (text : List Char) : Option (String × List Char) :=
  let column := String.ofList (text.takeWhile isIdentifierPart)
  if isIdentifier column then some (column, text.dropWhile isIdentifierPart) else none

def readNumbered (mark : Char) : List Char → Option (String × List Char)
  | c :: rest =>
      if c = mark ∧ rest.takeWhile Char.isDigit ≠ [] then
        some (String.ofList (mark :: rest.takeWhile Char.isDigit), rest.dropWhile Char.isDigit)
      else none
  | [] => none

def readNamed : List Char → Option (String × List Char)
  | '#' :: '\x7b' :: rest =>
      match rest.dropWhile (· != '\x7d') with
      | _ :: rest' =>
          some (String.ofList ('#' :: '\x7b' :: (rest.takeWhile (· != '\x7d') ++ ['\x7d'])), rest')
      | [] => none
  | _ => none

def readSign (dialect : Dialect) (text : List Char) : Option (String × List Char) :=
  match dialect with
  | .named => readNamed text
  | .postgres => readNumbered '$' text
  | .sqlite => readNumbered '?' text
  | .mysql => (['?'].isPrefixOf? text).map fun rest => ("?", rest)

def readMany {α : Type} (word : List Char) (read : List Char → Option (α × List Char)) :
    Nat → List Char → Option (List α × List Char)
  | 0, text => some ([], text)
  | fuel + 1, text =>
      match word.isPrefixOf? text with
      | none => some ([], text)
      | some text => do
          let (item, text) ← read text
          let (items, rest) ← readMany word read fuel text
          some (item :: items, rest)

def readOperand (dialect : Dialect) (column : String) (verb : Verb) (text : List Char) :
    Option (Predicate String × List Char) :=
  match verb with
  | .nullTest isNull => some (.nullTest column isNull, text)
  | .compare op => do
      let (sign, rest) ← readSign dialect text
      some (.compare column op sign, rest)
  | .member negated => do
      let (first, text) ← readSign dialect text
      let (more, text) ← readMany ", ".toList (readSign dialect) text.length text
      let rest ← [')'].isPrefixOf? text
      some (.member column negated first more, rest)

def readLeaf (dialect : Dialect) (text : List Char) : Option (Predicate String × List Char) := do
  let (column, text) ← readColumn text
  let (verb, text) ← readVerb text
  readOperand dialect column verb text

def readBracketed (read : List Char → Option (Predicate String × List Char))
    (first : Predicate String) (text : List Char) : Option (Predicate String × List Char) :=
  match [')'].isPrefixOf? text with
  | some rest => some (.bracket first, rest)
  | none => do
      let (logic, text) ← readLogic text
      let (second, text) ← read text
      let (more, text) ← readMany logic.word read text.length text
      let rest ← [')'].isPrefixOf? text
      some (.group logic first second more, rest)

def readPredicate (dialect : Dialect) :
    Nat → List Char → Option (Predicate String × List Char)
  | 0, _ => none
  | fuel + 1, '(' :: text => do
      let (first, text) ← readPredicate dialect fuel text
      readBracketed (readPredicate dialect fuel) first text
  | _ + 1, '1' :: '=' :: '1' :: rest => some (.constant true, rest)
  | _ + 1, '1' :: '=' :: '0' :: rest => some (.constant false, rest)
  | _ + 1, text => readLeaf dialect text

/-- The predicates of a clause that is the whole text. Every bracket takes a character, so the
length of the text is fuel enough. -/
def read (dialect : Dialect) (text : List Char) : Option (List (Predicate String)) := do
  let readOne := readPredicate dialect (text.length + 1)
  let (first, rest) ← readOne text
  let (more, rest) ← readMany Logic.and.word readOne rest.length rest
  if rest = [] then some (first :: more) else none

theorem take_while_stops {p : Char → Bool} {front rest : List Char} (all : ∀ c ∈ front, p c)
    (stops : ∀ c ∈ rest.head?, p c = false) :
    (front ++ rest).takeWhile p = front ∧ (front ++ rest).dropWhile p = rest := by
  have restTaken : rest.takeWhile p = [] ∧ rest.dropWhile p = rest := by
    cases rest with
    | nil => exact ⟨rfl, rfl⟩
    | cons c rest =>
        have refused : p c = false := stops c rfl
        simp [refused]
  rw [List.takeWhile_append_of_pos all, List.dropWhile_append_of_pos all, restTaken.1,
    restTaken.2, List.append_nil]
  exact ⟨rfl, rfl⟩

theorem find_word_sound {α : Type} {word : α → List Char} {candidates : List α}
    {text rest : List Char} {a : α}
    (found : (candidates.findSome? fun candidate =>
      ((word candidate).isPrefixOf? text).map fun rest => (candidate, rest)) = some (a, rest)) :
    text = word a ++ rest := by
  obtain ⟨candidate, -, matched⟩ := List.exists_of_findSome?_eq_some found
  simp only [Option.map_eq_some_iff, List.isPrefixOf?_eq_some_iff_append_eq,
    Prod.mk.injEq] at matched
  obtain ⟨tail, spelled, rfl, rfl⟩ := matched
  exact spelled.symm

theorem read_verb_append (verb : Verb) (rest : List Char) :
    readVerb (verb.word ++ rest) = some (verb, rest) := by
  rcases verb with (_ | _) | (_ | _) | (_ | _) <;> rfl

theorem read_verb_sound {text rest : List Char} {verb : Verb}
    (found : readVerb text = some (verb, rest)) : text = verb.word ++ rest :=
  find_word_sound found

theorem read_logic_append (logic : Logic) (rest : List Char) :
    readLogic (logic.word ++ rest) = some (logic, rest) := by
  cases logic <;> rfl

theorem read_logic_sound {text rest : List Char} {logic : Logic}
    (found : readLogic text = some (logic, rest)) : text = logic.word ++ rest :=
  find_word_sound found

theorem identifier_parts {column : String} (identifier : isIdentifier column = true) :
    ∀ c ∈ column.toList, isIdentifierPart c = true := by
  unfold isIdentifier at identifier
  split at identifier
  · simp at identifier
  · rename_i c cs spelled
    rw [spelled]
    simp only [Bool.and_eq_true, List.all_eq_true] at identifier
    intro d member
    rcases List.mem_cons.mp member with rfl | member
    · have start := identifier.1
      simp only [isIdentifierStart, isIdentifierPart, Char.isAlphanum, Bool.or_eq_true] at start ⊢
      rcases start with alpha | underscore
      · exact .inl (.inl alpha)
      · exact .inr underscore
    · exact identifier.2 d member

theorem read_column_append {column : String} {rest : List Char}
    (identifier : isIdentifier column = true)
    (stops : ∀ c ∈ rest.head?, isIdentifierPart c = false) :
    readColumn (column.toList ++ rest) = some (column, rest) := by
  obtain ⟨taken, dropped⟩ := take_while_stops (identifier_parts identifier) stops
  simp only [readColumn, taken, dropped, String.ofList_toList, identifier, if_true]

theorem read_column_sound {text rest : List Char} {column : String}
    (found : readColumn text = some (column, rest)) :
    isIdentifier column = true ∧ text = column.toList ++ rest := by
  simp only [readColumn] at found
  split at found
  · rename_i identifier
    simp only [Option.some.injEq, Prod.mk.injEq] at found
    obtain ⟨rfl, rfl⟩ := found
    exact ⟨identifier, by rw [String.toList_ofList, List.takeWhile_append_dropWhile]⟩
  · contradiction

theorem read_numbered_append {mark : Char} {sign : String} {digits rest : List Char}
    (someDigit : digits ≠ []) (all : ∀ c ∈ digits, c.isDigit)
    (spelled : sign.toList = mark :: digits) (stops : Stops rest) :
    readNumbered mark (sign.toList ++ rest) = some (sign, rest) := by
  obtain ⟨taken, dropped⟩ := take_while_stops all stops
  rw [spelled, List.cons_append, readNumbered, taken, dropped,
    if_pos ⟨rfl, someDigit⟩, ← spelled, String.ofList_toList]

theorem read_numbered_sound {mark : Char} {text rest : List Char} {sign : String}
    (found : readNumbered mark text = some (sign, rest)) :
    (∃ digits : List Char, digits ≠ [] ∧ (∀ c ∈ digits, c.isDigit) ∧
      sign.toList = mark :: digits) ∧ text = sign.toList ++ rest := by
  cases text with
  | nil => simp [readNumbered] at found
  | cons c text =>
      rw [readNumbered] at found
      split at found
      · rename_i announced
        obtain ⟨rfl, someDigit⟩ := announced
        simp only [Option.some.injEq, Prod.mk.injEq] at found
        obtain ⟨rfl, rfl⟩ := found
        rw [String.toList_ofList]
        refine ⟨⟨_, someDigit, fun c member => List.mem_takeWhile_imp member, rfl⟩, ?_⟩
        rw [List.cons_append, List.takeWhile_append_dropWhile]
      · contradiction

theorem read_sign_append {dialect : Dialect} {sign : String} {rest : List Char}
    (isSign : dialect.IsSign sign) (stops : Stops rest) :
    readSign dialect (sign.toList ++ rest) = some (sign, rest) := by
  cases dialect with
  | named =>
      obtain ⟨body, noBrace, spelled⟩ := isSign
      have all : ∀ c ∈ body, (c != '\x7d') = true := by
        intro c member
        simp only [bne_iff_ne, ne_eq]
        rintro rfl
        exact noBrace member
      have closes : ∀ c ∈ (('\x7d' :: rest).head?), (c != '\x7d') = false := by simp
      obtain ⟨taken, dropped⟩ := take_while_stops all closes
      rw [spelled]
      simp only [readSign, List.cons_append, List.append_assoc, List.nil_append, readNamed, taken,
        dropped, Option.some.injEq, Prod.mk.injEq, and_true]
      rw [← spelled, String.ofList_toList]
  | postgres =>
      obtain ⟨digits, someDigit, all, spelled⟩ := isSign
      exact read_numbered_append someDigit all spelled stops
  | sqlite =>
      obtain ⟨digits, someDigit, all, spelled⟩ := isSign
      exact read_numbered_append someDigit all spelled stops
  | mysql =>
      have same : sign = "?" := String.toList_inj.mp isSign
      subst same
      rfl

theorem read_sign_sound {dialect : Dialect} {text rest : List Char} {sign : String}
    (found : readSign dialect text = some (sign, rest)) :
    dialect.IsSign sign ∧ text = sign.toList ++ rest := by
  cases dialect with
  | named =>
      simp only [readSign] at found
      unfold readNamed at found
      split at found
      · rename_i body
        split at found
        · rename_i last rest' dropped
          simp only [Option.some.injEq, Prod.mk.injEq] at found
          obtain ⟨rfl, rfl⟩ := found
          have nonempty : body.dropWhile (· != '\x7d') ≠ [] := by rw [dropped]; simp
          have brace : last = '\x7d' := by
            have head := List.head_dropWhile_not (· != '\x7d') (l := body) nonempty
            simpa [dropped] using head
          refine ⟨⟨body.takeWhile (· != '\x7d'), ?_, String.toList_ofList⟩, ?_⟩
          · intro member
            have kept := List.mem_takeWhile_imp member
            simp at kept
          · rw [String.toList_ofList]
            conv_lhs => rw [← List.takeWhile_append_dropWhile (p := (· != '\x7d')) (l := body)]
            rw [dropped, brace]
            simp
        · contradiction
      · contradiction
  | postgres => exact read_numbered_sound found
  | sqlite => exact read_numbered_sound found
  | mysql =>
      simp only [readSign, Option.map_eq_some_iff, List.isPrefixOf?_eq_some_iff_append_eq,
        Prod.mk.injEq] at found
      obtain ⟨tail, spelled, rfl, rfl⟩ := found
      exact ⟨rfl, spelled.symm⟩

theorem read_many_append {α : Type} {word : List Char} {read : List Char → Option (α × List Char)}
    (spell : α → List Char) (items : List α) (fuel : Nat) (rest : List Char)
    (enough : items.length ≤ fuel) (wordStops : ∀ tail, Stops (word ++ tail)) (stops : Stops rest)
    (ends : word.isPrefixOf? rest = none)
    (reads : ∀ item ∈ items, ∀ tail, Stops tail → read (spell item ++ tail) = some (item, tail)) :
    readMany word read fuel ((items.flatMap fun item => word ++ spell item) ++ rest) =
      some (items, rest) := by
  induction items generalizing fuel with
  | nil =>
      cases fuel with
      | zero => rfl
      | succ fuel => simp [readMany, ends]
  | cons item items ih =>
      cases fuel with
      | zero => simp at enough
      | succ fuel =>
          have tailStops :
              Stops ((items.flatMap fun item => word ++ spell item) ++ rest) := by
            cases items with
            | nil => exact stops
            | cons next items =>
                rw [List.flatMap_cons, List.append_assoc, List.append_assoc]
                exact wordStops _
          have more := ih fuel (by simpa using enough)
            (fun other member => reads other (List.mem_cons_of_mem _ member))
          rw [List.flatMap_cons, List.append_assoc, List.append_assoc, readMany,
            List.isPrefixOf?_eq_some_iff_append_eq.mpr rfl]
          simp only [reads item List.mem_cons_self _ tailStops, more, Option.bind_eq_bind,
            Option.bind_some]

theorem read_many_sound {α : Type} {word : List Char} {read : List Char → Option (α × List Char)}
    (spell : α → List Char) (formed : α → Prop)
    (sound : ∀ text item rest, read text = some (item, rest) →
      formed item ∧ text = spell item ++ rest)
    {fuel : Nat} {text rest : List Char} {items : List α}
    (found : readMany word read fuel text = some (items, rest)) :
    (∀ item ∈ items, formed item) ∧
      text = (items.flatMap fun item => word ++ spell item) ++ rest := by
  induction fuel generalizing text items with
  | zero =>
      simp only [readMany, Option.some.injEq, Prod.mk.injEq] at found
      obtain ⟨rfl, rfl⟩ := found
      simp
  | succ fuel ih =>
      rw [readMany] at found
      split at found
      · simp only [Option.some.injEq, Prod.mk.injEq] at found
        obtain ⟨rfl, rfl⟩ := found
        simp
      · rename_i tail spelled
        simp only [Option.bind_eq_bind, Option.bind_eq_some_iff, Option.some.injEq, Prod.mk.injEq,
          Prod.exists] at found
        obtain ⟨item, afterItem, itemFound, more, afterMore, moreFound, rfl, rfl⟩ := found
        obtain ⟨itemFormed, tailSpelled⟩ := sound _ _ _ itemFound
        obtain ⟨moreFormed, moreSpelled⟩ := ih moreFound
        refine ⟨List.forall_mem_cons.mpr ⟨itemFormed, moreFormed⟩, ?_⟩
        rw [← List.isPrefixOf?_eq_some_iff_append_eq.mp spelled, tailSpelled, moreSpelled]
        simp only [List.flatMap_cons, List.append_assoc]

theorem length_le_flatMap {α : Type} {word : List Char} (nonempty : word ≠ [])
    (spell : α → List Char) (items : List α) :
    items.length ≤ (items.flatMap fun item => word ++ spell item).length := by
  have positive : 0 < word.length := List.length_pos_of_ne_nil nonempty
  induction items with
  | nil => simp
  | cons item items ih =>
      simp only [List.flatMap_cons, List.length_append, List.length_cons]
      omega

theorem length_le_of_mem {α : Type} (word : List Char) (spell : α → List Char) {items : List α}
    {item : α} (member : item ∈ items) :
    (spell item).length ≤ (items.flatMap fun item => word ++ spell item).length := by
  obtain ⟨before, after, rfl⟩ := List.append_of_mem member
  simp only [List.flatMap_append, List.flatMap_cons, List.length_append]
  omega

end BoundSql.Clause
