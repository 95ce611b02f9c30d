import Mathlib
import BoundSql.Text.Blank
import BoundSql.Text.Integer

/-!
Numerals, and the white space around them. A numeral is a sign that may be missing and at least
one decimal digit; it denotes the sum of its digits times their powers of ten. The readers of
settings accept exactly the numerals, the reader of unsigned settings only those without a minus
sign. Trimming finds the part of a text between its first and its last character that is not white
space, so a trimmed text is a numeral exactly if the text is one with white space around it.
-/

namespace BoundSql.Text

inductive Sign where
  | absent
  | plus
  | minus
deriving DecidableEq, Repr, Inhabited

namespace Sign

def chars : Sign → List Char
  | .absent => []
  | .plus => ['+']
  | .minus => ['-']

def apply : Sign → Nat → Int
  | .minus, n => -(n : Int)
  | _, n => n

end Sign

def digitChar (d : Fin 10) : Char := Char.ofNat ('0'.toNat + d.val)

/-- The number that decimal digits denote: the last one counts once, every other one ten times as
much as the one behind it. -/
def denoted (digits : List (Fin 10)) : Nat := Nat.ofDigits 10 (digits.reverse.map Fin.val)

/-- A number as it is written. Any number of its leading digits may be zero. -/
structure Numeral where
  sign : Sign
  digits : List (Fin 10)
  digits_ne_nil : digits ≠ []
deriving DecidableEq, Repr

namespace Numeral

def chars (numeral : Numeral) : List Char := numeral.sign.chars ++ numeral.digits.map digitChar

def value (numeral : Numeral) : Int := numeral.sign.apply (denoted numeral.digits)

end Numeral

theorem digit_char_to_nat (d : Fin 10) : (digitChar d).toNat = 48 + d.val := by
  revert d
  decide

theorem is_digit_digit_char (d : Fin 10) : (digitChar d).isDigit = true := by
  revert d
  decide

theorem not_blank_digit_char (d : Fin 10) : isBlank (digitChar d) = false := by
  revert d
  decide

theorem exists_digit {c : Char} (digit : c.isDigit = true) : ∃ d, digitChar d = c := by
  have range : 48 ≤ c.toNat ∧ c.toNat ≤ 57 := by
    simpa [Char.isDigit, UInt32.le_iff_toNat_le] using digit
  refine ⟨⟨c.toNat - 48, by omega⟩, ?_⟩
  apply Char.toNat_inj.mp
  rw [digit_char_to_nat]
  show 48 + (c.toNat - 48) = c.toNat
  omega

theorem exists_digits {cs : List Char} (all : ∀ c ∈ cs, c.isDigit = true) :
    ∃ digits : List (Fin 10), digits.map digitChar = cs := by
  induction cs with
  | nil => exact ⟨[], rfl⟩
  | cons c cs ih =>
      obtain ⟨first, rest⟩ := List.forall_mem_cons.mp all
      obtain ⟨d, rfl⟩ := exists_digit first
      obtain ⟨digits, rfl⟩ := ih rest
      exact ⟨d :: digits, rfl⟩

theorem foldl_digits (digits : List (Fin 10)) :
    (digits.map digitChar).foldl (fun n c => 10 * n + (c.toNat - 48)) 0 = denoted digits := by
  induction digits using List.reverseRecOn with
  | nil => rfl
  | append_singleton digits d ih =>
      have step : denoted (digits ++ [d]) = d.val + 10 * denoted digits := by
        rw [denoted, List.reverse_append, List.reverse_singleton, List.singleton_append,
          List.map_cons, Nat.ofDigits_cons, denoted]
      rw [List.map_append, List.foldl_append, ih, step, List.map_singleton, List.foldl_cons,
        List.foldl_nil, digit_char_to_nat]
      omega

theorem digits_eq_some_iff (cs : List Char) (n : Nat) :
    digits? cs = some n ↔
      ∃ digits : List (Fin 10), digits ≠ [] ∧ cs = digits.map digitChar ∧ denoted digits = n := by
  constructor
  · intro read
    unfold digits? at read
    split at read
    · cases read
    · rename_i some
      split at read
      · rename_i all
        obtain ⟨digits, rfl⟩ := exists_digits (List.all_eq_true.mp all)
        rw [foldl_digits] at read
        refine ⟨digits, ?_, rfl, Option.some.inj read⟩
        rintro rfl
        exact some rfl
      · cases read
  · rintro ⟨digits, some, rfl, rfl⟩
    obtain ⟨d, rest, rfl⟩ := List.exists_cons_of_ne_nil some
    have all : ((d :: rest).map digitChar).all Char.isDigit = true := by
      rw [List.all_eq_true]
      intro c member
      obtain ⟨digit, -, rfl⟩ := List.mem_map.mp member
      exact is_digit_digit_char digit
    rw [← foldl_digits]
    exact if_pos all

theorem digit_char_ne_sign (d : Fin 10) : digitChar d ≠ '+' ∧ digitChar d ≠ '-' := by
  revert d
  decide

/-- The readers accept exactly the numerals. -/
theorem integer_eq_some_iff (s : String) (n : Int) :
    integer? s = some n ↔ ∃ numeral : Numeral, s.toList = numeral.chars ∧ numeral.value = n := by
  constructor
  · intro read
    unfold integer? at read
    split at read
    · rename_i cs signed
      obtain ⟨m, digitsRead, rfl⟩ := Option.map_eq_some_iff.mp read
      obtain ⟨digits, some, rfl, same⟩ := (digits_eq_some_iff _ _).mp digitsRead
      exact ⟨⟨.plus, digits, some⟩, signed, congrArg Int.ofNat same⟩
    · rename_i cs signed
      obtain ⟨m, digitsRead, rfl⟩ := Option.map_eq_some_iff.mp read
      obtain ⟨digits, some, rfl, same⟩ := (digits_eq_some_iff _ _).mp digitsRead
      exact ⟨⟨.minus, digits, some⟩, signed, congrArg (fun m : Nat => -(m : Int)) same⟩
    · obtain ⟨m, digitsRead, rfl⟩ := Option.map_eq_some_iff.mp read
      obtain ⟨digits, some, bare, same⟩ := (digits_eq_some_iff _ _).mp digitsRead
      exact ⟨⟨.absent, digits, some⟩, bare, congrArg Int.ofNat same⟩
  · rintro ⟨⟨sign, digits, some⟩, written, rfl⟩
    have read := (digits_eq_some_iff _ _).mpr ⟨digits, some, rfl, rfl⟩
    obtain ⟨d, rest, rfl⟩ := List.exists_cons_of_ne_nil some
    obtain ⟨notPlus, notMinus⟩ := digit_char_ne_sign d
    unfold integer?
    rw [written]
    cases sign with
    | absent =>
        simp only [Numeral.chars, Sign.chars, List.nil_append, List.map_cons] at read ⊢
        split
        · rename_i same
          exact absurd (List.cons.inj same).1 notPlus
        · rename_i same
          exact absurd (List.cons.inj same).1 notMinus
        · rw [read]
          rfl
    | plus => exact congrArg (Option.map Int.ofNat) read
    | minus => exact congrArg (Option.map fun m => -(Int.ofNat m)) read

theorem natural_eq_some_iff (s : String) (n : Nat) :
    natural? s = some n ↔
      ∃ numeral : Numeral, numeral.sign ≠ .minus ∧ s.toList = numeral.chars ∧
        numeral.value = n := by
  constructor
  · intro read
    unfold natural? at read
    split at read
    · rename_i cs signed
      obtain ⟨digits, some, rfl, same⟩ := (digits_eq_some_iff _ _).mp read
      exact ⟨⟨.plus, digits, some⟩, nofun, signed, congrArg Int.ofNat same⟩
    · obtain ⟨digits, some, bare, same⟩ := (digits_eq_some_iff _ _).mp read
      exact ⟨⟨.absent, digits, some⟩, nofun, bare, congrArg Int.ofNat same⟩
  · rintro ⟨⟨sign, digits, some⟩, unsigned, written, same⟩
    obtain ⟨d, rest, rfl⟩ := List.exists_cons_of_ne_nil some
    unfold natural?
    rw [written]
    cases sign with
    | absent =>
        have read := (digits_eq_some_iff _ n).mpr ⟨d :: rest, some, rfl, Int.ofNat.inj same⟩
        simp only [Numeral.chars, Sign.chars, List.nil_append, List.map_cons] at read ⊢
        split
        · rename_i signed
          exact absurd (List.cons.inj signed).1 (digit_char_ne_sign d).1
        · exact read
    | plus => exact (digits_eq_some_iff _ n).mpr ⟨d :: rest, some, rfl, Int.ofNat.inj same⟩
    | minus => exact absurd rfl unsigned

def Bare (cs : List Char) : Prop :=
  (∀ c ∈ cs.head?, isBlank c = false) ∧ ∀ c ∈ cs.getLast?, isBlank c = false

/-- The text is the list with nothing but white space around it. -/
def Wraps (s : String) (inner : List Char) : Prop :=
  ∃ before after, s.toList = before ++ (inner ++ after) ∧
    (∀ c ∈ before, isBlank c = true) ∧ ∀ c ∈ after, isBlank c = true

theorem blank_iff (s : String) : blank s = true ↔ ∀ c ∈ s.toList, isBlank c = true := by
  rw [blank, List.all_eq_true]

theorem not_blank_iff (s : String) : blank s = false ↔ ∃ c ∈ s.toList, isBlank c = false := by
  rw [← Bool.not_eq_true, blank_iff]
  simp

theorem drop_blanks {before rest : List Char} (blankBefore : ∀ c ∈ before, isBlank c = true)
    (starts : ∀ c ∈ rest.head?, isBlank c = false) :
    (before ++ rest).dropWhile isBlank = rest := by
  rw [List.dropWhile_append_of_pos blankBefore]
  cases rest with
  | nil => rfl
  | cons c rest => exact List.dropWhile_cons_of_neg (by simp [starts c rfl])

theorem trim_list_eq {before inner after : List Char} (bare : Bare inner)
    (blankBefore : ∀ c ∈ before, isBlank c = true) (blankAfter : ∀ c ∈ after, isBlank c = true) :
    trimList (before ++ (inner ++ after)) = inner := by
  obtain ⟨starts, ends⟩ := bare
  cases inner with
  | nil =>
      have all : ∀ c ∈ before ++ after, isBlank c = true :=
        List.forall_mem_append.mpr ⟨blankBefore, blankAfter⟩
      rw [trimList, List.nil_append, List.dropWhile_eq_nil_iff.mpr all]
      rfl
  | cons c inner =>
      have front : (before ++ (c :: inner ++ after)).dropWhile isBlank = c :: inner ++ after :=
        drop_blanks blankBefore starts
      have blankReverse : ∀ c ∈ after.reverse, isBlank c = true := fun c member =>
        blankAfter c (List.mem_reverse.mp member)
      have startsReverse : ∀ d ∈ (c :: inner).reverse.head?, isBlank d = false := by
        rwa [List.head?_reverse]
      rw [trimList, front, List.reverse_append, drop_blanks blankReverse startsReverse,
        List.reverse_reverse]

theorem drop_eq_trim_list (cs : List Char) :
    ∃ after, cs.dropWhile isBlank = trimList cs ++ after ∧ ∀ c ∈ after, isBlank c = true := by
  have split := List.takeWhile_append_dropWhile (p := isBlank) (l := (cs.dropWhile isBlank).reverse)
  refine ⟨((cs.dropWhile isBlank).reverse.takeWhile isBlank).reverse, ?_, ?_⟩
  · rw [trimList, ← List.reverse_append, split, List.reverse_reverse]
  · intro c member
    exact List.mem_takeWhile_imp (List.mem_reverse.mp member)

theorem not_blank_of_head_drop {cs : List Char} {c : Char}
    (first : (cs.dropWhile isBlank).head? = some c) : isBlank c = false := by
  have stopped := List.head?_dropWhile_not isBlank cs
  rwa [first] at stopped

theorem bare_trim_list (cs : List Char) : Bare (trimList cs) := by
  constructor
  · intro c first
    obtain ⟨after, dropped, -⟩ := drop_eq_trim_list cs
    have firstLeft : (cs.dropWhile isBlank).head? = some c := by
      rw [dropped, List.head?_append, first, Option.some_or]
    exact not_blank_of_head_drop firstLeft
  · intro c last
    rw [trimList, List.getLast?_reverse] at last
    exact not_blank_of_head_drop last

theorem wraps_trim (s : String) : Wraps s (trim s).toList := by
  obtain ⟨after, dropped, blankAfter⟩ := drop_eq_trim_list s.toList
  refine ⟨s.toList.takeWhile isBlank, after, ?_, fun c => List.mem_takeWhile_imp, blankAfter⟩
  rw [trim, String.toList_ofList, ← dropped, List.takeWhile_append_dropWhile]

/-- Trimming finds what has no white space at its ends and nothing but white space around it. -/
theorem wraps_iff_trim (s : String) {inner : List Char} (bare : Bare inner) :
    Wraps s inner ↔ (trim s).toList = inner := by
  constructor
  · rintro ⟨before, after, whole, blankBefore, blankAfter⟩
    rw [trim, String.toList_ofList, whole, trim_list_eq bare blankBefore blankAfter]
  · rintro rfl
    exact wraps_trim s

theorem trim_trim (s : String) : trim (trim s) = trim s := by
  have bare : Bare (trim s).toList := by
    rw [trim, String.toList_ofList]
    exact bare_trim_list s.toList
  have whole : Wraps (trim s) (trim s).toList := ⟨[], [], by simp, nofun, nofun⟩
  exact String.toList_inj.mp ((wraps_iff_trim (trim s) bare).mp whole)

theorem blank_trim (s : String) : blank (trim s) = blank s := by
  obtain ⟨before, after, whole, blankBefore, blankAfter⟩ := wraps_trim s
  rw [Bool.eq_iff_iff, blank_iff, blank_iff, whole, List.forall_mem_append, List.forall_mem_append]
  exact ⟨fun inner => ⟨blankBefore, inner, blankAfter⟩, fun all => all.2.1⟩

namespace Numeral

def StandsIn (numeral : Numeral) (s : String) : Prop := Wraps s numeral.chars

theorem not_blank_of_mem_chars {numeral : Numeral} {c : Char} (member : c ∈ numeral.chars) :
    isBlank c = false := by
  rw [chars, List.mem_append] at member
  obtain inSign | inDigits := member
  · cases sign : numeral.sign with
    | absent => rw [sign] at inSign; cases inSign
    | plus => rw [sign] at inSign; rw [List.mem_singleton.mp inSign]; decide
    | minus => rw [sign] at inSign; rw [List.mem_singleton.mp inSign]; decide
  · obtain ⟨d, -, rfl⟩ := List.mem_map.mp inDigits
    exact not_blank_digit_char d

theorem stands_in_iff (numeral : Numeral) (s : String) :
    numeral.StandsIn s ↔ (trim s).toList = numeral.chars := by
  apply wraps_iff_trim
  constructor
  · intro c first
    exact not_blank_of_mem_chars (List.mem_of_mem_head? first)
  · intro c last
    exact not_blank_of_mem_chars (List.mem_of_mem_getLast? last)

theorem stands_in_trim_iff (numeral : Numeral) (s : String) :
    numeral.StandsIn (trim s) ↔ numeral.StandsIn s := by
  rw [stands_in_iff, stands_in_iff, trim_trim]

end Numeral

theorem integer_trim_iff (s : String) (n : Int) :
    integer? (trim s) = some n ↔
      ∃ numeral : Numeral, numeral.StandsIn s ∧ numeral.value = n := by
  simp only [integer_eq_some_iff, Numeral.stands_in_iff]

theorem natural_trim_iff (s : String) (n : Nat) :
    natural? (trim s) = some n ↔
      ∃ numeral : Numeral, numeral.sign ≠ .minus ∧ numeral.StandsIn s ∧ numeral.value = n := by
  simp only [natural_eq_some_iff, Numeral.stands_in_iff]

end BoundSql.Text
