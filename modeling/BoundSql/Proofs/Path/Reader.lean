import Mathlib
import BoundSql.Draft
import BoundSql.Proofs.Clause.Reader

/-!
A reader for the texts of paths. A segment is told by the mark it begins with, a point or a bracket,
and a key ends where the next mark stands, because no mark stands within it; only a key in front is
written without its point. A position is written with the digits of its number, and the reader takes
no other digits. So the text of a path is read as that path and as no other, and a placeholder that
shows the text of its path can be looked up by what it shows.
-/

namespace BoundSql

def isKeyPart (c : Char) : Bool := c != '.' && c != '['

/-- The segment is an index, or a key that is not empty and holds no mark. -/
def Segment.Legible : Segment → Prop
  | .key name => name ≠ "" ∧ '.' ∉ name.toList ∧ '[' ∉ name.toList
  | .index _ => True

def Path.Legible (path : Path) : Prop := ∀ segment ∈ path, segment.Legible

namespace Path

def readSegment : List Char → Option (Segment × List Char)
  | '.' :: text =>
      if text.takeWhile isKeyPart = [] then none
      else some (.key (String.ofList (text.takeWhile isKeyPart)), text.dropWhile isKeyPart)
  | '[' :: text =>
      let i := Nat.ofDigitChars 10 (text.takeWhile Char.isDigit) 0
      match text.dropWhile Char.isDigit with
      | ']' :: rest =>
          if Nat.toDigits 10 i = text.takeWhile Char.isDigit then some (.index i, rest) else none
      | _ => none
  | _ => none

theorem to_list_key (name : String) : (segmentText (.key name)).toList = '.' :: name.toList := by
  rw [segmentText, String.toList_append]
  rfl

theorem to_list_index (i : Nat) :
    (segmentText (.index i)).toList = '[' :: (Nat.toDigits 10 i ++ [']']) := by
  have digits : (toString i).toList = Nat.toDigits 10 i := Nat.toList_repr
  rw [segmentText, String.toList_append, String.toList_append, digits]
  rfl

theorem is_key_part_iff (name : String) :
    (∀ c ∈ name.toList, isKeyPart c = true) ↔ '.' ∉ name.toList ∧ '[' ∉ name.toList := by
  simp only [isKeyPart, Bool.and_eq_true, bne_iff_ne]
  constructor
  · intro all
    exact ⟨fun point => (all _ point).1 rfl, fun bracket => (all _ bracket).2 rfl⟩
  · rintro ⟨noPoint, noBracket⟩ c member
    exact ⟨fun same => noPoint (same ▸ member), fun same => noBracket (same ▸ member)⟩

theorem read_segment_append {segment : Segment} {rest : List Char} (legible : segment.Legible)
    (stops : ∀ c ∈ rest.head?, isKeyPart c = false) :
    readSegment ((segmentText segment).toList ++ rest) = some (segment, rest) := by
  cases segment with
  | key name =>
      obtain ⟨nonempty, noMark⟩ := legible
      obtain ⟨taken, dropped⟩ :=
        Clause.take_while_stops ((is_key_part_iff name).mpr noMark) stops
      have notNil : name.toList ≠ [] := fun empty => nonempty (String.toList_eq_nil_iff.mp empty)
      rw [to_list_key, List.cons_append, readSegment, taken, dropped, if_neg notNil,
        String.ofList_toList]
  | index i =>
      have digits : ∀ c ∈ Nat.toDigits 10 i, c.isDigit = true := fun c member =>
        Nat.isDigit_of_mem_toDigits (by decide) (by decide) member
      have bracketStops : ∀ c ∈ (']' :: rest).head?, c.isDigit = false := by
        intro c first
        cases first
        decide
      obtain ⟨taken, dropped⟩ := Clause.take_while_stops digits bracketStops
      have number : Nat.ofDigitChars 10 (Nat.toDigits 10 i) 0 = i :=
        Nat.ofDigitChars_toDigits (by decide) (by decide)
      rw [to_list_index, List.cons_append, List.append_assoc, List.singleton_append, readSegment,
        taken, dropped]
      simp only [number, if_true]

theorem read_segment_sound {text rest : List Char} {segment : Segment}
    (read : readSegment text = some (segment, rest)) :
    segment.Legible ∧ text = (segmentText segment).toList ++ rest := by
  unfold readSegment at read
  split at read
  · rename_i text
    split at read
    · cases read
    · rename_i nonempty
      obtain ⟨rfl, rfl⟩ := Prod.mk.inj (Option.some.inj read)
      have parts : ∀ c ∈ (String.ofList (text.takeWhile isKeyPart)).toList,
          isKeyPart c = true := by
        intro c member
        rw [String.toList_ofList] at member
        exact List.mem_takeWhile_imp member
      refine ⟨⟨?_, (is_key_part_iff _).mp parts⟩, ?_⟩
      · intro empty
        exact nonempty (String.ofList_eq_empty_iff.mp empty)
      · rw [to_list_key, String.toList_ofList, List.cons_append, List.takeWhile_append_dropWhile]
  · rename_i text
    dsimp only at read
    split at read
    · rename_i after closed
      split at read
      · rename_i canonical
        obtain ⟨rfl, rfl⟩ := Prod.mk.inj (Option.some.inj read)
        refine ⟨trivial, ?_⟩
        rw [to_list_index, canonical, List.cons_append, List.append_assoc, List.singleton_append,
          ← closed, List.takeWhile_append_dropWhile]
      · cases read
    · cases read
  · cases read

/-- The segments of a text in which every segment has its mark. -/
def readMarked : List Char → Option Path
  | [] => some []
  | c :: text =>
      match _h : readSegment (c :: text) with
      | none => none
      | some (segment, rest) => (readMarked rest).map (segment :: ·)
termination_by text => text.length
decreasing_by
  obtain ⟨-, whole⟩ := read_segment_sound _h
  have marked : 0 < (segmentText segment).toList.length := by
    cases segment with
    | key name => simp [to_list_key]
    | index i => simp [to_list_index]
  rw [whole, List.length_append]
  omega

/-- The characters of a path in which the first key has its mark as well. -/
def marked (path : Path) : List Char := path.flatMap fun segment => (segmentText segment).toList

theorem marked_stops (path : Path) : ∀ c ∈ path.marked.head?, isKeyPart c = false := by
  cases path with
  | nil => exact nofun
  | cons segment rest =>
      rw [marked, List.flatMap_cons]
      intro c first
      cases segment with
      | key name =>
          rw [to_list_key] at first
          cases first
          decide
      | index i =>
          rw [to_list_index] at first
          cases first
          decide

theorem read_marked_sound {text : List Char} {path : Path} (read : readMarked text = some path) :
    path.Legible ∧ text = path.marked := by
  fun_induction readMarked text generalizing path with
  | case1 =>
      cases read
      exact ⟨nofun, rfl⟩
  | case2 => cases read
  | case3 c text segment rest taken ih =>
      obtain ⟨segments, later, rfl⟩ := Option.map_eq_some_iff.mp read
      obtain ⟨legible, whole⟩ := read_segment_sound taken
      obtain ⟨restLegible, restWhole⟩ := ih later
      refine ⟨List.forall_mem_cons.mpr ⟨legible, restLegible⟩, ?_⟩
      rw [whole, restWhole, marked, marked, List.flatMap_cons]

theorem read_marked_cons {text rest : List Char} {segment : Segment}
    (taken : readSegment text = some (segment, rest)) :
    readMarked text = (readMarked rest).map (segment :: ·) := by
  cases text with
  | nil => cases taken
  | cons c text =>
      rw [readMarked]
      split
      · rename_i missing
        rw [taken] at missing
        cases missing
      · rename_i other after found
        rw [taken] at found
        cases found
        rfl

theorem read_marked_append {path : Path} (legible : path.Legible) :
    readMarked path.marked = some path := by
  induction path with
  | nil => rw [marked, List.flatMap_nil, readMarked]
  | cons segment rest ih =>
      obtain ⟨first, later⟩ := List.forall_mem_cons.mp legible
      have taken := read_segment_append first (marked_stops rest)
      have whole : marked (segment :: rest) = (segmentText segment).toList ++ marked rest :=
        List.flatMap_cons
      rw [whole, read_marked_cons taken, ih later, Option.map_some]

/-- The path of a text: only a key in front stands without its point. -/
def read (text : String) : Option Path :=
  match text.toList with
  | [] => some []
  | c :: rest =>
      if c = '[' then readMarked (c :: rest)
      else if c = '.' then none
      else readMarked ('.' :: c :: rest)

theorem to_list_text_key (name : String) (rest : Path) :
    '.' :: (text (.key name :: rest)).toList = marked (.key name :: rest) := by
  rw [text, String.toList_append, String.toList_join, List.flatMap_map, marked, List.flatMap_cons,
    to_list_key]
  rfl

theorem to_list_text_index (i : Nat) (rest : Path) :
    (text (.index i :: rest)).toList = marked (.index i :: rest) := by
  rw [text, String.toList_join, List.flatMap_map]
  · rfl
  · exact nofun
  · exact nofun

theorem read_of_legible {path : Path} (legible : path.Legible) : read path.text = some path := by
  have segments := read_marked_append legible
  cases path with
  | nil => rfl
  | cons segment rest =>
      cases segment with
      | key name =>
          obtain ⟨⟨nonempty, noMark⟩, -⟩ := List.forall_mem_cons.mp legible
          have notNil : name.toList ≠ [] := fun empty =>
            nonempty (String.toList_eq_nil_iff.mp empty)
          obtain ⟨c, cs, spelled⟩ := List.exists_cons_of_ne_nil notNil
          have front : (text (.key name :: rest)).toList =
              c :: (cs ++ (String.join (rest.map segmentText)).toList) := by
            rw [text, String.toList_append, spelled, List.cons_append]
          have part : isKeyPart c = true :=
            (is_key_part_iff name).mpr noMark c (by rw [spelled]; exact List.mem_cons_self)
          simp only [isKeyPart, Bool.and_eq_true, bne_iff_ne] at part
          rw [← to_list_text_key, front] at segments
          simp only [read, front, if_neg part.1, if_neg part.2, segments]
      | index i =>
          have front : (text (.index i :: rest)).toList =
              '[' :: (Nat.toDigits 10 i ++ [']'] ++ marked rest) := by
            rw [to_list_text_index, marked, List.flatMap_cons, to_list_index, List.cons_append]
            rfl
          rw [← to_list_text_index, front] at segments
          simp only [read, front, if_true, segments]

theorem read_sound {text : String} {path : Path} (found : read text = some path) :
    path.Legible ∧ path.text = text := by
  unfold read at found
  split at found
  · rename_i empty
    cases found
    exact ⟨nofun, (String.toList_eq_nil_iff.mp empty).symm⟩
  · rename_i c rest spelled
    split at found
    · rename_i bracket
      obtain ⟨legible, whole⟩ := read_marked_sound found
      refine ⟨legible, String.toList_inj.mp ?_⟩
      rw [spelled, whole]
      cases path with
      | nil => cases whole
      | cons segment segments =>
          cases segment with
          | key name =>
              rw [← to_list_text_key, bracket] at whole
              exact absurd (List.cons.inj whole).1 (by decide)
          | index i => exact to_list_text_index i segments
    · split at found
      · cases found
      · obtain ⟨legible, whole⟩ := read_marked_sound found
        refine ⟨legible, String.toList_inj.mp ?_⟩
        cases path with
        | nil => cases whole
        | cons segment segments =>
            cases segment with
            | key name =>
                rw [← to_list_text_key] at whole
                rw [spelled, ← (List.cons.inj whole).2]
            | index i =>
                rw [marked, List.flatMap_cons, to_list_index] at whole
                exact absurd (List.cons.inj whole).1 (by decide)

/-- The reader gives a path exactly for the text of a path with legible segments. -/
theorem read_eq_some_iff (text : String) (path : Path) :
    read text = some path ↔ path.Legible ∧ path.text = text := by
  constructor
  · exact read_sound
  · rintro ⟨legible, rfl⟩
    exact read_of_legible legible

theorem text_injective {path other : Path} (legible : path.Legible) (otherLegible : other.Legible)
    (same : path.text = other.text) : path = other := by
  have first := read_of_legible legible
  rw [same, read_of_legible otherLegible] at first
  exact (Option.some.inj first).symm

end Path

def Dialect.shown? (sign : String) : Option Path :=
  match sign.toList with
  | '#' :: '\x7b' :: text =>
      if text.getLast? = some '\x7d' then Path.read (String.ofList text.dropLast) else none
  | _ => none

theorem Dialect.shown_placeholder (number : Nat) {path : Path} (legible : path.Legible) :
    shown? (Dialect.named.placeholder number path) = some path := by
  have spelled : (Dialect.named.placeholder number path).toList =
      '#' :: '\x7b' :: (path.text.toList ++ ['\x7d']) := by
    rw [placeholder, String.toList_append, String.toList_append]
    rfl
  simp only [shown?, spelled, List.getLast?_concat, if_true, List.dropLast_concat,
    String.ofList_toList]
  exact Path.read_of_legible legible

end BoundSql
