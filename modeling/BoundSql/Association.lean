/-!
Lists of entries under names. A name is looked up at its first entry. A value is bound to a name
in one of two ways, which differ in the place of a new entry: at the end, or in the order of the
names by code point. Either way a look-up sees the new value and no other change.
-/

namespace BoundSql.Association

variable {α : Type}

def put (name : String) (a : α) : List (String × α) → List (String × α)
  | [] => [(name, a)]
  | (other, b) :: rest =>
      if other = name then (name, a) :: rest else (other, b) :: put name a rest

/-- Binds a name among entries that are in order, which they stay. -/
def insert (name : String) (a : α) : List (String × α) → List (String × α)
  | [] => [(name, a)]
  | (other, b) :: rest =>
      if name = other then (name, a) :: rest
      else if name < other then (name, a) :: (other, b) :: rest
      else (other, b) :: insert name a rest

theorem lookup_cons (name other : String) (a : α) (rest : List (String × α)) :
    ((name, a) :: rest).lookup other = if other = name then some a else rest.lookup other := by
  by_cases same : other = name
  · rw [same, List.lookup_cons_self, if_pos rfl]
  · have differ : (other == name) = false := beq_false_of_ne same
    rw [if_neg same, List.lookup_cons, differ]

theorem lookup_put (name other : String) (a : α) (entries : List (String × α)) :
    (put name a entries).lookup other =
      if other = name then some a else entries.lookup other := by
  induction entries with
  | nil => exact lookup_cons name other a []
  | cons entry rest ih =>
    obtain ⟨present, b⟩ := entry
    rw [put]
    split
    · rename_i same
      rw [lookup_cons, lookup_cons, same]
      split <;> rfl
    · rename_i differ
      rw [lookup_cons, lookup_cons, ih]
      by_cases here : other = present
      · have elsewhere : ¬other = name := fun e => differ (here ▸ e)
        rw [if_pos here, if_neg elsewhere, if_pos here]
      · rw [if_neg here, if_neg here]

theorem lookup_insert (name other : String) (a : α) (entries : List (String × α)) :
    (insert name a entries).lookup other =
      if other = name then some a else entries.lookup other := by
  induction entries with
  | nil => exact lookup_cons name other a []
  | cons entry rest ih =>
    obtain ⟨present, b⟩ := entry
    rw [insert]
    split
    · rename_i same
      rw [lookup_cons, lookup_cons, same]
      split <;> rfl
    · rename_i differ
      split
      · exact lookup_cons ..
      · rw [lookup_cons, lookup_cons, ih]
        by_cases here : other = present
        · have elsewhere : ¬other = name := fun e => differ (e ▸ here)
          rw [if_pos here, if_neg elsewhere, if_pos here]
        · rw [if_neg here, if_neg here]

end BoundSql.Association
