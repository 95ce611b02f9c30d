import Mathlib
import BoundSql.Proofs.Command.UpdateTree

/-!
Rows of a list. Each row lies at its position, so whatever is made of the rows one by one has its
placeholders under the positions, and the values of the rows come in the order of the list.
-/

namespace BoundSql

namespace Row

variable {α β : Type} {rows : List Row} {each : Path → Row → α}

theorem map_listed {h : α → β} {g : Row → β} (agree : ∀ base row, h (each base row) = g row) :
    (listed rows each).map h = rows.map g := by
  have alike : (h ∘ fun item : Row × Nat => each [.key "list", .index item.2] item.1) =
      g ∘ Prod.fst := funext fun item => agree _ item.1
  rw [listed, List.map_map, alike, ← List.map_map, List.zipIdx_map_fst]

theorem find_listed {p : α → Bool} {q : Row → Bool} {value : α → β} {read : Row → β}
    (agree : ∀ base row, p (each base row) = q row)
    (values : ∀ base row, value (each base row) = read row) :
    ((listed rows each).find? p).map value = (rows.find? q).map read := by
  have alike : (p ∘ fun item : Row × Nat => each [.key "list", .index item.2] item.1) =
      q ∘ Prod.fst := funext fun item => agree _ item.1
  have found : rows.find? q = ((rows.zipIdx.find? (q ∘ Prod.fst)).map Prod.fst) := by
    rw [← List.find?_map, List.zipIdx_map_fst]
  rw [listed, List.find?_map, alike, found, Option.map_map, Option.map_map]
  congr 1
  exact funext fun item => values _ item.1

theorem getElem_listed {i : Nat} {row : Row} (present : rows[i]? = some row) :
    (listed rows each)[i]? = some (each [.key "list", .index i] row) := by
  rw [listed, List.getElem?_map, List.getElem?_zipIdx, present, Option.map_some, Option.map_some,
    Nat.zero_add]

theorem mem_listed {x : α} (member : x ∈ listed rows each) :
    ∃ i row, rows[i]? = some row ∧ x = each [.key "list", .index i] row := by
  obtain ⟨⟨row, i⟩, present, rfl⟩ := List.mem_map.mp member
  exact ⟨i, row, List.mem_zipIdx_iff_getElem?.mp present, rfl⟩

end Row

def Row.listSlots (rows : List Row) (fields : List Field) : List Slot :=
  (listed rows fun base row => fields.map (row.slot base)).flatten

/-- Lists of one length, put together: those before a list have taken up its distance. -/
theorem getElem_flatten_of_width {α : Type} {tuples : List (List α)} {width : Nat}
    (widths : ∀ tuple ∈ tuples, tuple.length = width) {i : Nat} {tuple : List α}
    (present : tuples[i]? = some tuple) {j : Nat} (inside : j < width) :
    tuples.flatten[i * width + j]? = tuple[j]? := by
  induction tuples generalizing i with
  | nil => cases present
  | cons first rest ih =>
      obtain ⟨here, later⟩ := List.forall_mem_cons.mp widths
      rw [List.flatten_cons]
      cases i with
      | zero =>
          cases present
          rw [Nat.zero_mul, Nat.zero_add, List.getElem?_append_left (by rwa [here])]
      | succ i =>
          have behind : (i + 1) * width + j - first.length = i * width + j := by
            rw [here, Nat.succ_mul]
            omega
          have beyond : first.length ≤ (i + 1) * width + j := by
            rw [here, Nat.succ_mul]
            omega
          rw [List.getElem?_append_right beyond, behind]
          exact ih later present

theorem Row.getElem_list_slots {rows : List Row} {fields : List Field} {i j : Nat} {row : Row}
    {f : Field} (present : rows[i]? = some row) (chosen : fields[j]? = some f) :
    (listSlots rows fields)[i * fields.length + j]? =
      some (row.slot [.key "list", .index i] f) := by
  have widths : ∀ tuple ∈ Row.listed rows fun base row => fields.map (row.slot base),
      tuple.length = fields.length := by
    intro tuple member
    obtain ⟨_, other, -, rfl⟩ := mem_listed member
    exact List.length_map ..
  have inside : j < fields.length := (List.getElem?_eq_some_iff.mp chosen).1
  rw [listSlots, getElem_flatten_of_width widths (getElem_listed present) inside,
    List.getElem?_map, chosen]
  rfl

theorem Row.values_of_list_slots (rows : List Row) (fields : List Field) :
    (Row.listSlots rows fields).map Prod.snd =
      rows.flatMap fun row => fields.map fun f => row.value f.name := by
  have each (base : Path) (row : Row) : (fields.map (row.slot base)).map Prod.snd =
      fields.map fun f => row.value f.name := by
    rw [List.map_map]
    rfl
  rw [Row.listSlots, List.map_flatten, Row.map_listed each, List.flatMap_def]

theorem Mapping.finds_list_slots {command : Command} {rows : List Row} {fields : List Field}
    (root : command.root = .named [("list", Row.resolveAll rows)])
    (covers : ∀ row ∈ rows, ∀ f ∈ fields, row.value? f.name ≠ none) :
    command.Finds (Row.listSlots rows fields) := by
  intro slot member
  obtain ⟨listed, inList, inside⟩ := List.mem_flatten.mp member
  obtain ⟨i, row, present, rfl⟩ := Row.mem_listed inList
  refine finds_row ?_ (covers row (List.mem_of_getElem? present)) slot inside
  intro name
  rw [root]
  show (rows[i]?).bind _ = _
  rw [present]
  rfl

end BoundSql
