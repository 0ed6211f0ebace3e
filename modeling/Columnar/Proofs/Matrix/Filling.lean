import Columnar.Matrix

/-!
Filling a matrix. Its columns are written one after the other into an array of zeros, the words of each a
full row apart. No word is overwritten (`fill_before`), and each is found in its row and its column
(`fill_own`). So the array ends up as the rows of the table one after the other (`entries_eq_interleave`).
-/
namespace Columnar.Matrix

/-- The first `count` elements of each list in turn: row after row of the table whose columns the
lists are. -/
def interleave {α : Type} : Nat → List (List α) → List α
  | 0, _ => []
  | count + 1, lists => lists.filterMap (·.head?) ++ interleave count (lists.map (·.tail))

section Interleave

variable {α : Type}

private theorem getElem?_heads {lists : List (List α)} (filled : ∀ list ∈ lists, list ≠ []) (col : Nat) :
    (lists.filterMap (·.head?))[col]? = lists[col]?.bind (·.head?) := by
  induction lists generalizing col with
  | nil => rfl
  | cons list rest ih =>
    obtain ⟨own, others⟩ := List.forall_mem_cons.mp filled
    obtain ⟨head, tail, rfl⟩ := List.exists_cons_of_ne_nil own
    cases col with
    | zero => rfl
    | succ col => simpa using ih others col

private theorem length_heads {lists : List (List α)} (filled : ∀ list ∈ lists, list ≠ []) :
    (lists.filterMap (·.head?)).length = lists.length := by
  rw [List.filterMap_length_eq_length]
  intro list member
  simpa using filled list member

section Step

variable {count : Nat} {lists : List (List α)} (even : ∀ list ∈ lists, list.length = count + 1)

include even

private theorem ne_nil_of_even : ∀ list ∈ lists, list ≠ [] := by
  rintro list member rfl
  simpa using even [] member

private theorem even_tails : ∀ list ∈ lists.map (·.tail), list.length = count := by
  intro list member
  obtain ⟨whole, own, rfl⟩ := List.mem_map.mp member
  rw [List.length_tail, even whole own, Nat.add_sub_cancel]

end Step

/-- The element of row `row` of list `col` stands `row` full rows and `col` elements behind the start. -/
theorem getElem?_interleave {count : Nat} {lists : List (List α)}
    (even : ∀ list ∈ lists, list.length = count) {row col : Nat} (below : row < count)
    (inside : col < lists.length) :
    (interleave count lists)[row * lists.length + col]? = lists[col]?.bind (·[row]?) := by
  induction count generalizing lists row with
  | zero => omega
  | succ count ih =>
    have filled := ne_nil_of_even even
    have width := length_heads filled
    rw [interleave]
    cases row with
    | zero =>
      rw [Nat.zero_mul, Nat.zero_add, List.getElem?_append_left (by omega), getElem?_heads filled]
      simp only [List.head?_eq_getElem?]
    | succ row =>
      have later := @ih (lists.map (·.tail)) (even_tails even) row (by omega) (by simpa using inside)
      rw [List.length_map] at later
      have place : (row + 1) * lists.length + col = lists.length + (row * lists.length + col) := by
        rw [Nat.succ_mul]
        omega
      rw [place, List.getElem?_append_right (by omega), width, Nat.add_sub_cancel_left, later,
        List.getElem?_map, Option.bind_map]
      exact congrArg (Option.bind _) (funext fun list => List.getElem?_tail)

theorem length_interleave {count : Nat} {lists : List (List α)}
    (even : ∀ list ∈ lists, list.length = count) :
    (interleave count lists).length = count * lists.length := by
  induction count generalizing lists with
  | zero => simp [interleave]
  | succ count ih =>
    rw [interleave, List.length_append, length_heads (ne_nil_of_even even), ih (even_tails even),
      List.length_map, Nat.succ_mul, Nat.add_comm]

end Interleave

section Places

variable {width row col other place : Nat}

private theorem place_inj (inside : col < width) (inside' : place < width)
    (same : row * width + col = other * width + place) : row = other ∧ col = place := by
  have rows := congrArg (· / width) same
  have cols := congrArg (· % width) same
  simp only [Nat.mul_comm _ width, Nat.mul_add_mod, Nat.mod_eq_of_lt inside, Nat.mod_eq_of_lt inside',
    Nat.mul_add_div (Nat.zero_lt_of_lt inside), Nat.div_eq_of_lt inside, Nat.div_eq_of_lt inside'] at rows cols
  exact ⟨rows, cols⟩

end Places

section Fill

variable {width : Nat} {data : Array UInt64}

@[simp] theorem size_fillColumn (col row : Nat) (words : List UInt64) (data : Array UInt64) :
    (fillColumn width col row words data).size = data.size := by
  induction words generalizing row data with
  | nil => rfl
  | cons word rest ih => rw [fillColumn, ih, Array.size_setIfInBounds]

private theorem size_fill (col : Nat) (lists : List (List UInt64)) (data : Array UInt64) :
    (fill width col lists data).size = data.size := by
  induction lists generalizing col data with
  | nil => rfl
  | cons words rest ih => rw [fill, ih, size_fillColumn]

private theorem fillColumn_other {col row other place : Nat} (words : List UInt64)
    (inside : col < width) (inside' : place < width) (apart : place ≠ col ∨ other < row) :
    (fillColumn width col row words data)[other * width + place]? = data[other * width + place]? := by
  induction words generalizing row data with
  | nil => rfl
  | cons word rest ih =>
    have differ : row * width + col ≠ other * width + place := by
      intro same
      obtain ⟨rfl, rfl⟩ := place_inj inside inside' same
      omega
    rw [fillColumn, ih (apart.imp_right Nat.lt_succ_of_lt), Array.getElem?_setIfInBounds_ne differ]

private theorem fillColumn_own {col row index : Nat} {words : List UInt64} (inside : col < width)
    (below : index < words.length) (enough : (row + words.length) * width ≤ data.size) :
    (fillColumn width col row words data)[(row + index) * width + col]? = words[index]? := by
  induction words generalizing row index data with
  | nil => cases below
  | cons word rest ih =>
    rw [fillColumn]
    cases index with
    | zero =>
      have found : row * width + col < data.size := by
        have next : (row + 1) * width ≤ (row + (word :: rest).length) * width :=
          Nat.mul_le_mul_right width (by simp)
        rw [Nat.succ_mul] at next
        omega
      have first := @fillColumn_other width (data.setIfInBounds (row * width + col) word) col (row + 1) row
        col rest inside inside (.inr (Nat.lt_succ_self row))
      rw [Array.getElem?_setIfInBounds_self_of_lt found] at first
      exact first
    | succ index =>
      have later := @ih (data.setIfInBounds (row * width + col) word) (row + 1) index
        (by simpa using below) (by
          rw [Array.size_setIfInBounds, Nat.add_assoc, Nat.add_comm 1]
          exact enough)
      rw [Nat.add_assoc row 1, Nat.add_comm 1] at later
      exact later

theorem fill_before {col other place : Nat} (lists : List (List UInt64)) (before : place < col)
    (inside : col + lists.length ≤ width) :
    (fill width col lists data)[other * width + place]? = data[other * width + place]? := by
  induction lists generalizing col data with
  | nil => rfl
  | cons words rest ih =>
    rw [List.length_cons] at inside
    rw [fill, ih (by omega) (by omega),
      fillColumn_other words (by omega) (by omega) (.inl (Nat.ne_of_lt before))]

/-- Each word of each column is found in its row and column. -/
theorem fill_own {col rows row place : Nat} {lists : List (List UInt64)}
    (even : ∀ list ∈ lists, list.length = rows) (inside : col + lists.length ≤ width)
    (enough : rows * width ≤ data.size) (below : row < rows) (within : place < lists.length) :
    (fill width col lists data)[row * width + (col + place)]? = lists[place]?.bind (·[row]?) := by
  induction lists generalizing col place data with
  | nil => cases within
  | cons words rest ih =>
    obtain ⟨length, others⟩ := List.forall_mem_cons.mp even
    rw [List.length_cons] at inside within
    rw [fill]
    cases place with
    | zero =>
      have own := @fillColumn_own width data col 0 row words (by omega) (by omega)
        (by rwa [Nat.zero_add, length])
      rw [Nat.zero_add] at own
      exact (fill_before rest (Nat.lt_succ_self col) (by omega)).trans own
    | succ place =>
      have later := @ih (fillColumn width col 0 words data) (col + 1) place others (by omega)
        (by rwa [size_fillColumn]) (by omega)
      rw [Nat.add_assoc col 1, Nat.add_comm 1] at later
      exact later

end Fill

private theorem fill_zeros {rows : Nat} {lists : List (List UInt64)}
    (even : ∀ list ∈ lists, list.length = rows) :
    (fill lists.length 0 lists (zeros rows lists.length).data.toArray).toList = interleave rows lists := by
  have blank : (zeros rows lists.length).data.toArray.size = rows * lists.length := by simp [zeros]
  have size : (fill lists.length 0 lists (zeros rows lists.length).data.toArray).toList.length =
      rows * lists.length := by
    rw [Array.length_toList, size_fill, blank]
  apply List.ext_getElem?
  intro index
  by_cases inside : index < rows * lists.length
  case neg =>
    rw [List.getElem?_eq_none (by omega), List.getElem?_eq_none (by rw [length_interleave even]; omega)]
  case pos =>
    have positive : 0 < lists.length := Nat.pos_of_lt_mul_left inside
    have within := Nat.mod_lt index positive
    have below : index / lists.length < rows := Nat.div_lt_of_lt_mul (Nat.mul_comm rows _ ▸ inside)
    have place : index = index / lists.length * lists.length + index % lists.length := by
      rw [Nat.mul_comm, Nat.div_add_mod]
    have found := fill_own even (Nat.le_of_eq (Nat.zero_add _)) (Nat.le_of_eq blank.symm) below within
    rw [Nat.zero_add] at found
    rw [place, Array.getElem?_toList, found, getElem?_interleave even below within]

theorem entries_eq_interleave {rows : Nat} {columns : List Column}
    (even : ∀ words ∈ columns.map (fun column => widened column.data), words.length = rows) :
    entries rows columns = interleave rows (columns.map fun column => widened column.data) := by
  have filled := fill_zeros even
  rwa [List.length_map] at filled

end Columnar.Matrix
