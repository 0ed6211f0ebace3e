/-!
Key-value metadata. The entries stand in ascending order of their keys, one per key, so two
metadata with the same answers are the same metadata (`ext_get?`). `get?_insert` and `get?_erase`
say what each operation does to the answers.
-/
namespace Columnar

/-- Texts under text keys, in ascending order of the keys. -/
@[ext] structure Metadata where
  entries : List (String × String)
  ascending : entries.Pairwise fun a b => a.1 < b.1
  deriving DecidableEq, Repr

namespace Metadata

def insertEntry (key value : String) : List (String × String) → List (String × String)
  | [] => [(key, value)]
  | entry :: rest =>
    if key < entry.1 then (key, value) :: entry :: rest
    else if entry.1 < key then entry :: insertEntry key value rest
    else (key, value) :: rest

theorem mem_insertEntry {key value : String} {entry : String × String}
    {entries : List (String × String)} (mem : entry ∈ insertEntry key value entries) :
    entry = (key, value) ∨ entry ∈ entries := by
  induction entries with
  | nil => simpa [insertEntry] using mem
  | cons head rest ih =>
    simp only [insertEntry] at mem
    split at mem
    · simpa using mem
    · split at mem
      · rcases List.mem_cons.mp mem with rfl | mem
        · simp
        · rcases ih mem with h | h <;> simp [h]
      · rcases List.mem_cons.mp mem with h | h <;> simp [h]

theorem insertEntry_of_above {key value : String} {entries : List (String × String)}
    (above : ∀ entry ∈ entries, entry.1 < key) :
    insertEntry key value entries = entries ++ [(key, value)] := by
  induction entries with
  | nil => rfl
  | cons head rest ih =>
    have before : head.1 < key := above head (by simp)
    have notAfter : ¬key < head.1 := fun after =>
      String.lt_irrefl key (String.lt_trans after before)
    rw [insertEntry, if_neg notAfter, if_pos before,
      ih fun entry member => above entry (by simp [member])]
    rfl

theorem ascending_insertEntry (key value : String) {entries : List (String × String)}
    (ascending : entries.Pairwise fun a b => a.1 < b.1) :
    (insertEntry key value entries).Pairwise fun a b => a.1 < b.1 := by
  induction entries with
  | nil => simp [insertEntry]
  | cons head rest ih =>
    obtain ⟨first, tail⟩ := List.pairwise_cons.mp ascending
    simp only [insertEntry]
    split
    case isTrue before =>
      refine List.pairwise_cons.mpr ⟨fun entry mem => ?_, ascending⟩
      rcases List.mem_cons.mp mem with rfl | mem
      · exact before
      · exact String.lt_trans before (first entry mem)
    case isFalse notBefore =>
      split
      case isTrue after =>
        refine List.pairwise_cons.mpr ⟨fun entry mem => ?_, ih tail⟩
        rcases mem_insertEntry mem with rfl | mem
        · exact after
        · exact first entry mem
      case isFalse notAfter =>
        have same : key = head.1 :=
          String.le_antisymm (String.not_lt.mp notAfter) (String.not_lt.mp notBefore)
        refine List.pairwise_cons.mpr ⟨fun entry mem => ?_, tail⟩
        rw [same]
        exact first entry mem

def empty : Metadata :=
  ⟨[], .nil⟩

instance : EmptyCollection Metadata := ⟨empty⟩

instance : Inhabited Metadata := ⟨empty⟩

def get? (metadata : Metadata) (key : String) : Option String :=
  metadata.entries.lookup key

def insert (metadata : Metadata) (key value : String) : Metadata :=
  ⟨insertEntry key value metadata.entries, ascending_insertEntry key value metadata.ascending⟩

def erase (metadata : Metadata) (key : String) : Metadata :=
  ⟨metadata.entries.filter (·.1 ≠ key), metadata.ascending.filter _⟩

/-- The metadata of a list of entries; of two entries with one key the later counts. -/
def ofList (entries : List (String × String)) : Metadata :=
  entries.foldl (fun metadata entry => metadata.insert entry.1 entry.2) ∅

theorem lookup_cons (k : String) (head : String × String) (rest : List (String × String)) :
    (head :: rest).lookup k = if k = head.1 then some head.2 else rest.lookup k := by
  obtain ⟨own, value⟩ := head
  by_cases same : k = own
  · simp [same]
  · simp [List.lookup_cons, same, beq_eq_false_iff_ne.mpr same]

theorem lookup_insertEntry (key value k : String) (entries : List (String × String)) :
    (insertEntry key value entries).lookup k =
      if k = key then some value else entries.lookup k := by
  induction entries with
  | nil => rw [insertEntry, lookup_cons]
  | cons head rest ih =>
    simp only [insertEntry]
    split
    · rw [lookup_cons]
    case isFalse notBefore =>
      split
      case isTrue after =>
        have other : head.1 ≠ key := fun same => String.lt_irrefl key (same ▸ after)
        rw [lookup_cons, ih, lookup_cons]
        by_cases same : k = key
        · simp [same, Ne.symm other]
        · simp [same]
      case isFalse notAfter =>
        have same : key = head.1 :=
          String.le_antisymm (String.not_lt.mp notAfter) (String.not_lt.mp notBefore)
        rw [lookup_cons, lookup_cons, same]
        by_cases asked : k = head.1 <;> simp [asked]

theorem entries_insert_of_above {metadata : Metadata} {key : String} (value : String)
    (above : ∀ entry ∈ metadata.entries, entry.1 < key) :
    (metadata.insert key value).entries = metadata.entries ++ [(key, value)] :=
  insertEntry_of_above above

theorem get?_insert (metadata : Metadata) (key value k : String) :
    (metadata.insert key value).get? k = if k = key then some value else metadata.get? k :=
  lookup_insertEntry key value k metadata.entries

private theorem lookup_filter_ne (key k : String) (entries : List (String × String)) :
    (entries.filter (·.1 ≠ key)).lookup k = if k = key then none else entries.lookup k := by
  induction entries with
  | nil => simp
  | cons head rest ih =>
    by_cases gone : head.1 = key
    · rw [List.filter_cons_of_neg (by simp [gone]), ih, lookup_cons, gone]
      by_cases asked : k = key <;> simp [asked]
    · rw [List.filter_cons_of_pos (by simp [gone]), lookup_cons, ih, lookup_cons]
      by_cases asked : k = key
      · simp [asked, Ne.symm gone]
      · simp [asked]

theorem get?_erase (metadata : Metadata) (key k : String) :
    (metadata.erase key).get? k = if k = key then none else metadata.get? k :=
  lookup_filter_ne key k metadata.entries

private theorem lookup_eq_none_of_lt {key : String} {entries : List (String × String)}
    (below : ∀ entry ∈ entries, key < entry.1) : entries.lookup key = none := by
  induction entries with
  | nil => rfl
  | cons head rest ih =>
    have other : key ≠ head.1 := fun same =>
      String.lt_irrefl key (by simpa [← same] using below head (by simp))
    rw [lookup_cons, if_neg other]
    exact ih fun entry mem => below entry (by simp [mem])

private theorem eq_of_lookup : {a b : List (String × String)} →
    (a.Pairwise fun x y => x.1 < y.1) → (b.Pairwise fun x y => x.1 < y.1) →
    (∀ key, a.lookup key = b.lookup key) → a = b
  | [], [], _, _, _ => rfl
  | [], head :: _, _, _, same => by simpa [lookup_cons] using same head.1
  | head :: _, [], _, _, same => by simpa [lookup_cons] using same head.1
  | (k, v) :: r, (l, w) :: s, ascendingA, ascendingB, same => by
    obtain ⟨firstA, tailA⟩ := List.pairwise_cons.mp ascendingA
    obtain ⟨firstB, tailB⟩ := List.pairwise_cons.mp ascendingB
    have keys : k = l := by
      by_cases before : k < l
      · have absent := lookup_eq_none_of_lt fun entry mem => String.lt_trans before (firstB entry mem)
        have other : k ≠ l := fun h => String.lt_irrefl l (h ▸ before)
        simpa [lookup_cons, other, absent] using same k
      by_cases after : l < k
      · have absent := lookup_eq_none_of_lt fun entry mem => String.lt_trans after (firstA entry mem)
        have other : l ≠ k := fun h => String.lt_irrefl k (h ▸ after)
        simpa [lookup_cons, other, absent] using same l
      exact String.le_antisymm (String.not_lt.mp after) (String.not_lt.mp before)
    subst keys
    have values : v = w := by simpa [lookup_cons] using same k
    subst values
    have rest : r = s := eq_of_lookup tailA tailB fun key => by
      by_cases here : key = k
      · subst here
        rw [lookup_eq_none_of_lt firstA, lookup_eq_none_of_lt firstB]
      · simpa [lookup_cons, here] using same key
    rw [rest]

theorem ext_get? {a b : Metadata} (same : ∀ key, a.get? key = b.get? key) : a = b :=
  Metadata.ext (eq_of_lookup a.ascending b.ascending same)

end Metadata

end Columnar
