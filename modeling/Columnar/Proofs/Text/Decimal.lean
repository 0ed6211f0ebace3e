import Columnar.Proofs.Text.Utf8
import Columnar.Text.Decimal

/-!
Decimal texts read back. The digits of a number are a run that denotes it (`value?_digits`), and so a
word of 64 bits is the word that its text denotes (`int64?_text`). The text is short
(`length_text_word`).
-/
namespace Columnar.Decimal

/-- The number that a run denotes after the digits that denote `number`. -/
def readFrom (number : Nat) (run : List Char) : Nat :=
  run.foldl (fun number digit => 10 * number + (digit.toNat - 48)) number

private theorem digit_isDigit {digit : Nat} (small : digit < 10) :
    (Char.ofNat (48 + digit)).isDigit = true ∧ (Char.ofNat (48 + digit)).toNat - 48 = digit := by
  decide +revert

/-- What the digits of a number are: a run of digits that denotes it. -/
structure Denotes (run : List Char) (number : Nat) : Prop where
  digits : ∀ c ∈ run, c.isDigit = true
  some : run ≠ []
  value : readFrom 0 run = number

private theorem digitsBefore_eq {fuel number : Nat} (enough : number < fuel) (rest : List Char) :
    ∃ run, digitsBefore fuel number rest = run ++ rest ∧ Denotes run number := by
  induction fuel generalizing number rest with
  | zero => omega
  | succ fuel ih =>
    obtain ⟨digit, value⟩ := digit_isDigit (Nat.mod_lt number (by omega : 0 < 10))
    rw [digitsBefore]
    split
    case isTrue last =>
      refine ⟨[_], rfl, by simpa using digit, by simp, ?_⟩
      simp only [readFrom, List.foldl_cons, List.foldl_nil, value]
      omega
    case isFalse =>
      obtain ⟨run, same, digits, -, front⟩ :=
        ih (by omega : number / 10 < fuel) (Char.ofNat (48 + number % 10) :: rest)
      refine ⟨run ++ [Char.ofNat (48 + number % 10)], by simp [same], ?_, by simp, ?_⟩
      · simpa [or_imp, forall_and] using ⟨digits, digit⟩
      · rw [readFrom] at front
        simp only [readFrom, List.foldl_append, front, List.foldl_cons, List.foldl_nil, value]
        omega

private theorem denotes_digits (number : Nat) : Denotes (digits number) number := by
  obtain ⟨run, same, denotes⟩ := digitsBefore_eq (Nat.lt_succ_self number) []
  rw [digits, same, List.append_nil]
  exact denotes

theorem value?_of_denotes {run : List Char} {number : Nat} (denotes : Denotes run number) :
    value? run = some number := by
  obtain ⟨digits, some, value⟩ := denotes
  rw [value?, if_pos ⟨some, List.all_eq_true.mpr digits⟩]
  exact congrArg _ value

@[simp] theorem value?_digits (number : Nat) : value? (digits number) = some number :=
  value?_of_denotes (denotes_digits number)

theorem signed?_of_digit {c : Char} {run : List Char} (digit : c.isDigit = true) :
    signed? (c :: run) = (value? (c :: run)).map Int.ofNat := by
  unfold signed?
  split
  case h_1 same =>
    obtain ⟨rfl, rfl⟩ := List.cons.inj same
    cases digit
  case h_2 same =>
    obtain ⟨rfl, rfl⟩ := List.cons.inj same
    cases digit
  case h_3 => rfl

private theorem signed?_digits (number : Nat) : signed? (digits number) = some (number : Int) := by
  have denotes := denotes_digits number
  cases shape : digits number with
  | nil => exact absurd shape denotes.some
  | cons c run =>
    rw [signed?_of_digit (denotes.digits c (by simp [shape])), ← shape, value?_digits]
    rfl

private theorem signed?_text (number : Int) : signed? (text number).toList = some number := by
  rw [text, String.toList_ofList]
  split
  case isTrue negative =>
    rw [signed?, value?_digits]
    exact congrArg some (by omega : -(number.natAbs : Int) = number)
  case isFalse =>
    rw [signed?_digits]
    exact congrArg some (by omega : (number.natAbs : Int) = number)

@[simp] theorem int64?_text (id : Int64) : int64? (text id.toInt) = some id := by
  have fits : -2 ^ 63 ≤ id.toInt ∧ id.toInt < 2 ^ 63 := ⟨id.le_toInt, id.toInt_lt⟩
  rw [int64?, signed?_text]
  exact (if_pos fits).trans (by rw [Int64.ofInt_toInt])

private theorem length_digitsBefore_le {fuel number places : Nat} (small : number < 10 ^ (places + 1))
    (rest : List Char) : (digitsBefore fuel number rest).length ≤ rest.length + (places + 1) := by
  induction fuel generalizing number places rest with
  | zero => exact Nat.le_add_right _ _
  | succ fuel ih =>
    rw [digitsBefore]
    split
    case isTrue =>
      rw [List.length_cons]
      omega
    case isFalse more =>
      cases places with
      | zero => omega
      | succ places =>
        have later := ih (by omega : number / 10 < 10 ^ (places + 1))
          (Char.ofNat (48 + number % 10) :: rest)
        rw [List.length_cons] at later
        omega

private theorem length_text_le {number : Int} {places : Nat}
    (small : number.natAbs < 10 ^ (places + 1)) :
    (Text.bytes (text number)).length ≤ 4 * (places + 2) := by
  have digits : (digits number.natAbs).length ≤ 0 + (places + 1) := length_digitsBefore_le small []
  refine Nat.le_trans (Text.length_bytes_ofList_le _) ?_
  split
  · rw [List.length_cons]
    omega
  · omega

theorem length_text_word (id : Int64) : (Text.bytes (text id.toInt)).length ≤ 80 := by
  have low := id.le_toInt
  have high := id.toInt_lt
  exact @length_text_le _ 18 (by omega)

end Columnar.Decimal
