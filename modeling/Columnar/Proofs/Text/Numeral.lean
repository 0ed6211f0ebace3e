import Columnar.Proofs.Text.Decimal
import Mathlib.Data.List.Induction

/-!
Numerals by their grammar. A run of digits is read from its left end, each digit after the first
counting ten times what stands before it (`DigitRun`); a numeral is such a run, with or without a sign in
front of it (`Numeral`). `Decimal.signed?` reads just the numerals (`signed?_eq_some`), and
`Decimal.int64?` those that denote a word of 64 bits (`int64?_eq_some`).
-/
namespace Columnar.Decimal

/-- Runs of ASCII digits, with the numbers that they denote. -/
inductive DigitRun : List Char → Nat → Prop where
  | digit {d : Nat} (small : d < 10) : DigitRun [Nat.digitChar d] d
  | more {run : List Char} {number d : Nat} (front : DigitRun run number) (small : d < 10) :
    DigitRun (run ++ [Nat.digitChar d]) (10 * number + d)

/-- Digits with at most one sign in front of them, and the numbers that they denote. -/
inductive Numeral : List Char → Int → Prop where
  | bare {run : List Char} {number : Nat} (digits : DigitRun run number) : Numeral run number
  | plus {run : List Char} {number : Nat} (digits : DigitRun run number) :
    Numeral ('+' :: run) number
  | minus {run : List Char} {number : Nat} (digits : DigitRun run number) :
    Numeral ('-' :: run) (-number)

private theorem digitChar_isDigit {digit : Nat} (small : digit < 10) :
    (Nat.digitChar digit).isDigit = true ∧ (Nat.digitChar digit).toNat - 48 = digit := by
  decide +revert

private theorem exists_digitChar {c : Char} (digit : c.isDigit = true) :
    ∃ d < 10, c = Nat.digitChar d := by
  have bounds : 48 ≤ c.toNat ∧ c.toNat ≤ 57 := Char.isDigit_iff_toNat.mp digit
  refine ⟨c.toNat - 48, by omega, Char.toNat_inj.mp ?_⟩
  rw [Nat.toNat_digitChar_of_lt_ten (by omega)]
  omega

private theorem DigitRun.denotes {run : List Char} {number : Nat} (digits : DigitRun run number) :
    Denotes run number := by
  induction digits with
  | digit small =>
    obtain ⟨digit, value⟩ := digitChar_isDigit small
    refine ⟨by simpa using digit, by simp, ?_⟩
    simp only [readFrom, List.foldl_cons, List.foldl_nil, value]
    omega
  | more _ small ih =>
    obtain ⟨digit, value⟩ := digitChar_isDigit small
    obtain ⟨digits, -, front⟩ := ih
    refine ⟨?_, by simp, ?_⟩
    · rw [List.forall_mem_append]
      exact ⟨digits, List.forall_mem_singleton.mpr digit⟩
    · rw [readFrom] at front
      simp only [readFrom, List.foldl_append, front, List.foldl_cons, List.foldl_nil, value]

private theorem Denotes.digitRun {run : List Char} {number : Nat} (denotes : Denotes run number) :
    DigitRun run number := by
  -- The last digit counts for itself, so the run is taken apart from its right end.
  induction run using List.reverseRecOn generalizing number with
  | nil => exact absurd rfl denotes.some
  | append_singleton front c ih =>
    obtain ⟨digits, -, value⟩ := denotes
    obtain ⟨d, small, rfl⟩ := exists_digitChar (digits c (by simp))
    have last := (digitChar_isDigit small).2
    simp only [readFrom, List.foldl_append, List.foldl_cons, List.foldl_nil, last] at value
    subst value
    by_cases single : front = []
    · subst single
      simpa using DigitRun.digit small
    · exact .more (ih ⟨fun c mem => digits c (by simp [mem]), single, rfl⟩) small

theorem value?_eq_some {run : List Char} {number : Nat} :
    value? run = some number ↔ DigitRun run number := by
  constructor
  · intro read
    rw [value?] at read
    split at read
    case isTrue found =>
      exact Denotes.digitRun ⟨List.all_eq_true.mp found.2, found.1, Option.some.inj read⟩
    case isFalse => cases read
  · intro digits
    exact value?_of_denotes digits.denotes

private theorem signed?_minus (run : List Char) :
    signed? ('-' :: run) = (value? run).map fun number : Nat => -(number : Int) := by
  rw [signed?]
  cases value? run <;> rfl

theorem signed?_eq_some {run : List Char} {number : Int} :
    signed? run = some number ↔ Numeral run number := by
  constructor
  · intro read
    unfold signed? at read
    split at read
    case h_1 run =>
      have read := (signed?_minus run).symm.trans read
      obtain ⟨own, value, rfl⟩ := Option.map_eq_some_iff.mp read
      exact .minus (value?_eq_some.mp value)
    case h_2 =>
      obtain ⟨own, value, rfl⟩ := Option.map_eq_some_iff.mp read
      exact .plus (value?_eq_some.mp value)
    case h_3 =>
      obtain ⟨own, value, rfl⟩ := Option.map_eq_some_iff.mp read
      exact .bare (value?_eq_some.mp value)
  · intro numeral
    cases numeral with
    | minus digits => rw [signed?_minus, value?_eq_some.mpr digits, Option.map_some]
    | plus digits =>
      rw [signed?, value?_eq_some.mpr digits]
      rfl
    | @bare _ number digits =>
      -- Neither sign is a digit, so the run is not taken for one with a sign.
      obtain ⟨isDigit, some, -⟩ := digits.denotes
      cases run with
      | nil => exact absurd rfl some
      | cons c rest =>
        rw [signed?_of_digit (isDigit c (by simp)), value?_eq_some.mpr digits]
        rfl

private theorem toInt_eq_iff {id : Int64} {number : Int} :
    id.toInt = number ↔ (-2 ^ 63 ≤ number ∧ number < 2 ^ 63) ∧ Int64.ofInt number = id := by
  constructor
  · rintro rfl
    exact ⟨⟨id.le_toInt, id.toInt_lt⟩, id.ofInt_toInt⟩
  · rintro ⟨⟨low, high⟩, rfl⟩
    exact Int64.toInt_ofInt_of_le low high

theorem int64?_eq_some {text : String} {id : Int64} :
    int64? text = some id ↔ Numeral text.toList id.toInt := by
  rw [← signed?_eq_some]
  unfold int64?
  cases signed? text.toList with
  | none => simp
  | some number => simp [toInt_eq_iff, eq_comm (a := number)]

end Columnar.Decimal
