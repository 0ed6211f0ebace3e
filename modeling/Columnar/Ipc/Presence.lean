import Columnar.Ipc.BodyReader

/-!
Which slots of an array hold a value in the end, where the value may be missing in a dictionary, a
run or a member of a union. A presence is a list of stretches, so that a long run costs no more than
a short one; `holds_ofBits` says that for a bitmap it answers bit by bit.
-/
namespace Columnar.Ipc

/-- Stretches of slots, in order: how many there are, and whether they hold values. -/
structure Presence where
  stretches : List (Nat × Bool)
  deriving DecidableEq, Repr

namespace Presence

def ofBits (bits : List Bool) : Presence :=
  ⟨bits.map (1, ·)⟩

def nothing (length : Nat) : Presence :=
  ⟨[(length, false)]⟩

def countSlots : List (Nat × Bool) → Nat
  | [] => 0
  | (count, _) :: rest => count + countSlots rest

def countMissing : List (Nat × Bool) → Nat
  | [] => 0
  | (count, held) :: rest => (if held then 0 else count) + countMissing rest

/-- Whether a slot of a list of stretches holds a value; one beyond the last stretch does not. -/
def heldIn : List (Nat × Bool) → Nat → Bool
  | [], _ => false
  | (count, held) :: rest, slot => if slot < count then held else heldIn rest (slot - count)

def size (presence : Presence) : Nat :=
  countSlots presence.stretches

def missing (presence : Presence) : Nat :=
  countMissing presence.stretches

def holds (presence : Presence) (slot : Nat) : Bool :=
  heldIn presence.stretches slot

@[simp] theorem size_ofBits (bits : List Bool) : (ofBits bits).size = bits.length := by
  induction bits with
  | nil => rfl
  | cons bit rest ih =>
    have more : (ofBits (bit :: rest)).size = 1 + (ofBits rest).size := rfl
    rw [more, ih, List.length_cons, Nat.add_comm]

@[simp] theorem holds_ofBits (bits : List Bool) (slot : Nat) :
    (ofBits bits).holds slot = bits.getD slot false := by
  induction bits generalizing slot with
  | nil => rfl
  | cons bit rest ih =>
    cases slot with
    | zero => rfl
    | succ slot => exact ih slot

def blockSize : Nat :=
  64

/-- Whether the slots that a mask shows hold values. As many blocks are compared as both sides have,
and if no slot is missing, none. -/
def fits (presence : Presence) (mask : List Bool) : Bool :=
  presence.missing = 0 || mask.zipIdx.all fun (shown, slot) =>
    !shown || presence.size / blockSize < slot / blockSize || presence.holds slot

/-- The stretches of runs that end at the given bounds, the first of them beginning at `start` and
having the value at place `run`, up to a total of `length` slots. What lies beyond the last run
counts as present. There are none if a run that is reached has no value to look at. -/
def runStretches? (values : Presence) (length : Nat) : Nat → Nat → List Nat →
    Option (List (Nat × Bool))
  | _, start, [] => some [(length - start, true)]
  | run, start, bound :: rest =>
    if values.size ≤ run then none
    else
      let stop := min bound length
      let stretch := (stop - start, values.holds run)
      if stop = length then some [stretch]
      else (runStretches? values length (run + 1) stop rest).map (stretch :: ·)

/-- The presence of `length` slots in runs with the given bounds and values. -/
def ofRuns? (values : Presence) (length : Nat) (bounds : List Nat) : Option Presence :=
  (runStretches? values length 0 0 bounds).map Presence.mk

/-- The presence of slots that each lie at a place of a member of a union, given by the member's id.
Only members that miss a value are listed; of `members` members all may be listed and miss every
value. -/
def ofPlaces (members : Nat) (lacking : List (Int × Presence)) (slots : List (Int × Nat)) :
    Option Presence :=
  let hollow := lacking.all fun (_, presence) => presence.missing = presence.size
  if lacking.length = members ∧ hollow then some (nothing slots.length)
  else
    let bits := slots.map fun (id, place) =>
      (lacking.lookup id).all (·.holds place)
    if bits.contains false then some (ofBits bits) else none

end Presence

end Columnar.Ipc
