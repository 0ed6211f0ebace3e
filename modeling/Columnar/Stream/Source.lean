import Columnar.Bytes
import Columnar.Error

/-!
Sources: where a file is read from. A source holds all bytes of the file and may be told to fail on a
certain read, on every seek, or to hand out few bytes at a time. `Source.block` reads a whole block,
and counts the reads it takes; on a source without faults it is a slice of the bytes
(`block_ofBytes`).
-/
namespace Columnar

/-- A file and the faults of the device it lies on. -/
structure Source where
  content : Bytes
  failRead : Option Nat
  seekFails : Bool
  chunk : Option Nat
  kind : IoKind
  deriving DecidableEq, Repr

namespace Source

def ofBytes (content : Bytes) : Source :=
  ⟨content, none, false, none, .other⟩

def broken (source : Source) : IoError :=
  ⟨source.kind, "source broke"⟩

def ended : IoError :=
  ⟨.unexpectedEnd, "failed to fill whole buffer"⟩

def misplaced : IoError :=
  ⟨.invalidInput, "invalid seek to a negative or overflowing position"⟩

/-- Whether read number `reads` fails. An interruption is no failure: the read is made again. -/
def failsAt (source : Source) (reads : Nat) : Bool :=
  source.failRead = some reads && source.kind ≠ .interrupted

def resume (source : Source) (reads : Nat) : Nat :=
  if source.failRead = some reads && source.kind = .interrupted then reads + 1 else reads

/-- What one read of `wanted` bytes at `offset` yields. -/
def available (source : Source) (wanted offset : Nat) : Bytes :=
  source.content.slice offset (source.chunk.elim wanted (min wanted))

/-- Reads `wanted` bytes at `offset`, `reads` reads having been made before; answers with the bytes
and the number of reads made then. -/
def pull (source : Source) (wanted offset reads : Nat) : Except IoError (Bytes × Nat) :=
  if wanted = 0 then .ok ([], reads)
  else if source.failsAt reads then .error source.broken
  else if source.available wanted offset = [] then .error ended
  else
    let part := source.available wanted offset
    match source.pull (wanted - part.length) (offset + part.length) (source.resume reads + 1) with
    | .ok (rest, reads) => .ok (part ++ rest, reads)
    | .error e => .error e
termination_by wanted
decreasing_by
  rename_i positive _ nonempty
  have taken : 0 < (source.available wanted offset).length := List.length_pos_iff.mpr nonempty
  omega

def seek (source : Source) (offset : Int) : Except IoError Nat :=
  if source.seekFails then .error source.broken
  else if offset < 0 then .error misplaced
  else .ok offset.toNat

def block (source : Source) (offset : Int) (length reads : Nat) : Except IoError (Bytes × Nat) := do
  let offset ← source.seek offset
  source.pull length offset reads

theorem available_ofBytes (content : Bytes) (wanted offset : Nat) :
    (ofBytes content).available wanted offset = content.slice offset wanted := rfl

theorem pull_ofBytes (content : Bytes) (wanted offset reads : Nat) :
    (ofBytes content).pull wanted offset reads =
      if wanted = 0 then .ok ([], reads)
      else match content.slice? offset wanted with
        | some part => .ok (part, reads + 1)
        | none => .error ended := by
  have healthy (n : Nat) : (ofBytes content).failsAt n = false := rfl
  have onward (n : Nat) : (ofBytes content).resume n = n := rfl
  rw [pull]
  by_cases nothing : wanted = 0
  · simp [nothing]
  simp only [nothing, if_false, healthy, Bool.false_eq_true, available_ofBytes, onward]
  have size : (content.slice offset wanted).length = min wanted (content.length - offset) := by
    simp [Bytes.slice]
  by_cases whole : (content.slice offset wanted).length = wanted
  · have some : content.slice offset wanted ≠ [] := by
      intro empty
      simp [empty] at whole
      omega
    rw [pull]
    simp [some, whole, Bytes.slice?]
  · have short : content.length - offset < wanted := by omega
    have beyond : ∀ n, content.slice (offset + (content.slice offset wanted).length) n = [] := by
      intro n
      simp only [Bytes.slice, List.take_eq_nil_iff, List.drop_eq_nil_iff] at size ⊢
      right
      omega
    rw [pull]
    have more : ¬ wanted - (content.slice offset wanted).length = 0 := by omega
    simp only [more, if_false, healthy, Bool.false_eq_true, available_ofBytes, beyond, if_true]
    simp [Bytes.slice?, whole]

theorem block_ofBytes (content : Bytes) (offset length reads : Nat) :
    (ofBytes content).block offset length reads =
      if length = 0 then .ok ([], reads)
      else match content.slice? offset length with
        | some part => .ok (part, reads + 1)
        | none => .error ended := by
  rw [← pull_ofBytes]
  rfl

end Source

end Columnar
