import Columnar.Bytes
import Columnar.Error

/-!
Sinks: where a file is written to. A sink takes some of the bytes it is offered, or fails; `writeAll`
offers the rest again until all are taken, and `emit` runs a list of writes and flushes up to the
first failure. `Sink.memory` takes everything; `LimitedSink` fails where it is told to.
-/
namespace Columnar

/-- A consumer of bytes with states `σ`. A write answers how many of the offered bytes were taken. One
that is interrupted is made again, so `write` answers for the first that is not. -/
structure Sink (σ : Type) where
  write : σ → Bytes → Except IoError Nat × σ
  flush : σ → Except IoError Unit × σ

inductive Emission where
  | write (bytes : Bytes)
  | flush
  deriving DecidableEq, Repr

namespace Emission

def bytes : Emission → Bytes
  | write bytes => bytes
  | flush => []

def allBytes (emissions : List Emission) : Bytes :=
  emissions.flatMap bytes

end Emission

namespace Sink

variable {σ : Type}

def exhausted : IoError :=
  ⟨.writeZero, "failed to write whole buffer"⟩

def writeAll (sink : Sink σ) : σ → Bytes → Except IoError Unit × σ
  | state, [] => (.ok (), state)
  | state, byte :: rest =>
    match sink.write state (byte :: rest) with
    | (.error e, state) => (.error e, state)
    | (.ok 0, state) => (.error exhausted, state)
    | (.ok (taken + 1), state) => sink.writeAll state (rest.drop taken)
termination_by _ bytes => bytes.length
decreasing_by
  simp only [List.length_drop, List.length_cons]
  omega

def perform (sink : Sink σ) (state : σ) : Emission → Except IoError Unit × σ
  | .write bytes => sink.writeAll state bytes
  | .flush => sink.flush state

def emit (sink : Sink σ) : σ → List Emission → Except IoError Unit × σ
  | state, [] => (.ok (), state)
  | state, emission :: rest =>
    match sink.perform state emission with
    | (.ok (), state) => sink.emit state rest
    | (.error e, state) => (.error e, state)

def memory : Sink Bytes where
  write received bytes := (.ok bytes.length, received ++ bytes)
  flush received := (.ok (), received)

end Sink

/-- Where a sink fails: on a write that offers bytes beyond a total of `failAbove`, by taking nothing
once `stallAt` bytes are in, or on a flush; and how much it takes at most of one write. All that is
offered counts towards the total, also what the sink would leave for a later write. -/
structure LimitedSink where
  failAbove : Option Nat
  stallAt : Option Nat
  chunk : Option Nat
  flushFails : Bool
  kind : IoKind
  deriving DecidableEq, Repr

namespace LimitedSink

def sink (limits : LimitedSink) : Sink Bytes where
  write received bytes :=
    if limits.failAbove.any (· < received.length + bytes.length) then
      (.error ⟨limits.kind, "sink closed"⟩, received)
    else if limits.stallAt.any (· ≤ received.length) then (.ok 0, received)
    else
      let taken := limits.chunk.elim bytes bytes.take
      (.ok taken.length, received ++ taken)
  flush received :=
    if limits.flushFails then (.error ⟨limits.kind, "flush failed"⟩, received)
    else (.ok (), received)

end LimitedSink

end Columnar
