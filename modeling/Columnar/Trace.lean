import Columnar.Error

/-!
Reported events. A conversion reports what it has done so far whether or not it succeeds in the end:
`Traced` pairs the events with the result, and `bind_result` says that the result of a sequence does
not depend on them.
-/
namespace Columnar

inductive Event where
  | transposed (rows columns : Nat)
  | builtDictionaries (entries : Nat)
  | framed (rows columns entries : Nat)
  | manyBatches (count : Nat)
  | casting (column : String) (source target : DataType)
  | parsed (rows columns : Nat)
  | read (rows columns : Nat)
  | materialised (rows columns : Nat)

inductive Level where
  | debug
  | info
  | warn
  deriving DecidableEq, Repr

def Level.name : Level → String
  | debug => "DEBUG"
  | info => "INFO"
  | warn => "WARN"

namespace Event

def level : Event → Level
  | transposed .. | builtDictionaries .. | casting .. | materialised .. => .debug
  | framed .. | parsed .. | read .. => .info
  | manyBatches .. => .warn

def text : Event → String
  | transposed rows columns => s!"Transposed {rows} rows into {columns} columns"
  | builtDictionaries entries => s!"Built dictionary provider with {entries} entries"
  | framed rows columns entries =>
    s!"Framed {rows} rows x {columns} columns ({entries} dictionary entries)"
  | manyBatches count => s!"Input holds {count} record batches; reading only the first"
  | casting column source target =>
    s!"Casting column '{column}' from {source.describe} to {target.describe}"
  | parsed rows columns => s!"Parsed {rows} rows x {columns} columns"
  | read rows columns => s!"Read {rows} rows x {columns} columns"
  | materialised rows columns => s!"Materialised {rows} x {columns} matrix"

def line (event : Event) : String :=
  event.level.name ++ " " ++ event.text

end Event

structure Traced (ε α : Type) where
  events : List Event
  result : Except ε α

namespace Traced

variable {ε α β : Type}

def ofExcept (result : Except ε α) : Traced ε α :=
  ⟨[], result⟩

def report (event : Event) : Traced ε Unit :=
  ⟨[event], .ok ()⟩

def bind (first : Traced ε α) (next : α → Traced ε β) : Traced ε β :=
  match first.result with
  | .ok value => ⟨first.events ++ (next value).events, (next value).result⟩
  | .error e => ⟨first.events, .error e⟩

instance : Monad (Traced ε) where
  pure value := ⟨[], .ok value⟩
  bind := bind

instance : MonadLift (Except ε) (Traced ε) where
  monadLift := ofExcept

@[simp] theorem bind_result (first : Traced ε α) (next : α → Traced ε β) :
    (first >>= next).result = first.result >>= fun value => (next value).result := by
  show (bind first next).result = _
  unfold bind
  cases first.result <;> rfl

@[simp] theorem pure_result (value : α) : (pure value : Traced ε α).result = .ok value := rfl

@[simp] theorem ofExcept_result (result : Except ε α) :
    (ofExcept result).result = result := rfl

end Traced

abbrev Conversion (α : Type) := Traced ConversionError α

end Columnar
