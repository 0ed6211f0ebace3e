import Columnar.Column
import Columnar.Dictionary.Encoding
import Columnar.Trace

/-!
Dictionary providers: one encoding for every column of a batch, found by its id or by the position of
its column. The columns whose fields declare an encoding claim their ids first; each other column, in
order, gets the least id from its position on that nobody holds (`freeIdFrom`).
-/
namespace Columnar

structure DictionaryEntry where
  position : Nat
  column : Column
  encoding : DictionaryEncoding
  synthesized : Bool
  deriving DecidableEq, Repr

structure DictionaryProvider where
  entries : List DictionaryEntry
  deriving DecidableEq, Repr

namespace DictionaryProvider

def empty : DictionaryProvider :=
  ⟨[]⟩

def size (provider : DictionaryProvider) : Nat :=
  provider.entries.length

def ids (provider : DictionaryProvider) : List Int64 :=
  provider.entries.map (·.encoding.id)

def get? (provider : DictionaryProvider) (id : Int64) : Option DictionaryEntry :=
  provider.entries.find? (·.encoding.id = id)

def forColumn? (provider : DictionaryProvider) (position : Nat) : Option DictionaryEntry :=
  provider.entries.find? (·.position = position)

/-- An entry put in its place among entries in ascending order of their ids. -/
def place (entry : DictionaryEntry) : List DictionaryEntry → List DictionaryEntry
  | [] => [entry]
  | head :: rest =>
    if entry.encoding.id < head.encoding.id then entry :: head :: rest
    else head :: place entry rest

def insert (provider : DictionaryProvider) (entry : DictionaryEntry) :
    Except Malformation DictionaryProvider :=
  match provider.get? entry.encoding.id with
  | some held => .error (.dictionaryClash entry.encoding.id held.position entry.position)
  | none => .ok ⟨place entry provider.entries⟩

/-- The first of `id`, `id + 1`, … that is not held, within `fuel` steps. -/
def freeIdFrom (held : List Int64) : Nat → Int64 → Int64
  | 0, id => id
  | fuel + 1, id => if id ∈ held then freeIdFrom held fuel (id + 1) else id

/-- The encoding for an undeclared column. There are no more steps to take than there are ids. -/
def freeIdentity (provider : DictionaryProvider) (position : Nat) : DictionaryEncoding :=
  let start := DictionaryEncoding.identity position
  { start with id := freeIdFrom provider.ids provider.size start.id }

structure Placed where
  position : Nat
  column : Column
  field : Field

def placed (columns : List Column) (fields : List Field) : List Placed :=
  (columns.zip fields).zipIdx.map fun ((column, field), position) => ⟨position, column, field⟩

/-- Claims the declared ids; answers with the columns that declare none. -/
def claimDeclared : DictionaryProvider → List Placed →
    Except Malformation (DictionaryProvider × List Placed)
  | provider, [] => .ok (provider, [])
  | provider, item :: rest => do
    match ← DictionaryEncoding.declared item.field with
    | some encoding =>
      let provider ← provider.insert ⟨item.position, item.column, encoding, false⟩
      claimDeclared provider rest
    | none =>
      let (provider, undeclared) ← claimDeclared provider rest
      .ok (provider, item :: undeclared)

/-- Gives each column that declares no encoding one of its own. -/
def claimFree : DictionaryProvider → List Placed → Except Malformation DictionaryProvider
  | provider, [] => .ok provider
  | provider, item :: rest => do
    let encoding := provider.freeIdentity item.position
    let provider ← provider.insert ⟨item.position, item.column, encoding, true⟩
    claimFree provider rest

def build (columns : List Column) (fields : List Field) :
    Except Malformation DictionaryProvider :=
  if columns.length ≠ fields.length then .error (.fieldCount columns.length fields.length)
  else do
    let (provider, undeclared) ← claimDeclared empty (placed columns fields)
    claimFree provider undeclared

def tracedBuild (columns : List Column) (fields : List Field) : Conversion DictionaryProvider := do
  let provider ← (build columns fields).mapError ConversionError.malformedInput
  Traced.report (.builtDictionaries provider.size)
  pure provider

def annotateFields (provider : DictionaryProvider) (fields : List Field) : List Field :=
  fields.zipIdx.map fun (field, position) =>
    match provider.forColumn? position with
    | some entry => entry.encoding.annotate field entry.synthesized
    | none => field

end DictionaryProvider

end Columnar
