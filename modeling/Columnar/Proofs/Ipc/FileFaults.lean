import Columnar.Ipc.FileReader
import Columnar.Proofs.Ipc.Faults

/-!
Faults of reading a file from bytes. Arrays of all types are read with no faults but those that can come
of bytes (`BatchBody.decodes_array`), and so are the file's dictionaries, its fields
(`FileReader.decodes_openSource`) and its first batch (`FileReader.sure_firstBatch?`).
-/
namespace Columnar.Ipc

namespace BatchBody

open Supply (sure_node sure_variadicCount sure_buffer sure_take)

variable (body : BatchBody)

private theorem decodes_slots (layout : SlotLayout) (supply : Supply) :
    Decodes (fun read => read.1.Lawful) (body.slots layout supply) := by
  cases layout with
  | nulls =>
    exact supply.sure_node.bind fun _ _ =>
      (ArrayShape.decodes_ofNulls _).bind fun _ lawful => lawful
  | truths =>
    exact supply.sure_node.bind fun _ _ => (sure_buffer _ _ _).bind fun _ _ =>
      (sure_buffer _ _ _).bind fun _ _ =>
      (ArrayShape.decodes_ofTruths _ _ _).bind fun _ lawful => lawful
  | words width =>
    refine supply.sure_node.bind fun _ _ => (sure_buffer _ _ _).bind fun _ _ =>
      (sure_buffer _ _ _).bind fun _ _ => ?_
    simp only [decodes_bind, decodes_insist]
    intro _
    exact ArrayShape.decodes_ofWords _ _ _ _
  | strings width text =>
    exact supply.sure_node.bind fun _ _ => (sure_buffer _ _ _).bind fun _ _ =>
      (sure_buffer _ _ _).bind fun _ _ => (sure_buffer _ _ _).bind fun _ _ =>
      (ArrayShape.decodes_ofStrings width text _ _ _ _).bind fun _ lawful => lawful
  | views text =>
    exact supply.sure_variadicCount.bind fun _ _ => (sure_take _ _ _ _).bind fun _ _ =>
      (sure_node _).bind fun _ _ =>
      (ArrayShape.decodes_ofViews text _ _).bind fun _ lawful => lawful

private theorem decodes_keys (id : Int) (key value : DataType) (supply : Supply) :
    Decodes (fun read => read.1.Lawful) (body.keys id key value supply) := by
  refine supply.sure_node.bind fun _ _ => (sure_buffer _ _ _).bind fun _ _ =>
    (sure_buffer _ _ _).bind fun _ _ => ?_
  dsimp only
  split
  · exact (ArrayShape.decodes_ofKeys _ _ _ _ _ _ _).bind fun _ lawful => lawful
  · trivial

private theorem sure_places (length : Nat) (supply : Supply) : Sure (body.places length supply) :=
  (sure_buffer _ _ supply).bind fun _ _ => by simp

private theorem sure_unionIndex (mode : UnionMode) (supply : Supply) :
    Sure (body.unionIndex mode supply) := by
  refine supply.sure_node.bind fun _ _ => (sure_take _ _ _ _).bind fun _ _ =>
    (sure_buffer _ _ _).bind fun _ _ => ?_
  simp only [decodes_bind, decodes_insist]
  intro _
  cases mode with
  | sparse => trivial
  | dense => exact (body.sure_places _ _).bind fun _ _ => trivial

/-- By recursion on the type, as arrays are read; of lists of fields every shape has to be lawful. -/
theorem decodes_array (id : Int) (type : DataType) (supply : Supply) :
    Decodes (fun read => read.1.Lawful) (body.array id type supply) := by
  refine BatchBody.array.induct
    (fun id type supply => Decodes (fun read => read.1.Lawful) (body.array id type supply))
    (fun members supply => Decodes (fun read => ∀ member ∈ read.1, member.2.Lawful)
      (body.members members supply))
    (fun field supply => Decodes (fun read => read.1.Lawful) (body.field field supply))
    (fun fields supply => Decodes (fun read => ∀ shape ∈ read.1, shape.Lawful)
      (body.fields fields supply))
    ?list ?largeList ?map ?fixedSizeList ?struct ?union ?runEndEncoded ?dictionary ?layout ?none
    ?field ?noFields ?fields ?noMembers ?members id type supply
  case list | largeList =>
    intro _ item supply each
    exact supply.sure_node.bind fun _ _ => (sure_buffer _ _ _).bind fun _ _ =>
      (sure_buffer _ _ _).bind fun _ _ => (each _).bind fun _ _ =>
      (ArrayShape.decodes_ofLists _ _ _ _ _ _).bind fun _ lawful => lawful
  case map =>
    intro _ entries _ supply each
    exact supply.sure_node.bind fun _ _ => (sure_buffer _ _ _).bind fun _ _ =>
      (sure_buffer _ _ _).bind fun _ _ => (each _).bind fun _ _ =>
      (ArrayShape.decodes_ofLists _ _ _ _ _ _).bind fun _ lawful => by simpa using fun _ => lawful
  case fixedSizeList =>
    intro _ item size supply each
    exact supply.sure_node.bind fun _ _ => (sure_buffer _ _ _).bind fun _ _ =>
      (each _).bind fun _ _ =>
      (ArrayShape.decodes_ofSizedLists size _ _ _ _).bind fun _ lawful => lawful
  case struct =>
    intro _ fields supply each
    exact supply.sure_node.bind fun _ _ => (sure_buffer _ _ _).bind fun _ _ =>
      (each _).bind fun _ lawful =>
      (ArrayShape.decodes_ofStructs _ _ _ lawful).bind fun _ lawful => lawful
  case union =>
    intro _ members mode supply each
    exact (body.sure_unionIndex mode supply).bind fun _ _ => (each _).bind fun _ lawful =>
      (ArrayShape.decodes_ofUnion _ _ lawful).bind fun _ lawful => lawful
  case runEndEncoded =>
    intro _ ends values supply bounds runs
    refine supply.sure_node.bind fun _ _ => (bounds _).bind fun _ _ =>
      (runs _).bind fun _ lawful => ?_
    dsimp only
    split
    · exact (ArrayShape.decodes_ofRuns _ _ _ _ lawful).bind fun _ lawful => lawful
    · trivial
  case dictionary =>
    intro id key value supply
    exact body.decodes_keys id key value supply
  case layout =>
    intro _ type supply _ _ _ _ _ _ _ _ layout found
    rw [array, found]
    · exact body.decodes_slots layout supply
    all_goals assumption
  case none =>
    intro _ type supply _ _ _ _ _ _ _ _ found
    rw [array, found]
    · trivial
    all_goals assumption
  case field =>
    intro _ _ _ _ _ _ _ own
    exact own
  case noFields =>
    intro _
    exact fun _ member => nomatch member
  case fields =>
    intro first rest supply own others
    exact own.bind fun _ lawful => (others _).bind fun _ others =>
      List.forall_mem_cons.mpr ⟨lawful, others⟩
  case noMembers =>
    intro _
    exact fun _ member => nomatch member
  case members =>
    intro _ first rest supply own others
    exact own.bind fun _ lawful => (others _).bind fun _ others =>
      List.forall_mem_cons.mpr ⟨lawful, others⟩

end BatchBody

section Read

variable (content : Bytes)

private theorem sure_io {α : Type} {result : Except IoError α}
    (named : ∀ cause, result = .error cause → cause = Source.ended ∨ cause = Source.misplaced) :
    Sure (result.mapError fun cause => Fault.rejected (.io cause)) := by
  cases result with
  | ok value => trivial
  | error cause =>
    obtain rfl | rfl := named cause rfl
    · exact .inl rfl
    · exact .inr rfl

theorem seek_ofBytes (offset : Int) :
    (Source.ofBytes content).seek offset = if offset < 0 then .error Source.misplaced
      else .ok offset.toNat :=
  rfl

private theorem sure_readPart (offset : Int) (length reads : Nat) :
    Sure (readPart (Source.ofBytes content) offset length reads) := by
  refine sure_io fun cause failed => ?_
  rw [Source.block, seek_ofBytes] at failed
  split at failed
  case isTrue => exact .inr (Except.error.inj failed).symm
  case isFalse =>
    rw [ok_bind, Source.pull_ofBytes] at failed
    split at failed
    case isTrue => cases failed
    case isFalse =>
      split at failed
      case h_1 => cases failed
      case h_2 => exact .inl (Except.error.inj failed).symm

private theorem sure_footerLength (trailer : Bytes) : Sure (footerLength trailer) := by
  rw [footerLength]
  split
  · trivial
  · dsimp only
    split <;> trivial

theorem sure_readBlock (block : FileBlock) (reads : Nat) :
    Sure (readBlock (Source.ofBytes content) block reads) := by
  have placed : Sure (((Source.ofBytes content).seek (toWord block.offset)).mapError
      fun cause => Fault.rejected (.io cause)) := by
    refine sure_io fun cause failed => ?_
    rw [seek_ofBytes] at failed
    split at failed
    · exact .inr (Except.error.inj failed).symm
    · cases failed
  refine placed.bind fun offset _ => ?_
  simp only [decodes_bind, decodes_insist]
  intro _ _
  exact sure_readPart content offset _ reads

theorem sure_messageOf (budget : Flatbuffer.Budget) (version : Int) (bytes : Bytes) :
    Sure (messageOf budget version bytes) := by
  simp only [messageOf, decodes_bind, decodes_insist]
  intro _ _
  split <;> simp

private theorem sure_dictionaryValues (table : RecordBatchTable) (version : Int) (start : Nat)
    (bytes : Bytes) (type : DataType) (dictionaries : List DictionaryValues) :
    Sure (table.dictionaryValues version start bytes type dictionaries) :=
  (sure_supply table).bind fun _ _ => (BatchBody.decodes_array _ 0 type _).bind fun _ _ => by simp

theorem sure_dictionaryOf (budget : Flatbuffer.Budget) (schema : FileSchema) (version : Int)
    (block : FileBlock) (bytes : Bytes) (dictionaries : List DictionaryValues) :
    Sure (dictionaryOf budget schema version block bytes dictionaries) := by
  refine (sure_messageOf budget version bytes).bind fun message _ => ?_
  split
  · simp only [decodes_bind, decodes_accept]
    intro _
    split
    · trivial
    · exact (sure_demand _).bind fun _ _ =>
        (sure_dictionaryValues _ _ _ _ _ _).bind fun _ _ => trivial
  · trivial

theorem sure_readDictionaries (budget : Flatbuffer.Budget) (schema : FileSchema) (version : Int)
    (blocks : List FileBlock) (dictionaries : List DictionaryValues) (reads : Nat) :
    Sure (readDictionaries (Source.ofBytes content) budget schema version blocks dictionaries
      reads) := by
  induction blocks generalizing dictionaries reads with
  | nil => trivial
  | cons block rest ih =>
    exact (sure_readBlock content block reads).bind fun _ _ =>
      (sure_dictionaryOf budget schema version block _ dictionaries).bind
        fun dictionary _ => ih (dictionary :: dictionaries) _

namespace FileReader

theorem decodes_openSource (budget : Flatbuffer.Budget) :
    Decodes (fun reader => reader.source = Source.ofBytes content)
      (openSource budget (Source.ofBytes content)) := by
  refine (sure_readPart content _ _ _).bind fun _ _ => (sure_footerLength _).bind fun length _ =>
    (sure_readPart content _ _ _).bind fun _ _ => ?_
  dsimp only
  split
  case h_1 => trivial
  case h_2 footer _ =>
    split
    case h_1 => trivial
    case h_2 =>
      refine (sure_demand footer.schema).bind fun table _ => ?_
      simp only [decodes_bind, decodes_accept]
      intro _
      refine (sure_demand table.toSchema?).imp fun schema _ => ?_
      simp only [decodes_insist]
      intro _
      exact (sure_readDictionaries content budget schema _ _ _ _).imp fun _ _ => rfl

theorem sure_firstBatch? {reader : FileReader} (source : reader.source = Source.ofBytes content)
    (fields : List (StorageType × Bool)) : Sure (reader.firstBatch? fields) := by
  rw [firstBatch?]
  split
  case h_1 => trivial
  case h_2 block _ _ =>
    have read := sure_readBlock content block reader.reads
    rw [← source] at read
    refine read.bind fun _ _ => (sure_messageOf _ _ _).bind fun message _ => ?_
    split
    · exact (sure_batch _ _ _).bind fun _ _ => trivial
    · trivial
    · trivial

end FileReader

end Read

end Columnar.Ipc
