import Columnar.Ipc.Table
import Columnar.Schema

/-!
The fields that the field tables of a schema stand for. A table may be in order and still stand for no
field, for instance for want of a name or by a width that no type has; `FieldTable.toField?` then has
no answer.
-/
namespace Columnar.Ipc

/-- The children of a field: absent, or present and each of them a field or not. -/
abbrev Children := Option (Option (List Field))

def onlyChild? : Children → Option Field
  | some (some [child]) => some child
  | _ => none

def allChildren? : Children → Option (List Field)
  | none => some []
  | some fields => fields

def intType? (bitWidth : Int) (signed : Bool) : Option DataType :=
  if bitWidth = 8 then some (if signed then .int8 else .uint8)
  else if bitWidth = 16 then some (if signed then .int16 else .uint16)
  else if bitWidth = 32 then some (if signed then .int32 else .uint32)
  else if bitWidth = 64 then some (if signed then .int64 else .uint64)
  else none

def timeUnit? (unit : Int) : Option TimeUnit :=
  if unit = 0 then some .second
  else if unit = 1 then some .millisecond
  else if unit = 2 then some .microsecond
  else if unit = 3 then some .nanosecond
  else none

def timeType? (unit : TimeUnit) (bitWidth : Int) : Option DataType :=
  match unit with
  | .second | .millisecond => if bitWidth = 32 then some (.time32 unit) else none
  | .microsecond | .nanosecond => if bitWidth = 64 then some (.time64 unit) else none

def intervalUnit? (unit : Int) : Option IntervalUnit :=
  if unit = 0 then some .yearMonth
  else if unit = 1 then some .dayTime
  else if unit = 2 then some .monthDayNano
  else none

def decimalType? (precision scale bitWidth : Int) : Option DataType :=
  if 0 ≤ precision ∧ precision < 256 ∧ -128 ≤ scale ∧ scale < 128 then
    if bitWidth = 128 then some (.decimal128 precision scale)
    else if bitWidth = 256 then some (.decimal256 precision scale)
    else none
  else none

def unionMode? (mode : Int) : Option UnionMode :=
  if mode = 0 then some .sparse else if mode = 1 then some .dense else none

/-- The ids that the members of a union have if none are given: those from zero on, as far as the
count of members counts as a signed byte. -/
def impliedIds (members : Nat) : List Int :=
  (List.range (Int.bmod members 256).toNat).map Int.ofNat

def idPlace (id : Int) : Int :=
  id % 128

/-- The members of a union with their ids, of which there may be more or fewer than members. No two
ids that are looked at may have one place, and the first id without a member is looked at, too. -/
def unionMembers? (ids : Option (List Int)) (fields : List Field) : Option (List (Int × Field)) :=
  let ids := ids.elim (impliedIds fields.length) (·.map fun id => Int.bmod id 256)
  if ((ids.take (fields.length + 1)).map idPlace).Nodup then some (ids.zip fields) else none

def plainType? (type : TypeTable) (children : Children) : Option DataType :=
  match type with
  | .null => some .null
  | .int bitWidth signed => intType? bitWidth signed
  | .floatingPoint precision =>
    if precision = 0 then some .float16
    else if precision = 1 then some .float32
    else if precision = 2 then some .float64
    else none
  | .binary => some .binary
  | .utf8 => some .utf8
  | .bool => some .boolean
  | .decimal precision scale bitWidth => decimalType? precision scale bitWidth
  | .date unit => if unit = 0 then some .date32 else if unit = 1 then some .date64 else none
  | .time unit bitWidth => (timeUnit? unit).bind (timeType? · bitWidth)
  | .timestamp unit zone => (timeUnit? unit).map (.timestamp · zone)
  | .interval unit => (intervalUnit? unit).map .interval
  | .list => (onlyChild? children).map .list
  | .struct => (allChildren? children).map .struct
  | .union mode ids => do
    let mode ← unionMode? mode
    let members ← unionMembers? ids (← allChildren? children)
    some (.union members mode)
  | .fixedSizeBinary width => some (.fixedSizeBinary width)
  | .fixedSizeList size => (onlyChild? children).map (.fixedSizeList · size)
  | .map sorted => (onlyChild? children).map (.map · sorted)
  | .duration unit => (timeUnit? unit).map .duration
  | .largeBinary => some .largeBinary
  | .largeUtf8 => some .largeUtf8
  | .largeList => (onlyChild? children).map .largeList
  | .runEndEncoded =>
    match children with
    | some (some [ends, values]) => some (.runEndEncoded ends values)
    | _ => none
  | .binaryView => some .binaryView
  | .utf8View => some .utf8View
  | .other _ => none

/-- The type of a field, which is that of its indices and values if it refers to a dictionary. -/
def fieldType? (type : Option TypeTable) (dictionary : Option DictionaryTable)
    (children : Children) : Option DataType := do
  let value ← plainType? (← type) children
  match dictionary with
  | none => some value
  | some dictionary =>
    let (bitWidth, signed) ← dictionary.index
    some (.dictionary (← intType? bitWidth signed) value)

/-- The metadata of a list of entries; an entry without a key or a value says nothing. -/
def metadataOf (entries : Option (List KeyValue)) : Metadata :=
  Metadata.ofList ((entries.getD []).filterMap fun entry =>
    match entry.key, entry.value with
    | some key, some value => some (key, value)
    | _, _ => none)

mutual

def FieldTable.toField? : FieldTable → Option Field
  | ⟨name, nullable, type, dictionary, children, metadata⟩ => do
    let name ← name
    let dataType ← fieldType? type dictionary (FieldTable.children? children)
    let (id, ordered) := match dictionary with
      | some dictionary => (Int64.ofInt dictionary.id, dictionary.ordered)
      | none => (0, false)
    some ⟨name, dataType, nullable, id, ordered, metadataOf metadata⟩

def FieldTable.children? : Option (List FieldTable) → Children
  | none => none
  | some tables => some (FieldTable.toFields? tables)

def FieldTable.toFields? : List FieldTable → Option (List Field)
  | [] => some []
  | table :: rest => do
    let field ← table.toField?
    let fields ← FieldTable.toFields? rest
    some (field :: fields)

end

def SchemaTable.toSchema? (table : SchemaTable) : Option FileSchema := do
  let fields ← FieldTable.toFields? (← table.fields)
  some ⟨fields, metadataOf table.metadata⟩

end Columnar.Ipc
