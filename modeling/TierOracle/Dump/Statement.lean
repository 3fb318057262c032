import TierOracle.Dump.Block

namespace TierOracle

inductive Field where
  | bytecodeOffset
  | functionId
  | accumulator
  | argumentCount
  | registerCount
  deriving DecidableEq, Repr

/-- The order field lines keep within a block. -/
def Field.order : List Field :=
  [.bytecodeOffset, .functionId, .accumulator, .argumentCount, .registerCount]

/-- The characters that open a line of this field, its colon included. -/
def Field.mark : Field → String
  | .bytecodeOffset => "b:"
  | .functionId => "f:"
  | .accumulator => "x:"
  | .argumentCount => "n:"
  | .registerCount => "m:"

/-- The text after the mark, if the line is one of this field. -/
def Field.value? (field : Field) (l : Line) : Option (List Char) :=
  field.mark.toList.isPrefixOf? l.text.toList

structure Fields where
  bytecodeOffset : Option Int64 := none
  functionId : Option Int64 := none
  accumulator : Option String := none
  argumentCount : Option Nat := none
  registerCount : Option Nat := none
  deriving DecidableEq, Repr

structure Write where
  slot : Slot
  index : Nat
  value : String
  deriving DecidableEq, Repr

structure Statement where
  tier : Tier
  fields : Fields := {}
  writes : List Write := []
  deriving DecidableEq, Repr

/-- A count or an index stays within the slots a frame can have. -/
def checkSlots (line value : Nat) : Except FormatError Nat :=
  if value ≤ maxSlots then .ok value else .error (.slotLimitExceeded line value maxSlots)

namespace Field

def int64 (field : Field) (line : Nat) (raw : List Char) : Except FormatError Int64 :=
  match Numeral.int64? raw with
  | some value => .ok value
  | none => .error (.invalidInteger line field.mark (String.ofList raw))

def count (field : Field) (line : Nat) (raw : List Char) : Except FormatError Nat :=
  match field.int64 line raw with
  | .error e => .error e
  | .ok value =>
    if value.toInt < 0 then .error (.negativeCount line field.mark value.toInt)
    else checkSlots line value.toInt.toNat

end Field

namespace Fields

def state (fields : Fields) (line : Nat) (raw : List Char) : Field → Except FormatError Fields
  | .bytecodeOffset =>
    (Field.bytecodeOffset.int64 line raw).map (fun v => { fields with bytecodeOffset := some v })
  | .functionId =>
    (Field.functionId.int64 line raw).map (fun v => { fields with functionId := some v })
  | .accumulator => .ok { fields with accumulator := some (String.ofList raw) }
  | .argumentCount =>
    (Field.argumentCount.count line raw).map (fun v => { fields with argumentCount := some v })
  | .registerCount =>
    (Field.registerCount.count line raw).map (fun v => { fields with registerCount := some v })

/-- Takes the field lines off the front of a body; what is left starts with no field of those
that may still come. -/
def takeFrom : List Field → Fields → List Line → Except FormatError (Fields × List Line)
  | _, fields, [] => .ok (fields, [])
  | [], fields, lines => .ok (fields, lines)
  | field :: later, fields, l :: rest =>
    match field.value? l with
    | none => takeFrom later fields (l :: rest)
    | some raw =>
      match fields.state l.number raw field with
      | .error e => .error e
      | .ok fields => takeFrom later fields rest

end Fields

namespace Write

/-- Indices beyond 64 bits are as malformed as ones that are no number. -/
def index? (cs : List Char) : Option Nat := (Numeral.ofDigits? cs).filter (· < UInt64.size)

/-- The index goes up to the first colon; all that follows is the value. -/
def ofIndexed (slot : Slot) (l : Line) (rest : List Char) : Except FormatError Write :=
  match index? (rest.takeWhile (· ≠ ':')), rest.dropWhile (· ≠ ':') with
  | some index, _ :: value =>
    (checkSlots l.number index).map (fun index => ⟨slot, index, String.ofList value⟩)
  | _, _ => .error (.malformedIndexedLine l.number l.text)

def ofLine (l : Line) : Except FormatError Write :=
  match l.text.toList with
  | [] => .error (.unexpectedLine l.number l.text)
  | c :: rest =>
    match Slot.ofMarker? c with
    | some slot => ofIndexed slot l rest
    | none => .error (.unexpectedLine l.number l.text)

end Write

namespace Statement

def ofBlock (b : Block) : Except FormatError Statement :=
  match Fields.takeFrom Field.order {} b.body with
  | .error e => .error e
  | .ok (fields, rest) => (rest.mapM Write.ofLine).map (fun writes => ⟨b.tier, fields, writes⟩)

end Statement

end TierOracle
