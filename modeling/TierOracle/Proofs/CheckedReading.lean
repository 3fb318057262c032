import TierOracle.Proofs.Statements

namespace TierOracle

/-- The sum of two sizes, if it fits in 64 bits. -/
def addSizes? (a b : Nat) : Option Nat := if a + b < UInt64.size then some (a + b) else none

theorem addSizes?_of_lt {a b : Nat} (h : a + b < UInt64.size) : addSizes? a b = some (a + b) :=
  if_pos h

namespace Text

/-- The part of a text from byte `n` on, if a character starts or the text ends there. -/
def fromByte? (text : String) (n : Nat) : Option String :=
  if h : String.Pos.Raw.IsValid text ⟨n⟩ then some (text.sliceFrom (text.pos ⟨n⟩ h)).copy else none

theorem fromByte?_append (front back : String) :
    fromByte? (front ++ back) front.utf8ByteSize = some back := by
  have hvalid : String.Pos.Raw.IsValid (front ++ back) ⟨front.utf8ByteSize⟩ :=
    String.Pos.Raw.isValid_iff_exists_append.mpr ⟨front, back, rfl, rfl⟩
  have hsplits : ((front ++ back).pos ⟨front.utf8ByteSize⟩ hvalid).Splits front back :=
    ⟨rfl, rfl⟩
  rw [fromByte?, dif_pos hvalid, String.Pos.Splits.eq_right (String.Pos.splits _) hsplits]

def firstByte? (text : String) : Option UInt8 := text.toUTF8.data[0]?

theorem firstByte?_cons (c : Char) (cs : List Char) :
    firstByte? (String.ofList (c :: cs)) = (String.utf8EncodeChar c)[0]? := by
  have hbytes : (String.ofList (c :: cs)).toUTF8.data.toList =
      String.utf8EncodeChar c ++ cs.utf8Encode.data.toList := by
    rw [String.toUTF8_eq_toByteArray, String.toByteArray_ofList, List.utf8Encode_cons,
      List.utf8Encode_singleton, ByteArray.data_append, Array.toList_append,
      List.toList_data_toByteArray]
  have hpos : 0 < (String.utf8EncodeChar c).length := by
    rw [String.length_utf8EncodeChar]
    exact Char.utf8Size_pos c
  rw [firstByte?, ← Array.getElem?_toList, hbytes, List.getElem?_append_left hpos]

/-- A character below 128 is one byte, and no other character starts with that byte. -/
theorem firstByte_eq_iff {c : Char} (hc : c.utf8Size = 1) (d : Char) :
    (String.utf8EncodeChar d)[0]? = some c.toUInt8 ↔ d = c := by
  have hlow : c.toNat ≤ 127 := Char.utf8Size_eq_one_iff.mp hc
  constructor
  · intro h
    -- a longer character starts with a byte of at least 192
    have hval : d.toNat = c.toNat := by
      simp only [String.utf8EncodeChar] at h
      split_ifs at h with hd
      · have hbyte := congrArg UInt8.toNat (Option.some.inj h)
        simp only [UInt8.toNat_ofNat', Char.toUInt8, UInt32.toNat_toUInt8] at hbyte
        change d.toNat % _ = c.toNat % _ at hbyte
        change d.toNat ≤ 127 at hd
        omega
      all_goals
        have hbyte := congrArg UInt8.toNat (Option.some.inj h)
        simp only [UInt8.toNat_ofNat', Char.toUInt8, UInt32.toNat_toUInt8] at hbyte
        change _ = c.toNat % _ at hbyte
        omega
    rw [← Char.ofNat_toNat d, hval, Char.ofNat_toNat]
  · rintro rfl
    rw [String.utf8EncodeChar_eq_singleton hc]
    rfl

end Text

namespace Fields

/-- Takes field lines off a body, cutting every value out behind the bytes of its mark. -/
def takeFrom? : List Field → Fields → List Line → Option (Except FormatError (Fields × List Line))
  | _, fields, [] => some (.ok (fields, []))
  | [], fields, lines => some (.ok (fields, lines))
  | field :: later, fields, l :: rest =>
    if field.mark.toList.isPrefixOf l.text.toList then
      (Text.fromByte? l.text field.mark.utf8ByteSize).bind fun raw =>
        match fields.state l.number raw.toList field with
        | .error e => some (.error e)
        | .ok fields => takeFrom? later fields rest
    else takeFrom? later fields (l :: rest)

theorem takeFrom?_eq (order : List Field) (fields : Fields) (lines : List Line) :
    takeFrom? order fields lines = some (takeFrom order fields lines) := by
  induction order generalizing fields lines with
  | nil => cases lines <;> rfl
  | cons field later ih =>
    cases lines with
    | nil => rfl
    | cons l rest =>
      rw [takeFrom?, takeFrom]
      cases hvalue : field.value? l with
      | none =>
        have hsome : (field.value? l).isSome = field.mark.toList.isPrefixOf l.text.toList :=
          List.isSome_isPrefixOf?_eq_isPrefixOf _ _
        have hfree : ¬ field.mark.toList.isPrefixOf l.text.toList = true := by
          simp [← hsome, hvalue]
        rw [if_neg hfree, ih]
      | some raw =>
        have htext : l.text.toList = field.mark.toList ++ raw := Field.toList_of_value? hvalue
        have hcut : l.text = field.mark ++ String.ofList raw :=
          String.toList_injective (by simpa using htext)
        have hprefix : field.mark.toList.isPrefixOf l.text.toList = true :=
          List.isPrefixOf_iff_prefix.mpr ⟨raw, htext.symm⟩
        rw [if_pos hprefix, hcut, Text.fromByte?_append, Option.bind_some, String.toList_ofList]
        cases hstate : fields.state l.number raw field with
        | error e => simp only [hstate]
        | ok fields => simp only [hstate, ih]

end Fields

def Slot.ofByte? (b : UInt8) : Option Slot := Slot.all.find? (fun s => s.marker.toUInt8 == b)

theorem Slot.utf8Size_marker (slot : Slot) : slot.marker.utf8Size = 1 := by
  cases slot <;> rfl

@[simp] theorem Slot.ofByte?_marker (slot : Slot) : ofByte? slot.marker.toUInt8 = some slot := by
  cases slot <;> decide

theorem Slot.toUInt8_of_ofByte? {b : UInt8} {slot : Slot} (h : ofByte? b = some slot) :
    slot.marker.toUInt8 = b :=
  beq_iff_eq.mp (List.find?_some (p := fun s : Slot => s.marker.toUInt8 == b) h)

/-- Looking at the first byte finds the same marker as looking at the first character. -/
theorem Slot.ofByte?_firstByte (c : Char) (cs : List Char) :
    (Text.firstByte? (String.ofList (c :: cs))).bind ofByte? = ofMarker? c := by
  rw [Text.firstByte?_cons]
  cases hmarker : ofMarker? c with
  | some slot =>
    rw [Slot.ofMarker?_eq_some_iff.mp hmarker,
      (Text.firstByte_eq_iff slot.utf8Size_marker _).mpr rfl]
    exact ofByte?_marker slot
  | none =>
    apply Option.eq_none_iff_forall_ne_some.mpr
    intro slot hslot
    obtain ⟨b, hb, hof⟩ := Option.bind_eq_some_iff.mp hslot
    rw [← toUInt8_of_ofByte? hof] at hb
    obtain rfl := (Text.firstByte_eq_iff slot.utf8Size_marker c).mp hb
    rw [ofMarker?_marker] at hmarker
    cases hmarker

namespace Write

def ofLine? (l : Line) : Option (Except FormatError Write) :=
  match (Text.firstByte? l.text).bind Slot.ofByte? with
  | none => some (.error (.unexpectedLine l.number l.text))
  | some slot => (Text.fromByte? l.text 1).map (fun rest => ofIndexed slot l rest.toList)

theorem ofLine?_eq (l : Line) : ofLine? l = some (ofLine l) := by
  rw [ofLine?, ofLine]
  cases htext : l.text.toList with
  | nil =>
    have hempty : l.text = "" := String.toList_eq_nil_iff.mp htext
    rw [hempty]
    rfl
  | cons c rest =>
    have hcut : l.text = String.ofList [c] ++ String.ofList rest :=
      String.toList_injective (by simpa using htext)
    have hline : l.text = String.ofList (c :: rest) :=
      String.toList_injective (by simpa using htext)
    have hfirst : (Text.firstByte? l.text).bind Slot.ofByte? = Slot.ofMarker? c := by
      rw [hline, Slot.ofByte?_firstByte]
    rw [hfirst]
    cases hmarker : Slot.ofMarker? c with
    | none => simp only [hmarker]
    | some slot =>
      have hsize : (String.ofList [c]).utf8ByteSize = 1 := by
        rw [Slot.ofMarker?_eq_some_iff.mp hmarker]
        cases slot <;> rfl
      have hrest : Text.fromByte? l.text 1 = some (String.ofList rest) := by
        rw [← hsize, hcut, Text.fromByte?_append]
      simp only [hmarker, hrest, Option.map_some, String.toList_ofList]

def ofLines? : List Line → Option (Except FormatError (List Write))
  | [] => some (.ok [])
  | l :: rest =>
    (ofLine? l).bind fun
      | .error e => some (.error e)
      | .ok w => (ofLines? rest).map (Except.map (w :: ·))

theorem ofLines?_eq (ls : List Line) : ofLines? ls = some (ls.mapM ofLine) := by
  induction ls with
  | nil => rfl
  | cons l rest ih =>
    rw [ofLines?, ofLine?_eq, Option.bind_some, ih, List.mapM_cons]
    cases ofLine l with
    | error e => rfl
    | ok w => cases rest.mapM ofLine <;> rfl

end Write

/-- Reads a block with every cut checked. -/
def Statement.ofBlock? (b : Block) : Option (Except FormatError Statement) :=
  (Fields.takeFrom? Field.order {} b.body).bind fun
    | .error e => some (.error e)
    | .ok (fields, rest) =>
      (Write.ofLines? rest).map (Except.map (fun writes => ⟨b.tier, fields, writes⟩))

/-- Every cut made in a block is at a character: reading it always has a result. -/
theorem Statement.ofBlock?_eq (b : Block) : ofBlock? b = some (ofBlock b) := by
  rw [ofBlock?, Fields.takeFrom?_eq, Option.bind_some, ofBlock]
  cases Fields.takeFrom Field.order {} b.body with
  | error e => rfl
  | ok taken =>
    simp only [Write.ofLines?_eq, Option.map_some]

end TierOracle
