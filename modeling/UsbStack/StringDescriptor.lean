import UsbStack.DescriptorWalk

/-! # String descriptors

The encoder writes two bytes for each UTF-16 unit after a check for one byte, and the length byte
is the low byte of the length. So it is exact, or refuses, only for some lengths of the string and
of the rest of the buffer.
-/

namespace UsbStack

set_option autoImplicit false

open Foundation Exec

def charAt (n : Nat) : Option Char := if h : n.isValidChar then some (Char.ofNatAux n h) else none

theorem charAt_toNat (c : Char) : charAt c.toNat = some c := by
  have hValid : c.toNat.isValidChar := c.valid
  rw [charAt, dif_pos hValid]
  exact congrArg some (Char.ext rfl)

/-- A surrogate that is not part of a pair is not decoded. -/
def decodeUtf16 : List UInt16 → Option (List Char)
  | [] => some []
  | unit :: rest =>
    if 0xD800 ≤ unit.toNat ∧ unit.toNat ≤ 0xDBFF then
      match rest with
      | [] => none
      | low :: rest =>
        if 0xDC00 ≤ low.toNat ∧ low.toNat ≤ 0xDFFF then do
          let c ← charAt (0x10000 + (unit.toNat - 0xD800) * 0x400 + (low.toNat - 0xDC00))
          let later ← decodeUtf16 rest
          pure (c :: later)
        else none
    else do
      let c ← charAt unit.toNat
      let later ← decodeUtf16 rest
      pure (c :: later)

theorem toNat_surrogates {v : UInt32} (hLow : 0x10000 ≤ v.toNat) (hHigh : v.toNat < 0x110000) :
    ((0xD800 : UInt16) + ((v - 0x10000) >>> 10).toUInt16).toNat = 0xD800 + (v.toNat - 0x10000) / 0x400 ∧
      ((0xDC00 : UInt16) + ((v - 0x10000) &&& 0x3FF).toUInt16).toNat =
        0xDC00 + (v.toNat - 0x10000) % 0x400 := by
  have hRest : (v - 0x10000).toNat = v.toNat - 0x10000 :=
    UInt32.toNat_sub_of_le _ _ (UInt32.le_iff_toNat_le.mpr hLow)
  constructor
  · have hShift : ((v - 0x10000) >>> 10).toNat = (v.toNat - 0x10000) / 0x400 := by
      rw [UInt32.toNat_shiftRight, hRest, Nat.shiftRight_eq_div_pow]
      rfl
    rw [UInt16.toNat_add, UInt32.toNat_toUInt16, hShift]
    change (0xD800 + _) % 65536 = _
    omega
  · have hMask : ((v - 0x10000) &&& 0x3FF).toNat = (v.toNat - 0x10000) % 0x400 := by
      rw [UInt32.toNat_and, hRest]
      exact Nat.and_two_pow_sub_one_eq_mod _ 10
    rw [UInt16.toNat_add, UInt32.toNat_toUInt16, hMask]
    change (0xDC00 + _) % 65536 = _
    omega

/-- Decoding takes off one character. -/
theorem decodeUtf16_encodeChar (c : Char) (rest : List UInt16) :
    decodeUtf16 (encodeChar c ++ rest) = (decodeUtf16 rest).map (c :: ·) := by
  have hValid : c.toNat < 0xD800 ∨ 0xDFFF < c.toNat ∧ c.toNat < 0x110000 := c.valid
  have hNat : c.val.toNat = c.toNat := rfl
  rw [encodeChar]
  split
  · rename_i hSmall
    have hLt : c.toNat < 0x10000 := UInt32.lt_iff_toNat_lt.mp hSmall
    have hUnit : c.val.toUInt16.toNat = c.toNat := by
      rw [UInt32.toNat_toUInt16, hNat, Nat.mod_eq_of_lt hLt]
    rw [List.singleton_append, decodeUtf16.eq_def]
    dsimp only
    rw [hUnit, if_neg (by omega), charAt_toNat]
    cases decodeUtf16 rest <;> rfl
  · rename_i hLarge
    have hGe : 0x10000 ≤ c.toNat := Nat.not_lt.mp fun hLt => hLarge (UInt32.lt_iff_toNat_lt.mpr hLt)
    obtain ⟨hHigh, hLow⟩ := toNat_surrogates (v := c.val) hGe (by omega)
    rw [List.cons_append, List.singleton_append, decodeUtf16]
    have hPoint : 0x10000 + (c.toNat - 0x10000) / 0x400 * 0x400 + (c.toNat - 0x10000) % 0x400 =
        c.toNat := by omega
    rw [hHigh, hLow, hNat, if_pos (by omega), if_pos (by omega), Nat.add_sub_cancel_left,
      Nat.add_sub_cancel_left, hPoint, charAt_toNat]
    cases decodeUtf16 rest <;> rfl

theorem decodeUtf16_encodeUtf16 (string : String) :
    decodeUtf16 (encodeUtf16 string) = some string.toList := by
  rw [encodeUtf16]
  induction string.toList with
  | nil => rfl
  | cons c rest ih => rw [List.flatMap_cons, decodeUtf16_encodeChar, ih, Option.map_some]

def encodeUtf16Le (string : String) : List UInt8 := (encodeUtf16 string).flatMap toLeBytes

def leUnits : List UInt8 → Option (List UInt16)
  | [] => some []
  | [_] => none
  | low :: high :: rest => (leUnits rest).map (Request.ofLeBytes low high :: ·)

def decodeUtf16Le (bytes : List UInt8) : Option (List Char) := (leUnits bytes).bind decodeUtf16

theorem leUnits_flatMap (units : List UInt16) : leUnits (units.flatMap toLeBytes) = some units := by
  induction units with
  | nil => rfl
  | cons unit rest ih =>
    change (leUnits (rest.flatMap toLeBytes)).map _ = _
    rw [ih, Option.map_some, Request.ofLeBytes_toLeBytes]

theorem decodeUtf16Le_encodeUtf16Le (string : String) :
    decodeUtf16Le (encodeUtf16Le string) = some string.toList := by
  rw [decodeUtf16Le, encodeUtf16Le, leUnits_flatMap, Option.bind_some, decodeUtf16_encodeUtf16]

theorem length_flatMap_toLeBytes (units : List UInt16) :
    (units.flatMap toLeBytes).length = 2 * units.length := by
  induction units with
  | nil => rfl
  | cons unit rest ih =>
    rw [List.flatMap_cons, List.length_append, ih, List.length_cons]
    change 2 + _ = _
    omega

namespace DescriptorWriter

variable {w : DescriptorWriter} {units : List UInt16} {pos : Nat}

theorem copyTo_of_lt {start stop : Nat} {data : List UInt8} (hStop : w.buf.length < stop) :
    copyTo start stop data w = .panic .sliceIndex := by
  rw [copyTo, bind_apply, get_apply]
  dsimp only
  rw [slice?_eq_none hStop]
  rfl

theorem stringUnits_cons (c : UInt16) (rest : List UInt16) (pos : Nat) (w : DescriptorWriter) :
    stringUnits (c :: rest) pos w =
      if w.buf.length ≤ pos then .done (.error .bufferOverflow) w
      else if w.buf.length < pos + 2 then .panic .sliceIndex
      else stringUnits rest (pos + 2) { w with buf := overwrite w.buf pos (toLeBytes c) } := by
  rw [stringUnits, bind_apply, get_apply]
  dsimp only
  split
  · rfl
  · split
    · rw [bind_of_panic (copyTo_of_lt ‹_›)]
    · rw [bind_of_ok (copyTo_apply (Nat.le_add_right _ _) (Nat.not_lt.mp ‹_›))]

theorem stringUnits_of_le (hRoom : pos + 2 * units.length ≤ w.buf.length) :
    stringUnits units pos w = .done (.ok (pos + 2 * units.length))
      { w with buf := overwrite w.buf pos (units.flatMap toLeBytes) } := by
  induction units generalizing pos w with
  | nil =>
    have hNothing : overwrite w.buf pos [] = w.buf := by
      rw [overwrite, List.append_nil, List.length_nil, Nat.add_zero, List.take_append_drop]
    rw [List.flatMap_nil, hNothing]
    rfl
  | cons c rest ih =>
    rw [List.length_cons] at hRoom
    have hLength : (overwrite w.buf pos (toLeBytes c)).length = w.buf.length := by
      refine length_overwrite ?_
      change pos + 2 ≤ _
      omega
    rw [stringUnits_cons, if_neg (by omega), if_neg (by omega), ih (by dsimp only; omega)]
    have hFlat : overwrite (overwrite w.buf pos (toLeBytes c)) (pos + 2) (rest.flatMap toLeBytes) =
        overwrite w.buf pos ((c :: rest).flatMap toLeBytes) := by
      refine overwrite_overwrite (toLeBytes c) (rest.flatMap toLeBytes) ?_
      rw [length_flatMap_toLeBytes]
      change pos + 2 + _ ≤ _
      omega
    dsimp only
    rw [hFlat, List.length_cons, Nat.mul_succ, Nat.add_right_comm, Nat.add_assoc]

theorem stringUnits_of_lt (hRoom : w.buf.length < pos + 2 * units.length)
    (hPos : pos ≤ w.buf.length) :
    ((w.buf.length - pos) % 2 = 0 →
      ∃ buf, stringUnits units pos w = .done (.error .bufferOverflow) { w with buf := buf }) ∧
    ((w.buf.length - pos) % 2 = 1 → stringUnits units pos w = .panic .sliceIndex) := by
  induction units generalizing pos w with
  | nil =>
    rw [List.length_nil] at hRoom
    omega
  | cons c rest ih =>
    rw [List.length_cons] at hRoom
    rw [stringUnits_cons]
    split
    · exact ⟨fun _ => ⟨w.buf, rfl⟩, fun hOdd => by omega⟩
    · split
      · exact ⟨fun hEven => by omega, fun _ => rfl⟩
      · have hLength : (overwrite w.buf pos (toLeBytes c)).length = w.buf.length := by
          refine length_overwrite ?_
          change pos + 2 ≤ _
          omega
        have hRest := @ih { w with buf := overwrite w.buf pos (toLeBytes c) } (pos + 2)
          (by dsimp only; omega) (by dsimp only; omega)
        dsimp only at hRest
        rw [hLength] at hRest
        refine ⟨fun hEven => hRest.1 (by omega), fun hOdd => hRest.2 (by omega)⟩

def stringHeader (w : DescriptorWriter) : DescriptorWriter :=
  { w with buf := (w.buf.set w.position 0).set (w.position + 1) DescriptorType.string }

theorem string_apply (string : String) (w : DescriptorWriter) :
    DescriptorWriter.string string w =
      if w.buf.length < w.position + 2 then .done (.error .bufferOverflow) w
      else (do
        let pos ← stringUnits (encodeUtf16 string) (w.position + 2)
        setByte w.position (pos - w.position).toUInt8
        modify fun w => { w with position := pos } : WriterM Unit) w.stringHeader := by
  rw [DescriptorWriter.string, bind_apply, get_apply]
  dsimp only
  split
  · rfl
  · rename_i hRoom
    rw [bind_of_ok (setByte_apply (by omega) _),
      bind_of_ok (setByte_apply (by dsimp only; rw [List.length_set]; omega) _)]
    rfl

theorem length_stringHeader (w : DescriptorWriter) :
    w.stringHeader.buf.length = w.buf.length := by
  rw [stringHeader, List.length_set, List.length_set]

theorem getElem?_stringHeader (hRoom : w.position + 2 ≤ w.buf.length) :
    w.stringHeader.buf[w.position + 1]? = some DescriptorType.string := by
  rw [stringHeader, List.getElem?_set_self]
  rw [List.length_set]
  omega

/-- A string that fits is written as its descriptor. -/
theorem string_of_le {string : String}
    (hRoom : w.position + (2 + 2 * (encodeUtf16 string).length) ≤ w.buf.length) :
    ∃ w', DescriptorWriter.string string w = .done (.ok ()) w' ∧
      w'.position = w.position + (2 + 2 * (encodeUtf16 string).length) ∧
      (w'.buf.take w'.position).drop w.position =
        descriptorBytes DescriptorType.string (encodeUtf16Le string) := by
  have hLength := length_stringHeader w
  have hUnits := length_flatMap_toLeBytes (encodeUtf16 string)
  have hBytes : (encodeUtf16Le string).length = 2 * (encodeUtf16 string).length := hUnits
  have hStart : w.position + 2 ≤ w.stringHeader.buf.length := by omega
  have hWhole : (overwrite w.stringHeader.buf (w.position + 2) (encodeUtf16Le string)).length =
      w.buf.length := by
    rw [length_overwrite (by omega), hLength]
  rw [string_apply, if_neg (by omega), bind_of_ok (stringUnits_of_le (by omega)),
    bind_of_ok (setByte_apply (by dsimp only; rw [← encodeUtf16Le, hWhole]; omega) _)]
  refine ⟨_, rfl, by dsimp only; omega, ?_⟩
  dsimp only
  rw [← encodeUtf16Le]
  apply List.ext_getElem?
  intro k
  have hType := getElem?_stringHeader (w := w) (by omega)
  simp only [List.getElem?_drop, List.getElem?_take, List.getElem?_set, hWhole,
    getElem?_overwrite hStart, hBytes, descriptorBytes, List.getElem?_cons]
  grind

/-- A string that does not fit is refused, or panics over an odd byte. -/
theorem string_of_lt {string : String}
    (hRoom : w.buf.length < w.position + (2 + 2 * (encodeUtf16 string).length)) :
    (w.buf.length - w.position < 2 ∨ (w.buf.length - w.position) % 2 = 0 →
      ∃ w', DescriptorWriter.string string w = .done (.error .bufferOverflow) w' ∧
        w'.position = w.position) ∧
    (¬ (w.buf.length - w.position < 2 ∨ (w.buf.length - w.position) % 2 = 0) →
      DescriptorWriter.string string w = .panic .sliceIndex) := by
  have hLength := length_stringHeader w
  rw [string_apply]
  split
  · exact ⟨fun _ => ⟨w, rfl, rfl⟩, fun hNot => absurd (.inl (by omega)) hNot⟩
  · obtain ⟨hEven, hOdd⟩ := @stringUnits_of_lt w.stringHeader (encodeUtf16 string) (w.position + 2)
      (by omega) (by omega)
    constructor
    · intro hRest
      obtain ⟨buf, hUnits⟩ := hEven (by omega)
      exact ⟨{ w.stringHeader with buf := buf }, bind_of_error hUnits, rfl⟩
    · intro hRest
      exact bind_of_panic (hOdd (by omega))

end DescriptorWriter

section String

variable (string : String) (w : DescriptorWriter)

/-- The descriptor is at most 255 bytes long and fits in the rest of the buffer. -/
def StringFits : Prop :=
  2 + 2 * (encodeUtf16 string).length ≤ 255 ∧
    w.position + (2 + 2 * (encodeUtf16 string).length) ≤ w.buf.length

/-- The encoder writes a descriptor that decodes to the string if it fits, and otherwise refuses
the string and stays where it was. -/
def StringExact : Prop :=
  (StringFits string w → ∃ w', DescriptorWriter.string string w = .done (.ok ()) w' ∧
    w'.position = w.position + (2 + 2 * (encodeUtf16 string).length) ∧
    (w'.buf.take w'.position).drop w.position =
      UInt8.ofNat (2 + 2 * (encodeUtf16 string).length) :: DescriptorType.string ::
        encodeUtf16Le string ∧
    decodeUtf16Le (((w'.buf.take w'.position).drop w.position).drop 2) = some string.toList) ∧
  (¬ StringFits string w → ∃ w', DescriptorWriter.string string w =
    .done (.error .bufferOverflow) w' ∧ w'.position = w.position)

/-- The descriptor fits, or it is too long for a rest of the buffer that is even or shorter than
two bytes. -/
def StringRoom : Prop :=
  let size := 2 + 2 * (encodeUtf16 string).length
  let rest := w.buf.length - w.position
  size ≤ rest ∧ size ≤ 255 ∨ rest < size ∧ (rest < 2 ∨ rest % 2 = 0)

end String

open DescriptorWriter

theorem stringExact_of_fits {string : String} {w : DescriptorWriter} (hFits : StringFits string w) :
    StringExact string w := by
  refine ⟨fun _ => ?_, fun hNot => absurd hFits hNot⟩
  obtain ⟨w', hDone, hPosition, hBytes⟩ := string_of_le hFits.2
  have hLength : (encodeUtf16Le string).length + 2 = 2 + 2 * (encodeUtf16 string).length := by
    rw [encodeUtf16Le, length_flatMap_toLeBytes, Nat.add_comm]
  refine ⟨w', hDone, hPosition, ?_, ?_⟩
  · rw [hBytes, descriptorBytes, hLength]
  · rw [hBytes]
    exact decodeUtf16Le_encodeUtf16Le string

/-- The string encoder is exact or refuses the string exactly when the descriptor fits, or the rest
of the buffer is too short for it and even or shorter than two bytes. -/
theorem stringExact_iff (string : String) (w : DescriptorWriter) :
    StringExact string w ↔ StringRoom string w := by
  by_cases hFits : StringFits string w
  · refine iff_of_true (stringExact_of_fits hFits) (.inl ?_)
    exact ⟨Nat.le_sub_of_add_le' hFits.2, hFits.1⟩
  rcases Nat.lt_or_ge w.buf.length (w.position + (2 + 2 * (encodeUtf16 string).length)) with
    hLt | hLe
  · obtain ⟨hEven, hOdd⟩ := string_of_lt hLt
    constructor
    · intro hExact
      obtain ⟨w', hDone, -⟩ := hExact.2 hFits
      refine .inr ⟨by omega, ?_⟩
      by_contra hRest
      cases (hOdd hRest).symm.trans hDone
    · intro hRoom
      have hRest : w.buf.length - w.position < 2 ∨ (w.buf.length - w.position) % 2 = 0 := by
        rcases hRoom with hRoom | hRoom
        · omega
        · exact hRoom.2
      exact ⟨fun h => absurd h hFits, fun _ => hEven hRest⟩
  · -- The descriptor fits in the buffer but not in its length byte.
    have hLong : 255 < 2 + 2 * (encodeUtf16 string).length := by
      by_contra hByte
      exact hFits ⟨by omega, hLe⟩
    obtain ⟨w', hDone, -⟩ := string_of_le hLe
    constructor
    · intro hExact
      obtain ⟨w'', hRefused, -⟩ := hExact.2 hFits
      cases hDone.symm.trans hRefused
    · rintro (hRoom | hRoom)
      · exact absurd hRoom.2 (by omega)
      · exact absurd hRoom.1 (by omega)

/-- An odd rest of the buffer makes the writer panic, and the length of a long string wraps. -/
theorem not_stringExact :
    (DescriptorWriter.string "ab" (.new [0, 0, 0, 0, 0]) = .panic .sliceIndex ∧
      ¬ StringExact "ab" (.new [0, 0, 0, 0, 0])) ∧
    (∃ w', DescriptorWriter.string (String.ofList (List.replicate 127 'a'))
        (.new (List.replicate 256 0)) = .done (.ok ()) w' ∧ w'.position = 256 ∧
        w'.buf[0]? = some 0) ∧
      ¬ StringExact (String.ofList (List.replicate 127 'a')) (.new (List.replicate 256 0)) := by
  constructor
  · have hPanic : DescriptorWriter.string "ab" (.new [0, 0, 0, 0, 0]) = .panic .sliceIndex := rfl
    have hFits : ¬ StringFits "ab" (.new [0, 0, 0, 0, 0]) := by
      intro h
      exact absurd h.2 (by decide +kernel)
    refine ⟨hPanic, fun hExact => ?_⟩
    obtain ⟨w', hRefused, -⟩ := hExact.2 hFits
    cases hPanic.symm.trans hRefused
  · have hUnits : (encodeUtf16 (String.ofList (List.replicate 127 'a'))).length = 127 := by
      rw [encodeUtf16, String.toList_ofList]
      decide +kernel
    have hBytes : (encodeUtf16Le (String.ofList (List.replicate 127 'a'))).length = 254 := by
      rw [encodeUtf16Le, length_flatMap_toLeBytes, hUnits]
    have hRoom : (DescriptorWriter.new (List.replicate 256 0)).position +
        (2 + 2 * (encodeUtf16 (String.ofList (List.replicate 127 'a'))).length) ≤
          (DescriptorWriter.new (List.replicate 256 0)).buf.length := by
      rw [hUnits]
      decide +kernel
    obtain ⟨w', hDone, hPosition, hWritten⟩ := string_of_le hRoom
    rw [hUnits] at hPosition
    have hFirst : w'.buf[0]? = some 0 := by
      have hHead := congrArg (·[0]?) hWritten
      rw [hPosition] at hHead
      refine (List.getElem?_take_of_lt (by decide : 0 < 256)).symm.trans (hHead.trans ?_)
      rw [descriptorBytes, hBytes]
      rfl
    have hFits : ¬ StringFits (String.ofList (List.replicate 127 'a'))
        (.new (List.replicate 256 0)) := by
      intro h
      have hByte := h.1
      rw [hUnits] at hByte
      exact absurd hByte (by decide)
    refine ⟨⟨w', hDone, hPosition, hFirst⟩, fun hExact => ?_⟩
    obtain ⟨w'', hRefused, -⟩ := hExact.2 hFits
    cases hDone.symm.trans hRefused

end UsbStack
