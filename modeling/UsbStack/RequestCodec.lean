import UsbStack.TestClass

/-! # Decoding and encoding of requests

`Request.parse` reads the bytes of a SETUP packet, and the test class writes a request back into
such bytes. The recipients above 4 are all read as the reserved one, which is written as 4.
-/

namespace UsbStack

set_option autoImplicit false

namespace Request

theorem exists_parse_iff (bytes : List UInt8) : (∃ req, parse bytes = .ok req) ↔ bytes.length = 8 := by
  constructor
  · rintro ⟨req, hParse⟩
    exact length_of_parse hParse
  · intro hLength
    match bytes, hLength with
    | [_, _, _, _, _, _, _, _], _ => exact ⟨_, rfl⟩

/-- `bmRequestType` as the test class writes it. -/
def typeByte (direction : UsbDirection) (requestType : RequestType) (recipient : Recipient) : UInt8 :=
  direction.toU8 ||| requestType.toU8 <<< 5 ||| recipient.toU8

/-- The field of the recipient with the values above 4 replaced by 4. -/
def reserveRecipient (rt : UInt8) : UInt8 := if rt &&& 0b11111 ≤ 4 then rt else (rt &&& 0b11100000) ||| 4

section Fields

variable (direction : UsbDirection) (requestType : RequestType) (recipient : Recipient) (rt : UInt8)

theorem direction_typeByte : .ofU8 (typeByte direction requestType recipient) = direction := by
  cases direction <;> cases requestType <;> cases recipient <;> rfl

theorem requestType_typeByte :
    .ofBits ((typeByte direction requestType recipient >>> 5) &&& 0b11) = requestType := by
  cases direction <;> cases requestType <;> cases recipient <;> rfl

theorem recipient_typeByte :
    .ofBits (typeByte direction requestType recipient &&& 0b11111) = recipient := by
  cases direction <;> cases requestType <;> cases recipient <;> rfl

theorem forall_byte {P : UInt8 → Prop} (h : ∀ k : Fin 256, P (.ofFin k)) : P rt := h rt.toFin

theorem toU8_direction : (UsbDirection.ofU8 rt).toU8 = rt &&& 0x80 := by
  apply forall_byte rt
  decide +kernel

theorem toU8_requestType : (RequestType.ofBits ((rt >>> 5) &&& 0b11)).toU8 = (rt >>> 5) &&& 0b11 := by
  apply forall_byte rt
  decide +kernel

theorem toU8_recipient (field : UInt8) :
    (Recipient.ofBits field).toU8 = if field ≤ 4 then field else 4 := by
  apply forall_byte field
  decide +kernel

theorem upper_bits :
    (rt &&& (0x80 : UInt8)) ||| ((rt >>> 5) &&& (0b11 : UInt8)) <<< (5 : UInt8) = rt &&& 0b11100000 := by
  apply forall_byte rt
  decide +kernel

theorem upper_or_lower : (rt &&& 0b11100000) ||| (rt &&& 0b11111) = rt := by
  apply forall_byte rt
  decide +kernel

theorem typeByte_fields :
    typeByte (.ofU8 rt) (.ofBits ((rt >>> 5) &&& 0b11)) (.ofBits (rt &&& 0b11111)) =
      reserveRecipient rt := by
  rw [typeByte, toU8_direction, toU8_requestType, toU8_recipient, upper_bits, reserveRecipient]
  split
  · exact upper_or_lower rt
  · rfl

end Fields

theorem toLeBytes_ofLeBytes (low high : UInt8) : toLeBytes (ofLeBytes low high) = [low, high] := by
  have hLow := low.toNat_lt
  have hHigh := high.toNat_lt
  have hNat : (ofLeBytes low high).toNat = high.toNat * 256 + low.toNat := by
    have hShift : high.toNat <<< 8 % 2 ^ 16 = high.toNat <<< 8 := by
      rw [Nat.shiftLeft_eq]
      exact Nat.mod_eq_of_lt (by omega)
    simp only [ofLeBytes, UInt16.toNat_or, UInt16.toNat_shiftLeft, UInt8.toNat_toUInt16]
    change low.toNat ||| high.toNat <<< 8 % 2 ^ 16 = _
    rw [hShift, Nat.or_comm, ← Nat.shiftLeft_add_eq_or_of_lt hLow, Nat.shiftLeft_eq]
  refine List.cons_eq_cons.mpr ⟨?_, List.cons_eq_cons.mpr ⟨?_, rfl⟩⟩
  · apply UInt8.toNat_inj.mp
    rw [UInt16.toNat_toUInt8, hNat]
    omega
  · apply UInt8.toNat_inj.mp
    rw [UInt16.toNat_toUInt8, UInt16.toNat_shiftRight, hNat]
    change (high.toNat * 256 + low.toNat) >>> 8 % 2 ^ 8 = high.toNat
    rw [Nat.shiftRight_eq_div_pow]
    omega

theorem parse_storedRequest (req : Request) : parse (TestClass.storedRequest req) = .ok req := by
  obtain ⟨direction, requestType, recipient, request, value, index, length⟩ := req
  change Except.ok (Request.mk (.ofU8 (typeByte direction requestType recipient))
    (.ofBits ((typeByte direction requestType recipient >>> 5) &&& 0b11))
    (.ofBits (typeByte direction requestType recipient &&& 0b11111)) request
    (ofLeBytes _ _) (ofLeBytes _ _) (ofLeBytes _ _)) = _
  rw [direction_typeByte, requestType_typeByte, recipient_typeByte, ofLeBytes_toLeBytes,
    ofLeBytes_toLeBytes, ofLeBytes_toLeBytes]

theorem storedRequest_parse {bytes : List UInt8} {req : Request} (h : parse bytes = .ok req) :
    TestClass.storedRequest req = bytes.modifyHead reserveRecipient := by
  have hLength := length_of_parse h
  match bytes, hLength with
  | [rt, request, value0, value1, index0, index1, length0, length1], _ =>
    cases h
    have hByte := typeByte_fields rt
    rw [typeByte] at hByte
    simp only [TestClass.storedRequest, hByte, toLeBytes_ofLeBytes]
    rfl

/-- Both ways round, and which packets are read at all. -/
theorem parse_inverse :
    (∀ bytes, (∃ req, parse bytes = .ok req) ↔ bytes.length = 8) ∧
      (∀ req, parse (TestClass.storedRequest req) = .ok req) ∧
      ∀ bytes : List UInt8, bytes.length = 8 → ∃ req, parse bytes = .ok req ∧
        TestClass.storedRequest req = bytes.modifyHead fun rt =>
          if rt &&& 0b11111 ≤ 4 then rt else (rt &&& 0b11100000) ||| 4 := by
  refine ⟨exists_parse_iff, parse_storedRequest, fun bytes hLength => ?_⟩
  obtain ⟨req, hParse⟩ := (exists_parse_iff bytes).mpr hLength
  exact ⟨req, hParse, storedRequest_parse hParse⟩

end Request

end UsbStack
