import UsbStack.Config
import UsbStack.Class

/-! # The test class

The class with which drivers are tested. Its vendor requests write and read a buffer, and it echoes
what it receives on its bulk and interrupt endpoints.
-/

namespace UsbStack

set_option autoImplicit false

open Foundation

/-- The module `sizes`, which depends on the feature `test-class-high-speed`. -/
structure Sizes where
  buffer : Nat
  controlEndpoint : UInt8
  bulkEndpoint : UInt16
  interruptEndpoint : UInt16

namespace Sizes

def fullSpeed : Sizes := ⟨256, 8, 64, 31⟩

def highSpeed : Sizes := ⟨2048, 64, 512, 1024⟩

end Sizes

/-- An array `[u8; size]`. -/
abbrev Buffer (size : Nat) := { bytes : List UInt8 // bytes.length = size }

namespace Buffer

variable {size : Nat}

def zeros (size : Nat) : Buffer size := ⟨List.replicate size 0, List.length_replicate⟩

/-- `buf[start..start + data.len()].copy_from_slice(data)`, when the range is valid. -/
def store? (buf : Buffer size) (start : Nat) (data : List UInt8) : Option (Buffer size) :=
  if h : start + data.length ≤ size then
    some ⟨overwrite buf.val start data, (length_overwrite (buf.property.symm ▸ h)).trans buf.property⟩
  else none

end Buffer

structure TestClass (sizes : Sizes) where
  customString : StringIndex
  interfaceString : StringIndex
  iface : InterfaceNumber
  epBulkIn : ClassEndpoint
  epBulkOut : ClassEndpoint
  epInterruptIn : ClassEndpoint
  epInterruptOut : ClassEndpoint
  epIsoIn : ClassEndpoint
  controlBuf : Buffer sizes.buffer
  bulkBuf : Buffer sizes.buffer
  interruptBuf : Buffer sizes.buffer
  len : Nat
  i : Nat
  bench : Bool
  expectBulkInComplete : Bool
  expectBulkOut : Bool
  expectInterruptInComplete : Bool
  expectInterruptOut : Bool

namespace TestClass

def customStringText : String := "TestClass Custom String"

def interfaceStringText : String := "TestClass Interface"

def reqStoreRequest : UInt8 := 1
def reqReadBuffer : UInt8 := 2
def reqWriteBuffer : UInt8 := 3
def reqSetBenchEnabled : UInt8 := 4
def reqReadLongData : UInt8 := 5

def longData : List UInt8 := List.replicate 257 0x17

variable {sizes : Sizes}

/-- `new`, with the handles that the allocator gives out. -/
def new (customString interfaceString : StringIndex) (iface : InterfaceNumber)
    (epBulkIn epBulkOut epInterruptIn epInterruptOut epIsoIn : ClassEndpoint) : TestClass sizes where
  customString := customString
  interfaceString := interfaceString
  iface := iface
  epBulkIn := epBulkIn
  epBulkOut := epBulkOut
  epInterruptIn := epInterruptIn
  epInterruptOut := epInterruptOut
  epIsoIn := epIsoIn
  controlBuf := .zeros _
  bulkBuf := .zeros _
  interruptBuf := .zeros _
  len := 0
  i := 0
  bench := false
  expectBulkInComplete := false
  expectBulkOut := false
  expectInterruptInComplete := false
  expectInterruptOut := false

/-- A call of the bus after which the class goes on if it succeeds or would block. -/
def orBlock {α : Type} (result : Except UsbError α) (cls : TestClass sizes)
    (next : α → ClassM (TestClass sizes)) : ClassM (TestClass sizes) :=
  match result with
  | .ok a => next a
  | .error .wouldBlock => .ret cls
  | .error _ => .panic

def readFrom (ep : ClassEndpoint) (len : Nat) : ClassM (Except UsbError (List UInt8)) :=
  .perform (EndpointCall.read ep len)

def writeTo (ep : ClassEndpoint) (data : List UInt8) : ClassM (Except UsbError Nat) :=
  .perform (EndpointCall.write ep data)

def writeBulkIn (writeEmpty : Bool) (cls : TestClass sizes) : ClassM (TestClass sizes) :=
  if cls.len < cls.i then .panic
  else
    let toWrite := min (cls.len - cls.i) cls.epBulkIn.maxPacketSize.toNat
    if toWrite = 0 ∧ writeEmpty = false then .ret { cls with len := 0, i := 0 }
    else match slice? cls.bulkBuf.val cls.i (cls.i + toWrite) with
      | none => .panic
      | some packet => do
        let result ← writeTo cls.epBulkIn packet
        orBlock result cls fun count =>
          if count = toWrite then
            .ret { cls with expectBulkInComplete := true, i := cls.i + count }
          else .panic

/-- The transfers of the bench mode, whose contents do not matter. -/
def pollBench (cls : TestClass sizes) : ClassM (TestClass sizes) := do
  let result ← readFrom cls.epBulkOut sizes.buffer
  let cls ← orBlock result cls fun packet =>
    match cls.bulkBuf.store? 0 packet with
    | none => .panic
    | some bulkBuf => .ret { cls with bulkBuf := bulkBuf }
  match slice? cls.bulkBuf.val 0 cls.epBulkIn.maxPacketSize.toNat with
  | none => .panic
  | some packet => do
    let result ← writeTo cls.epBulkIn packet
    orBlock result cls fun _ => .ret cls

/-- A packet on the bulk OUT endpoint; a short one ends the message, which is then echoed. -/
def pollBulk (cls : TestClass sizes) : ClassM (TestClass sizes) :=
  if sizes.buffer < cls.i then .panic
  else do
    let result ← readFrom cls.epBulkOut (sizes.buffer - cls.i)
    orBlock result cls fun packet =>
      match cls.bulkBuf.store? cls.i packet with
      | none => .panic
      | some bulkBuf =>
        if cls.expectBulkOut = false then .panic
        else
          let cls := { cls with
            bulkBuf := bulkBuf
            expectBulkOut := false
            i := cls.i + packet.length }
          if packet.length < cls.epBulkOut.maxPacketSize.toNat then
            writeBulkIn (packet.length = 0) { cls with len := cls.i, i := 0 }
          else .ret cls

def pollInterrupt (cls : TestClass sizes) : ClassM (TestClass sizes) := do
  let result ← readFrom cls.epInterruptOut sizes.buffer
  orBlock result cls fun packet =>
    match cls.interruptBuf.store? 0 packet with
    | none => .panic
    | some interruptBuf =>
      if cls.expectInterruptOut = false then .panic
      else do
        let cls := { cls with interruptBuf := interruptBuf, expectInterruptOut := false }
        match ← writeTo cls.epInterruptIn packet with
        | .ok _ => .ret { cls with expectInterruptInComplete := true }
        | .error _ => .panic

/-- The method that the application calls after it has polled the device. -/
def poll (cls : TestClass sizes) : ClassM (TestClass sizes) :=
  if cls.bench then cls.pollBench
  else do
    let cls ← cls.pollBulk
    cls.pollInterrupt

/-- `.expect(..)` on the answer to a control request. -/
def expect (cls : TestClass sizes) (result : Except UsbError Unit) : ClassM (TestClass sizes) :=
  match result with
  | .ok _ => .ret cls
  | .error _ => .panic

def Owns (req : Request) : Prop := req.requestType = .vendor ∧ req.recipient = .device

instance (req : Request) : Decidable (Owns req) := inferInstanceAs (Decidable (_ ∧ _))

def controlIn (cls : TestClass sizes) (req : Request) : InResponse (TestClass sizes) :=
  if ¬ Owns req then .ignore cls
  else if req.request = reqReadBuffer ∧ req.length.toNat ≤ sizes.buffer then
    .acceptWith (cls.controlBuf.val.take req.length.toNat) cls.expect
  else if req.request = reqReadLongData then .acceptWithStatic longData cls.expect
  else .reject cls.expect

/-- The bytes that REQ_STORE_REQUEST leaves at the front of the buffer. -/
def storedRequest (req : Request) : List UInt8 :=
  [req.direction.toU8 ||| req.requestType.toU8 <<< 5 ||| req.recipient.toU8, req.request] ++
    toLeBytes req.value ++ toLeBytes req.index ++ toLeBytes req.length

/-- The answer to a request that changes the class, or a panic when the change is out of range. -/
def acceptChanged (changed : Option (TestClass sizes)) : ClassM (OutResponse (TestClass sizes)) :=
  match changed with
  | none => .panic
  | some cls => .ret (.accept cls.expect)

def storeControl (cls : TestClass sizes) (data : List UInt8) : Option (TestClass sizes) :=
  (cls.controlBuf.store? 0 data).map fun controlBuf => { cls with controlBuf := controlBuf }

def controlOut (cls : TestClass sizes) (req : Request) (data : List UInt8) :
    ClassM (OutResponse (TestClass sizes)) :=
  if ¬ Owns req then .ret (.ignore cls)
  else if req.request = reqStoreRequest then acceptChanged (cls.storeControl (storedRequest req))
  else if req.request = reqWriteBuffer ∧ data.length ≤ sizes.buffer then
    -- `assert_eq!(xfer.data().len(), req.length as usize)`
    if data.length = req.length.toNat then acceptChanged (cls.storeControl data) else .panic
  else if req.request = reqSetBenchEnabled then
    acceptChanged (some { cls with bench := req.value ≠ 0 })
  else .ret (.reject cls.expect)

def reset (cls : TestClass sizes) : TestClass sizes :=
  { cls with
    len := 0
    i := 0
    bench := false
    expectBulkInComplete := false
    expectBulkOut := false
    expectInterruptInComplete := false
    expectInterruptOut := false }

def endpointInComplete (cls : TestClass sizes) (addr : EndpointAddress) : ClassM (TestClass sizes) :=
  if cls.bench then .ret cls
  else if addr = cls.epBulkIn.address then
    if cls.expectBulkInComplete then writeBulkIn false { cls with expectBulkInComplete := false }
    else .panic
  else if addr = cls.epInterruptIn.address then
    if cls.expectInterruptInComplete then .ret { cls with expectInterruptInComplete := false }
    else .panic
  else .ret cls

def endpointOut (cls : TestClass sizes) (addr : EndpointAddress) : TestClass sizes :=
  if addr = cls.epBulkOut.address then { cls with expectBulkOut := true }
  else if addr = cls.epInterruptOut.address then { cls with expectInterruptOut := true }
  else cls

def getString (cls : TestClass sizes) (index : StringIndex) (langId : LangID) : Option String :=
  if langId = .enUs then
    if index = cls.customString then some customStringText
    else if index = cls.interfaceString then some interfaceStringText
    else none
  else none

/-- `first?; rest` -/
def andThen (first rest : DescriptorProgram) : DescriptorProgram :=
  Program.bind first fun result =>
    match result with
    | .ok _ => rest
    | .error e => .ret (.error e)

def configurationDescriptors (cls : TestClass sizes) : DescriptorProgram :=
  let calls : List DescriptorProgram := [
    .perform (DescriptorCall.interface cls.iface 0xff 0x00 0x00),
    .perform (DescriptorCall.endpoint cls.epBulkIn.toEndpoint),
    .perform (DescriptorCall.endpoint cls.epBulkOut.toEndpoint),
    .perform (DescriptorCall.endpoint cls.epInterruptIn.toEndpoint),
    .perform (DescriptorCall.endpoint cls.epInterruptOut.toEndpoint),
    .perform (DescriptorCall.interfaceAlt cls.iface 1 0xff 0x01 0x00 (some cls.interfaceString)),
    .perform (DescriptorCall.endpoint cls.epIsoIn.toEndpoint)]
  calls.foldr andThen (.ret (.ok ()))

instance : UsbClass (TestClass sizes) where
  getConfigurationDescriptors := configurationDescriptors
  getString := getString
  reset := fun cls => .ret cls.reset
  controlOut := controlOut
  controlIn := fun cls req => .ret (cls.controlIn req)
  endpointOut := fun cls addr => .ret (cls.endpointOut addr)
  endpointInComplete := endpointInComplete

end TestClass

end UsbStack
