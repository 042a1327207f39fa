import UsbStack.Config
import UsbStack.ControlPipe

/-! # Writing descriptors -/

namespace UsbStack

set_option autoImplicit false

open Foundation Exec

namespace DescriptorType

def device : UInt8 := 1
def configuration : UInt8 := 2
def string : UInt8 := 3
def interface : UInt8 := 4
def endpoint : UInt8 := 5
def iad : UInt8 := 11
def bos : UInt8 := 15
def capability : UInt8 := 16

end DescriptorType

def CapabilityType.usb20Extension : UInt8 := 2

def encodeChar (c : Char) : List UInt16 :=
  if c.val < 0x10000 then [c.val.toUInt16]
  else
    let rest : UInt32 := c.val - 0x10000
    let high : UInt32 := rest >>> 10
    let low : UInt32 := rest &&& 0x3FF
    [0xD800 + high.toUInt16, 0xDC00 + low.toUInt16]

/-- `str::encode_utf16` -/
def encodeUtf16 (string : String) : List UInt16 := string.toList.flatMap encodeChar

/-- `usize::MAX` on a target of 32 bits -/
def usizeMax : Nat := 0xFFFFFFFF

structure DescriptorWriter where
  buf : List UInt8
  position : Nat
  numInterfacesMark : Option Nat
  numEndpointsMark : Option Nat
  writeIads : Bool

abbrev WriterM := Exec Panic UsbError DescriptorWriter

namespace DescriptorWriter

def new (buf : List UInt8) : DescriptorWriter := ⟨buf, 0, none, none, false⟩

/-- `self.buf[index] = value` -/
def setByte (index : Nat) (value : UInt8) : WriterM Unit := do
  let w ← get
  let buf ← ofOption .sliceIndex (set? w.buf index value)
  set { w with buf := buf }

/-- `self.buf[start..stop].copy_from_slice(data)`, with `data` of the length of the range -/
def copyTo (start stop : Nat) (data : List UInt8) : WriterM Unit := do
  let w ← get
  let _ ← ofOption .sliceIndex (slice? w.buf start stop)
  set { w with buf := overwrite w.buf start data }

/-- `self.buf[mark] += 1` -/
def increment (mark : Nat) : WriterM Unit := do
  let w ← get
  match w.buf[mark]? with
  | none => abort .sliceIndex
  | some count =>
    if count = 255 then abort .overflow
    else set { w with buf := w.buf.set mark (count + 1) }

def incrementMark : Option Nat → WriterM Unit
  | some mark => increment mark
  | none => fail .invalidState

/-- `f(&mut self.buf[start..stop])` -/
def onSlice (start stop : Nat) (f : SliceFn) : WriterM Nat := do
  let w ← get
  let _ ← ofOption .sliceIndex (slice? w.buf start stop)
  zoom (fun w => (w.buf.drop start).take (stop - start))
    (fun part w => { w with buf := overwrite w.buf start part }) f.run

def writeWith (descriptorType : UInt8) (f : SliceFn) : WriterM Unit := do
  let w ← get
  if w.buf.length < w.position + 2 then fail .bufferOverflow
  else do
    let dataEnd := min w.buf.length (w.position + 256)
    let count ← onSlice (w.position + 2) dataEnd f
    let totalLen := count + 2
    -- No slice is longer than `usize::MAX`, so the two sums overflow only past the buffer.
    if w.buf.length < w.position + totalLen then
      if usizeMax < w.position + totalLen then abort .overflow else fail .bufferOverflow
    else do
      setByte w.position totalLen.toUInt8
      setByte (w.position + 1) descriptorType
      modify fun w => { w with position := w.position + totalLen }

def write (descriptorType : UInt8) (descriptor : List UInt8) : WriterM Unit :=
  writeWith descriptorType (.copy descriptor)

def stringIndexOf (config : Config) (field : StringDescriptors → Option String) (index : UInt8) :
    UInt8 :=
  (config.stringDescriptors.val.head?.map fun lang =>
    if (field lang).isSome then index else 0).getD 0

def device (config : Config) : WriterM Unit :=
  write DescriptorType.device (
    toLeBytes config.usbRev.toU16 ++
    [config.deviceClass, config.deviceSubClass, config.deviceProtocol, config.maxPacketSize0] ++
    toLeBytes config.vendorId ++
    toLeBytes config.productId ++
    toLeBytes config.deviceRelease ++
    [stringIndexOf config (·.manufacturer) 1,
      stringIndexOf config (·.product) 2,
      stringIndexOf config (·.serial) 3,
      1])

def bmAttributes (config : Config) : UInt8 :=
  0x80 ||| (if config.selfPowered then 0x40 else 0x00) |||
    (if config.supportsRemoteWakeup then 0x20 else 0x00)

def configuration (config : Config) : WriterM Unit := do
  modify fun w => { w with
    numInterfacesMark := some (w.position + 4)
    writeIads := config.compositeWithIads }
  write DescriptorType.configuration
    [0, 0, 0, configurationValue, 0, bmAttributes config, config.maxPower]

def endClass : WriterM Unit := modify fun w => { w with numEndpointsMark := none }

def endConfiguration : WriterM Unit := do
  let w ← get
  copyTo 2 4 (toLeBytes w.position.toUInt16)

def iad (firstInterface : InterfaceNumber) (interfaceCount functionClass functionSubClass
    functionProtocol : UInt8) (functionString : Option StringIndex) : WriterM Unit := do
  let w ← get
  if w.writeIads = false then pure ()
  else
    write DescriptorType.iad
      [firstInterface.value, interfaceCount, functionClass, functionSubClass, functionProtocol,
        (functionString.map StringIndex.value).getD 0]

def interfaceAlt (number : InterfaceNumber) (alternateSetting interfaceClass interfaceSubClass
    interfaceProtocol : UInt8) (interfaceString : Option StringIndex) : WriterM Unit := do
  let w ← get
  when (alternateSetting = defaultAlternateSetting) (incrementMark w.numInterfacesMark)
  modify fun w => { w with numEndpointsMark := some (w.position + 4) }
  write DescriptorType.interface
    [number.value, alternateSetting, 0, interfaceClass, interfaceSubClass, interfaceProtocol,
      (interfaceString.map StringIndex.value).getD 0]

def interface (number : InterfaceNumber) (interfaceClass interfaceSubClass
    interfaceProtocol : UInt8) : WriterM Unit :=
  interfaceAlt number defaultAlternateSetting interfaceClass interfaceSubClass interfaceProtocol none

/-- The five bytes of an endpoint descriptor, followed by what `f` writes after them. -/
def endpointRun (endpoint : Endpoint) (f : SliceFn) : Exec Panic UsbError (List UInt8) Nat := do
  let buf ← get
  if buf.length < 5 then fail .bufferOverflow
  else do
    set (overwrite buf 0 (endpoint.address.value :: endpoint.epType.toBmAttributes ::
      (toLeBytes endpoint.maxPacketSize ++ [endpoint.interval])))
    let count ← zoom (List.drop 5) (fun part buf => overwrite buf 5 part) f.run
    if buf.length < count + 5 ∧ usizeMax < count + 5 then abort .overflow else pure (count + 5)

theorem within_endpointRun (endpoint : Endpoint) (f : SliceFn) :
    Within (fun before after => after.length = before.length) (endpointRun endpoint f) := by
  intro buf
  rw [endpointRun, post_bind, post_get]
  dsimp only
  split
  · rfl
  · rename_i hFits
    rw [post_bind, post_set]
    dsimp only
    rw [post_bind, post_zoom]
    have hHead (head : List UInt8) (hLength : head.length = 5) :
        (overwrite buf 0 head).length = buf.length := length_overwrite (by omega)
    have hSet := hHead (endpoint.address.value :: endpoint.epType.toBmAttributes ::
      (toLeBytes endpoint.maxPacketSize ++ [endpoint.interval])) rfl
    apply (f.length_eq _).mono
    intro r part hPart
    have hWhole : (overwrite (overwrite buf 0 (endpoint.address.value ::
        endpoint.epType.toBmAttributes :: (toLeBytes endpoint.maxPacketSize ++
          [endpoint.interval]))) 5 part).length = buf.length := by
      rw [length_overwrite (by rw [hPart, List.length_drop]; omega), hSet]
    cases r with
    | error e => exact hWhole
    | ok count =>
      dsimp only
      split
      · trivial
      · exact hWhole

def endpointFn (endpoint : Endpoint) (f : SliceFn) : SliceFn :=
  ⟨endpointRun endpoint f, within_endpointRun endpoint f⟩

def endpointEx (endpoint : Endpoint) (f : SliceFn) : WriterM Unit := do
  let w ← get
  incrementMark w.numEndpointsMark
  writeWith DescriptorType.endpoint (endpointFn endpoint f)

def endpoint (endpoint : Endpoint) : WriterM Unit :=
  endpointEx endpoint ⟨pure 0, fun _ => rfl⟩

/-- The loop of `string`: writes the units from `pos` on and returns the end. -/
def stringUnits : List UInt16 → Nat → WriterM Nat
  | [], pos => pure pos
  | c :: rest, pos => do
    let w ← get
    if w.buf.length ≤ pos then fail .bufferOverflow
    else do
      copyTo pos (pos + 2) (toLeBytes c)
      stringUnits rest (pos + 2)

def string (string : String) : WriterM Unit := do
  let w ← get
  if w.buf.length < w.position + 2 then fail .bufferOverflow
  else do
    setByte w.position 0
    setByte (w.position + 1) DescriptorType.string
    let pos ← stringUnits (encodeUtf16 string) (w.position + 2)
    setByte w.position (pos - w.position).toUInt8
    modify fun w => { w with position := pos }

end DescriptorWriter

structure BosWriter where
  writer : DescriptorWriter
  numCapsMark : Option Nat

abbrev BosM := Exec Panic UsbError BosWriter

namespace BosWriter

def new (writer : DescriptorWriter) : BosWriter := ⟨writer, none⟩

def onWriter {α : Type} (m : WriterM α) : BosM α :=
  zoom writer (fun w b => { b with writer := w }) m

def capability (capabilityType : UInt8) (data : List UInt8) : BosM Unit := do
  let b ← get
  onWriter (DescriptorWriter.incrementMark b.numCapsMark)
  let start := b.writer.position
  let blen := data.length
  if b.writer.buf.length < start + blen + 3 ∨ 255 < blen + 3 then fail .bufferOverflow
  else onWriter do
    DescriptorWriter.setByte start (blen + 3).toUInt8
    DescriptorWriter.setByte (start + 1) DescriptorType.capability
    DescriptorWriter.setByte (start + 2) capabilityType
    DescriptorWriter.copyTo (start + 3) (start + 3 + blen) data
    modify fun w => { w with position := start + 3 + blen }

def bos : BosM Unit := do
  modify fun b => { b with numCapsMark := some (b.writer.position + 4) }
  onWriter (DescriptorWriter.write DescriptorType.bos [0x00, 0x00, 0x00])
  capability CapabilityType.usb20Extension (List.replicate 4 0)

def endBos : BosM Unit := do
  modify fun b => { b with numCapsMark := none }
  let b ← get
  onWriter (DescriptorWriter.copyTo 2 4 (toLeBytes b.writer.position.toUInt16))

end BosWriter

end UsbStack
