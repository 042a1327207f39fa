import UsbStack.Class

/-! # The USB device

`poll` with everything below it: EP0 events, the dispatch of control requests to the classes and to
the standard handlers, and the events of the other endpoints.
-/

namespace UsbStack

set_option autoImplicit false

open Foundation Exec

inductive UsbDeviceState where
  | default
  | addressed
  | configured
  | suspend
  deriving DecidableEq, Repr

/-- The bus of the device is the one behind its control pipe. -/
structure UsbDevice (B : Type) where
  config : Config
  control : ControlPipe B
  deviceState : UsbDeviceState
  remoteWakeupEnabled : Bool
  selfPowered : Bool
  suspendedDeviceState : Option UsbDeviceState
  pendingAddress : UInt8

structure Session (B C : Type) where
  device : UsbDevice B
  classes : List C

namespace UsbDevice

variable {B : Type}

def state (d : UsbDevice B) : UsbDeviceState := d.deviceState

def setSelfPowered (isSelfPowered : Bool) (d : UsbDevice B) : UsbDevice B :=
  { d with selfPowered := isSelfPowered }

end UsbDevice

abbrev DeviceM (B : Type) := Exec Panic UsbError (UsbDevice B)

abbrev SessionM (B C : Type) := Exec Panic UsbError (Session B C)

variable {B C α : Type}

def UsbDevice.onPipe (m : PipeM B α) : DeviceM B α :=
  zoom UsbDevice.control (fun p d => { d with control := p }) m

def UsbDevice.onBus (m : BusM B α) : DeviceM B α := UsbDevice.onPipe (ControlPipe.onBus m)

def Session.onDevice (m : DeviceM B α) : SessionM B C α :=
  zoom Session.device (fun d s => { s with device := d }) m

/-- Calls `f` for each class in order and collects the classes. -/
def forEachClass (f : Nat → C → DeviceM B C) : Nat → List C → DeviceM B (List C)
  | _, [] => pure []
  | index, cls :: rest => do
    let cls ← f index cls
    let rest ← forEachClass f (index + 1) rest
    pure (cls :: rest)

/-- Calls `f` for each class in order until one gives a value. -/
def findClass (f : Nat → C → DeviceM B (Option α × C)) : Nat → List C → DeviceM B (Option α × List C)
  | _, [] => pure (none, [])
  | index, cls :: rest => do
    let (found, cls) ← f index cls
    match found with
    | some a => pure (some a, cls :: rest)
    | none => do
      let (found, rest) ← findClass f (index + 1) rest
      pure (found, cls :: rest)

namespace Session

def eachClass (f : Nat → C → DeviceM B C) : SessionM B C Unit := do
  let s ← get
  let classes ← onDevice (forEachClass f 0 s.classes)
  modify fun s => { s with classes := classes }

def firstClass (f : Nat → C → DeviceM B (Option α × C)) : SessionM B C (Option α) := do
  let s ← get
  let (found, classes) ← onDevice (findClass f 0 s.classes)
  modify fun s => { s with classes := classes }
  pure found

end Session

variable [UsbBus B] [UsbClass C]

/-- Offers a request to a class; it is answered when the pipe no longer waits for a response. -/
def offer (f : Nat → C → PipeM B C) (index : Nat) (cls : C) : DeviceM B (Option Unit × C) := do
  let cls ← UsbDevice.onPipe (f index cls)
  let d ← get
  pure (if d.control.waitingForResponse then none else some (), cls)

def langIdBytes (config : Config) : List UInt8 :=
  overwrite (List.replicate 32 0) 0
    (config.stringDescriptors.val.flatMap fun lang => toLeBytes lang.id.id)

def bosDescriptors (classes : List C) : BosM Unit := do
  BosWriter.bos
  classes.forM fun cls => (UsbClass.getBosDescriptors cls).run
  BosWriter.endBos

def configurationDescriptors (config : Config) (classes : List C) : WriterM Unit := do
  DescriptorWriter.configuration config
  classes.forM fun cls => do
    (UsbClass.getConfigurationDescriptors cls).run
    DescriptorWriter.endClass
  DescriptorWriter.endConfiguration

def findString (config : Config) (classes : List C) (index : UInt8) (langId : LangID) :
    Option String :=
  if 1 ≤ index ∧ index ≤ 3 then do
    let lang ← config.stringDescriptors.val.find? fun lang => lang.id = langId
    if index = 1 then lang.manufacturer else if index = 2 then lang.product else lang.serial
  else classes.findSome? fun cls => UsbClass.getString cls ⟨index⟩ langId

/-- What `get_descriptor` writes for a request; `none` is a rejection. -/
def descriptorWriter (config : Config) (classes : List C) (req : Request) : Option (WriterM Unit) :=
  let (dtype, index) := req.descriptorTypeIndex
  if dtype = DescriptorType.bos ∧ UsbRev.usb200.toU16 < config.usbRev.toU16 then
    some (zoom BosWriter.new (fun b _ => b.writer) (bosDescriptors classes))
  else if dtype = DescriptorType.device then
    some (DescriptorWriter.device config)
  else if dtype = DescriptorType.configuration then
    some (configurationDescriptors config classes)
  else if dtype = DescriptorType.string then
    if index = 0 then
      some (do
        let bytes ← ofOption .sliceIndex
          (slice? (langIdBytes config) 0 (config.stringDescriptors.val.length * 2))
        DescriptorWriter.write DescriptorType.string bytes)
    else (findString config classes index ⟨req.index⟩).map DescriptorWriter.string
  else none

/-- The callback of `accept_writer`: runs a writer on the control buffer. -/
def acceptWriter (f : WriterM Unit) : Exec Panic UsbError (List UInt8) Nat := fun buf =>
  match f (DescriptorWriter.new buf) with
  | .done (.ok ()) w => .done (.ok w.position) w.buf
  | .done (.error e) w => .done (.error e) w.buf
  | .panic reason => .panic reason

def getDescriptor (config : Config) (classes : List C) (req : Request) : PipeM B Unit :=
  match descriptorWriter config classes req with
  | some f => ControlPipe.acceptIn (acceptWriter f)
  | none => ControlPipe.reject

/-- The arms of the `match` in `control_in`. -/
inductive StandardIn where
  | deviceStatus
  | interfaceStatus
  | endpointStatus
  | descriptor
  | configuration
  | interface
  | other

def Request.standardIn (req : Request) : StandardIn :=
  if req.recipient = .device ∧ req.request = getStatus then .deviceStatus
  else if req.recipient = .interface ∧ req.request = getStatus then .interfaceStatus
  else if req.recipient = .endpoint ∧ req.request = getStatus then .endpointStatus
  else if req.recipient = .device ∧ req.request = getDescriptor then .descriptor
  else if req.recipient = .device ∧ req.request = getConfiguration then .configuration
  else if req.recipient = .interface ∧ req.request = getInterface then .interface
  else .other

/-- The arms of the `match` in `control_out`. -/
inductive StandardOut where
  | clearRemoteWakeup
  | clearHalt
  | setRemoteWakeup
  | setHalt
  | setAddress
  | configure
  | deconfigure
  | setInterface
  | other

def Request.standardOut (req : Request) : StandardOut :=
  if req.recipient = .device ∧ req.request = clearFeature ∧
      req.value = featureDeviceRemoteWakeup then .clearRemoteWakeup
  else if req.recipient = .endpoint ∧ req.request = clearFeature ∧
      req.value = featureEndpointHalt then .clearHalt
  else if req.recipient = .device ∧ req.request = setFeature ∧
      req.value = featureDeviceRemoteWakeup then .setRemoteWakeup
  else if req.recipient = .endpoint ∧ req.request = setFeature ∧
      req.value = featureEndpointHalt then .setHalt
  else if req.recipient = .device ∧ req.request = Request.setAddress ∧
      1 ≤ req.value ∧ req.value ≤ 127 then .setAddress
  else if req.recipient = .device ∧ req.request = setConfiguration ∧
      req.value = configurationValue.toUInt16 then .configure
  else if req.recipient = .device ∧ req.request = setConfiguration ∧
      req.value = configurationNone.toUInt16 then .deconfigure
  else if req.recipient = .interface ∧ req.request = Request.setInterface then .setInterface
  else .other

/-- `(req.index as u8) & 0x8f` -/
def Request.endpointAddress (req : Request) : EndpointAddress := ⟨req.index.toUInt8 &&& 0x8f⟩

namespace Session

def onPipe (m : PipeM B α) : SessionM B C α := onDevice (UsbDevice.onPipe m)

def acceptWith (data : List UInt8) : SessionM B C Unit := onPipe (ControlPipe.acceptWith data)

def reject : SessionM B C Unit := onPipe ControlPipe.reject

/-- A `return` of a successful answer is followed by nothing more than the check for a missing
answer in the source, which then finds the pipe no longer waiting. -/
def standardControlIn (req : Request) : SessionM B C Unit := do
  let s ← get
  match req.standardIn with
  | .deviceStatus =>
    acceptWith (toLeBytes ((if s.device.selfPowered then 0x0001 else 0x0000) |||
      (if s.device.remoteWakeupEnabled then 0x0002 else 0x0000)))
  | .interfaceStatus => acceptWith (toLeBytes 0x0000)
  | .endpointStatus => do
    let halted ← onDevice (UsbDevice.onBus (Traced.isStalled req.endpointAddress))
    acceptWith (toLeBytes (if halted then 0x0001 else 0x0000))
  | .descriptor => onPipe (getDescriptor s.device.config s.classes req)
  | .configuration =>
    acceptWith [if s.device.deviceState = .configured then configurationValue else configurationNone]
  | .interface =>
    if 255 < req.index then reject
    else do
      let interface : InterfaceNumber := ⟨req.index.toUInt8⟩
      let setting ← firstClass fun index cls => UsbDevice.onBus
        (callClass (.getAltSetting interface) (UsbClass.getAltSetting · interface) index cls)
      acceptWith [setting.getD defaultAlternateSetting]
  | .other => pure ()

def controlIn (req : Request) : SessionM B C Unit := do
  match ← firstClass (offer (callControlIn req)) with
  | some () => pure ()
  | none => do
    when (req.requestType = .standard) (standardControlIn req)
    let s ← get
    when (s.device.control.waitingForResponse = true) reject

def modifyDevice (f : UsbDevice B → UsbDevice B) : SessionM B C Unit := onDevice (modify f)

def accept : SessionM B C Unit := onPipe ControlPipe.acceptOut

def setHalt (req : Request) (stalled : Bool) : SessionM B C Unit :=
  onDevice (UsbDevice.onBus (Traced.setStalled req.endpointAddress stalled))

def setAddress (addr : UInt8) : SessionM B C Unit :=
  if UsbBus.quirkSetAddressBeforeStatus B = true then do
    onDevice (UsbDevice.onBus (Traced.setDeviceAddress addr))
    modifyDevice fun d => { d with deviceState := .addressed }
  else modifyDevice fun d => { d with pendingAddress := addr }

def setInterface (req : Request) : SessionM B C Unit :=
  if 255 < req.index ∨ 255 < req.value then reject
  else do
    let interface : InterfaceNumber := ⟨req.index.toUInt8⟩
    let alternative := req.value.toUInt8
    let found ← firstClass fun index cls => do
      let (taken, cls) ← UsbDevice.onBus (callClass (.setAltSetting interface alternative)
        (UsbClass.setAltSetting · interface alternative) index cls)
      pure (if taken then some () else none, cls)
    match found with
    | some () => accept
    | none => if req.value = defaultAlternateSetting.toUInt16 then accept else reject

def standardControlOut (req : Request) : SessionM B C Unit := do
  let s ← get
  match req.standardOut with
  | .clearRemoteWakeup => do
    modifyDevice fun d => { d with remoteWakeupEnabled := false }
    accept
  | .clearHalt => do
    setHalt req false
    accept
  | .setRemoteWakeup => do
    modifyDevice fun d => { d with remoteWakeupEnabled := true }
    accept
  | .setHalt => do
    setHalt req true
    accept
  | .setAddress => do
    setAddress req.value.toUInt8
    accept
  | .configure => do
    modifyDevice fun d => { d with deviceState := .configured }
    accept
  | .deconfigure => do
    when (s.device.deviceState ≠ .default)
      (modifyDevice fun d => { d with deviceState := .addressed })
    accept
  | .setInterface => setInterface req
  | .other => reject

def controlOut (req : Request) : SessionM B C Unit := do
  match ← firstClass (offer (callControlOut req)) with
  | some () => pure ()
  | none => do
    when (req.requestType = .standard) (standardControlOut req)
    let s ← get
    when (s.device.control.waitingForResponse = true) reject

def reset : SessionM B C Unit := do
  onDevice (UsbDevice.onBus Traced.reset)
  modifyDevice fun d => { d with
    deviceState := .default
    suspendedDeviceState := none
    remoteWakeupEnabled := false
    pendingAddress := 0 }
  onPipe ControlPipe.reset
  eachClass fun index cls => UsbDevice.onBus (callClass .reset UsbClass.reset index cls)

def receive (epOut epSetup : UInt16) : PipeM B (Option Request) :=
  if epSetup &&& 1 ≠ 0 then ControlPipe.handleSetup
  else if epOut &&& 1 ≠ 0 then do
    match ← attempt ControlPipe.handleOut with
    | .ok req => pure req
    | .error _ => pure none
  else pure none

def dispatch (req : Request) : SessionM B C Unit :=
  match req.direction with
  | .in_ => controlIn req
  | .out => controlOut req

def completeIn : DeviceM B Unit := do
  let completed ← attempt (UsbDevice.onPipe ControlPipe.handleInComplete)
  let d ← get
  when (UsbBus.quirkSetAddressBeforeStatus B = false ∧ completed.toOption = some true ∧
      d.pendingAddress ≠ 0) do
    UsbDevice.onBus (Traced.setDeviceAddress d.pendingAddress)
    modify fun d => { d with pendingAddress := 0, deviceState := .addressed }

/-- The events of endpoint 0. The errors that the handlers return are only logged. -/
def pollControl (epOut epInComplete epSetup : UInt16) : SessionM B C Unit := do
  match ← onPipe (receive epOut epSetup) with
  | some req => do
    let _ ← attempt (dispatch req)
    pure ()
  | none => when (epInComplete &&& 1 ≠ 0) (onDevice completeIn)

def notify (call : ClassCall) (f : C → ClassM C) : SessionM B C Unit :=
  eachClass fun index cls => UsbDevice.onBus (callClass call f index cls)

/-- `rounds` more turns of the loop over the endpoints, at number `i` with its mask `bit`. -/
def pollEndpoints (epOut epInComplete epSetup : UInt16) :
    (rounds i : Nat) → (bit eps : UInt16) → SessionM B C Unit
  | 0, _, _, _ => pure ()
  | rounds + 1, i, bit, eps => do
    let outAddr := EndpointAddress.fromParts i .out
    let inAddr := EndpointAddress.fromParts i .in_
    when (epSetup &&& bit ≠ 0)
      (notify (.endpointSetup outAddr) (UsbClass.endpointSetup · outAddr))
    when (epSetup &&& bit = 0 ∧ epOut &&& bit ≠ 0)
      (notify (.endpointOut outAddr) (UsbClass.endpointOut · outAddr))
    when (epInComplete &&& bit ≠ 0)
      (notify (.endpointInComplete inAddr) (UsbClass.endpointInComplete · inAddr))
    let eps := eps &&& ~~~bit
    when (eps ≠ 0) (pollEndpoints epOut epInComplete epSetup rounds (i + 1) (bit <<< 1) eps)

def maxEndpoints : Nat := 16

def pollData (epOut epInComplete epSetup : UInt16) : SessionM B C Unit := do
  let eps := epOut ||| epInComplete ||| epSetup
  when (eps &&& 1 ≠ 0) (pollControl epOut epInComplete epSetup)
  let eps := eps &&& ~~~1
  when (eps ≠ 0) (pollEndpoints epOut epInComplete epSetup (maxEndpoints - 1) 1 2 eps)
  notify .poll UsbClass.poll

def leaveSuspend : SessionM B C Unit := do
  onDevice (UsbDevice.onBus Traced.resume)
  let s ← get
  let state ← ofOption .expectFailed s.device.suspendedDeviceState
  modifyDevice fun d => { d with deviceState := state, suspendedDeviceState := none }

def enterSuspend : SessionM B C Unit := do
  onDevice (UsbDevice.onBus Traced.suspend)
  modifyDevice fun d => { d with
    suspendedDeviceState := some d.deviceState
    deviceState := .suspend }

def handleEvent : PollResult → SessionM B C Bool
  | .none => pure false
  | .reset => do
    reset
    pure false
  | .data epOut epInComplete epSetup => do
    pollData epOut epInComplete epSetup
    pure true
  | .resume => pure false
  | .suspend => do
    enterSuspend
    pure false

def poll : SessionM B C Bool := do
  let pr ← onDevice (UsbDevice.onBus Traced.poll)
  let s ← get
  if s.device.deviceState = .suspend then
    if pr = .suspend ∨ pr = .none then pure false
    else do
      leaveSuspend
      handleEvent pr
  else handleEvent pr

end Session

end UsbStack
