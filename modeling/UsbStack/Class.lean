import UsbStack.Descriptor

/-! # USB classes

A class is code outside the crate. It sees the arguments of a callback, may use the endpoints it
has allocated, answers a control request through a handle that it can use once, and writes
descriptors by calling the writer.
-/

namespace UsbStack

set_option autoImplicit false

open Foundation Exec

/-- An endpoint of a class, which is never endpoint 0. -/
structure ClassEndpoint extends Endpoint where
  notControl : address.index ≠ 0

inductive EndpointCall where
  | read (ep : ClassEndpoint) (len : Nat)
  | write (ep : ClassEndpoint) (data : List UInt8)
  | stall (ep : ClassEndpoint)
  | unstall (ep : ClassEndpoint)

def EndpointCall.Reply : EndpointCall → Type
  | read _ _ => Except UsbError (List UInt8)
  | write _ _ => Except UsbError Nat
  | stall _ => Unit
  | unstall _ => Unit

abbrev ClassM (α : Type) := Program EndpointCall EndpointCall.Reply α

inductive DescriptorCall where
  | position
  | write (descriptorType : UInt8) (descriptor : List UInt8)
  | writeWith (descriptorType : UInt8) (f : SliceFn)
  | iad (firstInterface : InterfaceNumber)
      (interfaceCount functionClass functionSubClass functionProtocol : UInt8)
      (functionString : Option StringIndex)
  | interface (number : InterfaceNumber)
      (interfaceClass interfaceSubClass interfaceProtocol : UInt8)
  | interfaceAlt (number : InterfaceNumber)
      (alternateSetting interfaceClass interfaceSubClass interfaceProtocol : UInt8)
      (interfaceString : Option StringIndex)
  | endpoint (ep : Endpoint)
  | endpointEx (ep : Endpoint) (f : SliceFn)

def DescriptorCall.Reply : DescriptorCall → Type
  | position => Nat
  | _ => Except UsbError Unit

structure BosCall where
  capabilityType : UInt8
  data : List UInt8

abbrev DescriptorProgram :=
  Program DescriptorCall DescriptorCall.Reply (Except UsbError Unit)

abbrev BosProgram := Program BosCall (fun _ => Except UsbError Unit) (Except UsbError Unit)

/-- What a class does with a `ControlIn`; `next` sees the result of the call and returns the class. -/
inductive InResponse (C : Type) where
  | ignore (cls : C)
  | acceptWith (data : List UInt8) (next : Except UsbError Unit → ClassM C)
  | acceptWithStatic (data : List UInt8) (next : Except UsbError Unit → ClassM C)
  | accept (f : SliceFn) (next : Except UsbError Unit → ClassM C)
  | reject (next : Except UsbError Unit → ClassM C)

inductive OutResponse (C : Type) where
  | ignore (cls : C)
  | accept (next : Except UsbError Unit → ClassM C)
  | reject (next : Except UsbError Unit → ClassM C)

class UsbClass (C : Type) where
  getConfigurationDescriptors : C → DescriptorProgram := fun _ => .ret (.ok ())
  getBosDescriptors : C → BosProgram := fun _ => .ret (.ok ())
  getString : C → StringIndex → LangID → Option String := fun _ _ _ => none
  reset : C → ClassM C := .ret
  poll : C → ClassM C := .ret
  controlOut : C → Request → List UInt8 → ClassM (OutResponse C) := fun cls _ _ => .ret (.ignore cls)
  controlIn : C → Request → ClassM (InResponse C) := fun cls _ => .ret (.ignore cls)
  endpointSetup : C → EndpointAddress → ClassM C := fun cls _ => .ret cls
  endpointOut : C → EndpointAddress → ClassM C := fun cls _ => .ret cls
  endpointInComplete : C → EndpointAddress → ClassM C := fun cls _ => .ret cls
  getAltSetting : C → InterfaceNumber → ClassM (Option UInt8 × C) := fun cls _ => .ret (none, cls)
  setAltSetting : C → InterfaceNumber → UInt8 → ClassM (Bool × C) := fun cls _ _ => .ret (false, cls)

variable {B C α : Type} [UsbBus B]

def EndpointCall.perform : (call : EndpointCall) → BusM B call.Reply
  | read ep len => attempt (ep.read len)
  | write ep data => attempt (ep.write data)
  | stall ep => ep.stall
  | unstall ep => ep.unstall

def ClassM.run (m : ClassM α) : BusM B α := m.interp EndpointCall.perform .foreign

def DescriptorCall.perform : (call : DescriptorCall) → WriterM call.Reply
  | position => do
    let w ← get
    pure w.position
  | write descriptorType descriptor => attempt (DescriptorWriter.write descriptorType descriptor)
  | writeWith descriptorType f => attempt (DescriptorWriter.writeWith descriptorType f)
  | iad firstInterface interfaceCount functionClass functionSubClass functionProtocol string =>
    attempt (DescriptorWriter.iad firstInterface interfaceCount functionClass functionSubClass
      functionProtocol string)
  | interface number interfaceClass interfaceSubClass interfaceProtocol =>
    attempt (DescriptorWriter.interface number interfaceClass interfaceSubClass interfaceProtocol)
  | interfaceAlt number alternateSetting interfaceClass interfaceSubClass interfaceProtocol string =>
    attempt (DescriptorWriter.interfaceAlt number alternateSetting interfaceClass interfaceSubClass
      interfaceProtocol string)
  | endpoint ep => attempt (DescriptorWriter.endpoint ep)
  | endpointEx ep f => attempt (DescriptorWriter.endpointEx ep f)

/-- Runs a descriptor callback and propagates its error. -/
def DescriptorProgram.run (program : DescriptorProgram) : WriterM Unit := do
  ofExcept (← program.interp DescriptorCall.perform .foreign)

def BosProgram.run (program : BosProgram) : BosM Unit := do
  ofExcept (← program.interp (fun call =>
    attempt (BosWriter.capability call.capabilityType call.data)) .foreign)

/-- `ControlIn::accept_with` -/
def ControlPipe.acceptWith (data : List UInt8) : PipeM B Unit := acceptIn (SliceFn.copy data).run

def InResponse.perform : InResponse C → PipeM B C
  | ignore cls => pure cls
  | acceptWith data next => do
    let result ← attempt (ControlPipe.acceptWith data)
    ControlPipe.onBus (next result).run
  | acceptWithStatic data next => do
    let result ← attempt (ControlPipe.acceptInStatic data)
    ControlPipe.onBus (next result).run
  | accept f next => do
    let result ← attempt (ControlPipe.acceptIn f.run)
    ControlPipe.onBus (next result).run
  | reject next => do
    let result ← attempt ControlPipe.reject
    ControlPipe.onBus (next result).run

def OutResponse.perform : OutResponse C → PipeM B C
  | ignore cls => pure cls
  | accept next => do
    let result ← attempt ControlPipe.acceptOut
    ControlPipe.onBus (next result).run
  | reject next => do
    let result ← attempt ControlPipe.reject
    ControlPipe.onBus (next result).run

variable [UsbClass C]

/-- `cls.control_in(ControlIn::new(&mut self.control, &req))`, for the class at `index`. -/
def callControlIn (req : Request) (index : Nat) (cls : C) : PipeM B C := do
  ControlPipe.onBus (Traced.note (.class_ index (.controlIn req)))
  let response ← ControlPipe.onBus (UsbClass.controlIn cls req).run
  response.perform

/-- `cls.control_out(ControlOut::new(&mut self.control, &req))`. The data that the class can ask its
handle for is read first. -/
def callControlOut (req : Request) (index : Nat) (cls : C) : PipeM B C := do
  let data ← ControlPipe.data
  ControlPipe.onBus (Traced.note (.class_ index (.controlOut req data)))
  let response ← ControlPipe.onBus (UsbClass.controlOut cls req data).run
  response.perform

def callClass (call : ClassCall) (m : C → ClassM α) (index : Nat) (cls : C) : BusM B α := do
  Traced.note (.class_ index call)
  (m cls).run

end UsbStack
