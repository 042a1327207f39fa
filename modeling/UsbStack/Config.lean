import UsbStack.Control

/-! # The device configuration -/

namespace UsbStack

set_option autoImplicit false

structure LangID where
  id : UInt16
  deriving DecidableEq, Repr

def LangID.enUs : LangID := ⟨0x0409⟩

inductive UsbRev where
  | usb100
  | usb110
  | usb200
  | usb210
  deriving DecidableEq, Repr

def UsbRev.toU16 : UsbRev → UInt16
  | usb100 => 0x100
  | usb110 => 0x110
  | usb200 => 0x200
  | usb210 => 0x210

structure StringDescriptors where
  id : LangID
  serial : Option String
  product : Option String
  manufacturer : Option String
  deriving DecidableEq, Repr

namespace StringDescriptors

def new (langId : LangID) : StringDescriptors := ⟨langId, none, none, none⟩

def serialNumber (lang : StringDescriptors) (serial : String) : StringDescriptors :=
  { lang with serial := some serial }

def withManufacturer (lang : StringDescriptors) (manufacturer : String) : StringDescriptors :=
  { lang with manufacturer := some manufacturer }

def withProduct (lang : StringDescriptors) (product : String) : StringDescriptors :=
  { lang with product := some product }

end StringDescriptors

/-- `stringDescriptors` is a `heapless::Vec` of capacity 16. -/
structure Config where
  deviceClass : UInt8
  deviceSubClass : UInt8
  deviceProtocol : UInt8
  maxPacketSize0 : UInt8
  vendorId : UInt16
  productId : UInt16
  usbRev : UsbRev
  deviceRelease : UInt16
  stringDescriptors : { list : List StringDescriptors // list.length ≤ 16 }
  selfPowered : Bool
  supportsRemoteWakeup : Bool
  compositeWithIads : Bool
  maxPower : UInt8

/-- The bConfiguration value for the not configured state. -/
def configurationNone : UInt8 := 0

/-- The bConfiguration value for the single configuration of the device. -/
def configurationValue : UInt8 := 1

/-- The default bAlternateSetting of all interfaces. -/
def defaultAlternateSetting : UInt8 := 0

end UsbStack
