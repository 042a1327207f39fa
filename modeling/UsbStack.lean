import UsbStack.Foundation.Exec
import UsbStack.Foundation.Program
import UsbStack.Foundation.Run
import UsbStack.Foundation.Bytes
import UsbStack.Foundation.LengthPrefixed
import UsbStack.Foundation.Labelled
import UsbStack.ControlPipe
import UsbStack.Config
import UsbStack.Descriptor
import UsbStack.Class
import UsbStack.Device
import UsbStack.DeviceBuilder
import UsbStack.PipeRun
import UsbStack.InStage
import UsbStack.OutStage
import UsbStack.PipeTandem
import UsbStack.PipeFreshness
import UsbStack.Leftover
import UsbStack.DescriptorBuffer
import UsbStack.Dispatch
import UsbStack.DeviceRun
import UsbStack.Addressing
import UsbStack.StatusStage
import UsbStack.StallFlags
import UsbStack.Answering
import UsbStack.HostAgreement
import UsbStack.ConfigurationDescriptor
import UsbStack.DescriptorWalk
import UsbStack.StringDescriptor
import UsbStack.BosDescriptor
import UsbStack.DescriptorCounts
import UsbStack.Suspension
import UsbStack.OversizedRequest
import UsbStack.MalformedSetup
import UsbStack.OneAnswer
import UsbStack.ReadBack
import UsbStack.TestClass
import UsbStack.Callbacks
import UsbStack.Unaborted
import UsbStack.Roster
import UsbStack.Visits
import UsbStack.RequestCodec
import UsbStack.Recording
import UsbStack.EndpointEvents
import UsbStack.RefusedStatus
import UsbStack.StringRequests
import UsbStack.BulkEcho
import UsbStack.Foundation.Registry
import UsbStack.LeftRequests
import UsbStack.AlternateSettings
import UsbStack.SettingsHistory
import UsbStack.TestRequests
import UsbStack.ControlTransfer
import UsbStack.Foundation.Cell
import UsbStack.Allocator
import UsbStack.Assembly
import UsbStack.TestSystem
import UsbStack.DescriptorRoom
import UsbStack.PanicFreedom
import UsbStack.PipeInvariant
import UsbStack.Foundation.History
import UsbStack.InTurn
import UsbStack.StandardDevice
import UsbStack.Foundation.Lockstep
import UsbStack.DescriptorTandem
import UsbStack.PipeCoupling
import UsbStack.SessionTandem
import UsbStack.Observers
import UsbStack.Embodiment
import UsbStack.TestCallbacks
import UsbStack.Forgetting
import UsbStack.DeviceAnswers
import UsbStack.StandardRequests
import UsbStack.Pacing
