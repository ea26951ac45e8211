import Scrutiny.Types

open foundation

namespace scrutiny.protocol

structure Request where
  command_id : uint8_t
  subfunction_id : uint8_t
  data_length : uint16_t
  data_max_length : uint16_t
  /-- The content of the reception buffer, which the request shares. -/
  data : ByteBuffer
  crc : uint32_t

def Request.reset (self : Request) : Request :=
  { self with command_id := 0, subfunction_id := 0, data_length := 0, crc := 0 }

def Request.payload (self : Request) : List uint8_t := self.data.slice 0 self.data_length.toNat

structure Response where
  command_id : uint8_t
  subfunction_id : uint8_t
  response_code : uint8_t
  data_length : uint16_t
  data_max_length : uint16_t
  /-- The content of the transmission buffer, which the response shares. -/
  data : ByteBuffer
  crc : uint32_t

def Response.reset (self : Response) : Response :=
  { self with command_id := 0, subfunction_id := 0, response_code := 0, data_length := 0 }

def Response.payload (self : Response) : List uint8_t := self.data.slice 0 self.data_length.toNat

inductive CommandId where
  | GetInfo
  | CommControl
  | MemoryControl
  | UserCommand
  | DataLogControl
  deriving DecidableEq, Repr

-- The casts below are followed by a switch: a code of none of the enumerators
-- takes its default branch.

def CommandId.cast (byte : uint8_t) : Option CommandId :=
  if byte = 0x01 then some GetInfo
  else if byte = 0x02 then some CommControl
  else if byte = 0x03 then some MemoryControl
  else if byte = 0x04 then some UserCommand
  else if byte = 0x05 then some DataLogControl
  else none

inductive ResponseCode where
  | OK
  | InvalidRequest
  | UnsupportedFeature
  | Overflow
  | Busy
  | FailureToProceed
  | Forbidden
  | NoResponseToSend
  | ProcessAgain
  deriving DecidableEq, Repr

def ResponseCode.code : ResponseCode → uint8_t
  | OK => 0
  | InvalidRequest => 1
  | UnsupportedFeature => 2
  | Overflow => 3
  | Busy => 4
  | FailureToProceed => 5
  | Forbidden => 6
  | NoResponseToSend => 0xFE
  | ProcessAgain => 0xFF

def ResponseCode.cast (byte : uint8_t) : Option ResponseCode :=
  if byte = 0 then some OK
  else if byte = 1 then some InvalidRequest
  else if byte = 2 then some UnsupportedFeature
  else if byte = 3 then some Overflow
  else if byte = 4 then some Busy
  else if byte = 5 then some FailureToProceed
  else if byte = 6 then some Forbidden
  else if byte = 0xFE then some NoResponseToSend
  else if byte = 0xFF then some ProcessAgain
  else none

@[simp] theorem ResponseCode.cast_code (code : ResponseCode) :
    ResponseCode.cast code.code = some code := by
  cases code <;> rfl

theorem ResponseCode.code_injective : Function.Injective ResponseCode.code := by
  intro code other h
  have hcast := congrArg ResponseCode.cast h
  simpa only [ResponseCode.cast_code, Option.some.injEq] using hcast

inductive RxError where
  | None
  | Overflow
  | Disabled
  | InvalidCommand
  deriving DecidableEq, Repr

inductive TxError where
  | None
  | Overflow
  | Busy
  | Disabled
  deriving DecidableEq, Repr

namespace GetInfo

inductive Subfunction where
  | GetprotocolVersion
  | GetSoftwareId
  | GetSupportedFeatures
  | GetSpecialMemoryRegionCount
  | GetSpecialMemoryLocation
  | GetRuntimePublishedValuesCount
  | GetRuntimePublishedValuesDefinition
  | GetLoopCount
  | GetLoopDefinition
  deriving DecidableEq, Repr

def Subfunction.cast (byte : uint8_t) : Option Subfunction :=
  if byte = 1 then some GetprotocolVersion
  else if byte = 2 then some GetSoftwareId
  else if byte = 3 then some GetSupportedFeatures
  else if byte = 4 then some GetSpecialMemoryRegionCount
  else if byte = 5 then some GetSpecialMemoryLocation
  else if byte = 6 then some GetRuntimePublishedValuesCount
  else if byte = 7 then some GetRuntimePublishedValuesDefinition
  else if byte = 8 then some GetLoopCount
  else if byte = 9 then some GetLoopDefinition
  else none

inductive MemoryRegionType where
  | ReadOnly
  | Forbidden
  deriving DecidableEq, Repr

def MemoryRegionType.cast (byte : uint8_t) : Option MemoryRegionType :=
  if byte = 0 then some ReadOnly
  else if byte = 1 then some Forbidden
  else none

end GetInfo

namespace CommControl

def DISCOVER_MAGIC : List uint8_t := [0x7E, 0x18, 0xFC, 0x68]
def CONNECT_MAGIC : List uint8_t := [0x82, 0x90, 0x22, 0x66]

inductive Subfunction where
  | Discover
  | Heartbeat
  | GetParams
  | Connect
  | Disconnect
  deriving DecidableEq, Repr

def Subfunction.cast (byte : uint8_t) : Option Subfunction :=
  if byte = 1 then some Discover
  else if byte = 2 then some Heartbeat
  else if byte = 3 then some GetParams
  else if byte = 4 then some Connect
  else if byte = 5 then some Disconnect
  else none

end CommControl

namespace MemoryControl

inductive Subfunction where
  | Read
  | Write
  | WriteMasked
  | ReadRPV
  | WriteRPV
  deriving DecidableEq, Repr

def Subfunction.cast (byte : uint8_t) : Option Subfunction :=
  if byte = 1 then some Read
  else if byte = 2 then some Write
  else if byte = 3 then some WriteMasked
  else if byte = 4 then some ReadRPV
  else if byte = 5 then some WriteRPV
  else none

end MemoryControl

namespace DataLogControl

inductive Subfunction where
  | GetSetup
  | ConfigureDatalog
  | ArmTrigger
  | DisarmTrigger
  | GetStatus
  | GetAcquisitionMetadata
  | ReadAcquisition
  | ResetDatalogger
  deriving DecidableEq, Repr

def Subfunction.cast (byte : uint8_t) : Option Subfunction :=
  if byte = 1 then some GetSetup
  else if byte = 2 then some ConfigureDatalog
  else if byte = 3 then some ArmTrigger
  else if byte = 4 then some DisarmTrigger
  else if byte = 5 then some GetStatus
  else if byte = 6 then some GetAcquisitionMetadata
  else if byte = 7 then some ReadAcquisition
  else if byte = 8 then some ResetDatalogger
  else none

end DataLogControl

def MAX_DISPLAY_NAME_LENGTH : Nat := 64
def MAX_LOOP_NAME_LENGTH : Nat := 32
def MINIMUM_RX_BUFFER_SIZE : uint16_t := 32
def MINIMUM_TX_BUFFER_SIZE : uint16_t := 32
def BUFFER_OVERFLOW_MARGIN : uint16_t := 16
def MAXIMUM_RX_BUFFER_SIZE : uint16_t := 0xFFFF - BUFFER_OVERFLOW_MARGIN
def MAXIMUM_TX_BUFFER_SIZE : uint16_t := 0xFFFF - BUFFER_OVERFLOW_MARGIN

end scrutiny.protocol
