/-!
# Command bytes

Requests of the host lie below `0x80` and their replies have the high bit set. Frames that the
device sends unprompted lie in `0x40` to `0x4F`, and diagnostics have `0xE0`.
-/

namespace Acquisition.Command

def ping : UInt8 := 0x01
def pong : UInt8 := 0x81
def getStatus : UInt8 := 0x02
def statusResponse : UInt8 := 0x82
def getDeviceInfo : UInt8 := 0x03
def deviceInfoResponse : UInt8 := 0x83

def setModeContinuous : UInt8 := 0x10
def setModeTrigger : UInt8 := 0x11
def startStream : UInt8 := 0x12
def stopStream : UInt8 := 0x13
def configureStream : UInt8 := 0x14

def ack : UInt8 := 0x90
def nack : UInt8 := 0x91

def dataPacket : UInt8 := 0x40
def eventTriggered : UInt8 := 0x41
def requestBufferedData : UInt8 := 0x42
def bufferTransferComplete : UInt8 := 0x4F

def logMessage : UInt8 := 0xE0

/-- The known command bytes and what they are called. -/
def names : List (UInt8 × String) := [
  (ping, "PING"),
  (pong, "PONG"),
  (getStatus, "GET_STATUS"),
  (statusResponse, "STATUS_RESPONSE"),
  (getDeviceInfo, "GET_DEVICE_INFO"),
  (deviceInfoResponse, "DEVICE_INFO_RESPONSE"),
  (setModeContinuous, "SET_MODE_CONTINUOUS"),
  (setModeTrigger, "SET_MODE_TRIGGER"),
  (startStream, "START_STREAM"),
  (stopStream, "STOP_STREAM"),
  (configureStream, "CONFIGURE_STREAM"),
  (ack, "ACK"),
  (nack, "NACK"),
  (dataPacket, "DATA_PACKET"),
  (eventTriggered, "EVENT_TRIGGERED"),
  (requestBufferedData, "REQUEST_BUFFERED_DATA"),
  (bufferTransferComplete, "BUFFER_TRANSFER_COMPLETE"),
  (logMessage, "LOG_MESSAGE")]

def name (id : UInt8) : String :=
  (names.lookup id).getD "UNKNOWN"

/-- Whether the device sends such frames without a request. -/
def isUnsolicited (id : UInt8) : Bool :=
  id == dataPacket || id == eventTriggered || id == bufferTransferComplete || id == logMessage

end Acquisition.Command
