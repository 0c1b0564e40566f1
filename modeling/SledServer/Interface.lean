import Mathlib.Data.Vector.Basic
import SledServer.Machines.Body

/-!
# The CAN interface: outgoing requests

The part of `interface.cc` that the SDO machine and the network machine call: the frames that
are put on the bus, and the callback slots of `intf_t` that a request fills in.  The functions
that ever get registered in these slots are the three response functions of the SDO machine, so
a slot is modelled by whether it is set.
-/

namespace SledServer

/-- `can_message_t`. -/
structure CanMessage where
  id : UInt16
  type : UInt8
  len : UInt8
  data : Vector UInt8 8
  deriving DecidableEq

/-- `intf_t`.  `handle`, `fd` and `readEvent` are represented by whether they are non-zero;
`written` is the list of frames handed to `CAN_Write`, oldest first. -/
structure Intf where
  handle : Bool
  fd : Bool
  readEvent : Bool
  writeCallback : Bool
  readCallback : Bool
  abortCallback : Bool
  written : List CanMessage

/-- `intf_create`. -/
def intfCreate : Intf where
  handle := false
  fd := false
  readEvent := false
  writeCallback := false
  readCallback := false
  abortCallback := false
  written := []

/-! ## Object dictionary -/

def OB_O_P : UInt16 := 0x35BE
def OB_O_V : UInt16 := 0x35BF
def OB_O_C : UInt16 := 0x35B9
def OB_O_ACC : UInt16 := 0x35B7
def OB_O_DEC : UInt16 := 0x35BA
def OB_O_TAB : UInt16 := 0x35B8
def OB_O_FN : UInt16 := 0x35BC
def OB_O_FT : UInt16 := 0x35BD
def OB_O_O1 : UInt16 := 0x35AE
def OB_MOTION_TASK : UInt16 := 0x2080
def OB_COPY_MOTION_TASK : UInt16 := 0x2082
def OB_CONTROL_WORD : UInt16 := 0x6040

def NMT_ENTERPREOPERATIONAL : UInt8 := 0x80
def NMT_STARTREMOTENODE : UInt8 := 0x01

/-! ## Sending -/

/-- `intf_write`: the callers ignore whether `CAN_Write` succeeds. -/
def intfWrite (msg : CanMessage) (intf : Intf) : Intf :=
  { intf with written := intf.written ++ [msg] }

/-- The frame of `intf_send_nmt_command`. -/
def nmtFrame (command : UInt8) : CanMessage where
  id := 0
  type := 0
  len := 2
  data := #v[command, 1, 0, 0, 0, 0, 0, 0]

/-- `intf_send_nmt_command`. -/
def intfSendNmtCommand (command : UInt8) (intf : Intf) : Intf :=
  intfWrite (nmtFrame command) intf

/-- The frame of `intf_send_read_req`. -/
def readReqFrame (index : UInt16) (subindex : UInt8) : CanMessage where
  id := ((0x0C : UInt16) <<< 7) + 1
  type := 0
  len := 8
  data := #v[0x40, (index &&& 0x00FF).toUInt8, ((index &&& 0xFF00) >>> 8).toUInt8, subindex,
    0, 0, 0, 0]

/-- `intf_send_read_req`. -/
def intfSendReadReq (index : UInt16) (subindex : UInt8) (intf : Intf) : Intf :=
  intfWrite (readReqFrame index subindex)
    { intf with readCallback := true, writeCallback := false, abortCallback := true }

/-- The frame of `intf_send_write_req`. -/
def writeReqFrame (index : UInt16) (subindex : UInt8) (value : UInt32) (size : UInt8) :
    CanMessage where
  id := ((0x0C : UInt16) <<< 7) + 1
  type := 0
  len := 8
  data := #v[0x2F - (size - 1) * 4,
    (index &&& 0x00FF).toUInt8, ((index &&& 0xFF00) >>> 8).toUInt8, subindex,
    (value &&& 0x000000FF).toUInt8, ((value &&& 0x0000FF00) >>> 8).toUInt8,
    ((value &&& 0x00FF0000) >>> 16).toUInt8, ((value &&& 0xFF000000) >>> 24).toUInt8]

/-- `intf_send_write_req`. -/
def intfSendWriteReq (index : UInt16) (subindex : UInt8) (value : UInt32) (size : UInt8)
    (intf : Intf) : Intf :=
  intfWrite (writeReqFrame index subindex value size)
    { intf with readCallback := false, writeCallback := true, abortCallback := true }

end SledServer
