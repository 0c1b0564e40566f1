import SledServer.Sled.Events

/-!
# The frames of the drive

What the drive puts on the bus: SDO responses, TPDO1 and NMT state reports, as node 1 of the
network.  The lemmas say which function of the host answers each of them.
-/

namespace SledServer

open SledServer.Core

/-- An SDO response. -/
def sdoFrame (command : UInt8) (index : UInt16) (subindex : UInt8) (value : UInt32) :
    CanMessage where
  id := 0x581
  type := 0
  len := 8
  data := #v[command, (index &&& 0xFF).toUInt8, (index >>> 8).toUInt8, subindex,
    value.toUInt8, (value >>> 8).toUInt8, (value >>> 16).toUInt8, (value >>> 24).toUInt8]

/-- The confirmation of a write. -/
def writeResponse (index : UInt16) (subindex : UInt8) : CanMessage :=
  sdoFrame 0x60 index subindex 0

/-- The response to a read, with data in all but `unused` of the last four bytes. -/
def readResponse (unused : Fin 4) (index : UInt16) (subindex : UInt8) (value : UInt32) :
    CanMessage :=
  sdoFrame (0x43 + 4 * UInt8.ofNat unused) index subindex value

/-- The refusal of a request. -/
def abortResponse (index : UInt16) (subindex : UInt8) (code : UInt32) : CanMessage :=
  sdoFrame 0x80 index subindex code

/-- The report of an NMT state. -/
def nmtReport (state : UInt8) : CanMessage where
  id := 0x701
  type := 0
  len := 1
  data := #v[state, 0, 0, 0, 0, 0, 0, 0]

/-- TPDO1 with a status word and a mode of operation. -/
def tpdo1 (status : UInt16) (mode : UInt8) : CanMessage where
  id := 0x181
  type := 0
  len := 3
  data := #v[(status &&& 0xFF).toUInt8, (status >>> 8).toUInt8, mode, 0, 0, 0, 0, 0]

/-! ## How the host takes them -/

/-- The two bytes of a 16-bit number give it back. -/
lemma uint16_bytes (n : UInt16) :
    (n &&& 0xFF).toUInt8.toUInt16 + ((n >>> 8).toUInt8.toUInt16 <<< 8) = n := by
  apply UInt16.toNat_inj.mp
  have hlt := n.toNat_lt
  have hlow : n.toNat &&& 255 = n.toNat % 256 := Nat.and_two_pow_sub_one_eq_mod _ 8
  simp only [UInt16.toNat_add, UInt16.toNat_shiftLeft, UInt8.toNat_toUInt16,
    UInt16.toNat_toUInt8, UInt16.toNat_and, UInt16.toNat_shiftRight]
  simp [Nat.shiftLeft_eq, Nat.shiftRight_eq_div_pow, hlow]
  omega

lemma sdoIndex_sdoFrame (command : UInt8) (index : UInt16) (subindex : UInt8) (value : UInt32) :
    sdoIndex (sdoFrame command index subindex value).data = index :=
  uint16_bytes index

section Dispatch

variable (now : ℚ) (index : UInt16) (subindex : UInt8) (value : UInt32) (s : Sled)

lemma intfDispatchMsg_sdoFrame (command : UInt8) :
    intfDispatchMsg now (sdoFrame command index subindex value) s =
      dispatchSdo (sdoFrame command index subindex value).data s := by
  have hfunction : ((sdoFrame command index subindex value).id >>> 7).toNat = 0x0B := by
    simp [sdoFrame]
  unfold intfDispatchMsg
  simp [hfunction]

lemma intfDispatchMsg_writeResponse :
    intfDispatchMsg now (writeResponse index subindex) s =
      if s.intf.writeCallback then mchSdoWriteCallback sledCallbacks index subindex s
      else .ok s := by
  rw [writeResponse, intfDispatchMsg_sdoFrame, dispatchSdo, sdoIndex_sdoFrame]
  simp [sdoFrame]

lemma intfDispatchMsg_abortResponse :
    ∃ code, intfDispatchMsg now (abortResponse index subindex value) s =
      if s.intf.abortCallback then mchSdoAbortCallback sledCallbacks index subindex code s
      else .ok s := by
  refine ⟨sdoValue (abortResponse index subindex value).data, ?_⟩
  rw [abortResponse, intfDispatchMsg_sdoFrame, dispatchSdo, sdoIndex_sdoFrame]
  simp [sdoFrame]

lemma intfDispatchMsg_readResponse (unused : Fin 4) :
    ∃ v, intfDispatchMsg now (readResponse unused index subindex value) s =
      if s.intf.readCallback then mchSdoReadCallback sledCallbacks index subindex v s
      else .ok s := by
  refine ⟨sdoValue (readResponse unused index subindex value).data, ?_⟩
  have hcommand : ∀ k : Fin 4, (0x43 + 4 * UInt8.ofNat k : UInt8) ≠ 0x60 ∧
      ((0x43 + 4 * UInt8.ofNat k : UInt8) = 0x43 ∨ (0x43 + 4 * UInt8.ofNat k : UInt8) = 0x47 ∨
        (0x43 + 4 * UInt8.ofNat k : UInt8) = 0x4B ∨
        (0x43 + 4 * UInt8.ofNat k : UInt8) = 0x4F) := by decide
  obtain ⟨hwrite, hread⟩ := hcommand unused
  rw [readResponse, intfDispatchMsg_sdoFrame, dispatchSdo, sdoIndex_sdoFrame,
    if_neg (by exact hwrite), if_pos (by exact hread)]
  rfl

end Dispatch

/-! ## Bringing the drive up -/

/-- A read that returns a frame. -/
def frame (msg : CanMessage) : SledEvent := .read ⟨.success, true⟩ 0 (.message msg 0)

/-- The confirmation of a write of the control word. -/
def controlWordConfirmed : SledEvent := frame (writeResponse OB_CONTROL_WORD 0)

/-- The network comes up: the drive reports the pre-operational state, confirms the
configuration and reports the operational state. -/
def networkUp : List SledEvent :=
  frame (nmtReport 0x7F) :: netSetup.map (fun x => frame (writeResponse x.index x.subindex)) ++
    [frame (nmtReport 0x05)]

/-- The drive comes up: it is switched on and enabled, is homed and takes set points. -/
def driveUp : List SledEvent :=
  [controlWordConfirmed, frame (tpdo1 0x31 0), controlWordConfirmed, frame (tpdo1 0x33 0),
    controlWordConfirmed, frame (tpdo1 0x37 0), frame (writeResponse 0x6060 0),
    frame (tpdo1 0x1037 6), frame (writeResponse 0x6060 0), frame (tpdo1 0x37 1)]

/-- Some contents of the memory that `malloc` returns. -/
def someMemory : SledEnv where
  profiles _ :=
    { inUse := false, neverSent := false, profile := 0, table := 0, positionType := .posAbsolute,
      position := 0, time := 0, nextProfile := 0, delay := 0, blendType := .blnNone,
      fieldState := fun _ => .changed }
  currentProfile := 0
  mchIntf := .closed
  mchNet := .disabled
  mchDs := .disabled
  mchMp := .disabled
  lastTime := 0
  lastPosition := 0
  lastVelocity := 0
  sinusoidThere := 0
  sinusoidRthere := 0
  sinusoidBack := 0
  sinusoidRback := 0
  timeLastNmtMsg := 0

/-- The start of the sled, followed by some events. -/
def sledRun (mem : SledEnv) (now : ℚ) (o : CanOutcome) (es : List SledEvent) :
    Except Halt Sled :=
  sledCreate mem now o >>= fun s => run sledStep s es

lemma sledRun_ok {mem : SledEnv} {now : ℚ} {o : CanOutcome} {es : List SledEvent} {s : Sled} :
    sledRun mem now o es = .ok s ↔
      ∃ s₀, sledCreate mem now o = .ok s₀ ∧ run sledStep s₀ es = .ok s := bind_eq_ok

end SledServer
