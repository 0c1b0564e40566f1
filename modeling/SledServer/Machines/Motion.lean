import SledServer.Sled.State

/-!
# The motion machine and the drive machine

`mch_mp.cc` and `mch_ds.cc`.  The motion machine follows the mode of operation, homing and the
set-point handshake; the drive machine follows the DS402 state of the drive and starts and stops
the motion machine.  Both queue SDO requests without callbacks, so neither can halt: `Host.mpMove`
and `Host.dsMove` say what one event does, and the rest of the development uses these.
-/

namespace SledServer

open SledServer.Core

/-- What the registered abort functions do: report and `exit(1)`.  The state in which
`on_failure_callback` leaves the profile is lost with the process. -/
def sledAbort : AbortDispatch sledClient SledEnv
  | .mchNetSdoAbortCallback, _, _, _, _, _ => .error .exit
  | .onFailureCallback, _, _, _, _, _ => .error .exit

/-! ## The motion machine -/

/-- `mch_mp_event_t`. -/
inductive MchMpEvent
  | dsOperational
  | dsInoperational
  | modeHoming
  | modePp
  | modeIp
  | homed
  | nothomed
  | setpointSet
  | setpointAck
  | setpointNack
  | targetReached
  | sinusoidStart
  | sinusoidStop
  deriving DecidableEq, Repr

/-- `mch_mp_next_state_given_event`.  The first test of the source, `!machine->state ==
ST_MP_DISABLED`, is true of every state but `ST_MP_DISABLED`, which is 0. -/
def mchMpNextStateGivenEvent (state : MchMpState) (event : MchMpEvent) : MchMpState :=
  if state ≠ .disabled ∧ event = .dsInoperational then .disabled
  else
    match state, event with
    | .disabled, .dsOperational => .switchModeHoming
    | .switchModeHoming, .modeHoming => .hhUnknown
    | .hhUnknown, .nothomed => .hhHoming
    | .hhUnknown, .homed => .switchModePp
    | .switchModePp, .modePp => .ppIdle
    | .hhHoming, .homed => .switchModePp
    | .ppIdle, .setpointSet => .ppSpNack
    | .ppSpNack, .setpointAck => .ppSpAck
    | .ppSpAck, .setpointNack => .ppIdle
    | state, _ => state

/-- `mch_mp_send_mode_switch`. -/
def mchMpSendModeSwitch (mode : UInt8) (s : Sled) : Except Halt Sled :=
  mchSdoQueueWrite sledAbort 0x6060 0x00 mode.toUInt32 0x01 s

/-- `mch_mp_send_control_word`. -/
def mchMpSendControlWord (controlWord : UInt16) (s : Sled) : Except Halt Sled :=
  mchSdoQueueWrite sledAbort OB_CONTROL_WORD 0x00 controlWord.toUInt32 0x02 s

/-- `mch_mp_on_enter`. -/
def mchMpOnEnter (s : Sled) : Except Halt Sled :=
  match s.env.mchMp with
  | .switchModeHoming => mchMpSendModeSwitch 0x06 s
  | .switchModePp => mchMpSendModeSwitch 0x01 s
  | .hhHoming => mchMpSendControlWord (0x1F ||| 0x20) s
  | .ppSpAck => mchMpSendControlWord (0x0F ||| 0x20) s
  | _ => .ok s

/-- `mch_mp_on_exit`. -/
def mchMpOnExit (s : Sled) : Except Halt Sled :=
  match s.env.mchMp with
  | .hhHoming => mchMpSendControlWord (0x0F ||| 0x20) s
  | _ => .ok s

/-- `mch_mp_handle_event`. -/
def mchMpHandleEvent (event : MchMpEvent) (s : Sled) : Except Halt Sled :=
  handleEvent (fun s : Sled => s.env.mchMp) (fun st s => s.setMpState st)
    mchMpNextStateGivenEvent mchMpOnExit mchMpOnEnter event s

/-! ## The drive machine -/

/-- `mch_ds_event_t`. -/
inductive MchDsEvent
  | netOperational
  | netInoperational
  | notReadyToSwitchOn
  | readyToSwitchOn
  | switchedOn
  | operationEnabled
  | fault
  | faultReactionActive
  | quickStopActive
  | voltageEnabled
  | voltageDisabled
  deriving DecidableEq, Repr

/-- `mch_ds_next_state_given_event`. -/
def mchDsNextStateGivenEvent (state : MchDsState) (event : MchDsEvent) : MchDsState :=
  if state ≠ .disabled ∧ event = .netInoperational then .disabled
  else if state ≠ .disabled ∧ event = .fault then .clearingFault
  else if state ≠ .disabled ∧ event = .faultReactionActive then .fault
  else
    match state, event with
    | .disabled, .netOperational => .unknown
    | .fault, .fault => .clearingFault
    | .clearingFault, .notReadyToSwitchOn => .switchOnDisabled
    | .clearingFault, .readyToSwitchOn => .readyToSwitchOn
    | .clearingFault, .switchedOn => .switchedOn
    | .unknown, .notReadyToSwitchOn => .switchOnDisabled
    | .unknown, .readyToSwitchOn => .readyToSwitchOn
    | .switchOnDisabled, .voltageEnabled => .prepareSwitchOn
    | .prepareSwitchOn, .readyToSwitchOn => .readyToSwitchOn
    | .readyToSwitchOn, .voltageEnabled => .switchOn
    | .switchOn, .switchedOn => .switchedOn
    | .switchOn, .voltageDisabled => .shutdown
    | .shutdown, .notReadyToSwitchOn => .switchOnDisabled
    | .shutdown, .readyToSwitchOn => .readyToSwitchOn
    | .switchedOn, .voltageEnabled => .enableOperation
    | .switchedOn, .voltageDisabled => .shutdown
    | .disableOperation, .switchedOn => .switchedOn
    | .enableOperation, .operationEnabled => .operationEnabled
    | .operationEnabled, .voltageDisabled => .disableOperation
    | state, _ => state

/-- `mch_ds_send_control_word`. -/
def mchDsSendControlWord (controlWord : UInt16) (s : Sled) : Except Halt Sled :=
  mchSdoQueueWrite sledAbort OB_CONTROL_WORD 0x00 controlWord.toUInt32 0x02 s

/-- `mch_ds_on_enter`, with `mch_ds_on_operation_enabled` in place. -/
def mchDsOnEnter (s : Sled) : Except Halt Sled :=
  match s.env.mchDs with
  | .unknown => mchDsSendControlWord 0x06 s
  | .prepareSwitchOn => mchDsSendControlWord 0x06 s
  | .switchOn => mchDsSendControlWord 0x07 s
  | .shutdown => mchDsSendControlWord 0x06 s
  | .enableOperation => mchDsSendControlWord 0x0F s
  | .disableOperation => mchDsSendControlWord 0x07 s
  | .operationEnabled => mchMpHandleEvent .dsOperational s
  | .clearingFault => mchSdoQueueRead sledAbort 0x3518 0x01 s
  | _ => .ok s

/-- `mch_ds_on_exit`, with `mch_ds_on_operation_disabled` in place. -/
def mchDsOnExit (s : Sled) : Except Halt Sled :=
  match s.env.mchDs with
  | .operationEnabled => mchMpHandleEvent .dsInoperational s
  | _ => .ok s

/-- `mch_ds_handle_event`. -/
def mchDsHandleEvent (event : MchDsEvent) (s : Sled) : Except Halt Sled :=
  handleEvent (fun s : Sled => s.env.mchDs) (fun st s => s.setDsState st)
    mchDsNextStateGivenEvent mchDsOnExit mchDsOnEnter event s

/-! ## What one event does -/

/-- A request without callbacks. -/
def plainWrite (index : UInt16) (subindex : UInt8) (value : UInt32) (size : UInt8) :
    Request sledClient :=
  writeRequest index subindex value size none none none

/-- A write of the control word. -/
def controlWord (w : UInt16) : Request sledClient :=
  plainWrite OB_CONTROL_WORD 0x00 w.toUInt32 0x02

namespace MchMpState

/-- The request queued when the motion machine enters a state. -/
def entry : MchMpState → List (Request sledClient)
  | switchModeHoming => [plainWrite 0x6060 0x00 0x06 0x01]
  | switchModePp => [plainWrite 0x6060 0x00 0x01 0x01]
  | hhHoming => [controlWord 0x3F]
  | ppSpAck => [controlWord 0x2F]
  | _ => []

/-- The request queued when the motion machine leaves a state. -/
def exit : MchMpState → List (Request sledClient)
  | hhHoming => [controlWord 0x2F]
  | _ => []

end MchMpState

/-- The request queued when the drive machine enters a state. -/
def MchDsState.entry : MchDsState → List (Request sledClient)
  | unknown => [controlWord 0x06]
  | prepareSwitchOn => [controlWord 0x06]
  | switchOn => [controlWord 0x07]
  | shutdown => [controlWord 0x06]
  | enableOperation => [controlWord 0x0F]
  | disableOperation => [controlWord 0x07]
  | clearingFault => [readRequest 0x3518 0x01 none none none]
  | _ => []

namespace Host

variable {c : Client} {σ : Type}

/-- Queue several requests. -/
def pushAll (rs : List (Request c)) (s : Host c σ) : Host c σ := rs.foldl (fun s r => s.push r) s

@[simp] lemma pushAll_nil (s : Host c σ) : s.pushAll [] = s := rfl

@[simp] lemma pushAll_cons (r : Request c) (rs : List (Request c)) (s : Host c σ) :
    s.pushAll (r :: rs) = (s.push r).pushAll rs := rfl

@[simp] lemma pushAll_append (rs rs' : List (Request c)) (s : Host c σ) :
    s.pushAll (rs ++ rs') = (s.pushAll rs).pushAll rs' := List.foldl_append

@[simp] lemma pushAll_env (rs : List (Request c)) (s : Host c σ) :
    (s.pushAll rs).env = s.env := by
  induction rs generalizing s with
  | nil => rfl
  | cons r rs ih => rw [pushAll_cons, ih, push_env]

/-- One event of the motion machine. -/
def mpMove (event : MchMpEvent) (s : Sled) : Sled :=
  let next := mchMpNextStateGivenEvent s.env.mchMp event
  if s.env.mchMp = next then s
  else ((s.pushAll s.env.mchMp.exit).setMpState next).pushAll next.entry

/-- The motion machine when the drive machine leaves `ST_DS_OPERATION_ENABLED`. -/
def dsLeave (s : Sled) : Sled :=
  if s.env.mchDs = .operationEnabled then s.mpMove .dsInoperational else s

/-- The motion machine when the drive machine enters `ST_DS_OPERATION_ENABLED`. -/
def dsArrive (s : Sled) : Sled :=
  if s.env.mchDs = .operationEnabled then s.mpMove .dsOperational else s

/-- One event of the drive machine. -/
def dsMove (event : MchDsEvent) (s : Sled) : Sled :=
  let next := mchDsNextStateGivenEvent s.env.mchDs event
  if s.env.mchDs = next then s
  else ((s.dsLeave.setDsState next).pushAll next.entry).dsArrive

end Host

lemma mchMpOnExit_eq (s : Sled) : mchMpOnExit s = .ok (s.pushAll s.env.mchMp.exit) := by
  unfold mchMpOnExit
  cases s.env.mchMp <;> simp [mchMpSendControlWord, MchMpState.exit, controlWord, plainWrite]
  rfl

lemma mchMpOnEnter_eq (s : Sled) : mchMpOnEnter s = .ok (s.pushAll s.env.mchMp.entry) := by
  unfold mchMpOnEnter
  cases s.env.mchMp <;>
    simp [mchMpSendControlWord, mchMpSendModeSwitch, MchMpState.entry, controlWord,
      plainWrite] <;> rfl

@[simp] lemma mchMpHandleEvent_eq (event : MchMpEvent) (s : Sled) :
    mchMpHandleEvent event s = .ok (s.mpMove event) := by
  unfold mchMpHandleEvent handleEvent Host.mpMove
  dsimp only
  split
  · rfl
  · rw [mchMpOnExit_eq, ok_bind, mchMpOnEnter_eq]
    rfl

lemma mchDsOnExit_eq (s : Sled) : mchDsOnExit s = .ok s.dsLeave := by
  unfold mchDsOnExit Host.dsLeave
  cases s.env.mchDs <;> simp

lemma mchDsOnEnter_eq (s : Sled) :
    mchDsOnEnter s = .ok (s.pushAll s.env.mchDs.entry).dsArrive := by
  unfold mchDsOnEnter Host.dsArrive
  rw [Host.pushAll_env]
  cases s.env.mchDs <;>
    simp [mchDsSendControlWord, MchDsState.entry, controlWord, plainWrite]

@[simp] lemma mchDsHandleEvent_eq (event : MchDsEvent) (s : Sled) :
    mchDsHandleEvent event s = .ok (s.dsMove event) := by
  unfold mchDsHandleEvent handleEvent Host.dsMove
  dsimp only
  split
  · rfl
  · rw [mchDsOnExit_eq, ok_bind, mchDsOnEnter_eq]
    rfl

end SledServer
