import SledServer.Machines.Intf

/-!
# The sled and its surroundings

`sled.cc` and the receiving half of `interface.cc`: what the process does when a CAN frame
arrives, when reading fails, when the watchdog expires and when a client calls one of the
functions of the library.  `SledEvent` lists these events and `sledStep` runs them; a run of the
sled is a run of `sledStep` from a state that `sledCreate` returns.
-/

namespace SledServer

open SledServer.Core

/-! ## Reports of the drive -/

/-- The event that `intf_on_nmt` raises. -/
def nmtEvent? (state : UInt8) : Option MchNetEvent :=
  if state = 0x04 then some .stopped
  else if state = 0x05 then some .operational
  else if state = 0x7F then some .preoperational
  else none

/-- The `switch` of `intf_on_nmt`. -/
def raiseNmt (state : UInt8) (s : Sled) : Except Halt Sled :=
  match nmtEvent? state with
  | some event => mchNetHandleEvent event s
  | none => .ok s

/-- `intf_on_nmt`. -/
def intfOnNmt (now : ℚ) (state : UInt8) (s : Sled) : Except Halt Sled := do
  let s ← raiseNmt state s
  .ok { s with env := { s.env with timeLastNmtMsg := now } }

/-- The events that `intf_on_tpdo` raises in the drive machine, in order. -/
def dsEvents (status : UInt16) : List MchDsEvent :=
  (if status &&& 0x4F = 0x40 then [.notReadyToSwitchOn] else []) ++
  (if status &&& 0x6F = 0x21 then [.readyToSwitchOn] else []) ++
  (if status &&& 0x6F = 0x23 then [.switchedOn] else []) ++
  (if status &&& 0x6F = 0x27 then [.operationEnabled] else []) ++
  (if status &&& 0x4F = 0x08 then [.fault] else []) ++
  (if status &&& 0x4F = 0x0F then [.faultReactionActive] else []) ++
  (if status &&& 0x6F = 0x07 then [.quickStopActive] else []) ++
  [if status &&& 0x10 = 0x10 then .voltageEnabled else .voltageDisabled]

/-- The events that `intf_on_tpdo` raises in the motion machine, in order. -/
def mpEvents (status : UInt16) (mode : UInt8) : List MchMpEvent :=
  (if status &&& 0x400 = 0x400 then [.targetReached] else []) ++
  (if mode = 0x01 then
    [.modePp, if status &&& 0x1000 = 0x1000 then .setpointAck else .setpointNack] else []) ++
  (if mode = 0x06 then
    [.modeHoming, if status &&& 0x1000 = 0x1000 then .homed else .nothomed] else []) ++
  (if mode = 0x07 then [.modeIp] else [])

/-- `(data[1] << 8) | data[0]`. -/
def statusWord (data : Vector UInt8 8) : UInt16 :=
  ((data[1]).toUInt16 <<< 8) ||| (data[0]).toUInt16

/-- The mode of operation in TPDO1. -/
abbrev modeOfOperation (data : Vector UInt8 8) : UInt8 := data[2]

/-- The first byte of a frame: the command of an SDO response, the state in an NMT report. -/
abbrev firstByte (data : Vector UInt8 8) : UInt8 := data[0]

/-- A little-endian `int32_t` in micrometres, as a position in metres. -/
def metres (b0 b1 b2 b3 : UInt8) : ℚ :=
  let bits : UInt32 :=
    (b3.toUInt32 <<< 24) ||| (b2.toUInt32 <<< 16) ||| (b1.toUInt32 <<< 8) ||| b0.toUInt32
  (bits.toInt32.toInt : ℚ) / 1000 / 1000

/-- The position in TPDO2. -/
abbrev reportedPosition (data : Vector UInt8 8) : ℚ := metres data[0] data[1] data[2] data[3]

/-- The velocity in TPDO2. -/
abbrev reportedVelocity (data : Vector UInt8 8) : ℚ := metres data[4] data[5] data[6] data[7]

/-- `intf_on_tpdo`. -/
def intfOnTpdo (now : ℚ) (pdo : ℕ) (data : Vector UInt8 8) (s : Sled) : Except Halt Sled :=
  if pdo = 1 then do
    let s ← (dsEvents (statusWord data)).foldlM (fun s event => mchDsHandleEvent event s) s
    (mpEvents (statusWord data) data[2]).foldlM (fun s event => mchMpHandleEvent event s) s
  else if pdo = 2 then
    .ok { s with
      env := { s.env with
        lastTime := now
        lastPosition := metres data[0] data[1] data[2] data[3]
        lastVelocity := metres data[4] data[5] data[6] data[7] } }
  else .ok s

/-- `nmt_watchdog`.  The message it logs once is left out. -/
def nmtWatchdog (now : ℚ) (s : Sled) : Except Halt Sled :=
  if now - s.env.timeLastNmtMsg > 2 then mchNetHandleEvent .watchdogFailed s else .ok s

/-! ## Reading the bus -/

/-- The index in an SDO response. -/
def sdoIndex (data : Vector UInt8 8) : UInt16 :=
  (data[1]).toUInt16 + ((data[2]).toUInt16 <<< 8)

/-- The subindex in an SDO response. -/
abbrev sdoSubindex (data : Vector UInt8 8) : UInt8 := data[3]

/-- The bytes of the index in an SDO response. -/
abbrev indexBytes (data : Vector UInt8 8) : List UInt8 := [data[1], data[2]]

/-- The bytes of the value in an SDO response. -/
abbrev valueBytes (data : Vector UInt8 8) : List UInt8 := [data[4], data[5], data[6], data[7]]

/-- The value in an SDO response, of one to four bytes. -/
def sdoValue (data : Vector UInt8 8) : UInt32 :=
  if data[0] = 0x80 ∨ data[0] = 0x43 then
    (data[4]).toUInt32 + ((data[5]).toUInt32 <<< 8) + ((data[6]).toUInt32 <<< 16) +
      ((data[7]).toUInt32 <<< 24)
  else if data[0] = 0x47 then
    (data[4]).toUInt32 + ((data[5]).toUInt32 <<< 8) + ((data[6]).toUInt32 <<< 16)
  else if data[0] = 0x4B then (data[4]).toUInt32 + ((data[5]).toUInt32 <<< 8)
  else (data[4]).toUInt32

/-- The part of `intf_dispatch_msg` that handles an SDO response.  A response without a function
in its slot is logged and dropped. -/
def dispatchSdo (data : Vector UInt8 8) (s : Sled) : Except Halt Sled :=
  if data[0] = 0x60 then
    if s.intf.writeCallback then mchSdoWriteCallback sledCallbacks (sdoIndex data) data[3] s
    else .ok s
  else if data[0] = 0x43 ∨ data[0] = 0x47 ∨ data[0] = 0x4B ∨ data[0] = 0x4F then
    if s.intf.readCallback then
      mchSdoReadCallback sledCallbacks (sdoIndex data) data[3] (sdoValue data) s
    else .ok s
  else if data[0] = 0x80 then
    if s.intf.abortCallback then
      mchSdoAbortCallback sledCallbacks (sdoIndex data) data[3] (sdoValue data) s
    else .ok s
  else .ok s

/-- `intf_dispatch_msg`.  Emergency messages are only logged. -/
def intfDispatchMsg (now : ℚ) (msg : CanMessage) (s : Sled) : Except Halt Sled :=
  let function := (msg.id >>> 7).toNat
  if function = 0x03 ∨ function = 0x05 ∨ function = 0x07 ∨ function = 0x09 then
    intfOnTpdo now ((function - 1) / 2) msg.data s
  else if function = 0x0E then intfOnNmt now (msg.data[0] &&& 0x7F) s
  else if function = 0x0B then dispatchSdo msg.data s
  else .ok s

/-- What `LINUX_CAN_Read` returns. -/
inductive ReadResult
  /-- `CAN_ERR_QRCVEMPTY`. -/
  | empty
  /-- Any other error. -/
  | error
  /-- A frame, and what `CAN_Status` would return. -/
  | message (msg : CanMessage) (status : ℤ)

/-- `intf_on_read`.  The test for a status message, `MSGTYPE & MSGTYPE_STATUS == MSGTYPE_STATUS`,
looks at the lowest bit of the type. -/
def intfOnRead (o : CanOutcome) (now : ℚ) (r : ReadResult) (s : Sled) : Except Halt Sled :=
  if !s.intf.fd then .ok s
  else
    match r with
    | .empty => .ok s
    | .error => intfCloseSled o s
    | .message msg status =>
      if msg.type &&& 1 ≠ 0 then
        if status < 0 then intfCloseSled o s else .ok s
      else intfDispatchMsg now msg s

/-! ## The functions of the library -/

/-- The state in which the constructors leave `sled_t`; `mem` is what `malloc` returned. -/
def sledAlloc (mem : SledEnv) (now : ℚ) : Sled :=
  mchSdoCreate intfCreate
    { mem with
      timeLastNmtMsg := now - 2
      mchIntf := .closed
      mchNet := .disabled
      mchDs := .disabled
      mchMp := .disabled }

/-- `sled->... = sled_profile_create(sled)`. -/
def registerProfile (store : ℤ → SledEnv → SledEnv) (s : Sled) : Sled :=
  let r := sledProfileCreate s
  r.2.withEnv (store r.1 r.2.env)

/-- The part of `sled_create` that sets up the profiles. -/
def sledCreateProfiles (s : Sled) : Sled :=
  let s := (List.range MAX_PROFILES).foldl (fun s i => sledProfileClear (i : ℕ) false s) s
  let s := registerProfile (fun id e => { e with sinusoidThere := id }) s
  let s := registerProfile (fun id e => { e with sinusoidRthere := id }) s
  let s := registerProfile (fun id e => { e with sinusoidBack := id }) s
  let s := registerProfile (fun id e => { e with sinusoidRback := id }) s
  let s := (sledProfileSetTable s.env.sinusoidThere 0 s).2
  let s := (sledProfileSetTable s.env.sinusoidRthere 1 s).2
  let s := (sledProfileSetTable s.env.sinusoidBack 0 s).2
  let s := (sledProfileSetTable s.env.sinusoidRback 3 s).2
  let s := (sledProfileSetNext s.env.sinusoidThere s.env.sinusoidBack 0 .blnAfter s).2
  let s := (sledProfileSetNext s.env.sinusoidRthere s.env.sinusoidBack 0 .blnAfter s).2
  (sledProfileSetNext s.env.sinusoidBack s.env.sinusoidThere 0 .blnAfter s).2

/-- `sled_create`. -/
def sledCreate (mem : SledEnv) (now : ℚ) (o : CanOutcome) : Except Halt Sled :=
  mchIntfHandleEvent o .open (sledCreateProfiles (sledAlloc mem now))

/-- `sled_rt_new_setpoint`. -/
def sledRtNewSetpoint (_position : ℚ) (s : Sled) : ℤ × Sled := (-1, s)

/-- `sled_rt_get_position_and_time`; no position stands for `NAN`. -/
def sledRtGetPositionAndTime (now : ℚ) (s : Sled) : ℤ × Option ℚ × ℚ :=
  if s.env.mchNet ≠ .operational then (-1, none, now)
  else (0, some s.env.lastPosition, s.env.lastTime)

/-- `sled_rt_get_position`. -/
def sledRtGetPosition (s : Sled) : ℤ × Option ℚ :=
  if s.env.mchNet ≠ .operational then (-1, none) else (0, some s.env.lastPosition)

/-- `sled_sinusoid_start`. -/
def sledSinusoidStart (amplitude period : ℚ) (s : Sled) : Except Halt (ℤ × Sled) :=
  let s := (sledProfileSetTarget s.env.sinusoidThere .posAbsolute
    (s.env.lastPosition + amplitude * 2) (period / 2) s).2
  let s := (sledProfileSetTarget s.env.sinusoidBack .posAbsolute
    s.env.lastPosition (period / 2) s).2
  let s := (sledProfileSetNext s.env.sinusoidThere s.env.sinusoidBack 0 .blnAfter s).2
  let s := (sledProfileSetNext s.env.sinusoidBack s.env.sinusoidThere 0 .blnAfter s).2
  sledProfileExecute s.env.sinusoidThere s

/-- `sled_sinusoid_stop`. -/
def sledSinusoidStop (s : Sled) : Except Halt (ℤ × Sled) :=
  let s := (sledProfileSetNext s.env.sinusoidThere (-1) 0 .blnAfter s).2
  let s := (sledProfileSetNext s.env.sinusoidBack (-1) 0 .blnAfter s).2
  sledProfileWritePendingChanges s.env.sinusoidThere s

/-- The part of `sled_rsinusoid_start` that sets up the profiles. -/
def sledRsinusoidSetup (amplitude period : ℚ) (s : Sled) : Sled :=
  let s := (sledProfileSetTarget s.env.sinusoidRthere .posAbsolute
    (s.env.lastPosition + amplitude * 2) (period / 2) s).2
  let s := (sledProfileSetTarget s.env.sinusoidThere .posAbsolute
    (s.env.lastPosition + amplitude * 2) (period / 2) s).2
  let s := (sledProfileSetTarget s.env.sinusoidBack .posAbsolute
    s.env.lastPosition (period / 2) s).2
  let s := (sledProfileSetTarget s.env.sinusoidRback .posAbsolute
    s.env.lastPosition (period / 2) s).2
  let s := (sledProfileSetNext s.env.sinusoidRthere s.env.sinusoidBack 0 .blnAfter s).2
  let s := (sledProfileSetNext s.env.sinusoidThere s.env.sinusoidBack 0 .blnAfter s).2
  (sledProfileSetNext s.env.sinusoidBack s.env.sinusoidThere 0 .blnAfter s).2

/-- `sled_rsinusoid_start`. -/
def sledRsinusoidStart (amplitude period : ℚ) (s : Sled) : Except Halt (ℤ × Sled) := do
  let s := sledRsinusoidSetup amplitude period s
  let r ← sledProfileWritePendingChanges s.env.sinusoidRthere s
  let r ← sledProfileWritePendingChanges r.2.env.sinusoidThere r.2
  let r ← sledProfileWritePendingChanges r.2.env.sinusoidBack r.2
  let r ← sledProfileWritePendingChanges r.2.env.sinusoidRback r.2
  sledProfileExecute r.2.env.sinusoidRthere r.2

/-- `sled_rsinusoid_stop`. -/
def sledRsinusoidStop (s : Sled) : Except Halt (ℤ × Sled) :=
  let s := (sledProfileSetNext s.env.sinusoidThere s.env.sinusoidRback 0 .blnAfter s).2
  sledProfileWritePendingChanges s.env.sinusoidThere s

/-- `sled_light_set_state`. -/
def sledLightSetState (state : Bool) (s : Sled) : Except Halt (ℤ × Sled) :=
  if s.mchSdo.state = .disabled then .ok (-1, s)
  else do
    let s ← mchSdoQueueWrite sledAbort OB_O_O1 0x01 (if state then 0x01 else 0x00) 0x04 s
    .ok (0, s)

/-! ## Events -/

/-- The functions of the library that change something. -/
inductive SledCall
  | profileCreate
  | profileCreatePt (position time : ℚ)
  | profileDestroy (profile : ℤ)
  | profileSetTable (profile table : ℤ)
  | profileSetTarget (profile : ℤ) (type : PositionType) (position time : ℚ)
  | profileSetNext (profile nextProfile : ℤ) (delay : ℚ) (blendType : BlendType)
  | profileWritePendingChanges (profile : ℤ)
  | profileExecute (profile : ℤ)
  | profilesReset
  | sinusoidStart (amplitude period : ℚ)
  | sinusoidStop
  | rsinusoidStart (amplitude period : ℚ)
  | rsinusoidStop
  | lightSetState (state : Bool)
  | rtNewSetpoint (position : ℚ)

/-- One call of a function of the library: its result and the state after it. -/
def sledCall (s : Sled) : SledCall → Except Halt (ℤ × Sled)
  | .profileCreate => .ok (sledProfileCreate s)
  | .profileCreatePt position time => .ok (sledProfileCreatePt position time s)
  | .profileDestroy profile => .ok (sledProfileDestroy profile s)
  | .profileSetTable profile table => .ok (sledProfileSetTable profile table s)
  | .profileSetTarget profile type position time =>
    .ok (sledProfileSetTarget profile type position time s)
  | .profileSetNext profile nextProfile delay blendType =>
    .ok (sledProfileSetNext profile nextProfile delay blendType s)
  | .profileWritePendingChanges profile => sledProfileWritePendingChanges profile s
  | .profileExecute profile => sledProfileExecute profile s
  | .profilesReset => .ok (sledProfilesReset s)
  | .sinusoidStart amplitude period => sledSinusoidStart amplitude period s
  | .sinusoidStop => sledSinusoidStop s
  | .rsinusoidStart amplitude period => sledRsinusoidStart amplitude period s
  | .rsinusoidStop => sledRsinusoidStop s
  | .lightSetState state => sledLightSetState state s
  | .rtNewSetpoint position => .ok (sledRtNewSetpoint position s)

/-- What can happen to the sled from outside. -/
inductive SledEvent
  | read (o : CanOutcome) (now : ℚ) (r : ReadResult)
  | watchdog (now : ℚ)
  | call (c : SledCall)

/-- One step of the sled.  A read is only signalled while the read event is registered. -/
def sledStep (s : Sled) : SledEvent → Except Halt Sled
  | .read o now r => if s.intf.readEvent then intfOnRead o now r s else .ok s
  | .watchdog now => nmtWatchdog now s
  | .call c => do
    let r ← sledCall s c
    .ok r.2

end SledServer
