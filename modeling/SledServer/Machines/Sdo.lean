import SledServer.Interface

/-!
# The SDO machine

`mch_sdo.cc`: the queue of SDO requests, the one request that has been sent and awaits its
answer, and the machine that moves requests from the one to the other.

The functions that clients register with a request are opaque to this machine, so everything
here is over an arbitrary `Client` (the types of function pointers and of what `void *data`
points to) and an arbitrary state `σ` of the surrounding program.  What a registered function
does is given by `Callbacks`; the only thing known about it is that it does not call back into
the SDO machine, which the functions that the sled registers satisfy
(`SledServer.sledCallbacks`).

`Host.trace` records what the machine did, oldest first.  No function reads it.
-/

namespace SledServer

open SledServer.Core

/-- `mch_sdo_state_t`. -/
inductive MchSdoState
  | disabled
  | error
  | waiting
  | sending
  deriving DecidableEq, Repr

/-- `mch_sdo_event_t`. -/
inductive MchSdoEvent
  | netSdoDisabled
  | netSdoEnabled
  | itemAvailable
  | readResponse
  | writeResponse
  | abortResponse
  deriving DecidableEq, Repr

/-- The types a client of the SDO machine brings along: its function pointers, what its
`void *data` points to, and its own entries in the trace. -/
structure Client where
  WriteFn : Type
  ReadFn : Type
  AbortFn : Type
  Data : Type
  Note : Type

/-- The contents of an `sdo_t`. -/
structure Request (c : Client) where
  isWrite : Bool
  index : UInt16
  subindex : UInt8
  value : UInt32
  size : UInt8
  data : Option c.Data
  abortCallback : Option c.AbortFn
  writeCallback : Option c.WriteFn
  readCallback : Option c.ReadFn

/-- An allocated `sdo_t`; `addr` tells apart the requests that `new` returned. -/
structure Sdo (c : Client) extends Request c where
  addr : ℕ

/-- The instance variables of `mch_sdo_t`; `allocated` counts the requests made so far. -/
structure MchSdo (c : Client) where
  state : MchSdoState
  sdoQueue : List (Sdo c)
  sdoActive : Option (Sdo c)
  allocated : ℕ

/-- The call of a registered function, with its arguments. -/
inductive Call (c : Client)
  | write (f : c.WriteFn) (data : Option c.Data) (index : UInt16) (subindex : UInt8)
  | read (f : c.ReadFn) (data : Option c.Data) (index : UInt16) (subindex : UInt8)
      (value : UInt32)
  | abort (f : c.AbortFn) (data : Option c.Data) (index : UInt16) (subindex : UInt8)
      (code : UInt32)

/-- The kinds of response. -/
inductive Response
  | write
  | read (value : UInt32)
  | abort (code : UInt32)
  deriving DecidableEq, Repr

/-- What the trace records. -/
inductive Obs (c : Client)
  /-- The SDO machine changed its state. -/
  | sdoState (old new : MchSdoState)
  /-- A request was put in the queue. -/
  | queued (r : Sdo c)
  /-- A request was handed to the interface. -/
  | sent (r : Sdo c)
  /-- A response passed the assertions while `r` was the active request: it carries the index
  and the subindex of `r`. -/
  | answered (r : Sdo c) (resp : Response)
  /-- A function registered with the request at `addr` was called. -/
  | called (addr : ℕ) (call : Call c)
  /-- An entry of the surrounding program. -/
  | note (n : c.Note)

/-- The process: the SDO machine, the CAN interface, the trace and the rest of the program. -/
structure Host (c : Client) (σ : Type) where
  mchSdo : MchSdo c
  intf : Intf
  trace : List (Obs c)
  env : σ

variable {c : Client} {σ : Type}

namespace Host

/-- Append to the trace. -/
def log (o : Obs c) (s : Host c σ) : Host c σ := { s with trace := s.trace ++ [o] }

/-- Store a new state of the SDO machine and log it. -/
def setSdoState (st : MchSdoState) (s : Host c σ) : Host c σ :=
  { s with
    mchSdo := { s.mchSdo with state := st }
    trace := s.trace ++ [.sdoState s.mchSdo.state st] }

/-- `delete sdo; machine->sdo_active = NULL;`. -/
def clearActive (s : Host c σ) : Host c σ :=
  { s with mchSdo := { s.mchSdo with sdoActive := none } }

end Host

/-- `mch_sdo_create`, in a program whose other parts are `intf` and `env`. -/
def mchSdoCreate (intf : Intf) (env : σ) : Host c σ where
  mchSdo := { state := .disabled, sdoQueue := [], sdoActive := none, allocated := 0 }
  intf := intf
  trace := []
  env := env

/-- What the registered abort functions do. -/
abbrev AbortDispatch (c : Client) (σ : Type) :=
  c.AbortFn → Option c.Data → UInt16 → UInt8 → UInt32 → Host c σ → Except Halt (Host c σ)

/-! ## The machine -/

/-- `mch_sdo_next_state_given_event`. -/
def mchSdoNextStateGivenEvent : MchSdoState → MchSdoEvent → MchSdoState
  | .disabled, .netSdoEnabled => .waiting
  | .error, .netSdoEnabled => .waiting
  | .waiting, .netSdoDisabled => .disabled
  | .waiting, .itemAvailable => .sending
  | .sending, .netSdoDisabled => .disabled
  | .sending, .readResponse => .waiting
  | .sending, .writeResponse => .waiting
  | .sending, .abortResponse => .error
  | state, _ => state

/-- `mch_sdo_send`. -/
def mchSdoSend (sdo : Sdo c) (s : Host c σ) : Host c σ :=
  { s with
    intf :=
      if sdo.isWrite then intfSendWriteReq sdo.index sdo.subindex sdo.value sdo.size s.intf
      else intfSendReadReq sdo.index sdo.subindex s.intf
    trace := s.trace ++ [.sent sdo] }

/-- `mch_sdo_on_enter`; `raise` is `mch_sdo_handle_event` of this machine. -/
def mchSdoOnEnter (raise : MchSdoEvent → Host c σ → Except Halt (Host c σ)) (s : Host c σ) :
    Except Halt (Host c σ) :=
  match s.mchSdo.state with
  | .sending =>
    match s.mchSdo.sdoQueue with
    | [] => .error .undefined
    | sdo :: rest =>
      .ok (mchSdoSend sdo
        { s with mchSdo := { s.mchSdo with sdoActive := some sdo, sdoQueue := rest } })
  | .waiting => if s.mchSdo.sdoQueue.isEmpty then .ok s else raise .itemAvailable s
  | _ => .ok s

/-- `if(sdo->abort_callback) sdo->abort_callback(...)`. -/
def callAbort (onAbort : AbortDispatch c σ) (sdo : Sdo c) (index : UInt16) (subindex : UInt8)
    (code : UInt32) (s : Host c σ) : Except Halt (Host c σ) :=
  match sdo.abortCallback with
  | some f =>
    onAbort f sdo.data index subindex code
      (s.log (.called sdo.addr (.abort f sdo.data index subindex code)))
  | none => .ok s

/-- The loop of `mch_sdo_clear_queue`, over the queue as it stands.  The registered functions do
not queue, so this is the whole queue. -/
def clearQueueLoop (onAbort : AbortDispatch c σ) :
    List (Sdo c) → Host c σ → Except Halt (Host c σ)
  | [], s => .ok s
  | sdo :: rest, s => do
    let s := { s with mchSdo := { s.mchSdo with sdoQueue := rest } }
    let s ← callAbort onAbort sdo sdo.index sdo.subindex 0 s
    clearQueueLoop onAbort rest s

/-- `mch_sdo_clear_queue`. -/
def mchSdoClearQueue (onAbort : AbortDispatch c σ) (s : Host c σ) : Except Halt (Host c σ) :=
  clearQueueLoop onAbort s.mchSdo.sdoQueue s

/-- `mch_sdo_on_exit`. -/
def mchSdoOnExit (onAbort : AbortDispatch c σ) (s : Host c σ) : Except Halt (Host c σ) :=
  match s.mchSdo.state with
  | .disabled => mchSdoClearQueue onAbort s
  | .error => mchSdoClearQueue onAbort s
  | _ => .ok s

/-- `mch_sdo_handle_event` to a given depth of recursion.  Entering `waiting` may raise an
event, entering `sending` does not, so a depth of two is enough (`mchSdoHandleEventAt_depth`). -/
def mchSdoHandleEventAt (onAbort : AbortDispatch c σ) :
    ℕ → MchSdoEvent → Host c σ → Except Halt (Host c σ)
  | 0, _, _ => .error .depth
  | depth + 1, event, s =>
    handleEvent (fun s : Host c σ => s.mchSdo.state) Host.setSdoState mchSdoNextStateGivenEvent
      (mchSdoOnExit onAbort) (mchSdoOnEnter (mchSdoHandleEventAt onAbort depth)) event s

/-- `mch_sdo_handle_event`. -/
def mchSdoHandleEvent (onAbort : AbortDispatch c σ) (event : MchSdoEvent) (s : Host c σ) :
    Except Halt (Host c σ) :=
  mchSdoHandleEventAt onAbort 2 event s

/-! ## Queueing -/

/-- The request that `mch_sdo_queue_write_with_cb` builds. -/
def writeRequest (index : UInt16) (subindex : UInt8) (value : UInt32) (size : UInt8)
    (writeCallback : Option c.WriteFn) (abortCallback : Option c.AbortFn)
    (data : Option c.Data) : Request c :=
  { isWrite := true, index, subindex, value, size, data, abortCallback, writeCallback,
    readCallback := none }

/-- The request that `mch_sdo_queue_read_with_cb` builds.  The caller's `data` is not kept. -/
def readRequest (index : UInt16) (subindex : UInt8) (readCallback : Option c.ReadFn)
    (abortCallback : Option c.AbortFn) (_data : Option c.Data) : Request c :=
  { isWrite := false, index, subindex, value := 0, size := 0, data := none, abortCallback,
    writeCallback := none, readCallback }

/-- `new sdo_t()`, filled in with `r`. -/
def Request.new (r : Request c) (s : Host c σ) : Sdo c :=
  { toRequest := r, addr := s.mchSdo.allocated }

/-- `machine->sdo_queue.push(sdo)` of a new request. -/
def Host.enqueue (r : Request c) (s : Host c σ) : Host c σ :=
  { s with
    mchSdo :=
      { s.mchSdo with
        sdoQueue := s.mchSdo.sdoQueue ++ [r.new s]
        allocated := s.mchSdo.allocated + 1 }
    trace := s.trace ++ [.queued (r.new s)] }

/-- The common end of the queueing functions: push the request and wake the machine. -/
def mchSdoQueue (onAbort : AbortDispatch c σ) (r : Request c) (s : Host c σ) :
    Except Halt (Host c σ) :=
  mchSdoHandleEvent onAbort .itemAvailable (s.enqueue r)

/-- `mch_sdo_queue_write_with_cb`. -/
def mchSdoQueueWriteWithCb (onAbort : AbortDispatch c σ) (index : UInt16) (subindex : UInt8)
    (value : UInt32) (size : UInt8) (writeCallback : Option c.WriteFn)
    (abortCallback : Option c.AbortFn) (data : Option c.Data) (s : Host c σ) :
    Except Halt (Host c σ) :=
  mchSdoQueue onAbort (writeRequest index subindex value size writeCallback abortCallback data) s

/-- `mch_sdo_queue_write`. -/
def mchSdoQueueWrite (onAbort : AbortDispatch c σ) (index : UInt16) (subindex : UInt8)
    (value : UInt32) (size : UInt8) (s : Host c σ) : Except Halt (Host c σ) :=
  mchSdoQueueWriteWithCb onAbort index subindex value size none none none s

/-- `mch_sdo_queue_read_with_cb`. -/
def mchSdoQueueReadWithCb (onAbort : AbortDispatch c σ) (index : UInt16) (subindex : UInt8)
    (readCallback : Option c.ReadFn) (abortCallback : Option c.AbortFn) (data : Option c.Data)
    (s : Host c σ) : Except Halt (Host c σ) :=
  mchSdoQueue onAbort (readRequest index subindex readCallback abortCallback data) s

/-- `mch_sdo_queue_read`. -/
def mchSdoQueueRead (onAbort : AbortDispatch c σ) (index : UInt16) (subindex : UInt8)
    (s : Host c σ) : Except Halt (Host c σ) :=
  mchSdoQueueReadWithCb onAbort index subindex none none none s

/-! ## Responses -/

/-- A step that leaves the SDO machine alone: only notes are added to the trace. -/
def LeavesSdo (f : Host c σ → Except Halt (Host c σ)) : Prop :=
  ∀ s s', f s = .ok s' →
    s'.mchSdo = s.mchSdo ∧ ∃ ns : List c.Note, s'.trace = s.trace ++ ns.map .note

/-- What the registered functions do.  They may change the rest of the program, write frames
and add their own entries to the trace, but they do not call the SDO machine. -/
structure Callbacks (c : Client) (σ : Type) where
  onAbort : AbortDispatch c σ
  onWrite : c.WriteFn → Option c.Data → UInt16 → UInt8 → Host c σ → Except Halt (Host c σ)
  onRead : c.ReadFn → Option c.Data → UInt16 → UInt8 → UInt32 → Host c σ →
    Except Halt (Host c σ)
  onAbort_leaves : ∀ f data index subindex code,
    LeavesSdo (onAbort f data index subindex code)
  onWrite_leaves : ∀ f data index subindex, LeavesSdo (onWrite f data index subindex)
  onRead_leaves : ∀ f data index subindex value, LeavesSdo (onRead f data index subindex value)

/-- Registered functions that return at once. -/
def Callbacks.inert (c : Client) (σ : Type) : Callbacks c σ where
  onAbort _ _ _ _ _ s := .ok s
  onWrite _ _ _ _ s := .ok s
  onRead _ _ _ _ _ s := .ok s
  onAbort_leaves _ _ _ _ _ s s' h := by cases h; exact ⟨rfl, [], by simp⟩
  onWrite_leaves _ _ _ _ s s' h := by cases h; exact ⟨rfl, [], by simp⟩
  onRead_leaves _ _ _ _ _ s s' h := by cases h; exact ⟨rfl, [], by simp⟩

namespace Callbacks

variable (cb : Callbacks c σ) (sdo : Sdo c) (index : UInt16) (subindex : UInt8)

/-- `if(sdo->read_callback) sdo->read_callback(...)`. -/
def read (value : UInt32) (s : Host c σ) : Except Halt (Host c σ) :=
  match sdo.readCallback with
  | some f =>
    cb.onRead f sdo.data index subindex value
      (s.log (.called sdo.addr (.read f sdo.data index subindex value)))
  | none => .ok s

/-- `if(sdo->write_callback) sdo->write_callback(...)`. -/
def write (s : Host c σ) : Except Halt (Host c σ) :=
  match sdo.writeCallback with
  | some f =>
    cb.onWrite f sdo.data index subindex
      (s.log (.called sdo.addr (.write f sdo.data index subindex)))
  | none => .ok s

/-- `if(sdo->abort_callback) sdo->abort_callback(...)`. -/
def abort (code : UInt32) (s : Host c σ) : Except Halt (Host c σ) :=
  callAbort cb.onAbort sdo index subindex code s

end Callbacks

/-- `mch_sdo_read_callback`. -/
def mchSdoReadCallback (cb : Callbacks c σ) (index : UInt16) (subindex : UInt8) (value : UInt32)
    (s : Host c σ) : Except Halt (Host c σ) :=
  match s.mchSdo.sdoActive with
  | none => .error .assertFailed
  | some sdo => do
    assert (!sdo.isWrite)
    assert (sdo.index == index)
    assert (sdo.subindex == subindex)
    let s ← cb.read sdo index subindex value (s.log (.answered sdo (.read value)))
    mchSdoHandleEvent cb.onAbort .readResponse s.clearActive

/-- `mch_sdo_write_callback`. -/
def mchSdoWriteCallback (cb : Callbacks c σ) (index : UInt16) (subindex : UInt8)
    (s : Host c σ) : Except Halt (Host c σ) :=
  match s.mchSdo.sdoActive with
  | none => .error .assertFailed
  | some sdo => do
    assert sdo.isWrite
    assert (sdo.index == index)
    assert (sdo.subindex == subindex)
    let s ← cb.write sdo index subindex (s.log (.answered sdo .write))
    mchSdoHandleEvent cb.onAbort .writeResponse s.clearActive

/-- `mch_sdo_abort_callback`. -/
def mchSdoAbortCallback (cb : Callbacks c σ) (index : UInt16) (subindex : UInt8) (code : UInt32)
    (s : Host c σ) : Except Halt (Host c σ) :=
  match s.mchSdo.sdoActive with
  | none => .error .assertFailed
  | some sdo => do
    assert (sdo.index == index)
    assert (sdo.subindex == subindex)
    let s ← cb.abort sdo index subindex code (s.log (.answered sdo (.abort code)))
    mchSdoHandleEvent cb.onAbort .abortResponse s.clearActive

/-! ## What each function does

One equation for each event and each function, so that no later proof unfolds the machine. -/

namespace Host

/-- What entering `waiting` amounts to: the head of the queue, if any, becomes the active
request and is sent. -/
def resume (s : Host c σ) : Host c σ :=
  match s.mchSdo.sdoQueue with
  | [] => s
  | sdo :: rest =>
    mchSdoSend sdo
      { s.setSdoState .sending with
        mchSdo :=
          { (s.setSdoState .sending).mchSdo with sdoActive := some sdo, sdoQueue := rest } }

/-- What queueing a request amounts to. -/
def push (r : Request c) (s : Host c σ) : Host c σ :=
  if s.mchSdo.state = .waiting then (s.enqueue r).resume else s.enqueue r

/-- What a positive response amounts to, once the active request is gone. -/
def proceed (s : Host c σ) : Host c σ :=
  if s.mchSdo.state = .sending then (s.setSdoState .waiting).resume else s

/-- What disabling amounts to. -/
def disable (s : Host c σ) : Host c σ :=
  if s.mchSdo.state = .waiting ∨ s.mchSdo.state = .sending then s.setSdoState .disabled else s

/-- What an abort response amounts to, once the active request is gone. -/
def fail (s : Host c σ) : Host c σ :=
  if s.mchSdo.state = .sending then s.setSdoState .error else s

lemma resume_nil {s : Host c σ} (h : s.mchSdo.sdoQueue = []) : s.resume = s := by
  simp [resume, h]

lemma resume_cons_mchSdo {s : Host c σ} {sdo : Sdo c} {rest : List (Sdo c)}
    (h : s.mchSdo.sdoQueue = sdo :: rest) :
    s.resume.mchSdo =
      { state := .sending, sdoQueue := rest, sdoActive := some sdo,
        allocated := s.mchSdo.allocated } := by
  simp only [resume, h]
  rfl

lemma resume_cons_trace {s : Host c σ} {sdo : Sdo c} {rest : List (Sdo c)}
    (h : s.mchSdo.sdoQueue = sdo :: rest) :
    s.resume.trace = s.trace ++ [.sdoState s.mchSdo.state .sending, .sent sdo] := by
  simp only [resume, h]
  simp [mchSdoSend, setSdoState]

lemma resume_cons_intf {s : Host c σ} {sdo : Sdo c} {rest : List (Sdo c)}
    (h : s.mchSdo.sdoQueue = sdo :: rest) :
    s.resume.intf =
      if sdo.isWrite then intfSendWriteReq sdo.index sdo.subindex sdo.value sdo.size s.intf
      else intfSendReadReq sdo.index sdo.subindex s.intf := by
  simp only [resume, h]
  rfl

@[simp] lemma log_mchSdo (o : Obs c) (s : Host c σ) : (s.log o).mchSdo = s.mchSdo := rfl

@[simp] lemma log_trace (o : Obs c) (s : Host c σ) : (s.log o).trace = s.trace ++ [o] := rfl

@[simp] lemma log_env (o : Obs c) (s : Host c σ) : (s.log o).env = s.env := rfl

@[simp] lemma log_intf (o : Obs c) (s : Host c σ) : (s.log o).intf = s.intf := rfl

@[simp] lemma setSdoState_state (st : MchSdoState) (s : Host c σ) :
    (s.setSdoState st).mchSdo.state = st := rfl

@[simp] lemma setSdoState_sdoQueue (st : MchSdoState) (s : Host c σ) :
    (s.setSdoState st).mchSdo.sdoQueue = s.mchSdo.sdoQueue := rfl

@[simp] lemma setSdoState_sdoActive (st : MchSdoState) (s : Host c σ) :
    (s.setSdoState st).mchSdo.sdoActive = s.mchSdo.sdoActive := rfl

@[simp] lemma setSdoState_allocated (st : MchSdoState) (s : Host c σ) :
    (s.setSdoState st).mchSdo.allocated = s.mchSdo.allocated := rfl

@[simp] lemma setSdoState_env (st : MchSdoState) (s : Host c σ) :
    (s.setSdoState st).env = s.env := rfl

@[simp] lemma setSdoState_intf (st : MchSdoState) (s : Host c σ) :
    (s.setSdoState st).intf = s.intf := rfl

@[simp] lemma setSdoState_trace (st : MchSdoState) (s : Host c σ) :
    (s.setSdoState st).trace = s.trace ++ [.sdoState s.mchSdo.state st] := rfl

@[simp] lemma clearActive_state (s : Host c σ) :
    s.clearActive.mchSdo.state = s.mchSdo.state := rfl

@[simp] lemma clearActive_sdoQueue (s : Host c σ) :
    s.clearActive.mchSdo.sdoQueue = s.mchSdo.sdoQueue := rfl

@[simp] lemma clearActive_sdoActive (s : Host c σ) : s.clearActive.mchSdo.sdoActive = none := rfl

@[simp] lemma clearActive_allocated (s : Host c σ) :
    s.clearActive.mchSdo.allocated = s.mchSdo.allocated := rfl

@[simp] lemma clearActive_env (s : Host c σ) : s.clearActive.env = s.env := rfl

@[simp] lemma clearActive_intf (s : Host c σ) : s.clearActive.intf = s.intf := rfl

@[simp] lemma clearActive_trace (s : Host c σ) : s.clearActive.trace = s.trace := rfl

@[simp] lemma resume_env (s : Host c σ) : s.resume.env = s.env := by
  unfold resume; split <;> rfl

@[simp] lemma resume_allocated (s : Host c σ) :
    s.resume.mchSdo.allocated = s.mchSdo.allocated := by
  unfold resume; split <;> rfl

@[simp] lemma push_env (r : Request c) (s : Host c σ) : (s.push r).env = s.env := by
  unfold push; split
  · rw [resume_env]; rfl
  · rfl

@[simp] lemma proceed_env (s : Host c σ) : s.proceed.env = s.env := by
  unfold proceed; split
  · rw [resume_env]; rfl
  · rfl

@[simp] lemma disable_env (s : Host c σ) : s.disable.env = s.env := by
  unfold disable; split <;> rfl

@[simp] lemma fail_env (s : Host c σ) : s.fail.env = s.env := by
  unfold fail; split <;> rfl

end Host

section Specs

variable (onAbort : AbortDispatch c σ)

/-- Entering `sending` raises no event, so a depth of one handles a new item. -/
lemma mchSdoHandleEventAt_itemAvailable (depth : ℕ) {s : Host c σ}
    (h : s.mchSdo.state = .waiting) (hq : s.mchSdo.sdoQueue ≠ []) :
    mchSdoHandleEventAt onAbort (depth + 1) .itemAvailable s = .ok s.resume := by
  obtain ⟨sdo, rest, hr⟩ := List.exists_cons_of_ne_nil hq
  rw [mchSdoHandleEventAt, handleEvent_move (by simp [h, mchSdoNextStateGivenEvent])]
  simp [h, mchSdoNextStateGivenEvent, mchSdoOnExit, mchSdoOnEnter, hr, Host.resume]

/-- Entering `waiting` raises one event at most. -/
lemma mchSdoOnEnter_waiting (depth : ℕ) {s : Host c σ} (h : s.mchSdo.state = .waiting) :
    mchSdoOnEnter (mchSdoHandleEventAt onAbort (depth + 1)) s = .ok s.resume := by
  unfold mchSdoOnEnter
  simp only [h]
  by_cases hq : s.mchSdo.sdoQueue = []
  · simp [hq, Host.resume_nil hq]
  · simp [hq, mchSdoHandleEventAt_itemAvailable onAbort depth h hq]

lemma mchSdoHandleEventAt_stay (depth : ℕ) {event : MchSdoEvent} {s : Host c σ}
    (h : mchSdoNextStateGivenEvent s.mchSdo.state event = s.mchSdo.state) :
    mchSdoHandleEventAt onAbort (depth + 1) event s = .ok s := by
  rw [mchSdoHandleEventAt]
  exact handleEvent_stay h

lemma mchSdoHandleEventAt_response (depth : ℕ) {event : MchSdoEvent}
    (he : event = .readResponse ∨ event = .writeResponse) (s : Host c σ) :
    mchSdoHandleEventAt onAbort (depth + 2) event s = .ok s.proceed := by
  by_cases h : s.mchSdo.state = .sending
  · rw [mchSdoHandleEventAt,
      handleEvent_move (by rcases he with rfl | rfl <;> simp [h, mchSdoNextStateGivenEvent])]
    have hnext : mchSdoNextStateGivenEvent s.mchSdo.state event = .waiting := by
      rcases he with rfl | rfl <;> simp [h, mchSdoNextStateGivenEvent]
    have hexit : mchSdoOnExit onAbort s = .ok s := by simp [mchSdoOnExit, h]
    rw [hnext, hexit, ok_bind, mchSdoOnEnter_waiting onAbort depth rfl]
    simp [Host.proceed, h]
  · rw [mchSdoHandleEventAt_stay]
    · simp [Host.proceed, h]
    · rcases he with rfl | rfl <;> cases hs : s.mchSdo.state <;>
        simp_all [mchSdoNextStateGivenEvent]

lemma mchSdoHandleEventAt_abortResponse (depth : ℕ) (s : Host c σ) :
    mchSdoHandleEventAt onAbort (depth + 1) .abortResponse s = .ok s.fail := by
  by_cases h : s.mchSdo.state = .sending
  · rw [mchSdoHandleEventAt, handleEvent_move (by simp [h, mchSdoNextStateGivenEvent])]
    simp [h, mchSdoNextStateGivenEvent, mchSdoOnExit, mchSdoOnEnter, Host.fail]
  · rw [mchSdoHandleEventAt_stay]
    · simp [Host.fail, h]
    · cases hs : s.mchSdo.state <;> simp_all [mchSdoNextStateGivenEvent]

lemma mchSdoHandleEventAt_netSdoDisabled (depth : ℕ) (s : Host c σ) :
    mchSdoHandleEventAt onAbort (depth + 1) .netSdoDisabled s = .ok s.disable := by
  by_cases h : s.mchSdo.state = .waiting ∨ s.mchSdo.state = .sending
  · rw [mchSdoHandleEventAt,
      handleEvent_move (by rcases h with h | h <;> simp [h, mchSdoNextStateGivenEvent])]
    rcases h with h | h <;>
      simp [h, mchSdoNextStateGivenEvent, mchSdoOnExit, mchSdoOnEnter, Host.disable]
  · rw [mchSdoHandleEventAt_stay]
    · simp [Host.disable, h]
    · cases hs : s.mchSdo.state <;> simp_all [mchSdoNextStateGivenEvent]

/-- Queueing never fails. -/
lemma mchSdoQueue_eq (r : Request c) (s : Host c σ) :
    mchSdoQueue onAbort r s = .ok (s.push r) := by
  unfold mchSdoQueue mchSdoHandleEvent Host.push
  by_cases h : s.mchSdo.state = .waiting
  · rw [if_pos h]
    exact mchSdoHandleEventAt_itemAvailable onAbort 1 h (by simp [Host.enqueue])
  · rw [if_neg h]
    refine mchSdoHandleEventAt_stay onAbort 1 ?_
    cases hs : s.mchSdo.state <;> simp_all [Host.enqueue, mchSdoNextStateGivenEvent]

@[simp] lemma mchSdoQueueWriteWithCb_eq (index : UInt16) (subindex : UInt8) (value : UInt32)
    (size : UInt8) (w : Option c.WriteFn) (a : Option c.AbortFn) (d : Option c.Data)
    (s : Host c σ) :
    mchSdoQueueWriteWithCb onAbort index subindex value size w a d s =
      .ok (s.push (writeRequest index subindex value size w a d)) :=
  mchSdoQueue_eq onAbort _ s

@[simp] lemma mchSdoQueueWrite_eq (index : UInt16) (subindex : UInt8) (value : UInt32)
    (size : UInt8) (s : Host c σ) :
    mchSdoQueueWrite onAbort index subindex value size s =
      .ok (s.push (writeRequest index subindex value size none none none)) :=
  mchSdoQueue_eq onAbort _ s

@[simp] lemma mchSdoQueueReadWithCb_eq (index : UInt16) (subindex : UInt8)
    (r : Option c.ReadFn) (a : Option c.AbortFn) (d : Option c.Data) (s : Host c σ) :
    mchSdoQueueReadWithCb onAbort index subindex r a d s =
      .ok (s.push (readRequest index subindex r a d)) :=
  mchSdoQueue_eq onAbort _ s

@[simp] lemma mchSdoQueueRead_eq (index : UInt16) (subindex : UInt8) (s : Host c σ) :
    mchSdoQueueRead onAbort index subindex s =
      .ok (s.push (readRequest index subindex none none none)) :=
  mchSdoQueue_eq onAbort _ s

@[simp] lemma mchSdoHandleEvent_readResponse (s : Host c σ) :
    mchSdoHandleEvent onAbort .readResponse s = .ok s.proceed :=
  mchSdoHandleEventAt_response onAbort 0 (.inl rfl) s

@[simp] lemma mchSdoHandleEvent_writeResponse (s : Host c σ) :
    mchSdoHandleEvent onAbort .writeResponse s = .ok s.proceed :=
  mchSdoHandleEventAt_response onAbort 0 (.inr rfl) s

@[simp] lemma mchSdoHandleEvent_abortResponse (s : Host c σ) :
    mchSdoHandleEvent onAbort .abortResponse s = .ok s.fail :=
  mchSdoHandleEventAt_abortResponse onAbort 1 s

@[simp] lemma mchSdoHandleEvent_netSdoDisabled (s : Host c σ) :
    mchSdoHandleEvent onAbort .netSdoDisabled s = .ok s.disable :=
  mchSdoHandleEventAt_netSdoDisabled onAbort 1 s

/-- Enabling a machine that already sends does nothing. -/
lemma mchSdoHandleEvent_netSdoEnabled_of_enabled {s : Host c σ}
    (h : s.mchSdo.state = .waiting ∨ s.mchSdo.state = .sending) :
    mchSdoHandleEvent onAbort .netSdoEnabled s = .ok s := by
  refine mchSdoHandleEventAt_stay onAbort 1 ?_
  rcases h with h | h <;> simp [h, mchSdoNextStateGivenEvent]

/-- Enabling a machine that does not send clears the queue on the way. -/
lemma mchSdoHandleEvent_netSdoEnabled_of_disabled {s : Host c σ}
    (h : s.mchSdo.state = .disabled ∨ s.mchSdo.state = .error) :
    mchSdoHandleEvent onAbort .netSdoEnabled s =
      mchSdoClearQueue onAbort s >>= fun t => .ok (t.setSdoState .waiting).resume := by
  unfold mchSdoHandleEvent
  rw [mchSdoHandleEventAt,
    handleEvent_move (by rcases h with h | h <;> simp [h, mchSdoNextStateGivenEvent])]
  have hexit : mchSdoOnExit onAbort s = mchSdoClearQueue onAbort s := by
    rcases h with h | h <;> simp [mchSdoOnExit, h]
  have hnext : mchSdoNextStateGivenEvent s.mchSdo.state .netSdoEnabled = .waiting := by
    rcases h with h | h <;> simp [h, mchSdoNextStateGivenEvent]
  rw [hexit, hnext]
  exact congrArg _ (funext fun t => mchSdoOnEnter_waiting onAbort 0 rfl)

end Specs

/-- The recursion of `mch_sdo_handle_event` never gets deeper than two calls. -/
theorem mchSdoHandleEventAt_depth (onAbort : AbortDispatch c σ) (depth : ℕ) (event : MchSdoEvent)
    (s : Host c σ) :
    mchSdoHandleEventAt onAbort (depth + 2) event s = mchSdoHandleEvent onAbort event s := by
  have henter : mchSdoOnEnter (σ := σ) (mchSdoHandleEventAt onAbort (depth + 1)) =
      mchSdoOnEnter (mchSdoHandleEventAt onAbort 1) := by
    funext t
    cases ht : t.mchSdo.state with
    | waiting =>
      rw [mchSdoOnEnter_waiting onAbort depth ht, mchSdoOnEnter_waiting onAbort 0 ht]
    | disabled | error | sending => simp only [mchSdoOnEnter, ht]
  rw [mchSdoHandleEvent, mchSdoHandleEventAt, mchSdoHandleEventAt, henter]

end SledServer
