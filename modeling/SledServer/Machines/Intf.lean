import SledServer.Machines.Net

/-!
# The interface machine

`mch_intf.cc` and the two functions of `interface.cc` it drives, `intf_open` and `intf_close`.
Closing calls back into the machine through the close handler, so the two recurse into each other;
`mchIntfHandleEventAt_depth` bounds the recursion.

What the device does is not the program's to choose: `CanOutcome` holds the results of the calls
into `libpcan` during one step.
-/

namespace SledServer

open SledServer.Core

/-- How far `intf_open` gets with a device that is not open yet. -/
inductive OpenOutcome
  /-- The device node is missing, or no character device. -/
  | noDevice
  /-- `LINUX_CAN_Open` fails. -/
  | openFails
  /-- `CAN_Init` fails. -/
  | initFails
  | success
  deriving DecidableEq, Repr

/-- The results of the calls into `libpcan` during one step.  `CAN_Close` is called once at most:
when it succeeds the handle is gone, and when it fails `intf_close` returns. -/
structure CanOutcome where
  open? : OpenOutcome
  closeOk : Bool
  deriving DecidableEq, Repr

/-- `mch_intf_event_t`. -/
inductive MchIntfEvent
  | open
  | close
  | opened
  | closed
  deriving DecidableEq, Repr

/-- `mch_intf_next_state_given_event`. -/
def mchIntfNextStateGivenEvent : MchIntfState → MchIntfEvent → MchIntfState
  | .closed, .open => .opening
  | .opening, .opened => .opened
  | .closing, .closed => .closed
  | .opened, .close => .closing
  | state, _ => state

/-- `intf_close`; `closeHandler` is what `intf->close_handler` does. -/
def intfClose (o : CanOutcome) (closeHandler : Sled → Except Halt Sled) (s : Sled) :
    Except Halt (ℤ × Sled) :=
  let s : Sled := { s with intf := { s.intf with readEvent := false } }
  if s.intf.handle && !o.closeOk then .ok (-1, s)
  else do
    let s : Sled :=
      if s.intf.handle then { s with intf := { s.intf with handle := false, fd := false } } else s
    let s ← closeHandler s
    .ok (0, s)

/-- `intf_open`. -/
def intfOpen (o : CanOutcome) (closeHandler : Sled → Except Halt Sled) (s : Sled) :
    Except Halt (ℤ × Sled) :=
  if s.intf.handle then .ok (0, s)
  else
    match o.open? with
    | .noDevice => .ok (-1, s)
    | .openFails => .ok (-1, s)
    | .initFails => do
      let (_, s) ← intfClose o closeHandler { s with intf := { s.intf with handle := true } }
      .ok (-1, s)
    | .success =>
      .ok (0, { s with intf := { s.intf with handle := true, fd := true, readEvent := true } })

/-- `mch_intf_on_enter`, with the handlers that `setup_state_machines` and `sled_create` register
in place; `raise` is `mch_intf_handle_event` of this machine. -/
def mchIntfOnEnter (o : CanOutcome) (raise : MchIntfEvent → Sled → Except Halt Sled) (s : Sled) :
    Except Halt Sled :=
  match s.env.mchIntf with
  | .opening => do
    let (result, s) ← intfOpen o (raise .close) s
    if result ≠ 0 then raise .closed s else raise .opened s
  | .closing => do
    let (_, s) ← intfClose o (raise .close) s
    raise .closed s
  | .opened => mchNetHandleEvent .intfOpened s
  | .closed => mchNetHandleEvent .intfClosed s

/-- `mch_intf_handle_event` to a given depth of recursion. -/
def mchIntfHandleEventAt (o : CanOutcome) : ℕ → MchIntfEvent → Sled → Except Halt Sled
  | 0, _, _ => .error .depth
  | depth + 1, event, s =>
    handleEvent (fun s : Sled => s.env.mchIntf) (fun st s => s.setIntfState st)
      mchIntfNextStateGivenEvent (fun s => .ok s)
      (mchIntfOnEnter o (mchIntfHandleEventAt o depth)) event s

/-- `mch_intf_handle_event`. -/
def mchIntfHandleEvent (o : CanOutcome) (event : MchIntfEvent) (s : Sled) : Except Halt Sled :=
  mchIntfHandleEventAt o 2 event s

/-- `intf_close(intf)` with `intf_on_close` as the close handler. -/
def intfCloseSled (o : CanOutcome) (s : Sled) : Except Halt Sled := do
  let (_, s) ← intfClose o (mchIntfHandleEvent o .close) s
  .ok s

/-! ## What one event does -/

section Specs

variable {o : CanOutcome} {depth : ℕ} {event : MchIntfEvent} {s s' : Sled}

lemma mchIntfHandleEventAt_stay
    (h : mchIntfNextStateGivenEvent s.env.mchIntf event = s.env.mchIntf) :
    mchIntfHandleEventAt o (depth + 1) event s = .ok s := by
  unfold mchIntfHandleEventAt handleEvent
  rw [if_pos h.symm]

lemma mchIntfHandleEventAt_move
    (h : mchIntfNextStateGivenEvent s.env.mchIntf event ≠ s.env.mchIntf) :
    mchIntfHandleEventAt o (depth + 1) event s =
      mchIntfOnEnter o (mchIntfHandleEventAt o depth)
        (s.setIntfState (mchIntfNextStateGivenEvent s.env.mchIntf event)) := by
  rw [mchIntfHandleEventAt]
  unfold handleEvent
  rw [if_neg (Ne.symm h)]
  rfl

/-- Raising `EV_INTF_OPENED` while opening tells the network machine. -/
lemma mchIntfHandleEventAt_opened (h : s.env.mchIntf = .opening) :
    mchIntfHandleEventAt o (depth + 1) .opened s =
      mchNetHandleEvent .intfOpened (s.setIntfState .opened) := by
  rw [mchIntfHandleEventAt_move (by simp [h, mchIntfNextStateGivenEvent])]
  simp [h, mchIntfNextStateGivenEvent, mchIntfOnEnter, Host.setIntfState]

/-- Raising `EV_INTF_CLOSED` while closing tells the network machine. -/
lemma mchIntfHandleEventAt_closed (h : s.env.mchIntf = .closing) :
    mchIntfHandleEventAt o (depth + 1) .closed s =
      mchNetHandleEvent .intfClosed (s.setIntfState .closed) := by
  rw [mchIntfHandleEventAt_move (by simp [h, mchIntfNextStateGivenEvent])]
  simp [h, mchIntfNextStateGivenEvent, mchIntfOnEnter, Host.setIntfState]

namespace Intf

/-- The interface after `CAN_Close` has failed. -/
def deaf (intf : Intf) : Intf := { intf with readEvent := false }

/-- The interface after `intf_close` has let go of the device. -/
def shut (intf : Intf) : Intf :=
  if intf.handle then { intf with readEvent := false, handle := false, fd := false }
  else { intf with readEvent := false }

/-- The interface after `intf_close`. -/
def tryClose (o : CanOutcome) (intf : Intf) : Intf :=
  if intf.handle && !o.closeOk then intf.deaf else intf.shut

/-- The result of `intf_open` and the interface after it. -/
def tryOpen (o : CanOutcome) (intf : Intf) : ℤ × Intf :=
  if intf.handle then (0, intf)
  else
    match o.open? with
    | .noDevice => (-1, intf)
    | .openFails => (-1, intf)
    | .initFails => (-1, { intf with handle := true }.tryClose o)
    | .success => (0, { intf with handle := true, fd := true, readEvent := true })

end Intf

lemma Intf.shut_readEvent (intf : Intf) : intf.shut.readEvent = false := by
  unfold Intf.shut
  split <;> rfl

lemma Intf.tryClose_readEvent (o : CanOutcome) (intf : Intf) :
    (intf.tryClose o).readEvent = false := by
  unfold Intf.tryClose
  split
  · rfl
  · exact intf.shut_readEvent

/-- The same process with another interface. -/
def Host.withIntf (intf : Intf) (s : Sled) : Sled := { s with intf := intf }

lemma intfClose_eq (closeHandler : Sled → Except Halt Sled) (s : Sled) :
    intfClose o closeHandler s =
      if s.intf.handle && !o.closeOk then .ok (-1, s.withIntf s.intf.deaf)
      else closeHandler (s.withIntf s.intf.shut) >>= fun t => .ok (0, t) := by
  unfold intfClose
  dsimp only
  split
  · rfl
  · by_cases hh : s.intf.handle = true <;> simp [hh, Host.withIntf, Intf.shut]

/-- While the machine is on its way, the close handler has no effect. -/
lemma mchIntfHandleEventAt_busy (h : s.env.mchIntf = .opening ∨ s.env.mchIntf = .closing) :
    mchIntfHandleEventAt o (depth + 1) .close s = .ok s := by
  refine mchIntfHandleEventAt_stay ?_
  rcases h with h | h <;> simp [h, mchIntfNextStateGivenEvent]

lemma intfClose_busy (o : CanOutcome) (depth : ℕ) {s : Sled}
    (h : s.env.mchIntf = .opening ∨ s.env.mchIntf = .closing) :
    ∃ r, intfClose o (mchIntfHandleEventAt o (depth + 1) .close) s =
      .ok (r, s.withIntf (s.intf.tryClose o)) := by
  rw [intfClose_eq, Intf.tryClose]
  split
  · exact ⟨_, rfl⟩
  · rw [mchIntfHandleEventAt_busy (s := s.withIntf s.intf.shut) h, ok_bind]
    exact ⟨_, rfl⟩

lemma intfOpen_busy (h : s.env.mchIntf = .opening) :
    intfOpen o (mchIntfHandleEventAt o (depth + 1) .close) s =
      .ok ((s.intf.tryOpen o).1, s.withIntf (s.intf.tryOpen o).2) := by
  unfold intfOpen Intf.tryOpen
  split
  · rfl
  · cases o.open? with
    | noDevice => rfl
    | openFails => rfl
    | initFails =>
      obtain ⟨r, hr⟩ := intfClose_busy o depth
        (s := { s with intf := { s.intf with handle := true } }) (.inl h)
      simp only [hr, ok_bind]
      rfl
    | success => rfl

/-- Opening: the machine ends in `ST_INTF_OPENED` and tells the network machine, or it stays in
`ST_INTF_OPENING`, where `EV_INTF_CLOSED` is ignored. -/
lemma mchIntfHandleEventAt_open (h : s.env.mchIntf = .closed) :
    mchIntfHandleEventAt o (depth + 2) .open s =
      if (s.intf.tryOpen o).1 ≠ 0 then
        .ok ((s.setIntfState .opening).withIntf (s.intf.tryOpen o).2)
      else mchNetHandleEvent .intfOpened
        (((s.setIntfState .opening).withIntf (s.intf.tryOpen o).2).setIntfState .opened) := by
  rw [mchIntfHandleEventAt_move (by simp [h, mchIntfNextStateGivenEvent])]
  have hnext : mchIntfNextStateGivenEvent s.env.mchIntf .open = .opening := by
    simp [h, mchIntfNextStateGivenEvent]
  have hst : (s.setIntfState .opening).env.mchIntf = .opening := rfl
  rw [hnext, mchIntfOnEnter]
  simp only [hst]
  rw [intfOpen_busy hst, ok_bind, show (s.setIntfState .opening).intf = s.intf from rfl]
  dsimp only
  by_cases hr : (s.intf.tryOpen o).1 ≠ 0
  · rw [if_pos hr, if_pos hr]
    exact mchIntfHandleEventAt_stay rfl
  · rw [if_neg hr, if_neg hr]
    exact mchIntfHandleEventAt_opened rfl

/-- Closing an open interface: the machine passes through `ST_INTF_CLOSING`, in which it closes
the device once more, and ends in `ST_INTF_CLOSED`. -/
lemma mchIntfHandleEventAt_close (h : s.env.mchIntf = .opened) :
    mchIntfHandleEventAt o (depth + 2) .close s =
      mchNetHandleEvent .intfClosed
        (((s.setIntfState .closing).withIntf (s.intf.tryClose o)).setIntfState .closed) := by
  rw [mchIntfHandleEventAt_move (by simp [h, mchIntfNextStateGivenEvent])]
  have hnext : mchIntfNextStateGivenEvent s.env.mchIntf .close = .closing := by
    simp [h, mchIntfNextStateGivenEvent]
  have hst : (s.setIntfState .closing).env.mchIntf = .closing := rfl
  rw [hnext, mchIntfOnEnter]
  simp only [hst]
  obtain ⟨r, hr⟩ := intfClose_busy o depth (.inr hst)
  rw [hr, ok_bind]
  exact mchIntfHandleEventAt_closed rfl

lemma mchIntfHandleEvent_open (h : s.env.mchIntf = .closed) :
    mchIntfHandleEvent o .open s =
      if (s.intf.tryOpen o).1 ≠ 0 then
        .ok ((s.setIntfState .opening).withIntf (s.intf.tryOpen o).2)
      else mchNetHandleEvent .intfOpened
        (((s.setIntfState .opening).withIntf (s.intf.tryOpen o).2).setIntfState .opened) :=
  mchIntfHandleEventAt_open h

lemma mchIntfHandleEvent_close (h : s.env.mchIntf = .opened) :
    mchIntfHandleEvent o .close s =
      mchNetHandleEvent .intfClosed
        (((s.setIntfState .closing).withIntf (s.intf.tryClose o)).setIntfState .closed) :=
  mchIntfHandleEventAt_close h

lemma mchIntfHandleEvent_stay
    (h : mchIntfNextStateGivenEvent s.env.mchIntf event = s.env.mchIntf) :
    mchIntfHandleEvent o event s = .ok s :=
  mchIntfHandleEventAt_stay h

end Specs

/-- The recursion of `mch_intf_handle_event` never gets deeper than two calls. -/
theorem mchIntfHandleEventAt_depth (o : CanOutcome) (depth : ℕ) (event : MchIntfEvent)
    (s : Sled) : mchIntfHandleEventAt o (depth + 2) event s = mchIntfHandleEvent o event s := by
  unfold mchIntfHandleEvent
  by_cases h : mchIntfNextStateGivenEvent s.env.mchIntf event = s.env.mchIntf
  · rw [mchIntfHandleEventAt_stay h, mchIntfHandleEventAt_stay h]
  · cases hs : s.env.mchIntf <;> cases event <;> simp_all only [mchIntfNextStateGivenEvent,
      not_true_eq_false, reduceCtorEq, not_false_eq_true]
    · rw [mchIntfHandleEventAt_open hs, mchIntfHandleEventAt_open hs]
    · rw [mchIntfHandleEventAt_close hs, mchIntfHandleEventAt_close hs]
    · rw [mchIntfHandleEventAt_opened hs, mchIntfHandleEventAt_opened hs]
    · rw [mchIntfHandleEventAt_closed hs, mchIntfHandleEventAt_closed hs]

end SledServer
