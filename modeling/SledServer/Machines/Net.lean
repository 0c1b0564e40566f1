import SledServer.Sled.Visits

/-!
# The network machine

`mch_net.cc`: the NMT state of the drive as the host sees it, the upload of the configuration,
and the functions that the sled hands to the SDO machine (`sledCallbacks`).  Entering
`ST_NET_PREOPERATIONAL` enables the SDO machine and queues the 24 writes of the configuration; only
the last of them carries a function for success.

Enabling the SDO machine clears its queue, and both abort functions of the sled end the process, so
the network machine can halt there and nowhere else.  `mchNetHandleEvent_ok` says what an event
does when it does not.
-/

namespace SledServer

open SledServer.Core

/-- `mch_net_event_t`. -/
inductive MchNetEvent
  | intfOpened
  | intfClosed
  | uploadComplete
  | uploadFailed
  | stopped
  | operational
  | preoperational
  | watchdogFailed
  deriving DecidableEq, Repr

/-- `mch_net_next_state_given_event`. -/
def mchNetNextStateGivenEvent : MchNetState → MchNetEvent → MchNetState
  | .disabled, .intfOpened => .unknown
  | .unknown, .stopped => .stopped
  | .unknown, .preoperational => .preoperational
  | .unknown, .operational => .enterpreoperational
  | .unknown, .intfClosed => .disabled
  | .stopped, .intfClosed => .disabled
  | .preoperational, .intfClosed => .disabled
  | .preoperational, .uploadComplete => .startremotenode
  | .preoperational, .stopped => .unknown
  | .preoperational, .watchdogFailed => .unknown
  | .operational, .intfClosed => .disabled
  | .operational, .stopped => .unknown
  | .operational, .preoperational => .unknown
  | .operational, .watchdogFailed => .unknown
  | .uploadconfig, .intfClosed => .disabled
  | .uploadconfig, .uploadComplete => .startremotenode
  | .startremotenode, .intfClosed => .disabled
  | .startremotenode, .operational => .operational
  | .enterpreoperational, .intfClosed => .disabled
  | .enterpreoperational, .preoperational => .preoperational
  | state, _ => state

/-! ## The configuration -/

/-- The arguments of `ENQUEUE`. -/
structure Setup where
  final : Bool
  index : UInt16
  subindex : UInt8
  value : UInt32
  size : UInt8

/-- The configuration of the drive, as `mch_net_queue_setup` lists it. -/
def netSetup : List Setup :=
  [ -- TPDO1
    ⟨false, 0x1A00, 0x00, 0x00, 0x01⟩,
    ⟨false, 0x1A00, 0x01, 0x60410010, 0x04⟩,
    ⟨false, 0x1A00, 0x02, 0x60610008, 0x04⟩,
    ⟨false, 0x1A00, 0x00, 0x02, 0x01⟩,
    ⟨false, 0x1800, 0x01, 0x40000181, 0x04⟩,
    ⟨false, 0x1800, 0x02, 0xFF, 0x01⟩,
    ⟨false, 0x1800, 0x03, 0x0A, 0x02⟩,
    ⟨false, 0x1800, 0x05, 0x0A, 0x02⟩,
    -- TPDO2
    ⟨false, 0x1A01, 0x00, 0x00, 0x01⟩,
    ⟨false, 0x1A01, 0x01, 0x60640020, 0x04⟩,
    ⟨false, 0x1A01, 0x02, 0x606C0020, 0x04⟩,
    ⟨false, 0x1A01, 0x00, 0x02, 0x01⟩,
    ⟨false, 0x1801, 0x01, 0x40000281, 0x04⟩,
    ⟨false, 0x1801, 0x02, 0xFF, 0x01⟩,
    ⟨false, 0x1801, 0x03, 0x0A, 0x02⟩,
    ⟨false, 0x1801, 0x05, 0x0A, 0x02⟩,
    -- RPDO2 for IP mode
    ⟨false, 0x1601, 0x00, 0x00, 0x01⟩,
    ⟨false, 0x1601, 0x01, 0x60C10120, 0x04⟩,
    ⟨false, 0x1601, 0x00, 0x01, 0x01⟩,
    ⟨false, 0x1401, 0x02, 0x01, 0x01⟩,
    -- No TPDO 3 and 4
    ⟨false, 0x1A02, 0x00, 0x00, 0x01⟩,
    ⟨false, 0x1802, 0x01, 0x40000381, 0x04⟩,
    ⟨false, 0x1A03, 0x00, 0x00, 0x01⟩,
    ⟨true, 0x1803, 0x01, 0x40000481, 0x04⟩ ]

/-- `ENQUEUE`. -/
def Setup.enqueue (s : Sled) (x : Setup) : Except Halt Sled :=
  mchSdoQueueWriteWithCb sledAbort x.index x.subindex x.value x.size
    (if x.final then some .mchNetSdoWriteCallback else none) (some .mchNetSdoAbortCallback)
    (some .mchNet) s

/-- `mch_net_queue_setup`. -/
def mchNetQueueSetup (s : Sled) : Except Halt Sled := netSetup.foldlM Setup.enqueue s

/-! ## The machine -/

/-- `intf_send_nmt_command(machine->interface, ...)`. -/
def Host.sendNmt (command : UInt8) (s : Sled) : Sled :=
  { s with intf := intfSendNmtCommand command s.intf }

/-- `mch_net_on_enter`, with the handlers that `setup_state_machines` registers in place.  The
case of `ST_NET_STOPPED` falls through to that of `ST_NET_STARTREMOTENODE`. -/
def mchNetOnEnter (s : Sled) : Except Halt Sled :=
  match s.env.mchNet with
  | .disabled => mchSdoHandleEvent sledAbort .netSdoDisabled s
  | .unknown => do
    let s ← mchSdoHandleEvent sledAbort .netSdoDisabled s
    .ok (s.sendNmt NMT_ENTERPREOPERATIONAL)
  | .stopped => do
    let s ← mchSdoHandleEvent sledAbort .netSdoDisabled s
    .ok (s.sendNmt NMT_STARTREMOTENODE)
  | .startremotenode => .ok (s.sendNmt NMT_STARTREMOTENODE)
  | .enterpreoperational => .ok (s.sendNmt NMT_ENTERPREOPERATIONAL)
  | .uploadconfig => mchNetQueueSetup s
  | .operational => do
    let s ← mchSdoHandleEvent sledAbort .netSdoEnabled s
    let (_, s) := sledProfilesReset s
    mchDsHandleEvent .netOperational s
  | .preoperational => do
    let s ← mchSdoHandleEvent sledAbort .netSdoEnabled s
    mchNetQueueSetup s

/-- `mch_net_on_exit`. -/
def mchNetOnExit (s : Sled) : Except Halt Sled :=
  match s.env.mchNet with
  | .operational => mchDsHandleEvent .netInoperational s
  | _ => .ok s

/-- `mch_net_handle_event`. -/
def mchNetHandleEvent (event : MchNetEvent) (s : Sled) : Except Halt Sled :=
  handleEvent (fun s : Sled => s.env.mchNet) (fun st s => s.setNetState st)
    mchNetNextStateGivenEvent mchNetOnExit mchNetOnEnter event s

/-- `mch_net_sdo_write_callback`. -/
def mchNetSdoWriteCallback (_data : Option SledData) (_index : UInt16) (_subindex : UInt8)
    (s : Sled) : Except Halt Sled :=
  mchNetHandleEvent .uploadComplete s

/-! ## What one event does -/

/-- The request that `ENQUEUE` queues. -/
def Setup.request (x : Setup) : Request sledClient :=
  writeRequest x.index x.subindex x.value x.size
    (if x.final then some .mchNetSdoWriteCallback else none) (some .mchNetSdoAbortCallback)
    (some .mchNet)

/-- The 24 requests of the configuration. -/
def netRequests : List (Request sledClient) := netSetup.map Setup.request

lemma mchNetQueueSetup_eq (s : Sled) : mchNetQueueSetup s = .ok (s.pushAll netRequests) := by
  have h : ∀ (xs : List Setup) (s : Sled),
      xs.foldlM Setup.enqueue s = .ok (s.pushAll (xs.map Setup.request)) := by
    intro xs
    induction xs with
    | nil => intro s; rfl
    | cons x xs ih =>
      intro s
      rw [List.foldlM_cons, Setup.enqueue, mchSdoQueueWriteWithCb_eq, ok_bind, ih]
      rfl
  exact h netSetup s

/-- The SDO machine sends. -/
def MchSdoState.Enabled (st : MchSdoState) : Prop := st = .waiting ∨ st = .sending

instance (st : MchSdoState) : Decidable st.Enabled := inferInstanceAs (Decidable (_ ∨ _))

namespace Host

/-- An SDO machine that was off, with its queue cleared, ready to send. -/
def opened (s : Sled) : Sled :=
  { s with mchSdo := { s.mchSdo with sdoQueue := [] } }.setSdoState .waiting

/-- `sled_profiles_reset`, without its result. -/
def resetProfiles (s : Sled) : Sled := (sledProfilesReset s).2

/-- The drive machine when the network machine leaves `ST_NET_OPERATIONAL`. -/
def netLeave (s : Sled) : Sled :=
  if s.env.mchNet = .operational then s.dsMove .netInoperational else s

end Host

/-- What `EV_NET_SDO_ENABLED` does when the process survives it: nothing to a machine that sends
already; otherwise the queue, which holds no request with an abort function, is dropped. -/
inductive SdoOn (s : Sled) : Sled → Prop
  | already (h : s.mchSdo.state.Enabled) : SdoOn s s
  | opened (h : ¬ s.mchSdo.state.Enabled)
      (hq : ∀ r ∈ s.mchSdo.sdoQueue, r.abortCallback = none) : SdoOn s s.opened

/-- Both abort functions end the process, so clearing the queue is all or nothing. -/
lemma clearQueueLoop_sled (q : List (Sdo sledClient)) (s : Sled) (hs : s.mchSdo.sdoQueue = q) :
    clearQueueLoop sledAbort q s =
      if ∀ r ∈ q, r.abortCallback = none then
        .ok { s with mchSdo := { s.mchSdo with sdoQueue := [] } }
      else .error .exit := by
  induction q generalizing s with
  | nil =>
    rw [if_pos (by simp), clearQueueLoop, ← hs]
  | cons r q ih =>
    rw [clearQueueLoop, callAbort]
    cases hr : r.abortCallback with
    | none =>
      simp only [ok_bind]
      rw [ih _ rfl]
      simp [hr]
    | some f => cases f <;> simp [sledAbort, hr]

lemma sdoOn_of_ok {s t : Sled} (h : mchSdoHandleEvent sledAbort .netSdoEnabled s = .ok t) :
    SdoOn s t := by
  by_cases hst : s.mchSdo.state.Enabled
  · rw [mchSdoHandleEvent_netSdoEnabled_of_enabled _ hst] at h
    cases h
    exact .already hst
  · have hoff : s.mchSdo.state = .disabled ∨ s.mchSdo.state = .error := by
      cases hs : s.mchSdo.state <;> simp_all [MchSdoState.Enabled]
    rw [mchSdoHandleEvent_netSdoEnabled_of_disabled _ hoff, mchSdoClearQueue,
      clearQueueLoop_sled _ _ rfl] at h
    split at h
    case isTrue hq =>
      rw [ok_bind, Host.resume_nil rfl] at h
      cases h
      exact .opened hst hq
    case isFalse => simp at h

/-- What entering a state of the network machine does. -/
inductive NetEnter (s : Sled) : Sled → Prop
  | disabled (h : s.env.mchNet = .disabled) : NetEnter s s.disable
  | unknown (h : s.env.mchNet = .unknown) :
      NetEnter s (s.disable.sendNmt NMT_ENTERPREOPERATIONAL)
  | stopped (h : s.env.mchNet = .stopped) : NetEnter s (s.disable.sendNmt NMT_STARTREMOTENODE)
  | startremotenode (h : s.env.mchNet = .startremotenode) :
      NetEnter s (s.sendNmt NMT_STARTREMOTENODE)
  | enterpreoperational (h : s.env.mchNet = .enterpreoperational) :
      NetEnter s (s.sendNmt NMT_ENTERPREOPERATIONAL)
  | uploadconfig (h : s.env.mchNet = .uploadconfig) : NetEnter s (s.pushAll netRequests)
  | operational {t : Sled} (h : s.env.mchNet = .operational) (ht : SdoOn s t) :
      NetEnter s (t.resetProfiles.dsMove .netOperational)
  | preoperational {t : Sled} (h : s.env.mchNet = .preoperational) (ht : SdoOn s t) :
      NetEnter s (t.pushAll netRequests)

lemma netEnter_of_ok {s s' : Sled} (h : mchNetOnEnter s = .ok s') : NetEnter s s' := by
  unfold mchNetOnEnter at h
  cases hn : s.env.mchNet <;>
    simp only [hn, mchSdoHandleEvent_netSdoDisabled, ok_bind, Except.ok.injEq,
      mchNetQueueSetup_eq, mchDsHandleEvent_eq, bind_eq_ok] at h
  · exact h ▸ .disabled hn
  · exact h ▸ .unknown hn
  · exact h ▸ .stopped hn
  · obtain ⟨t, ht, rfl⟩ := h
    exact .preoperational hn (sdoOn_of_ok ht)
  · obtain ⟨t, ht, rfl⟩ := h
    exact .operational hn (sdoOn_of_ok ht)
  · exact h ▸ .enterpreoperational hn
  · exact h ▸ .uploadconfig hn
  · exact h ▸ .startremotenode hn

lemma mchNetOnExit_eq (s : Sled) : mchNetOnExit s = .ok s.netLeave := by
  unfold mchNetOnExit Host.netLeave
  cases s.env.mchNet <;> simp

/-- One event of the network machine: the machines below are stopped where it leaves
`ST_NET_OPERATIONAL`, and the new state is entered. -/
lemma mchNetHandleEvent_eq (event : MchNetEvent) (s : Sled) :
    mchNetHandleEvent event s =
      if mchNetNextStateGivenEvent s.env.mchNet event = s.env.mchNet then .ok s
      else mchNetOnEnter
        (s.netLeave.setNetState (mchNetNextStateGivenEvent s.env.mchNet event)) := by
  unfold mchNetHandleEvent handleEvent
  dsimp only
  by_cases hst : mchNetNextStateGivenEvent s.env.mchNet event = s.env.mchNet
  · rw [if_pos hst.symm, if_pos hst]
  · rw [if_neg (Ne.symm hst), if_neg hst, mchNetOnExit_eq, ok_bind]

/-- Everything one event of the network machine can do. -/
lemma mchNetHandleEvent_ok {event : MchNetEvent} {s s' : Sled}
    (h : mchNetHandleEvent event s = .ok s') :
    (mchNetNextStateGivenEvent s.env.mchNet event = s.env.mchNet ∧ s' = s) ∨
    (mchNetNextStateGivenEvent s.env.mchNet event ≠ s.env.mchNet ∧
      NetEnter (s.netLeave.setNetState (mchNetNextStateGivenEvent s.env.mchNet event)) s') := by
  rw [mchNetHandleEvent_eq] at h
  split at h
  case isTrue hst =>
    cases h
    exact .inl ⟨hst, rfl⟩
  case isFalse hst => exact .inr ⟨hst, netEnter_of_ok h⟩

/-- Without the interface there is no network. -/
lemma mchNet_intfClosed (n : MchNetState) :
    mchNetNextStateGivenEvent n .intfClosed = .disabled := by
  cases n <;> rfl

/-! ## The registered functions -/

/-- What the end of the upload does: the network machine may start the node, and nothing else. -/
lemma mchNetHandleEvent_uploadComplete_ok {s s' : Sled}
    (h : mchNetHandleEvent .uploadComplete s = .ok s') :
    (s.env.mchNet ≠ .preoperational ∧ s.env.mchNet ≠ .uploadconfig ∧ s' = s) ∨
    ((s.env.mchNet = .preoperational ∨ s.env.mchNet = .uploadconfig) ∧
      s' = (s.setNetState .startremotenode).sendNmt NMT_STARTREMOTENODE) := by
  rcases mchNetHandleEvent_ok h with ⟨hstay, rfl⟩ | ⟨hmove, henter⟩
  · left
    cases hn : s'.env.mchNet <;> simp_all [mchNetNextStateGivenEvent]
  · right
    have hfrom : s.env.mchNet = .preoperational ∨ s.env.mchNet = .uploadconfig := by
      cases hn : s.env.mchNet <;> simp_all [mchNetNextStateGivenEvent]
    have hnext : mchNetNextStateGivenEvent s.env.mchNet .uploadComplete = .startremotenode := by
      rcases hfrom with hn | hn <;> simp [hn, mchNetNextStateGivenEvent]
    have hleave : s.netLeave = s := by
      rcases hfrom with hn | hn <;> simp [Host.netLeave, hn]
    rw [hnext, hleave] at henter
    refine ⟨hfrom, ?_⟩
    cases henter <;> simp_all [Host.setNetState]

/-- The functions that the sled hands to the SDO machine. -/
def sledOnWrite : SledWriteFn → Option SledData → UInt16 → UInt8 → Sled → Except Halt Sled
  | .mchNetSdoWriteCallback => mchNetSdoWriteCallback
  | .onSuccessCallback => onSuccessCallback

/-- The functions that the sled hands to the SDO machine, none of which calls it back. -/
def sledCallbacks : Callbacks sledClient SledEnv where
  onAbort := sledAbort
  onWrite := sledOnWrite
  onRead f := f.elim
  onAbort_leaves f data index subindex code s s' h := by cases f <;> simp [sledAbort] at h
  onWrite_leaves f data index subindex s s' h := by
    cases f with
    | mchNetSdoWriteCallback =>
      rcases mchNetHandleEvent_uploadComplete_ok h with ⟨-, -, rfl⟩ | ⟨-, rfl⟩
      · exact ⟨rfl, [], by simp⟩
      · exact ⟨rfl, [.netState s.env.mchNet .startremotenode], rfl⟩
    | onSuccessCallback =>
      simp only [sledOnWrite, onSuccessCallback] at h
      split at h <;> cases h
      exact ⟨rfl, [], by simp [Host.modifyProfile, Host.setProfiles]⟩
  onRead_leaves f := f.elim

end SledServer
