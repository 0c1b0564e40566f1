import SledServer.Sled.Coupling

/-!
# How a step of the sled halts

Most of the sled cannot fail.  The network machine halts when it switches on an SDO machine whose
queue holds a request with an abort function, since clearing the queue calls it; the SDO machine
halts on a response it does not expect; and a call halts on a link to a profile that does not exist.
`sledStep_error` says that this is all.

The first of these is how the server ends itself with no refusal of the drive: `never_exits_iff`.
-/

namespace SledServer

open SledServer.Core

variable {s s' : Sled}

/-! ## Switching the SDO machine on -/

/-- Switching the SDO machine on ends the process. -/
def Host.Fatal (s : Sled) : Prop :=
  ¬ s.mchSdo.state.Enabled ∧ ∃ r ∈ s.mchSdo.sdoQueue, r.abortCallback ≠ none

/-- The SDO machine is switched on, unless that ends the process. -/
lemma netSdoEnabled_cases (s : Sled) :
    (s.Fatal ∧ mchSdoHandleEvent sledAbort .netSdoEnabled s = .error .exit) ∨
      (¬ s.Fatal ∧ ∃ t, mchSdoHandleEvent sledAbort .netSdoEnabled s = .ok t) := by
  by_cases hon : s.mchSdo.state.Enabled
  · refine .inr ⟨fun hf => hf.1 hon, s, ?_⟩
    exact mchSdoHandleEvent_netSdoEnabled_of_enabled _ hon
  · have hoff : s.mchSdo.state = .disabled ∨ s.mchSdo.state = .error := by
      cases hs : s.mchSdo.state <;> simp_all [MchSdoState.Enabled]
    rw [mchSdoHandleEvent_netSdoEnabled_of_disabled _ hoff, mchSdoClearQueue,
      clearQueueLoop_sled _ _ rfl]
    split
    case isTrue hq =>
      refine .inr ⟨?_, _, rfl⟩
      rintro ⟨-, r, hr, hne⟩
      exact hne (hq r hr)
    case isFalse hq =>
      push Not at hq
      exact .inl ⟨⟨hon, hq⟩, rfl⟩

/-- The events of the network machine that switch the SDO machine on. -/
def MchNetState.SwitchesOn (st : MchNetState) (event : MchNetEvent) : Prop :=
  (event = .preoperational ∧ (st = .unknown ∨ st = .enterpreoperational)) ∨
    (event = .operational ∧ st = .startremotenode)

lemma switchesOn_iff {st : MchNetState} {event : MchNetEvent}
    (hne : mchNetNextStateGivenEvent st event ≠ st) :
    mchNetNextStateGivenEvent st event = .operational ∨
      mchNetNextStateGivenEvent st event = .preoperational ↔ st.SwitchesOn event := by
  unfold MchNetState.SwitchesOn
  revert hne
  cases st <;> cases event <;> decide

lemma netLeave_of_switchesOn {event : MchNetEvent} (h : s.env.mchNet.SwitchesOn event) :
    s.netLeave = s := by
  obtain ⟨-, hst | hst⟩ | ⟨-, hst⟩ := h <;> simp [Host.netLeave, hst]

/-- A state of the network machine is entered without halting, unless it switches the SDO machine
on. -/
lemma mchNetOnEnter_error {d : Halt} :
    mchNetOnEnter s = .error d ↔
      d = .exit ∧ (s.env.mchNet = .operational ∨ s.env.mchNet = .preoperational) ∧ s.Fatal := by
  by_cases hon : s.env.mchNet = .operational ∨ s.env.mchNet = .preoperational
  · obtain ⟨hf, h⟩ | ⟨hf, t, h⟩ := netSdoEnabled_cases s
    · obtain hn | hn := hon <;> simp [mchNetOnEnter, hn, h, hf, eq_comm]
    · obtain hn | hn := hon <;> simp [mchNetOnEnter, hn, h, hf, mchNetQueueSetup_eq]
  · unfold mchNetOnEnter
    cases hn : s.env.mchNet <;> simp_all [mchNetQueueSetup_eq]

/-- The network machine halts exactly when it switches on an SDO machine that ends the process. -/
lemma mchNetHandleEvent_error {event : MchNetEvent} {d : Halt} :
    mchNetHandleEvent event s = .error d ↔
      d = .exit ∧ s.env.mchNet.SwitchesOn event ∧ s.Fatal := by
  rw [mchNetHandleEvent_eq]
  by_cases hne : mchNetNextStateGivenEvent s.env.mchNet event = s.env.mchNet
  · have hno : ¬ s.env.mchNet.SwitchesOn event := by
      rintro (⟨rfl, hst | hst⟩ | ⟨rfl, hst⟩) <;> simp [hst, mchNetNextStateGivenEvent] at hne
    simp [hne, hno]
  · rw [if_neg hne, mchNetOnEnter_error]
    refine and_congr_right fun _ => ?_
    by_cases hon : s.env.mchNet.SwitchesOn event
    · have hleave := netLeave_of_switchesOn hon
      rw [hleave]
      exact and_congr_left fun _ => switchesOn_iff hne
    · have hno := mt (switchesOn_iff hne).mp hon
      constructor
      · rintro ⟨h, -⟩
        exact absurd h hno
      · rintro ⟨h, -⟩
        exact absurd h hon

/-- Where nothing is switched on the network machine does not halt. -/
lemma mchNetHandleEvent_ne_error {event : MchNetEvent} (h : event ≠ .preoperational)
    (h' : event ≠ .operational) (s : Sled) (d : Halt) : mchNetHandleEvent event s ≠ .error d := by
  rw [Ne, mchNetHandleEvent_error]
  rintro ⟨-, ⟨he, -⟩ | ⟨he, -⟩, -⟩
  · exact h he
  · exact h' he

lemma intfCloseSled_ne_error (o : CanOutcome) (s : Sled) (d : Halt) :
    intfCloseSled o s ≠ .error d := by
  unfold intfCloseSled
  refine bind_ne_error ?_ (by simp)
  rw [intfClose_eq]
  split
  · simp
  · refine bind_ne_error ?_ (by simp)
    by_cases hst : s.env.mchIntf = .opened
    · rw [mchIntfHandleEvent_close (s := s.withIntf s.intf.shut) hst]
      exact mchNetHandleEvent_ne_error (by simp) (by simp) _ _
    · rw [mchIntfHandleEvent_stay]
      · simp
      · show mchIntfNextStateGivenEvent s.env.mchIntf .close = s.env.mchIntf
        cases hi : s.env.mchIntf <;> simp_all [mchIntfNextStateGivenEvent]

/-! ## Calls -/

/-- The process stops by a decision of the program: a failed assertion, or `exit`. -/
def Halt.Deliberate (d : Halt) : Prop := d = .exit ∨ d = .assertFailed

section Calls

variable {d : Halt} (hd : d.Deliberate)

include hd

lemma Halt.Deliberate.ne : d ≠ .undefined ∧ d ≠ .depth := by
  obtain rfl | rfl := hd <;> simp

lemma writeOrder_ne_error (depth : ℕ) (e : SledEnv) (id : ℤ) :
    writeOrder depth e id ≠ .error d := by
  obtain ⟨hundefined, hdepth⟩ := hd.ne
  induction depth generalizing e id with
  | zero => simp [writeOrder, hdepth.symm]
  | succ depth ih =>
    unfold writeOrder
    cases profileIndex? id with
    | none => simp [hundefined.symm]
    | some i =>
      dsimp only
      split_ifs
      · simp
      · simp [hundefined.symm]
      · have hrec := ih (e.visit i) (e.profiles i).nextProfile
        cases hw : writeOrder depth (e.visit i) (e.profiles i).nextProfile with
        | ok is => simp
        | error x => simpa [hw] using hrec
      · simp

lemma writePendingChanges_ne_error (id : ℤ) (s : Sled) :
    sledProfileWritePendingChanges id s ≠ .error d := by
  rw [sledProfileWritePendingChanges_eq]
  have hw := writeOrder_ne_error hd (MAX_PROFILES + 1) s.env id
  cases h : writes s.env id with
  | ok is => simp
  | error x =>
    rw [writes] at h
    simpa [h] using hw

lemma execute_ne_error (id : ℤ) (s : Sled) : sledProfileExecute id s ≠ .error d := by
  unfold sledProfileExecute
  cases profileIndex? id with
  | none => simp
  | some i =>
    dsimp only
    split_ifs
    · simp
    · simp
    · refine bind_ne_error (writePendingChanges_ne_error hd id s) fun r _ => ?_
      simp

lemma sledCall_ne_error (s : Sled) (c : SledCall) : sledCall s c ≠ .error d := by
  cases c with
  | profileWritePendingChanges id => exact writePendingChanges_ne_error hd id s
  | profileExecute id => exact execute_ne_error hd id s
  | sinusoidStart => exact execute_ne_error hd _ _
  | sinusoidStop => exact writePendingChanges_ne_error hd _ _
  | rsinusoidStart =>
    refine bind_ne_error (writePendingChanges_ne_error hd _ _) fun r _ => ?_
    refine bind_ne_error (writePendingChanges_ne_error hd _ _) fun r _ => ?_
    refine bind_ne_error (writePendingChanges_ne_error hd _ _) fun r _ => ?_
    refine bind_ne_error (writePendingChanges_ne_error hd _ _) fun r _ => ?_
    exact execute_ne_error hd _ _
  | rsinusoidStop => exact writePendingChanges_ne_error hd _ _
  | lightSetState =>
    simp only [sledCall, sledLightSetState]
    split <;> simp
  | profileCreate | profileCreatePt | profileDestroy | profileSetTable | profileSetTarget
  | profileSetNext | profilesReset | rtNewSetpoint => simp [sledCall]

end Calls

/-! ## Responses -/

lemma assert_ne_exit (b : Bool) : assert b ≠ .error .exit := by cases b <;> simp

lemma mchSdoWriteCallback_ne_exit (index : UInt16) (subindex : UInt8) (s : Sled) :
    mchSdoWriteCallback sledCallbacks index subindex s ≠ .error .exit := by
  unfold mchSdoWriteCallback
  split
  · simp
  · next sdo _ =>
    refine bind_ne_error (assert_ne_exit _) fun _ _ => ?_
    refine bind_ne_error (assert_ne_exit _) fun _ _ => ?_
    refine bind_ne_error (assert_ne_exit _) fun _ _ => ?_
    refine bind_ne_error ?_ (by simp)
    unfold Callbacks.write
    cases sdo.writeCallback with
    | none => simp
    | some f =>
      cases f with
      | mchNetSdoWriteCallback => exact mchNetHandleEvent_ne_error (by simp) (by simp) _ _
      | onSuccessCallback =>
        simp only [sledCallbacks, sledOnWrite, onSuccessCallback]
        split <;> simp

lemma mchSdoReadCallback_ne_exit (index : UInt16) (subindex : UInt8) (value : UInt32) (s : Sled) :
    mchSdoReadCallback sledCallbacks index subindex value s ≠ .error .exit := by
  unfold mchSdoReadCallback
  split
  · simp
  · next sdo _ =>
    refine bind_ne_error (assert_ne_exit _) fun _ _ => ?_
    refine bind_ne_error (assert_ne_exit _) fun _ _ => ?_
    refine bind_ne_error (assert_ne_exit _) fun _ _ => ?_
    refine bind_ne_error ?_ (by simp)
    unfold Callbacks.read
    cases sdo.readCallback with
    | none => simp
    | some f => exact f.elim

/-- Only the refusal of a request makes its response end the process. -/
lemma dispatchSdo_ne_exit {data : Vector UInt8 8} (h : firstByte data ≠ 0x80) (s : Sled) :
    dispatchSdo data s ≠ .error .exit := by
  unfold dispatchSdo
  split_ifs
  · exact mchSdoWriteCallback_ne_exit _ _ s
  · simp
  · exact mchSdoReadCallback_ne_exit _ _ _ s
  · simp
  · simp

/-! ## Steps -/

/-- Everything that makes a step halt. -/
inductive SledHalt (s : Sled) (e : SledEvent) : Halt → Prop
  /-- A report of the network switches the SDO machine on. -/
  | exit {state : UInt8} {event : MchNetEvent} (he : e.nmtState? s = some state)
      (hevent : nmtEvent? state = some event) (hon : s.env.mchNet.SwitchesOn event)
      (hf : s.Fatal) : SledHalt s e .exit
  | sdo {d : Halt} (he : e.isSdo = true) (hd : e.isAbort = false → d ≠ .exit) : SledHalt s e d
  | call {c : SledCall} {d : Halt} (he : e = .call c) (hd : ¬ d.Deliberate) : SledHalt s e d

lemma intfOnTpdo_ne_error (now : ℚ) (pdo : ℕ) (data : Vector UInt8 8) (s : Sled) (d : Halt) :
    intfOnTpdo now pdo data s ≠ .error d := by
  unfold intfOnTpdo
  split_ifs <;> simp [foldlM_ok]

lemma intfDispatchMsg_error {o : CanOutcome} {now : ℚ} {msg : CanMessage} {status : ℤ} {d : Halt}
    (hread : s.intf.readEvent = true) (hfd : s.intf.fd = true) (htype : msg.type &&& 1 = 0)
    (h : intfDispatchMsg now msg s = .error d) :
    SledHalt s (.read o now (.message msg status)) d := by
  unfold intfDispatchMsg at h
  dsimp only at h
  split_ifs at h with hpdo hnmt hsdo
  · exact absurd h (intfOnTpdo_ne_error _ _ _ _ _)
  · have hraise : raiseNmt (firstByte msg.data &&& 0x7F) s = .error d := by
      by_contra hne
      exact bind_ne_error hne (by simp) h
    unfold raiseNmt at hraise
    split at hraise
    case h_2 => cases hraise
    case h_1 event hevent =>
      obtain ⟨rfl, hon, hf⟩ := mchNetHandleEvent_error.mp hraise
      exact .exit (by simp [SledEvent.nmtState?, hread, hfd, htype, hnmt]) hevent hon hf
  · refine .sdo (by simp [SledEvent.isSdo, hsdo]) fun hno => ?_
    have hdata : firstByte msg.data ≠ 0x80 := by
      simpa [SledEvent.isAbort, hsdo] using hno
    rintro rfl
    exact dispatchSdo_ne_exit hdata s h

/-- Every step that halts does so in one of the listed ways. -/
theorem sledStep_error {e : SledEvent} {d : Halt} (h : sledStep s e = .error d) :
    SledHalt s e d := by
  cases e with
  | read o now r =>
    simp only [sledStep] at h
    split at h
    case isFalse => cases h
    case isTrue hread =>
      unfold intfOnRead at h
      split at h
      case isTrue => cases h
      case isFalse hfd =>
        cases r with
        | empty => cases h
        | error => exact absurd h (intfCloseSled_ne_error o s d)
        | message msg status =>
          dsimp only at h
          split_ifs at h with htype
          · exact absurd h (intfCloseSled_ne_error o s d)
          · exact intfDispatchMsg_error hread (by simpa using hfd) (by simpa using htype) h
  | watchdog now =>
    simp only [sledStep, nmtWatchdog] at h
    split at h
    · exact absurd h (mchNetHandleEvent_ne_error (by simp) (by simp) _ _)
    · cases h
  | call c =>
    refine .call rfl fun hd => ?_
    exact bind_ne_error (sledCall_ne_error hd s c) (by simp) h

/-- Only SDO responses meet an assertion. -/
lemma sledStep_ne_assertFailed {e : SledEvent} (he : e.isSdo = false) (s : Sled) :
    sledStep s e ≠ .error .assertFailed := by
  intro h
  cases sledStep_error h with
  | sdo hsdo =>
    rw [he] at hsdo
    cases hsdo
  | call _ hd => exact hd (.inr rfl)

/-- A report of the network is handed to the network machine. -/
lemma sledStep_of_nmt {e : SledEvent} {state : UInt8} (h : e.nmtState? s = some state) :
    ∃ now, sledStep s e = intfOnNmt now state s := by
  unfold SledEvent.nmtState? at h
  split at h
  case h_2 => cases h
  case h_1 o now msg status =>
    split at h
    case isFalse => cases h
    case isTrue hmsg =>
      simp only [Bool.and_eq_true, beq_iff_eq] at hmsg
      obtain ⟨⟨⟨hread, hfd⟩, htype⟩, hfunction⟩ := hmsg
      cases h
      refine ⟨now, ?_⟩
      simp [sledStep, hread, intfOnRead, hfd, htype, intfDispatchMsg, hfunction]

/-! ## Runs without a refusal -/

lemma nmtEvent?_eq_some {state : UInt8} {event : MchNetEvent} (h : nmtEvent? state = some event) :
    (event = .preoperational → state = 0x7F) ∧ (event = .operational → state = 0x05) := by
  unfold nmtEvent? at h
  split_ifs at h with h₄ h₅ h₇
  · cases h
    simp
  · cases h
    simpa using h₅
  · cases h
    simpa using h₇

/-- The event is a report of the network that switches the SDO machine on. -/
def SwitchedOn (s : Sled) (e : SledEvent) : Prop :=
  (e.nmtState? s = some 0x7F ∧
      (s.env.mchNet = .unknown ∨ s.env.mchNet = .enterpreoperational)) ∨
    (e.nmtState? s = some 0x05 ∧ s.env.mchNet = .startremotenode)

instance (s : Sled) (e : SledEvent) : Decidable (SwitchedOn s e) :=
  inferInstanceAs (Decidable (_ ∨ _))

/-- An SDO machine that is switched on has no request with an abort function in its queue. -/
def Resumes (s : Sled) (e : SledEvent) : Prop :=
  SwitchedOn s e → ¬ s.mchSdo.state.Enabled → ∀ r ∈ s.mchSdo.sdoQueue, r.abortCallback = none

instance (s : Sled) (e : SledEvent) : Decidable (Resumes s e) :=
  inferInstanceAs (Decidable (_ → _ → _))

/-- A step that is no refusal ends the process exactly when it switches the SDO machine on with such
a request in its queue. -/
lemma sledStep_exit_iff {e : SledEvent} (hno : e.isAbort = false) :
    sledStep s e ≠ .error .exit ↔ Resumes s e := by
  constructor
  · intro hne hon hoff r hr
    by_contra hr'
    obtain ⟨state, event, hstate, hevent, hswitch⟩ : ∃ state event, e.nmtState? s = some state ∧
        nmtEvent? state = some event ∧ s.env.mchNet.SwitchesOn event := by
      obtain ⟨hstate, hst⟩ | ⟨hstate, hst⟩ := hon
      · exact ⟨0x7F, .preoperational, hstate, rfl, .inl ⟨rfl, hst⟩⟩
      · exact ⟨0x05, .operational, hstate, rfl, .inr ⟨rfl, hst⟩⟩
    obtain ⟨now, hstep⟩ := sledStep_of_nmt hstate
    have hexit := mchNetHandleEvent_error.mpr ⟨rfl, hswitch, hoff, r, hr, hr'⟩
    have hraise : raiseNmt state s = .error .exit := by simp [raiseNmt, hevent, hexit]
    refine hne ?_
    rw [hstep, intfOnNmt, hraise]
    rfl
  · intro hres h
    cases sledStep_error h with
    | exit hstate hevent hon hf =>
      obtain ⟨hpre, hop⟩ := nmtEvent?_eq_some hevent
      obtain ⟨hoff, r, hr, hr'⟩ := hf
      refine hr' (hres ?_ hoff r hr)
      obtain ⟨he, hst⟩ | ⟨he, hst⟩ := hon
      · exact .inl ⟨hpre he ▸ hstate, hst⟩
      · exact .inr ⟨hop he ▸ hstate, hst⟩
    | sdo _ hd => exact hd hno rfl
    | call _ hd => exact hd (.inl rfl)

/-- **The server ends itself.**  In a run without a refusal of the drive no abort function is
called, and so the process does not exit, exactly when no report of the network switches the SDO
machine on with a request in its queue that carries one. -/
theorem never_exits_iff {mem : SledEnv} {now : ℚ} {o : CanOutcome} {s₀ : Sled}
    (hcreate : sledCreate mem now o = .ok s₀) {es : List SledEvent}
    (hno : ∀ e ∈ es, e.isAbort = false) :
    sledRun mem now o es ≠ .error .exit ↔ Guarded sledStep Resumes s₀ es := by
  rw [sledRun, hcreate, ok_bind]
  exact run_ne_error_iff (V := fun e => e.isAbort = false) (fun _ _ he => sledStep_exit_iff he) hno

/-- The network and the drive come up, and nothing is dropped on the way. -/
theorem never_exits_up :
    ∃ s₀, sledCreate someMemory 0 ⟨.success, true⟩ = .ok s₀ ∧
      (∀ e ∈ networkUp ++ driveUp, e.isAbort = false) ∧
      (sledRun someMemory 0 ⟨.success, true⟩ (networkUp ++ driveUp) ≠ .error .exit ↔
        Guarded sledStep Resumes s₀ (networkUp ++ driveUp)) := by
  obtain ⟨s₀, hcreate, -⟩ := exists_of_okAnd (p := fun _ : Sled => true)
    (x := sledCreate someMemory 0 ⟨.success, true⟩) (by decide +kernel)
  have hno : ∀ e ∈ networkUp ++ driveUp, e.isAbort = false := by decide +kernel
  exact ⟨s₀, hcreate, hno, never_exits_iff hcreate hno⟩

/-- A client stops the sinusoid before the drive has reported for the first time.  The first report
of the drive ends the server. -/
theorem exits_after_sinusoidStop :
    (∀ e ∈ [SledEvent.call .sinusoidStop, frame (nmtReport 0x7F)], e.isAbort = false) ∧
      sledRun someMemory 0 ⟨.success, true⟩
        [.call .sinusoidStop, frame (nmtReport 0x7F)] = .error .exit :=
  ⟨by decide +kernel, eq_error_of_haltsWith (by decide +kernel)⟩

end SledServer
