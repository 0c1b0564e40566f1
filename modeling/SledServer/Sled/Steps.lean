import SledServer.Sdo.Runs
import SledServer.Sled.Frame

/-!
# Everything one step of the sled can do

`sledStep_effect` sorts the steps of the sled by the part of the program that answers them, and
the lemmas before it say what each of these parts can do: a report of the network, the closing of
the interface, and the three kinds of SDO response.  `sledCreate_ok` does the same for the start.
-/

namespace SledServer

open SledServer.Core

variable {s s' : Sled}

/-! ## Closing the interface -/

/-- What `intf_close` does: the device is let go, and if the interface machine was open it tells
the network machine. -/
lemma intfCloseSled_ok {o : CanOutcome} (h : intfCloseSled o s = .ok s') :
    (∃ intf, s' = s.withIntf intf ∧ intf.readEvent = false) ∨
    (s.env.mchIntf = .opened ∧ ∃ intf, intf.readEvent = false ∧ mchNetHandleEvent .intfClosed
      (((s.setIntfState .closing).withIntf intf).setIntfState .closed) = .ok s') := by
  unfold intfCloseSled at h
  rw [intfClose_eq] at h
  split at h
  · simp only [ok_bind, Except.ok.injEq] at h
    exact .inl ⟨_, h.symm, rfl⟩
  · obtain ⟨r, hr, h⟩ := bind_eq_ok.mp h
    obtain ⟨t, ht, hr⟩ := bind_eq_ok.mp hr
    cases hr
    cases h
    have hsame : (s.withIntf s.intf.shut).env = s.env := rfl
    by_cases hst : s.env.mchIntf = .opened
    · right
      rw [mchIntfHandleEvent_close (hsame ▸ hst)] at ht
      exact ⟨hst, _, Intf.tryClose_readEvent _ _, ht⟩
    · left
      have hstay : mchIntfNextStateGivenEvent s.env.mchIntf .close = s.env.mchIntf := by
        cases hi : s.env.mchIntf <;> simp_all [mchIntfNextStateGivenEvent]
      rw [mchIntfHandleEvent_stay (hsame ▸ hstay)] at ht
      cases ht
      exact ⟨_, rfl, Intf.shut_readEvent _⟩

/-! ## Responses -/

/-- What the function registered for success does. -/
inductive WriteEffect (s : Sled) (sdo : Sdo sledClient) : Sled → Prop
  | silent (h : sdo.writeCallback = none) : WriteEffect s sdo s
  /-- The end of an upload that the network machine waits for. -/
  | upload (h : sdo.writeCallback = some .mchNetSdoWriteCallback)
      (hn : s.env.mchNet = .preoperational ∨ s.env.mchNet = .uploadconfig) :
      WriteEffect s sdo ((s.setNetState .startremotenode).sendNmt NMT_STARTREMOTENODE)
  /-- The end of an upload that nobody waits for. -/
  | lateUpload (h : sdo.writeCallback = some .mchNetSdoWriteCallback)
      (hn : s.env.mchNet ≠ .preoperational ∧ s.env.mchNet ≠ .uploadconfig) : WriteEffect s sdo s
  /-- A field of a profile has been written. -/
  | field {i : Fin MAX_PROFILES} (h : sdo.writeCallback = some .onSuccessCallback)
      (hd : sdo.data = some (.profile i)) :
      WriteEffect s sdo (s.modifyProfile i (sledProfileSetFieldState sdo.index .written))

/-- A positive write response to the active request. -/
lemma mchSdoWriteCallback_sled {index : UInt16} {subindex : UInt8}
    (h : mchSdoWriteCallback sledCallbacks index subindex s = .ok s') :
    ∃ sdo t u, s.mchSdo.sdoActive = some sdo ∧ sdo.isWrite = true ∧ sdo.index = index ∧
      sdo.subindex = subindex ∧
      (t = s.log (.answered sdo .write) ∨
        ∃ call, t = (s.log (.answered sdo .write)).log (.called sdo.addr call)) ∧
      WriteEffect t sdo u ∧ s' = u.clearActive.proceed := by
  obtain ⟨sdo, u, ha, hw, hi, hj, hu, rfl⟩ := mchSdoWriteCallback_ok h
  unfold Callbacks.write at hu
  cases hf : sdo.writeCallback with
  | none =>
    rw [hf] at hu
    cases hu
    exact ⟨sdo, _, _, ha, hw, hi, hj, .inl rfl, .silent hf, rfl⟩
  | some f =>
    rw [hf] at hu
    dsimp only at hu
    cases f with
    | mchNetSdoWriteCallback =>
      refine ⟨sdo, (s.log (.answered sdo .write)).log (.called sdo.addr
        (.write .mchNetSdoWriteCallback sdo.data index subindex)), u, ha, hw, hi, hj,
        .inr ⟨_, rfl⟩, ?_, rfl⟩
      rcases mchNetHandleEvent_uploadComplete_ok hu with ⟨hp, hc, rfl⟩ | ⟨hn, rfl⟩
      · exact .lateUpload hf ⟨hp, hc⟩
      · exact .upload hf hn
    | onSuccessCallback =>
      refine ⟨sdo, (s.log (.answered sdo .write)).log (.called sdo.addr
        (.write .onSuccessCallback sdo.data index subindex)), u, ha, hw, hi, hj,
        .inr ⟨_, rfl⟩, ?_, rfl⟩
      simp only [sledCallbacks, sledOnWrite, onSuccessCallback] at hu
      cases hd : sdo.data with
      | none => simp [hd] at hu
      | some d =>
        cases d with
        | mchNet => simp [hd] at hu
        | profile i =>
          simp only [hd, Except.ok.injEq] at hu
          rw [← hu, ← hi]
          exact .field hf hd

/-- A read response to the active request: the sled registers no function for it. -/
lemma mchSdoReadCallback_sled {index : UInt16} {subindex : UInt8} {value : UInt32}
    (h : mchSdoReadCallback sledCallbacks index subindex value s = .ok s') :
    ∃ sdo, s.mchSdo.sdoActive = some sdo ∧ sdo.isWrite = false ∧ sdo.index = index ∧
      sdo.subindex = subindex ∧ s' = (s.log (.answered sdo (.read value))).clearActive.proceed := by
  obtain ⟨sdo, u, ha, hw, hi, hj, hu, rfl⟩ := mchSdoReadCallback_ok h
  unfold Callbacks.read at hu
  cases hf : sdo.readCallback with
  | none =>
    rw [hf] at hu
    cases hu
    exact ⟨sdo, ha, hw, hi, hj, rfl⟩
  | some f => exact f.elim

/-- An abort response that the process survives: the active request has no abort function. -/
lemma mchSdoAbortCallback_sled {index : UInt16} {subindex : UInt8} {code : UInt32}
    (h : mchSdoAbortCallback sledCallbacks index subindex code s = .ok s') :
    ∃ sdo, s.mchSdo.sdoActive = some sdo ∧ sdo.abortCallback = none ∧ sdo.index = index ∧
      sdo.subindex = subindex ∧ s' = (s.log (.answered sdo (.abort code))).clearActive.fail := by
  obtain ⟨sdo, u, ha, hi, hj, hu, rfl⟩ := mchSdoAbortCallback_ok h
  unfold Callbacks.abort callAbort at hu
  cases hf : sdo.abortCallback with
  | none =>
    rw [hf] at hu
    cases hu
    exact ⟨sdo, ha, hf, hi, hj, rfl⟩
  | some f =>
    rw [hf] at hu
    cases f <;> simp [sledCallbacks, sledAbort] at hu

/-! ## Steps -/

/-- The events that the outside world raises in the network machine. -/
def MchNetEvent.External (event : MchNetEvent) : Prop :=
  event = .stopped ∨ event = .operational ∨ event = .preoperational ∨ event = .watchdogFailed

namespace SledEvent

/-- The event is the arrival of an SDO response. -/
def isSdo : SledEvent → Bool
  | .read _ _ (.message msg _) => (msg.id >>> 7).toNat == 0x0B
  | _ => false

/-- The event is the arrival of an SDO abort response. -/
def isAbort : SledEvent → Bool
  | .read _ _ (.message msg _) => (msg.id >>> 7).toNat == 0x0B && firstByte msg.data == 0x80
  | _ => false

lemma isSdo_of_isAbort {e : SledEvent} (h : e.isAbort = true) : e.isSdo = true := by
  unfold isAbort at h
  split at h
  · exact (Bool.and_eq_true_iff.mp h).1
  · cases h

/-- The NMT state that the event reports to the sled, if it does. -/
def nmtState? (s : Sled) : SledEvent → Option UInt8
  | .read _ _ (.message msg _) =>
    if s.intf.readEvent && s.intf.fd && msg.type &&& 1 == 0 && (msg.id >>> 7).toNat == 0x0E then
      some (firstByte msg.data &&& 0x7F)
    else none
  | _ => none

/-- The status word and the mode that the event reports to the sled, if it does. -/
def report? (s : Sled) : SledEvent → Option (UInt16 × UInt8)
  | .read _ _ (.message msg _) =>
    if s.intf.readEvent && s.intf.fd && msg.type &&& 1 == 0 && (msg.id >>> 7).toNat == 0x03 then
      some (statusWord msg.data, modeOfOperation msg.data)
    else none
  | _ => none

end SledEvent

/-- Everything one step can do. -/
inductive SledEffect (s : Sled) (e : SledEvent) : Sled → Prop
  | skip : SledEffect s e s
  | report {s' : Sled} {now : ℚ} {pdo : ℕ} {data : Vector UInt8 8}
      (he : pdo = 1 → e.report? s = some (statusWord data, modeOfOperation data))
      (h : intfOnTpdo now pdo data s = .ok s') : SledEffect s e s'
  | watchdog {t : Sled} (h : mchNetHandleEvent .watchdogFailed s = .ok t) : SledEffect s e t
  /-- A report of the network also resets the watchdog. -/
  | nmt {t : Sled} {state : UInt8} (now : ℚ) (he : e.nmtState? s = some state)
      (h : raiseNmt state s = .ok t) :
      SledEffect s e (t.withEnv { t.env with timeLastNmtMsg := now })
  | close {s' : Sled} {o : CanOutcome} (h : intfCloseSled o s = .ok s') : SledEffect s e s'
  | write {s' : Sled} {index : UInt16} {subindex : UInt8} (he : e.isSdo = true)
      (h : mchSdoWriteCallback sledCallbacks index subindex s = .ok s') : SledEffect s e s'
  | read {s' : Sled} {index : UInt16} {subindex : UInt8} {value : UInt32} (he : e.isSdo = true)
      (h : mchSdoReadCallback sledCallbacks index subindex value s = .ok s') : SledEffect s e s'
  | abort {s' : Sled} {index : UInt16} {subindex : UInt8} {code : UInt32} (he : e.isAbort = true)
      (h : mchSdoAbortCallback sledCallbacks index subindex code s = .ok s') : SledEffect s e s'
  | call {r : ℤ × Sled} {c : SledCall} (he : e = .call c) (h : sledCall s c = .ok r) :
      SledEffect s e r.2

lemma external_nmtEvent? (state : UInt8) : ∀ e ∈ nmtEvent? state, e.External := by
  intro e he
  unfold nmtEvent? at he
  split_ifs at he <;> simp at he <;> subst he <;> simp [MchNetEvent.External]

/-- A report of the network raises an event of the network machine, or nothing. -/
lemma raiseNmt_ok {state : UInt8} (h : raiseNmt state s = .ok s') :
    s' = s ∨ ∃ event, nmtEvent? state = some event ∧ event.External ∧
      mchNetHandleEvent event s = .ok s' := by
  unfold raiseNmt at h
  cases he : nmtEvent? state with
  | none =>
    rw [he] at h
    cases h
    exact .inl rfl
  | some event =>
    rw [he] at h
    exact .inr ⟨event, rfl, external_nmtEvent? state event he, h⟩

lemma dispatchSdo_effect {e : SledEvent} {data : Vector UInt8 8} (he : e.isSdo = true)
    (ha : firstByte data = 0x80 → e.isAbort = true) (h : dispatchSdo data s = .ok s') :
    SledEffect s e s' := by
  unfold dispatchSdo at h
  split_ifs at h with _ _ _ _ habort
  · exact .write he h
  · cases h; exact .skip
  · exact .read he h
  · cases h; exact .skip
  · exact .abort (ha habort) h
  · cases h; exact .skip
  · cases h; exact .skip

lemma intfDispatchMsg_effect {o : CanOutcome} {now : ℚ} {msg : CanMessage} {status : ℤ}
    (hread : s.intf.readEvent = true) (hfd : s.intf.fd = true) (htype : msg.type &&& 1 = 0)
    (h : intfDispatchMsg now msg s = .ok s') :
    SledEffect s (.read o now (.message msg status)) s' := by
  unfold intfDispatchMsg at h
  dsimp only at h
  split_ifs at h with hpdo hnmt hsdo
  · refine .report (fun hone => ?_) h
    have hfunction : (msg.id >>> 7).toNat = 0x03 := by omega
    simp [SledEvent.report?, hread, hfd, htype, hfunction]
  · obtain ⟨t, ht, h⟩ := bind_eq_ok.mp h
    cases h
    exact .nmt now (by simp [SledEvent.nmtState?, hread, hfd, htype, hnmt]) ht
  · refine dispatchSdo_effect (by simp [SledEvent.isSdo, hsdo]) (fun habort => ?_) h
    simp [SledEvent.isAbort, hsdo, habort]
  · cases h; exact .skip

lemma intfOnRead_effect {o : CanOutcome} {now : ℚ} {r : ReadResult}
    (hread : s.intf.readEvent = true) (h : intfOnRead o now r s = .ok s') :
    SledEffect s (.read o now r) s' := by
  unfold intfOnRead at h
  split at h
  case isTrue => cases h; exact .skip
  case isFalse hfd =>
    cases r with
    | empty => cases h; exact .skip
    | error => exact .close h
    | message msg status =>
      dsimp only at h
      split_ifs at h with htype
      · exact .close h
      · cases h; exact .skip
      · exact intfDispatchMsg_effect hread (by simpa using hfd) (by simpa using htype) h

/-- Every step is one of the listed effects. -/
theorem sledStep_effect {e : SledEvent} (h : sledStep s e = .ok s') : SledEffect s e s' := by
  cases e with
  | read o now r =>
    simp only [sledStep] at h
    split at h
    case isTrue hread => exact intfOnRead_effect hread h
    case isFalse => cases h; exact .skip
  | watchdog now =>
    simp only [sledStep, nmtWatchdog] at h
    split at h
    · exact .watchdog h
    · cases h; exact .skip
  | call c =>
    obtain ⟨r, hr, h⟩ := bind_eq_ok.mp h
    cases h
    exact .call rfl hr

/-! ## The start -/

/-- An interface that has been opened reads from its device. -/
lemma Intf.tryOpen_fd {o : CanOutcome} {intf : Intf} (hclosed : intf.readEvent = false)
    (h : (intf.tryOpen o).2.readEvent = true) : (intf.tryOpen o).2.fd = true := by
  unfold Intf.tryOpen at h ⊢
  split at h
  · simp [hclosed] at h
  · next hh =>
    rw [if_neg hh]
    cases ho : o.open? with
    | noDevice => simp [ho, hclosed] at h
    | openFails => simp [ho, hclosed] at h
    | initFails => simp [ho, Intf.tryClose_readEvent] at h
    | success => rfl

/-- How `sled_create` ends: the interface is open and the network machine has been told, or the
interface machine is stuck. -/
lemma sledCreate_ok {mem : SledEnv} {now : ℚ} {o : CanOutcome} (h : sledCreate mem now o = .ok s)
    (hp : (sledCreateProfiles (sledAlloc mem now)).env.mchIntf = .closed)
    (hi : (sledCreateProfiles (sledAlloc mem now)).intf = intfCreate) :
    ∃ intf : Intf, (intf.readEvent = true → intf.fd = true) ∧
      (s = ((sledCreateProfiles (sledAlloc mem now)).setIntfState .opening).withIntf intf ∨
      mchNetHandleEvent .intfOpened
        ((((sledCreateProfiles (sledAlloc mem now)).setIntfState .opening).withIntf
          intf).setIntfState .opened) = .ok s) := by
  rw [sledCreate, mchIntfHandleEvent_open hp, hi] at h
  refine ⟨(intfCreate.tryOpen o).2, Intf.tryOpen_fd rfl, ?_⟩
  split at h
  · simp only [Except.ok.injEq] at h
    exact .inl h.symm
  · exact .inr h

end SledServer
