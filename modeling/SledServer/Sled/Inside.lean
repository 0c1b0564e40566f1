import SledServer.Sled.Steps

/-!
# What only closing the interface can change

The SDO machine and the machines above it use the interface to send, but open and close it never:
`Inside` collects what they do to the process, and every step of the sled is a series of such moves
unless it closes the interface (`sledStep_inside`).  An invariant about the interface then only has
to be checked on three moves, and on `intf_close`.
-/

namespace SledServer

open SledServer.Core

/-- A series of moves that leave the device alone.  The functions in the slots of the interface are
those of the request that is sent in `resume`. -/
inductive Inside : Sled → Sled → Prop
  | refl (s : Sled) : Inside s s
  | store {s t u : Sled} (h : Inside s t) (hintf : u.intf = t.intf)
      (hmch : u.env.mchIntf = t.env.mchIntf)
      (hactive : ∀ r, u.mchSdo.sdoActive = some r → t.mchSdo.sdoActive = some r) : Inside s u
  | nmt {s t : Sled} (h : Inside s t) (command : UInt8) : Inside s (t.sendNmt command)
  | resume {s t : Sled} (h : Inside s t) : Inside s t.resume

/-- The device, and what the interface machine knows of it, are as before. -/
structure SameDevice (s t : Sled) : Prop where
  handle : t.intf.handle = s.intf.handle
  fd : t.intf.fd = s.intf.fd
  readEvent : t.intf.readEvent = s.intf.readEvent
  mchIntf : t.env.mchIntf = s.env.mchIntf

namespace SledEvent

/-- What the device answers if the event makes `intf_on_read` close the interface. -/
def closing? (s : Sled) : SledEvent → Option CanOutcome
  | .read o _ r =>
    if s.intf.readEvent && s.intf.fd then
      match r with
      | .empty => none
      | .error => some o
      | .message msg status => if msg.type &&& 1 ≠ 0 ∧ status < 0 then some o else none
    else none
  | _ => none

end SledEvent

namespace Inside

variable {s t u : Sled}

lemma trans (h : Inside s t) (h' : Inside t u) : Inside s u := by
  induction h' with
  | refl => exact h
  | store _ hintf hmch hactive ih => exact .store ih hintf hmch hactive
  | nmt _ command ih => exact .nmt ih command
  | resume _ ih => exact .resume ih

/-- The invariant rule for a series of moves inside. -/
lemma invariant {I : Sled → Prop} (h : Inside s t) (hs : I s)
    (hstore : ∀ t u : Sled, u.intf = t.intf → u.env.mchIntf = t.env.mchIntf →
      (∀ r, u.mchSdo.sdoActive = some r → t.mchSdo.sdoActive = some r) → I t → I u)
    (hnmt : ∀ (t : Sled) command, I t → I (t.sendNmt command))
    (hresume : ∀ t : Sled, I t → I t.resume) : I t := by
  induction h with
  | refl => exact hs
  | store _ hintf hmch hactive ih => exact hstore _ _ hintf hmch hactive ih
  | nmt _ command ih => exact hnmt _ command ih
  | resume _ ih => exact hresume _ ih

lemma of_eq (h : Inside s t) (hintf : u.intf = t.intf) (hmch : u.env.mchIntf = t.env.mchIntf)
    (hactive : u.mchSdo.sdoActive = t.mchSdo.sdoActive) : Inside s u :=
  .store h hintf hmch fun _ hr => hactive ▸ hr

/-! ## The SDO machine -/

lemma push (h : Inside s t) (r : Request sledClient) : Inside s (t.push r) := by
  have henqueue : Inside s (t.enqueue r) := h.of_eq rfl rfl rfl
  unfold Host.push
  split
  · exact henqueue.resume
  · exact henqueue

lemma pushAll (h : Inside s t) (rs : List (Request sledClient)) : Inside s (t.pushAll rs) := by
  induction rs generalizing t with
  | nil => exact h
  | cons r rs ih =>
    rw [Host.pushAll_cons]
    exact ih (h.push r)

lemma moves {K : Request sledClient → Prop} {R : SledEnv → SledEnv → Prop} (h : Inside s t)
    (hm : Moves K R t u) (hR : ∀ e e', R e e' → e'.mchIntf = e.mchIntf) : Inside s u :=
  hm.invariant h (fun _ r _ ht => ht.push r) (fun _ _ he ht => ht.of_eq rfl (hR _ _ he) rfl)
    fun _ _ _ ht => ht.of_eq rfl rfl rfl

lemma disable (h : Inside s t) : Inside s t.disable := by
  unfold Host.disable
  split
  · exact h.of_eq rfl rfl rfl
  · exact h

lemma fail (h : Inside s t) : Inside s t.fail := by
  unfold Host.fail
  split
  · exact h.of_eq rfl rfl rfl
  · exact h

lemma proceed (h : Inside s t) : Inside s t.proceed := by
  have hwaiting : Inside s (t.setSdoState .waiting) := h.of_eq rfl rfl rfl
  unfold Host.proceed
  split
  · exact hwaiting.resume
  · exact h

lemma log (h : Inside s t) (o : Obs sledClient) : Inside s (t.log o) := h.of_eq rfl rfl rfl

lemma clearActive (h : Inside s t) : Inside s t.clearActive := .store h rfl rfl (by simp)

lemma sdoOn (h : Inside s t) (ht : SdoOn t u) : Inside s u := by
  cases ht with
  | already => exact h
  | opened => exact h.of_eq rfl rfl rfl

/-! ## The network machine -/

lemma netEvent (h : Inside s t) {event : MchNetEvent} (ht : mchNetHandleEvent event t = .ok u) :
    Inside s u := by
  obtain ⟨-, rfl⟩ | ⟨-, henter⟩ := mchNetHandleEvent_ok ht
  · exact h
  · have hleave : Inside s t.netLeave :=
      h.moves (Reacts.netLeave t) fun _ _ he => he.intf
    have hset : Inside s (t.netLeave.setNetState (mchNetNextStateGivenEvent t.env.mchNet event)) :=
      hleave.of_eq rfl rfl rfl
    cases henter with
    | disabled => exact hset.disable
    | unknown | stopped => exact hset.disable.nmt _
    | startremotenode | enterpreoperational => exact hset.nmt _
    | uploadconfig => exact hset.pushAll _
    | @operational v _ hon =>
      have hreset : Inside s v.resetProfiles := (hset.sdoOn hon).of_eq rfl rfl rfl
      exact hreset.moves (Reacts.dsMove (.refl _) _) fun _ _ he => he.intf
    | preoperational _ hon => exact (hset.sdoOn hon).pushAll _

lemma writeEffect (h : Inside s t) {sdo : Sdo sledClient} (hu : WriteEffect t sdo u) :
    Inside s u := by
  cases hu with
  | silent | lateUpload => exact h
  | field => exact h.of_eq rfl rfl rfl
  | upload =>
    have hset : Inside s (t.setNetState .startremotenode) := h.of_eq rfl rfl rfl
    exact hset.nmt _

lemma nmtReport (h : Inside s t) {state : UInt8} (ht : raiseNmt state t = .ok u) :
    Inside s u := by
  obtain rfl | ⟨event, -, -, ht⟩ := raiseNmt_ok ht
  · exact h
  · exact h.netEvent ht

/-! ## Responses and steps -/

lemma write (h : Inside s t) {index : UInt16} {subindex : UInt8}
    (hw : mchSdoWriteCallback sledCallbacks index subindex t = .ok u) : Inside s u := by
  obtain ⟨sdo, v, w, -, -, -, -, hv, hu, rfl⟩ := mchSdoWriteCallback_sled hw
  have hlog : Inside s v := by
    obtain rfl | ⟨call, rfl⟩ := hv
    · exact h.log _
    · exact (h.log _).log _
  exact (hlog.writeEffect hu).clearActive.proceed

lemma dispatchSdo {data : Vector UInt8 8} (h : SledServer.dispatchSdo data s = .ok t) :
    Inside s t := by
  unfold SledServer.dispatchSdo at h
  split_ifs at h
  · exact (Inside.refl s).write h
  · cases h
    exact .refl s
  · obtain ⟨sdo, -, -, -, -, rfl⟩ := mchSdoReadCallback_sled h
    exact ((Inside.refl s).log _).clearActive.proceed
  · cases h
    exact .refl s
  · obtain ⟨sdo, -, -, -, -, rfl⟩ := mchSdoAbortCallback_sled h
    exact ((Inside.refl s).log _).clearActive.fail
  · cases h
    exact .refl s
  · cases h
    exact .refl s

lemma dispatchMsg {now : ℚ} {msg : CanMessage} (h : intfDispatchMsg now msg s = .ok t) :
    Inside s t := by
  unfold intfDispatchMsg at h
  dsimp only at h
  split_ifs at h with hpdo hnmt hsdo
  · exact (Inside.refl s).moves (moves_tpdo h) fun _ _ he => he.intf
  · obtain ⟨v, hv, h⟩ := bind_eq_ok.mp h
    cases h
    exact ((Inside.refl s).nmtReport hv).of_eq rfl rfl rfl
  · exact dispatchSdo h
  · cases h
    exact .refl s

end Inside

section Steps

variable {s t : Sled} {e : SledEvent}

/-- Such an event does nothing but close the interface. -/
lemma sledStep_closing {o : CanOutcome} (h : e.closing? s = some o) :
    sledStep s e = intfCloseSled o s ∧ s.intf.readEvent = true := by
  cases e with
  | watchdog | call => simp [SledEvent.closing?] at h
  | read o' now r =>
    simp only [SledEvent.closing?] at h
    split at h
    case isFalse => cases h
    case isTrue hlisten =>
      obtain ⟨hread, hfd⟩ := Bool.and_eq_true_iff.mp hlisten
      refine ⟨?_, hread⟩
      cases r with
      | empty => cases h
      | error =>
        cases h
        simp [sledStep, intfOnRead, hread, hfd]
      | message msg status =>
        dsimp only at h
        split at h
        case isFalse => cases h
        case isTrue hclose =>
          cases h
          simp [sledStep, intfOnRead, hread, hfd, hclose.1, hclose.2]

/-- Every other event leaves the device alone. -/
theorem sledStep_inside (he : e.closing? s = none) (h : sledStep s e = .ok t) : Inside s t := by
  cases e with
  | read o now r =>
    simp only [sledStep] at h
    split at h
    case isFalse =>
      cases h
      exact .refl s
    case isTrue hread =>
      unfold intfOnRead at h
      split at h
      case isTrue =>
        cases h
        exact .refl s
      case isFalse hfd =>
        have hfd : s.intf.fd = true := by simpa using hfd
        cases r with
        | empty =>
          cases h
          exact .refl s
        | error => simp [SledEvent.closing?, hread, hfd] at he
        | message msg status =>
          dsimp only at h
          split_ifs at h with htype hstatus
          · simp [SledEvent.closing?, hread, hfd, htype, hstatus] at he
          · cases h
            exact .refl s
          · exact .dispatchMsg h
  | watchdog now =>
    simp only [sledStep, nmtWatchdog] at h
    split at h
    · exact (Inside.refl s).netEvent h
    · cases h
      exact .refl s
  | call c =>
    obtain ⟨r, hr, h⟩ := bind_eq_ok.mp h
    cases h
    exact (Inside.refl s).moves (moves_call hr) fun _ _ he => he.intf

end Steps

namespace SameDevice

variable {s t u : Sled}

lemma refl (s : Sled) : SameDevice s s := ⟨rfl, rfl, rfl, rfl⟩

lemma resume (h : SameDevice s t) : SameDevice s t.resume := by
  cases hq : t.mchSdo.sdoQueue with
  | nil => rwa [Host.resume_nil hq]
  | cons r rs =>
    have hi := Host.resume_cons_intf hq
    have he : t.resume.env = t.env := Host.resume_env t
    cases hw : r.isWrite <;> simp only [hw, if_true, Bool.false_eq_true, if_false] at hi
    all_goals
      refine ⟨?_, ?_, ?_, by rw [he]; exact h.mchIntf⟩ <;> rw [hi]
    all_goals first | exact h.handle | exact h.fd | exact h.readEvent

end SameDevice

/-- What happens inside leaves the device alone. -/
lemma Inside.sameDevice {s t : Sled} (h : Inside s t) : SameDevice s t :=
  h.invariant (.refl s)
    (fun _ _ hintf hmch _ ht => ⟨by rw [hintf, ht.handle], by rw [hintf, ht.fd],
      by rw [hintf, ht.readEvent], hmch.trans ht.mchIntf⟩)
    (fun _ _ ht => ⟨ht.handle, ht.fd, ht.readEvent, ht.mchIntf⟩)
    fun _ ht => ht.resume

end SledServer
