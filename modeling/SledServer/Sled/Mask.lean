import SledServer.Core.Blind
import SledServer.Sled.Contents

/-!
# The memory that has not been written yet

`sled_create` leaves three kinds of fields as `malloc` found them: `never_sent` of the profiles that
it does not create, `current_profile`, and the report of the drive.  `never_sent` is written when
the profile is created and the report when TPDO2 comes.  `current_profile` is written in one place
only, after it has been read there.

`Host.mask` replaces what has not been written by fixed values.  No report of the drive and no timer
sees a difference.
-/

namespace SledServer

open SledServer.Core

/-- What has been written since the memory was allocated: `never_sent` of the profiles that have
been created, and the report of the drive. -/
structure Known where
  created : Fin MAX_PROFILES → Bool
  position : Bool

/-- A profile, with a fixed value where `never_sent` is not known. -/
def SledProfile.mask (known : Bool) (p : SledProfile) : SledProfile :=
  if known then p else { p with neverSent := false }

/-- The environment, with fixed values in place of what is not known. -/
def SledEnv.mask (k : Known) (e : SledEnv) : SledEnv :=
  { e with
    profiles := fun i => (e.profiles i).mask (k.created i)
    currentProfile := 0
    lastTime := if k.position then e.lastTime else 0
    lastPosition := if k.position then e.lastPosition else 0
    lastVelocity := if k.position then e.lastVelocity else 0 }

/-- The sled, with fixed values in place of what is not known. -/
def Host.mask (k : Known) (s : Sled) : Sled := s.withEnv (s.env.mask k)

variable {k : Known} {s : Sled}

/-! ## What the mask leaves alone -/

section Fields

variable {b : Bool} {p : SledProfile}

/-- The mask hides `never_sent` only. -/
lemma mask_of_neverSent {f : SledProfile → SledProfile}
    (hf : ∀ p v, { f p with neverSent := v } = f { p with neverSent := v }) :
    f (p.mask b) = (f p).mask b := by
  unfold SledProfile.mask
  split
  · rfl
  · exact (hf p false).symm

@[simp] lemma mask_inUse : (p.mask b).inUse = p.inUse := by
  unfold SledProfile.mask
  split <;> rfl

@[simp] lemma mask_profile : (p.mask b).profile = p.profile := by
  unfold SledProfile.mask
  split <;> rfl

@[simp] lemma mask_nextProfile : (p.mask b).nextProfile = p.nextProfile := by
  unfold SledProfile.mask
  split <;> rfl

@[simp] lemma mask_fieldState : (p.mask b).fieldState = p.fieldState := by
  unfold SledProfile.mask
  split <;> rfl

lemma mask_value (n : ℤ) (f : Field) : (p.mask b).value n f = p.value n f := by
  unfold SledProfile.mask
  split
  · rfl
  · cases f <;> rfl

end Fields

@[simp] lemma mask_profiles (i : Fin MAX_PROFILES) :
    (s.mask k).env.profiles i = (s.env.profiles i).mask (k.created i) := rfl

@[simp] lemma mask_mchNet : (s.mask k).env.mchNet = s.env.mchNet := rfl

@[simp] lemma mask_mchDs : (s.mask k).env.mchDs = s.env.mchDs := rfl

@[simp] lemma mask_mchMp : (s.mask k).env.mchMp = s.env.mchMp := rfl

@[simp] lemma mask_mchIntf : (s.mask k).env.mchIntf = s.env.mchIntf := rfl

@[simp] lemma mask_mchSdo : (s.mask k).mchSdo = s.mchSdo := rfl

@[simp] lemma mask_intf : (s.mask k).intf = s.intf := rfl

/-! ## The machines -/

section Machines

lemma mask_push (r : Request sledClient) : (s.mask k).push r = (s.push r).mask k := by
  rw [Host.mask, Host.withEnv_push, Host.mask, Host.push_env]

lemma mask_pushAll (rs : List (Request sledClient)) :
    (s.mask k).pushAll rs = (s.pushAll rs).mask k := by
  rw [Host.mask, Host.withEnv_pushAll, Host.mask, Host.pushAll_env]

lemma mask_resume : (s.mask k).resume = s.resume.mask k := by
  rw [Host.mask, Host.withEnv_resume, Host.mask, Host.resume_env]

lemma mask_proceed : (s.mask k).proceed = s.proceed.mask k := by
  unfold Host.proceed
  rw [mask_mchSdo]
  split
  · exact mask_resume (s := s.setSdoState .waiting)
  · rfl

lemma mask_disable : (s.mask k).disable = s.disable.mask k := by
  unfold Host.disable
  rw [mask_mchSdo]
  split <;> rfl

lemma mask_fail : (s.mask k).fail = s.fail.mask k := by
  unfold Host.fail
  rw [mask_mchSdo]
  split <;> rfl

lemma mask_mpMove (event : MchMpEvent) : (s.mask k).mpMove event = (s.mpMove event).mask k := by
  by_cases h : s.env.mchMp = mchMpNextStateGivenEvent s.env.mchMp event
  · rw [mpMove_of_stay h.symm, mpMove_of_stay (s := s.mask k) h.symm]
  · have hmove : ∀ t : Sled, t.env.mchMp = s.env.mchMp → t.mpMove event =
        ((t.pushAll s.env.mchMp.exit).setMpState
          (mchMpNextStateGivenEvent s.env.mchMp event)).pushAll
          (mchMpNextStateGivenEvent s.env.mchMp event).entry := by
      intro t ht
      rw [← ht] at h ⊢
      exact if_neg h
    rw [hmove (s.mask k) rfl, hmove s rfl, mask_pushAll]
    exact mask_pushAll (s := (s.pushAll s.env.mchMp.exit).setMpState _) _

lemma mask_dsLeave : (s.mask k).dsLeave = s.dsLeave.mask k := by
  unfold Host.dsLeave
  rw [mask_mchDs]
  split
  · exact mask_mpMove _
  · rfl

lemma mask_dsArrive : (s.mask k).dsArrive = s.dsArrive.mask k := by
  unfold Host.dsArrive
  rw [mask_mchDs]
  split
  · exact mask_mpMove _
  · rfl

lemma mask_dsMove (event : MchDsEvent) : (s.mask k).dsMove event = (s.dsMove event).mask k := by
  by_cases h : s.env.mchDs = mchDsNextStateGivenEvent s.env.mchDs event
  · rw [dsMove_of_stay h.symm, dsMove_of_stay (s := s.mask k) h.symm]
  · have hmove : ∀ t : Sled, t.env.mchDs = s.env.mchDs → t.dsMove event =
        ((t.dsLeave.setDsState (mchDsNextStateGivenEvent s.env.mchDs event)).pushAll
          (mchDsNextStateGivenEvent s.env.mchDs event).entry).dsArrive := by
      intro t ht
      rw [← ht] at h ⊢
      exact if_neg h
    rw [hmove (s.mask k) rfl, hmove s rfl, mask_dsLeave, ← mask_dsArrive]
    exact congrArg Host.dsArrive (mask_pushAll (s := s.dsLeave.setDsState _) _)

lemma mask_netLeave : (s.mask k).netLeave = s.netLeave.mask k := by
  unfold Host.netLeave
  rw [mask_mchNet]
  split
  · exact mask_dsMove _
  · rfl

lemma mask_foldl {A : Type} {f : Sled → A → Sled} (hf : ∀ t a, f (Host.mask k t) a = (f t a).mask k)
    (as : List A) : as.foldl f (s.mask k) = (as.foldl f s).mask k := by
  induction as generalizing s with
  | nil => rfl
  | cons a as ih => rw [List.foldl_cons, List.foldl_cons, hf, ih]

lemma mask_tpdo (status : UInt16) (mode : UInt8) :
    (s.mask k).tpdo status mode = (s.tpdo status mode).mask k := by
  unfold Host.tpdo
  rw [mask_foldl fun _ _ => mask_dsMove _, mask_foldl fun _ _ => mask_mpMove _]

/-- A change of one profile that does not look at `never_sent`. -/
lemma mask_modifyProfile {f : SledProfile → SledProfile} (i : Fin MAX_PROFILES)
    (hf : ∀ p v, { f p with neverSent := v } = f { p with neverSent := v }) :
    (s.mask k).modifyProfile i f = (s.modifyProfile i f).mask k := by
  have hprofiles : (fun j => (Function.update s.env.profiles i (f (s.env.profiles i)) j).mask
        (k.created j)) =
      Function.update (fun j => (s.env.profiles j).mask (k.created j)) i
        (f ((s.env.profiles i).mask (k.created i))) := by
    funext j
    by_cases hj : j = i
    · subst hj
      rw [Function.update_self, Function.update_self, mask_of_neverSent hf]
    · rw [Function.update_of_ne hj, Function.update_of_ne hj]
  simp only [Host.mask, Host.modifyProfile_eq, Host.withEnv_env, Host.withEnv_withEnv,
    SledEnv.mask, hprofiles]

lemma mask_resetProfiles : (s.mask k).resetProfiles = s.resetProfiles.mask k := by
  have hprofiles : (fun i => if ((s.env.profiles i).mask (k.created i)).inUse then
        sledProfileMarkAsUnsaved ((s.env.profiles i).mask (k.created i))
      else (s.env.profiles i).mask (k.created i)) =
      fun i => (if (s.env.profiles i).inUse then sledProfileMarkAsUnsaved (s.env.profiles i)
        else s.env.profiles i).mask (k.created i) := by
    funext i
    rw [mask_inUse]
    split
    · exact mask_of_neverSent fun _ _ => rfl
    · rfl
  have hreset : (s.mask k).resetProfiles = (s.mask k).setProfiles fun i =>
      if ((s.env.profiles i).mask (k.created i)).inUse then
        sledProfileMarkAsUnsaved ((s.env.profiles i).mask (k.created i))
      else (s.env.profiles i).mask (k.created i) := rfl
  rw [hreset, hprofiles]
  rfl

end Machines

/-! ## The network and interface machines -/

section Network

/-- The function does not see what is masked. -/
abbrev MaskBlind (k : Known) (f : Sled → Except Halt Sled) : Prop :=
  Blind (Host.mask k) (Host.mask k) f

lemma maskBlind_netSdoEnabled : MaskBlind k (mchSdoHandleEvent sledAbort .netSdoEnabled) := by
  intro s
  by_cases hon : s.mchSdo.state.Enabled
  · rw [mchSdoHandleEvent_netSdoEnabled_of_enabled _ hon,
      mchSdoHandleEvent_netSdoEnabled_of_enabled (s := s.mask k) _ hon]
    rfl
  · have hoff : s.mchSdo.state = .disabled ∨ s.mchSdo.state = .error := by
      cases hs : s.mchSdo.state <;> simp_all [MchSdoState.Enabled]
    rw [mchSdoHandleEvent_netSdoEnabled_of_disabled _ hoff,
      mchSdoHandleEvent_netSdoEnabled_of_disabled (s := s.mask k) _ hoff, mchSdoClearQueue,
      mchSdoClearQueue, clearQueueLoop_sled _ _ rfl, clearQueueLoop_sled _ _ rfl, mask_mchSdo]
    split
    · rfl
    · rfl

lemma maskBlind_netEnter : MaskBlind k mchNetOnEnter := by
  intro s
  unfold mchNetOnEnter
  cases hn : s.env.mchNet with
  | disabled =>
    simp only [mask_mchNet, hn, mchSdoHandleEvent_netSdoDisabled, mask_disable]
    rfl
  | unknown | stopped =>
    simp only [mask_mchNet, hn, mchSdoHandleEvent_netSdoDisabled, ok_bind, mask_disable]
    rfl
  | startremotenode | enterpreoperational =>
    simp only [mask_mchNet, hn]
    rfl
  | uploadconfig =>
    simp only [mask_mchNet, hn, mchNetQueueSetup_eq, mask_pushAll]
    rfl
  | operational =>
    simp only [mask_mchNet, hn]
    refine (maskBlind_netSdoEnabled.bind (g := fun t =>
      mchDsHandleEvent .netOperational (sledProfilesReset t).2) ?_) s
    intro t
    show mchDsHandleEvent .netOperational (Host.mask k t).resetProfiles =
      (mchDsHandleEvent .netOperational t.resetProfiles).map (Host.mask k)
    rw [mchDsHandleEvent_eq, mchDsHandleEvent_eq, mask_resetProfiles, mask_dsMove]
    rfl
  | preoperational =>
    simp only [mask_mchNet, hn]
    refine (maskBlind_netSdoEnabled.bind (g := mchNetQueueSetup) ?_) s
    intro t
    rw [mchNetQueueSetup_eq, mchNetQueueSetup_eq, mask_pushAll]
    rfl

lemma maskBlind_netEvent (event : MchNetEvent) : MaskBlind k (mchNetHandleEvent event) := by
  intro s
  rw [mchNetHandleEvent_eq, mchNetHandleEvent_eq, mask_mchNet, mask_netLeave]
  split
  · rfl
  · exact maskBlind_netEnter (s.netLeave.setNetState _)

lemma maskBlind_open (o : CanOutcome) (h : s.env.mchIntf = .closed) :
    mchIntfHandleEvent o .open (s.mask k) = (mchIntfHandleEvent o .open s).map (Host.mask k) := by
  rw [mchIntfHandleEvent_open h, mchIntfHandleEvent_open (s := s.mask k) h, mask_intf]
  split
  · rfl
  · exact maskBlind_netEvent .intfOpened
      (((s.setIntfState .opening).withIntf (s.intf.tryOpen o).2).setIntfState .opened)

lemma maskBlind_intfClose (o : CanOutcome) : MaskBlind k (mchIntfHandleEvent o .close) := by
  intro s
  by_cases h : s.env.mchIntf = .opened
  · rw [mchIntfHandleEvent_close h, mchIntfHandleEvent_close (s := s.mask k) h, mask_intf]
    exact maskBlind_netEvent .intfClosed
      (((s.setIntfState .closing).withIntf (s.intf.tryClose o)).setIntfState .closed)
  · have hstay : mchIntfNextStateGivenEvent s.env.mchIntf .close = s.env.mchIntf := by
      cases hi : s.env.mchIntf <;> simp_all [mchIntfNextStateGivenEvent]
    rw [mchIntfHandleEvent_stay hstay, mchIntfHandleEvent_stay (s := s.mask k) hstay]
    rfl

lemma maskBlind_close (o : CanOutcome) : MaskBlind k (intfCloseSled o) := by
  intro s
  unfold intfCloseSled
  rw [intfClose_eq, intfClose_eq, mask_intf]
  split
  · rfl
  · have hclose := maskBlind_intfClose o (k := k) (s.withIntf s.intf.shut)
    have hshut : (s.mask k).withIntf s.intf.shut = (s.withIntf s.intf.shut).mask k := rfl
    rw [hshut, hclose]
    cases mchIntfHandleEvent o .close (s.withIntf s.intf.shut) with
    | error d => rfl
    | ok t => rfl

end Network

/-! ## What the bus brings -/

section Bus

variable {index : UInt16} {subindex : UInt8}

lemma maskBlind_onSuccess (data : Option SledData) (index : UInt16) (subindex : UInt8) :
    MaskBlind k (onSuccessCallback data index subindex) := by
  intro s
  unfold onSuccessCallback
  cases data with
  | none => rfl
  | some d =>
    cases d with
    | mchNet => rfl
    | profile i =>
      refine congrArg Except.ok (mask_modifyProfile i fun p v => ?_)
      unfold sledProfileSetFieldState
      split
      · rfl
      · rfl

lemma maskBlind_write (sdo : Sdo sledClient) :
    MaskBlind k (sledCallbacks.write sdo index subindex) := by
  intro s
  unfold Callbacks.write
  cases sdo.writeCallback with
  | none => rfl
  | some f =>
    cases f with
    | mchNetSdoWriteCallback =>
      exact maskBlind_netEvent .uploadComplete (s.log (.called sdo.addr _))
    | onSuccessCallback =>
      exact maskBlind_onSuccess sdo.data index subindex (s.log (.called sdo.addr _))

lemma maskBlind_sdoWrite : MaskBlind k (mchSdoWriteCallback sledCallbacks index subindex) := by
  intro s
  unfold mchSdoWriteCallback
  rw [mask_mchSdo]
  cases s.mchSdo.sdoActive with
  | none => rfl
  | some sdo =>
    have hbody : MaskBlind k fun t => sledCallbacks.write sdo index subindex t >>= fun t =>
        mchSdoHandleEvent sledCallbacks.onAbort .writeResponse t.clearActive := by
      refine (maskBlind_write sdo).bind fun t => ?_
      rw [mchSdoHandleEvent_writeResponse, mchSdoHandleEvent_writeResponse]
      exact congrArg Except.ok (mask_proceed (s := t.clearActive))
    exact Blind.const_bind _ (fun _ => .const_bind _ fun _ => .const_bind _ fun _ => hbody)
      (s.log (.answered sdo .write))

lemma maskBlind_sdoRead (value : UInt32) :
    MaskBlind k (mchSdoReadCallback sledCallbacks index subindex value) := by
  intro s
  unfold mchSdoReadCallback
  rw [mask_mchSdo]
  cases s.mchSdo.sdoActive with
  | none => rfl
  | some sdo =>
    have hbody : MaskBlind k fun t => sledCallbacks.read sdo index subindex value t >>= fun t =>
        mchSdoHandleEvent sledCallbacks.onAbort .readResponse t.clearActive := by
      unfold Callbacks.read
      cases sdo.readCallback with
      | none =>
        intro t
        simp only [ok_bind, mchSdoHandleEvent_readResponse]
        exact congrArg Except.ok (mask_proceed (s := t.clearActive))
      | some f => exact f.elim
    exact Blind.const_bind _ (fun _ => .const_bind _ fun _ => .const_bind _ fun _ => hbody)
      (s.log (.answered sdo (.read value)))

lemma maskBlind_sdoAbort (code : UInt32) :
    MaskBlind k (mchSdoAbortCallback sledCallbacks index subindex code) := by
  intro s
  unfold mchSdoAbortCallback
  rw [mask_mchSdo]
  cases s.mchSdo.sdoActive with
  | none => rfl
  | some sdo =>
    have hbody : MaskBlind k fun t => sledCallbacks.abort sdo index subindex code t >>= fun t =>
        mchSdoHandleEvent sledCallbacks.onAbort .abortResponse t.clearActive := by
      unfold Callbacks.abort callAbort
      cases sdo.abortCallback with
      | none =>
        intro t
        simp only [ok_bind, mchSdoHandleEvent_abortResponse]
        exact congrArg Except.ok (mask_fail (s := t.clearActive))
      | some f => cases f <;> exact fun t => rfl
    exact Blind.const_bind _ (fun _ => .const_bind _ fun _ => hbody)
      (s.log (.answered sdo (.abort code)))

lemma maskBlind_dispatchSdo (data : Vector UInt8 8) : MaskBlind k (dispatchSdo data) := by
  intro s
  unfold dispatchSdo
  rw [mask_intf]
  split_ifs
  · exact maskBlind_sdoWrite s
  · rfl
  · exact maskBlind_sdoRead _ s
  · rfl
  · exact maskBlind_sdoAbort _ s
  · rfl
  · rfl

lemma maskBlind_nmt (now : ℚ) (state : UInt8) : MaskBlind k (intfOnNmt now state) := by
  have hraise : MaskBlind k (raiseNmt state) := by
    unfold raiseNmt
    split
    · exact maskBlind_netEvent _
    · exact fun s => rfl
  exact hraise.bind fun t => rfl

lemma maskBlind_watchdog (now : ℚ) : MaskBlind k (nmtWatchdog now) := by
  intro s
  unfold nmtWatchdog
  rw [show (s.mask k).env.timeLastNmtMsg = s.env.timeLastNmtMsg from rfl]
  split
  · exact maskBlind_netEvent _ s
  · rfl

/-- TPDO2 makes the report known, and nothing else makes a difference. -/
lemma mask_dispatchMsg (now : ℚ) (msg : CanMessage) (s : Sled) :
    intfDispatchMsg now msg (s.mask k) = (intfDispatchMsg now msg s).map
      (Host.mask (if (msg.id >>> 7).toNat = 0x05 then { k with position := true } else k)) := by
  unfold intfDispatchMsg
  generalize (msg.id >>> 7).toNat = function
  dsimp only
  split
  next hf =>
    rcases hf with rfl | rfl | rfl | rfl
    · have hreport : ∀ t : Sled, intfOnTpdo now ((0x03 - 1) / 2) msg.data t =
          .ok (t.tpdo (statusWord msg.data) (modeOfOperation msg.data)) :=
        intfOnTpdo_one now msg.data
      rw [hreport, hreport, mask_tpdo]
      rfl
    · rfl
    · rfl
    · rfl
  next hf =>
    have hne : function ≠ 0x05 := fun hfive => hf (.inr (.inl hfive))
    rw [if_neg hne]
    split_ifs
    · exact maskBlind_nmt now _ s
    · exact maskBlind_dispatchSdo _ s
    · rfl

/-- What is known after a frame. -/
def Known.afterRead (k : Known) (s : Sled) (r : ReadResult) : Known :=
  if (tpdo2? s r).isSome then { k with position := true } else k

/-- What the bus brings. -/
lemma mask_read (o : CanOutcome) (now : ℚ) (r : ReadResult) (s : Sled) :
    sledStep (s.mask k) (.read o now r) =
      (sledStep s (.read o now r)).map (Host.mask (k.afterRead s r)) := by
  simp only [sledStep, intfOnRead, mask_intf]
  unfold Known.afterRead
  by_cases hread : s.intf.readEvent = true
  · by_cases hfd : s.intf.fd = true
    · simp only [hread, hfd, if_true, Bool.not_true, Bool.false_eq_true, if_false]
      cases r with
      | empty => rfl
      | error => exact maskBlind_close o s
      | message msg status =>
        simp only [tpdo2?, hread, hfd, Bool.true_and]
        by_cases htype : msg.type &&& 1 = 0
        · simp only [htype, ne_eq, not_true_eq_false, if_false]
          rw [mask_dispatchMsg]
          by_cases hfive : (msg.id >>> 7).toNat = 0x05 <;> simp [hfive]
        · simp only [htype, ne_eq, not_false_eq_true, if_true]
          split
          · rw [maskBlind_close]
            simp [htype]
          · simp [htype, Except.map]
    · have hnone : tpdo2? s r = none := by
        unfold tpdo2?
        split <;> simp [hfd]
      simp only [hread, hfd, hnone, if_true, Bool.not_false]
      rfl
  · have hnone : tpdo2? s r = none := by
      unfold tpdo2?
      split <;> simp [hread]
    have hoff : s.intf.readEvent = false := by simpa using hread
    simp only [hoff, hnone, Bool.false_eq_true, if_false]
    rfl

end Bus

end SledServer
