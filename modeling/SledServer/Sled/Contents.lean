import SledServer.Sled.Coupling

/-!
# What the sled keeps between the calls

The contents of the profiles, and which of them belong to the sinusoid, are changed by calls of the
library only; the position is changed by TPDO2 only.  Of a profile, the drive and the network touch
nothing but the states of its fields (`SledEnv.Kept`).
-/

namespace SledServer

open SledServer.Core

/-- The profiles are the same, apart from the states of their fields, and so is the position. -/
structure SledEnv.Kept (e e' : SledEnv) : Prop where
  profiles : ∀ i, ∃ st, e'.profiles i = { e.profiles i with fieldState := st }
  there : e'.sinusoidThere = e.sinusoidThere
  rthere : e'.sinusoidRthere = e.sinusoidRthere
  back : e'.sinusoidBack = e.sinusoidBack
  rback : e'.sinusoidRback = e.sinusoidRback
  lastPosition : e'.lastPosition = e.lastPosition

namespace SledEnv.Kept

variable {e e' e'' : SledEnv}

lemma refl (e : SledEnv) : e.Kept e := ⟨fun _ => ⟨_, rfl⟩, rfl, rfl, rfl, rfl, rfl⟩

lemma trans (h : e.Kept e') (h' : e'.Kept e'') : e.Kept e'' := by
  refine ⟨fun i => ?_, h'.there.trans h.there, h'.rthere.trans h.rthere, h'.back.trans h.back,
    h'.rback.trans h.rback, h'.lastPosition.trans h.lastPosition⟩
  obtain ⟨st, hst⟩ := h.profiles i
  obtain ⟨st', hst'⟩ := h'.profiles i
  exact ⟨st', by rw [hst', hst]⟩

end SledEnv.Kept

section Events

variable {s s' : Sled}

/-! ## The machines -/

lemma kept_mpMove (s : Sled) (event : MchMpEvent) : s.env.Kept (s.mpMove event).env := by
  rw [mpMove_env]
  exact ⟨fun _ => ⟨_, rfl⟩, rfl, rfl, rfl, rfl, rfl⟩

lemma kept_dsMove (s : Sled) (event : MchDsEvent) : s.env.Kept (s.dsMove event).env := by
  by_cases h : mchDsNextStateGivenEvent s.env.mchDs event = s.env.mchDs
  · rw [dsMove_of_stay h]
    exact .refl _
  · rw [dsMove_env_of_ne s event h]
    exact ⟨fun _ => ⟨_, rfl⟩, rfl, rfl, rfl, rfl, rfl⟩

lemma kept_tpdo (s : Sled) (status : UInt16) (mode : UInt8) :
    s.env.Kept (s.tpdo status mode).env := by
  have hds : s.env.Kept ((dsEvents status).foldl (fun s event => s.dsMove event) s).env :=
    foldl_keeps (P := fun t => s.env.Kept t.env) (.refl _)
      fun t event _ ht => ht.trans (kept_dsMove t event)
  exact foldl_keeps (P := fun t => s.env.Kept t.env) hds
    fun t event _ ht => ht.trans (kept_mpMove t event)

lemma kept_netLeave (s : Sled) : s.env.Kept s.netLeave.env := by
  unfold Host.netLeave
  split
  · exact kept_dsMove s _
  · exact .refl _

lemma kept_resetProfiles (s : Sled) : s.env.Kept s.resetProfiles.env := by
  refine ⟨fun i => ?_, rfl, rfl, rfl, rfl, rfl⟩
  have hprofile : s.resetProfiles.env.profiles i =
      if (s.env.profiles i).inUse then sledProfileMarkAsUnsaved (s.env.profiles i)
      else s.env.profiles i := rfl
  rw [hprofile]
  split
  · exact ⟨_, rfl⟩
  · exact ⟨_, rfl⟩

lemma kept_netEnter (h : NetEnter s s') : s.env.Kept s'.env := by
  cases h with
  | disabled | unknown | stopped =>
    simp only [Host.sendNmt, Host.disable_env]
    exact .refl _
  | startremotenode | enterpreoperational => exact .refl _
  | uploadconfig =>
    rw [Host.pushAll_env]
    exact .refl _
  | operational hn ht =>
    exact (ht.env ▸ kept_resetProfiles _).trans (kept_dsMove _ _)
  | preoperational hn ht =>
    rw [Host.pushAll_env, ht.env]
    exact .refl _

lemma kept_netEvent {event : MchNetEvent} (h : mchNetHandleEvent event s = .ok s') :
    s.env.Kept s'.env := by
  rcases mchNetHandleEvent_ok h with ⟨-, rfl⟩ | ⟨-, henter⟩
  · exact .refl _
  · refine (kept_netLeave s).trans (SledEnv.Kept.trans ?_ (kept_netEnter henter))
    exact ⟨fun _ => ⟨_, rfl⟩, rfl, rfl, rfl, rfl, rfl⟩

lemma kept_close {o : CanOutcome} (h : intfCloseSled o s = .ok s') : s.env.Kept s'.env := by
  rcases intfCloseSled_ok h with ⟨intf, rfl, -⟩ | ⟨-, intf, -, hnet⟩
  · exact .refl _
  · refine SledEnv.Kept.trans ?_ (kept_netEvent hnet)
    exact ⟨fun _ => ⟨_, rfl⟩, rfl, rfl, rfl, rfl, rfl⟩

/-! ## Responses -/

lemma kept_writeEffect {sdo : Sdo sledClient} (h : WriteEffect s sdo s') : s.env.Kept s'.env := by
  cases h with
  | silent | lateUpload => exact .refl _
  | upload => exact ⟨fun _ => ⟨_, rfl⟩, rfl, rfl, rfl, rfl, rfl⟩
  | @field i =>
    refine ⟨fun j => ?_, rfl, rfl, rfl, rfl, rfl⟩
    have hprofile :
        (s.modifyProfile i (sledProfileSetFieldState sdo.index .written)).env.profiles j =
        Function.update s.env.profiles i
          (sledProfileSetFieldState sdo.index .written (s.env.profiles i)) j := rfl
    rw [hprofile]
    by_cases hj : j = i
    · rw [hj, Function.update_self]
      unfold sledProfileSetFieldState
      split
      · exact ⟨_, rfl⟩
      · exact ⟨_, rfl⟩
    · rw [Function.update_of_ne hj]
      exact ⟨_, rfl⟩

lemma kept_dispatchSdo {data : Vector UInt8 8} (h : dispatchSdo data s = .ok s') :
    s.env.Kept s'.env := by
  unfold dispatchSdo at h
  split_ifs at h
  · obtain ⟨sdo, t, u, -, -, -, -, ht, hu, rfl⟩ := mchSdoWriteCallback_sled h
    have henv : t.env = s.env := by
      rcases ht with rfl | ⟨call, rfl⟩ <;> rfl
    rw [Host.proceed_env, Host.clearActive_env, ← henv]
    exact kept_writeEffect hu
  · cases h
    exact .refl _
  · obtain ⟨sdo, -, -, -, -, rfl⟩ := mchSdoReadCallback_sled h
    rw [Host.proceed_env, Host.clearActive_env]
    exact .refl _
  · cases h
    exact .refl _
  · obtain ⟨sdo, -, -, -, -, rfl⟩ := mchSdoAbortCallback_sled h
    rw [Host.fail_env, Host.clearActive_env]
    exact .refl _
  · cases h
    exact .refl _
  · cases h
    exact .refl _

/-! ## Steps -/

/-- The position that a frame on the bus brings, if the sled processes it as TPDO2. -/
def tpdo2? (s : Sled) : ReadResult → Option ℚ
  | .message msg _ =>
    if s.intf.readEvent && s.intf.fd && msg.type &&& 1 == 0 && (msg.id >>> 7).toNat == 0x05 then
      some (reportedPosition msg.data)
    else none
  | _ => none

lemma kept_watchdog {now : ℚ} (h : nmtWatchdog now s = .ok s') : s.env.Kept s'.env := by
  unfold nmtWatchdog at h
  split at h
  · exact kept_netEvent h
  · cases h
    exact .refl _

lemma kept_nmt {now : ℚ} {state : UInt8} (h : intfOnNmt now state s = .ok s') :
    s.env.Kept s'.env := by
  obtain ⟨t, ht, h⟩ := bind_eq_ok.mp h
  cases h
  have hkept : s.env.Kept t.env := by
    rcases raiseNmt_ok ht with rfl | ⟨event, -, -, ht⟩
    · exact .refl _
    · exact kept_netEvent ht
  exact hkept.trans ⟨fun _ => ⟨_, rfl⟩, rfl, rfl, rfl, rfl, rfl⟩

/-- TPDO2 stores the report, and nothing else. -/
lemma kept_dispatchMsg {now : ℚ} {msg : CanMessage} (h : intfDispatchMsg now msg s = .ok s') :
    if (msg.id >>> 7).toNat = 0x05 then
      s'.env = { s.env with
        lastTime := now
        lastPosition := reportedPosition msg.data
        lastVelocity := reportedVelocity msg.data }
    else s.env.Kept s'.env := by
  unfold intfDispatchMsg at h
  generalize (msg.id >>> 7).toNat = function at h ⊢
  dsimp only at h
  split at h
  next hf =>
    rcases hf with rfl | rfl | rfl | rfl
    · rw [intfOnTpdo_one] at h
      cases h
      exact kept_tpdo s _ _
    · cases h
      rfl
    · cases h
      exact .refl _
    · cases h
      exact .refl _
  next hf =>
    have hne : function ≠ 0x05 := fun hfive => hf (.inr (.inl hfive))
    rw [if_neg hne]
    split_ifs at h
    · exact kept_nmt h
    · exact kept_dispatchSdo h
    · cases h
      exact .refl _

/-- What the bus brings. -/
lemma sledStep_read {o : CanOutcome} {now : ℚ} {r : ReadResult}
    (h : sledStep s (.read o now r) = .ok s') :
    match tpdo2? s r with
    | some p => ∃ v, s'.env =
        { s.env with lastTime := now, lastPosition := p, lastVelocity := v }
    | none => s.env.Kept s'.env := by
  simp only [sledStep, intfOnRead] at h
  by_cases hread : s.intf.readEvent = true
  · by_cases hfd : s.intf.fd = true
    · simp only [hread, hfd, if_true, Bool.not_true, Bool.false_eq_true, if_false] at h
      cases r with
      | empty =>
        cases h
        exact .refl _
      | error => exact kept_close h
      | message msg status =>
        simp only [tpdo2?, hread, hfd, Bool.true_and]
        by_cases htype : msg.type &&& 1 = 0
        · simp only [htype, ne_eq, not_true_eq_false, if_false] at h
          have hkept := kept_dispatchMsg h
          by_cases hfive : (msg.id >>> 7).toNat = 0x05
          · rw [if_pos hfive] at hkept
            rw [if_pos (by simp [htype, hfive])]
            exact ⟨_, hkept⟩
          · rw [if_neg hfive] at hkept
            rw [if_neg (by simp only [hfive, beq_iff_eq, Bool.and_eq_true, and_false,
              not_false_eq_true])]
            exact hkept
        · simp only [htype, ne_eq, not_false_eq_true, if_true] at h
          rw [if_neg (by simp [htype])]
          split at h
          · exact kept_close h
          · cases h
            exact .refl _
    · have hnone : tpdo2? s r = none := by
        unfold tpdo2?
        split <;> simp [hfd]
      simp only [hread, hfd, if_true, Bool.not_false] at h
      cases h
      rw [hnone]
      exact .refl _
  · have hnone : tpdo2? s r = none := by
      unfold tpdo2?
      split <;> simp [hread]
    rw [if_neg hread] at h
    cases h
    rw [hnone]
    exact .refl _

end Events

/-! ## Calls -/

/-- No call changes the position. -/
lemma keptByCalls_lastPosition (p : ℚ) : KeptByCalls fun s => s.env.lastPosition = p where
  edit _ _ _ hs := hs
  visit _ _ hs := hs
  launch _ _ _ hs := by rwa [launched_env]
  light _ _ hs := by rwa [Host.push_env]

end SledServer
