import SledServer.Drive.Plant
import SledServer.Sled.Halts
import SledServer.Sled.Sinusoid

/-!
# Steps that leave the motion tasks alone

Whatever happens to the host between two calls of the library, the motion tasks of the drive do not
notice: the reports of the drive and of the network make the host queue commands and its
configuration, and mark profiles as unsaved at most (`Quiet`).

This needs that no request is dropped.  The SDO machine drops its queue when it is switched on
again, and `Undropped` says that nothing waits there at that time.
-/

namespace SledServer

open SledServer.Core

/-- A request that neither the motion tasks nor the profiles notice. -/
structure Request.Harmless (r : Request sledClient) : Prop where
  copy : r.index ≠ OB_COPY_MOTION_TASK
  field : Field.ofIndex? r.index = none
  motionTask : r.index ≠ OB_MOTION_TASK
  callback : r.writeCallback ≠ some .onSuccessCallback

instance (r : Request sledClient) : Decidable r.Harmless :=
  decidable_of_iff (r.index ≠ OB_COPY_MOTION_TASK ∧ Field.ofIndex? r.index = none ∧
      r.index ≠ OB_MOTION_TASK ∧ r.writeCallback ≠ some .onSuccessCallback)
    ⟨fun h => ⟨h.1, h.2.1, h.2.2.1, h.2.2.2⟩, fun h => ⟨h.1, h.2, h.3, h.4⟩⟩

lemma harmless_of_command {r : Request sledClient} (h : r.Command) : r.Harmless := by
  have hcallback : r.writeCallback ≠ some .onSuccessCallback := by simp [h.write]
  rcases h.index with hi | hi | hi <;> refine ⟨?_, ?_, ?_, hcallback⟩ <;> rw [hi] <;> decide

lemma harmless_netRequests : ∀ r ∈ netRequests, r.Harmless := by decide

/-- The profiles are touched at most, and nothing that the motion tasks notice is queued. -/
structure Quiet (s t : Sled) : Prop where
  issues : Issues Request.Harmless s t
  touched : ∀ i, Touched (s.env.profiles i) (t.env.profiles i)
  next : ∀ i, (t.env.profiles i).nextProfile = (s.env.profiles i).nextProfile
  there : t.env.sinusoidThere = s.env.sinusoidThere
  rthere : t.env.sinusoidRthere = s.env.sinusoidRthere
  back : t.env.sinusoidBack = s.env.sinusoidBack
  rback : t.env.sinusoidRback = s.env.sinusoidRback
  awaits : ∀ Q : Request sledClient → Prop, (∀ r, r.Harmless → Q r) → Awaits Q s → Awaits Q t

namespace Quiet

variable {s t u : Sled}

lemma trans (h : Quiet s t) (h' : Quiet t u) : Quiet s u :=
  ⟨h.issues.trans h'.issues, fun i => (h.touched i).trans (h'.touched i),
    fun i => (h'.next i).trans (h.next i), h'.there.trans h.there, h'.rthere.trans h.rthere,
    h'.back.trans h.back, h'.rback.trans h.rback,
    fun Q hQ hs => h'.awaits Q hQ (h.awaits Q hQ hs)⟩

/-- Nothing is queued, and the profiles stay as they are. -/
lemma of_same (hs : t.sent = s.sent) (hq : t.mchSdo.sdoQueue = s.mchSdo.sdoQueue)
    (ha : t.mchSdo.sdoActive = s.mchSdo.sdoActive) (hp : t.env.profiles = s.env.profiles)
    (hthere : t.env.sinusoidThere = s.env.sinusoidThere)
    (hrthere : t.env.sinusoidRthere = s.env.sinusoidRthere)
    (hback : t.env.sinusoidBack = s.env.sinusoidBack)
    (hrback : t.env.sinusoidRback = s.env.sinusoidRback) : Quiet s t := by
  have hrequests : t.requests = s.requests := by
    rw [Host.requests, Host.issued, hs, hq]
    rfl
  refine ⟨.of_eq hrequests, fun i => ?_, fun i => ?_, hthere, hrthere, hback, hrback,
    fun Q _ hs => hs.of_same hq ha⟩
  · rw [hp]
    exact .refl _
  · rw [hp]

lemma refl (s : Sled) : Quiet s s := of_same rfl rfl rfl rfl rfl rfl rfl rfl

lemma registered (h : Quiet s t) (hs : Registered s.env) : Registered t.env :=
  ⟨h.there.trans hs.there, h.rthere.trans hs.rthere, h.back.trans hs.back, h.rback.trans hs.rback,
    fun i hi => (h.touched i).inUse.trans (hs.inUse i hi)⟩

lemma reacts (h : Reacts s t) : Quiet s t := by
  have henv := h.env_rel SledEnv.SameProfiles.refl fun _ _ _ => .trans
  have hharmless : Moves Request.Harmless SledEnv.SameProfiles s t :=
    h.mono (fun _ => harmless_of_command) fun _ _ he => he
  refine ⟨Issues.moves hharmless, fun i => ?_, fun i => ?_, henv.there, henv.rthere, henv.back,
    henv.rback, fun Q hQ hs => Awaits.moves hs hQ hharmless⟩
  · rw [henv.profiles]
    exact .refl _
  · rw [henv.profiles]

lemma pushAll (s : Sled) {rs : List (Request sledClient)} (h : ∀ r ∈ rs, r.Harmless) :
    Quiet s (s.pushAll rs) := by
  refine ⟨.pushAll s h, fun i => ?_, fun i => ?_, ?_, ?_, ?_, ?_,
    fun Q hQ hs => hs.pushAll fun r hr => hQ r (h r hr)⟩ <;> rw [Host.pushAll_env]
  exact .refl _

lemma resetProfiles (s : Sled) : Quiet s s.resetProfiles := by
  have hprofiles : ∀ i, s.resetProfiles.env.profiles i =
      if (s.env.profiles i).inUse then sledProfileMarkAsUnsaved (s.env.profiles i)
      else s.env.profiles i := fun _ => rfl
  refine ⟨.of_eq rfl, fun i => ?_, fun i => ?_, rfl, rfl, rfl, rfl,
    fun Q _ hs => hs.of_same rfl rfl⟩ <;> rw [hprofiles] <;> split
  · exact .unsaved _
  · exact .refl _
  · rfl
  · rfl

lemma setNetState (s : Sled) (st : MchNetState) : Quiet s (s.setNetState st) := by
  have htrace : (s.setNetState st).trace = s.trace ++ [.note (.netState s.env.mchNet st)] := rfl
  have hsent : (s.setNetState st).sent = s.sent := by
    simp [Host.sent_of_trace htrace, Obs.sent?]
  exact of_same hsent rfl rfl rfl rfl rfl rfl rfl

lemma setIntfState (s : Sled) (st : MchIntfState) : Quiet s (s.setIntfState st) := by
  have htrace : (s.setIntfState st).trace = s.trace ++ [.note (.intfState s.env.mchIntf st)] := rfl
  have hsent : (s.setIntfState st).sent = s.sent := by
    simp [Host.sent_of_trace htrace, Obs.sent?]
  exact of_same hsent rfl rfl rfl rfl rfl rfl rfl

lemma withIntf (s : Sled) (intf : Intf) : Quiet s (s.withIntf intf) :=
  of_same rfl rfl rfl rfl rfl rfl rfl rfl

lemma disable (s : Sled) : Quiet s s.disable := by
  refine of_same Host.sent_disable ?_ ?_ ?_ ?_ ?_ ?_ ?_ <;> unfold Host.disable <;> split <;> rfl

lemma sendNmt (s : Sled) (command : UInt8) : Quiet s (s.sendNmt command) :=
  of_same rfl rfl rfl rfl rfl rfl rfl rfl

/-- The SDO machine is switched on, with nothing in its queue. -/
lemma sdoOn (hq : ¬ s.mchSdo.state.Enabled → s.mchSdo.sdoQueue = []) (h : SdoOn s t) :
    Quiet s t := by
  cases h with
  | already => exact refl s
  | opened hoff =>
    have hsent : s.opened.sent = s.sent := Host.sent_setSdoState (s := { s with
      mchSdo := { s.mchSdo with sdoQueue := [] } }) .waiting
    exact of_same hsent (hq hoff).symm rfl rfl rfl rfl rfl rfl

/-- A state of the network machine is entered. -/
lemma netEnter (hq : s.env.mchNet = .operational ∨ s.env.mchNet = .preoperational →
    ¬ s.mchSdo.state.Enabled → s.mchSdo.sdoQueue = []) (h : NetEnter s t) : Quiet s t := by
  cases h with
  | disabled => exact disable s
  | unknown | stopped => exact (disable s).trans (sendNmt _ _)
  | startremotenode | enterpreoperational => exact sendNmt s _
  | uploadconfig => exact pushAll s harmless_netRequests
  | operational hn ht =>
    exact ((sdoOn (hq (.inl hn)) ht).trans (resetProfiles _)).trans
      (reacts (Reacts.dsMove (.refl _) _))
  | preoperational hn ht =>
    exact (sdoOn (hq (.inr hn)) ht).trans (pushAll _ harmless_netRequests)

/-- An event of the network machine that finds the queue empty, if it makes the SDO machine drop
it. -/
lemma netEvent {event : MchNetEvent}
    (hq : (event = .preoperational ∧
        (s.env.mchNet = .unknown ∨ s.env.mchNet = .enterpreoperational)) ∨
      (event = .operational ∧ s.env.mchNet = .startremotenode) →
        ¬ s.mchSdo.state.Enabled → s.mchSdo.sdoQueue = [])
    (h : mchNetHandleEvent event s = .ok t) : Quiet s t := by
  rcases mchNetHandleEvent_ok h with ⟨-, rfl⟩ | ⟨hne, henter⟩
  · exact refl _
  · have hset : Quiet s (s.netLeave.setNetState (mchNetNextStateGivenEvent s.env.mchNet event)) :=
      (reacts (Reacts.netLeave s)).trans (setNetState _ _)
    refine hset.trans (netEnter (fun hon => ?_) henter)
    have hfrom := (switchesOn_iff hne).mp hon
    rw [netLeave_of_switchesOn hfrom]
    exact hq hfrom

end Quiet

/-! ## One step -/

/-- No request is dropped: a report of the network that makes the SDO machine drop its queue finds
it empty. -/
def Undropped (s : Sled) (e : SledEvent) : Prop :=
  (e.nmtState? s = some 0x7F ∧
      (s.env.mchNet = .unknown ∨ s.env.mchNet = .enterpreoperational)) ∨
    (e.nmtState? s = some 0x05 ∧ s.env.mchNet = .startremotenode) →
  ¬ s.mchSdo.state.Enabled → s.mchSdo.sdoQueue = []

instance (s : Sled) (e : SledEvent) : Decidable (Undropped s e) :=
  inferInstanceAs (Decidable (_ → _ → _))

/-- The event is a call of the library. -/
def SledEvent.isCall : SledEvent → Bool
  | .call _ => true
  | _ => false

/-- Whatever happens to the host, other than a call or an SDO response, is quiet. -/
theorem quiet_of_step {s t : Sled} {e : SledEvent} (hsdo : e.isSdo = false)
    (hcall : e.isCall = false) (hok : Undropped s e) (h : sledStep s e = .ok t) : Quiet s t := by
  cases sledStep_effect h with
  | skip => exact .refl s
  | report _ ht => exact .reacts (moves_tpdo ht)
  | watchdog ht =>
    exact .netEvent (by simp) ht
  | @nmt u state now hstate ht =>
    have hu : Quiet s u := by
      rcases raiseNmt_ok ht with rfl | ⟨event, hevent, -, ht⟩
      · exact .refl _
      · obtain ⟨hpre, hop⟩ := nmtEvent?_eq_some hevent
        refine .netEvent (fun hon => hok ?_) ht
        rcases hon with ⟨he, hst⟩ | ⟨he, hst⟩
        · exact .inl ⟨hpre he ▸ hstate, hst⟩
        · exact .inr ⟨hop he ▸ hstate, hst⟩
    exact hu.trans (.of_same rfl rfl rfl rfl rfl rfl rfl rfl)
  | close hc =>
    rcases intfCloseSled_ok hc with ⟨intf, rfl, -⟩ | ⟨-, intf, -, ht⟩
    · exact .withIntf s intf
    · refine Quiet.trans ?_ (.netEvent (by simp) ht)
      exact ((Quiet.setIntfState s _).trans (.withIntf _ intf)).trans (.setIntfState _ _)
  | write he | read he =>
    rw [hsdo] at he
    cases he
  | abort he =>
    rw [SledEvent.isSdo_of_isAbort he] at hsdo
    cases hsdo
  | call he =>
    subst he
    cases hcall

end SledServer
