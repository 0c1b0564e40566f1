import Mathlib.Data.List.DropRight
import SledServer.Sdo.Queue
import SledServer.Sled.Changes
import SledServer.Sled.Coupling
import SledServer.Sled.Flush

/-!
# Everything is uploaded again after a reconnect

The drive may have forgotten its motion tasks when the SDO machine is switched on again, so the time
since the machine last left `ST_SDO_DISABLED` or `ST_SDO_ERROR` is an epoch of its own.  Entering
`ST_NET_OPERATIONAL` marks all fields of all profiles as changed, and a mark is only taken away when
the field is queued or confirmed.

Responses to requests of an earlier epoch can still come in.  They are harmless: outside the three
states in which SDOs can be exchanged the marks do not count, and within them every request that
waits or awaits its response has been queued in this epoch (`Renewed`), because the first request
of the epoch takes the place of the one that was active before.
-/

namespace SledServer

open SledServer.Core

/-! ## Epochs -/

section Epochs

variable {c : Client} {σ : Type}

/-- The SDO machine leaves `ST_SDO_DISABLED` or `ST_SDO_ERROR`. -/
def Obs.opens : Obs c → Bool
  | .sdoState .disabled _ | .sdoState .error _ => true
  | _ => false

namespace Host

/-- What has happened since the SDO machine last left `ST_SDO_DISABLED` or `ST_SDO_ERROR`. -/
def epoch (s : Host c σ) : List (Obs c) := s.trace.rtakeWhile fun o => !o.opens

/-- The requests that have been put in the queue in this epoch. -/
def epochRequests (s : Host c σ) : List (Request c) := s.epoch.filterMap Obs.queued?

end Host

/-- The trace has grown within the epoch. -/
def Stays (s t : Host c σ) : Prop :=
  ∃ os, t.trace = s.trace ++ os ∧ ∀ o ∈ os, o.opens = false

variable {s t u : Host c σ}

lemma opens_sdoState {st : MchSdoState} (h : st.Enabled) (st' : MchSdoState) :
    (Obs.sdoState st st' : Obs c).opens = false := by
  rcases h with rfl | rfl <;> rfl

/-- A list that holds an element with `p`, split at the last one. -/
lemma exists_eq_append_cons_rtakeWhile {α : Type} {p : α → Bool} {l : List α}
    (h : ∃ a ∈ l, p a = true) :
    ∃ pre a, l = pre ++ a :: l.rtakeWhile (fun a => !p a) ∧ p a = true := by
  induction l using List.reverseRecOn with
  | nil => simp at h
  | append_singleton l x ih =>
    by_cases hx : p x = true
    · exact ⟨l, x, by simp [hx], hx⟩
    · obtain ⟨pre, a, hl, ha⟩ := ih (by simpa [hx] using h)
      refine ⟨pre, a, ?_, ha⟩
      rw [List.rtakeWhile_concat_pos _ _ _ (by simpa using hx), ← List.cons_append,
        ← List.append_assoc, ← hl]

/-- The trace up to the start of the epoch, the entry that starts it, and the rest. -/
lemma exists_epoch (h : ∃ o ∈ s.trace, o.opens = true) :
    ∃ pre o, s.trace = pre ++ o :: s.epoch ∧ o.opens = true :=
  exists_eq_append_cons_rtakeWhile h

lemma not_opens_of_mem_epoch {o : Obs c} (h : o ∈ s.epoch) : o.opens = false := by
  simpa using List.mem_rtakeWhile_imp h

namespace Stays

lemma of_eq (h : t.trace = s.trace) : Stays s t := ⟨[], by simp [h], by simp⟩

lemma trans (h : Stays s t) (h' : Stays t u) : Stays s u := by
  obtain ⟨os, hos, hno⟩ := h
  obtain ⟨ps, hps, hno'⟩ := h'
  refine ⟨os ++ ps, by rw [hps, hos, List.append_assoc], fun o ho => ?_⟩
  rcases List.mem_append.mp ho with ho | ho
  · exact hno o ho
  · exact hno' o ho

lemma log (s : Host c σ) {o : Obs c} (ho : o.opens = false) : Stays s (s.log o) :=
  ⟨[o], rfl, by simpa using ho⟩

lemma setSdoState (hs : s.mchSdo.state.Enabled) (st : MchSdoState) : Stays s (s.setSdoState st) :=
  ⟨_, rfl, by simpa using opens_sdoState hs st⟩

lemma resume (hs : s.mchSdo.state.Enabled) : Stays s s.resume := by
  cases hq : s.mchSdo.sdoQueue with
  | nil => exact of_eq (by rw [Host.resume_nil hq])
  | cons r rs =>
    refine ⟨_, Host.resume_cons_trace hq, ?_⟩
    simpa [Obs.opens] using opens_sdoState hs .sending

/-- The request is put in the queue, and nothing that follows ends the epoch. -/
lemma push_trace (s : Host c σ) (r : Request c) :
    ∃ os, (s.push r).trace = s.trace ++ .queued (r.new s) :: os ∧ ∀ o ∈ os, o.opens = false := by
  unfold Host.push
  split
  case isTrue hw =>
    obtain ⟨os, hos, hno⟩ := Stays.resume (s := s.enqueue r) (.inl hw)
    exact ⟨os, by rw [hos, Host.enqueue, List.append_assoc, List.singleton_append], hno⟩
  case isFalse => exact ⟨[], rfl, by simp⟩

lemma push (s : Host c σ) (r : Request c) : Stays s (s.push r) := by
  obtain ⟨os, hos, hno⟩ := push_trace s r
  exact ⟨_, hos, by simpa [Obs.opens] using hno⟩

lemma pushAll (s : Host c σ) (rs : List (Request c)) : Stays s (s.pushAll rs) := by
  induction rs generalizing s with
  | nil => exact of_eq rfl
  | cons r rs ih => exact (push s r).trans (ih (s.push r))

lemma proceed (s : Host c σ) : Stays s s.proceed := by
  unfold Host.proceed
  split
  case isTrue hs => exact (setSdoState (.inr hs) _).trans (resume (.inl rfl))
  case isFalse => exact of_eq rfl

lemma fail (s : Host c σ) : Stays s s.fail := by
  unfold Host.fail
  split
  case isTrue hs => exact setSdoState (.inr hs) _
  case isFalse => exact of_eq rfl

lemma epoch (h : Stays s t) {os : List (Obs c)} (hos : t.trace = s.trace ++ os) :
    t.epoch = s.epoch ++ os := by
  obtain ⟨ps, hps, hno⟩ := h
  obtain rfl : os = ps := List.append_cancel_left (hos.symm.trans hps)
  have hpos : ∀ o ∈ os.reverse, (!o.opens) = true := by simpa using hno
  simp only [Host.epoch, hps, List.rtakeWhile, List.reverse_append,
    List.takeWhile_append_of_pos hpos, List.reverse_reverse]

/-- What is queued within the epoch. -/
lemma epochRequests (h : Stays s t) {rs : List (Request c)}
    (hrs : t.queuedRequests = s.queuedRequests ++ rs) :
    t.epochRequests = s.epochRequests ++ rs := by
  obtain ⟨os, hos, -⟩ := id h
  rw [Host.queuedRequests_of_trace hos] at hrs
  rw [Host.epochRequests, h.epoch hos, List.filterMap_append, List.append_cancel_left hrs]
  rfl

/-- What has been queued in the epoch stays so. -/
lemma mem (h : Stays s t) {r : Request c} (hr : r ∈ s.epochRequests) : r ∈ t.epochRequests := by
  obtain ⟨os, hos, -⟩ := id h
  rw [h.epochRequests (Host.queuedRequests_of_trace hos)]
  exact List.mem_append_left _ hr

lemma opened (h : Stays s t) (hs : ∃ o ∈ s.trace, o.opens = true) :
    ∃ o ∈ t.trace, o.opens = true := by
  obtain ⟨o, ho, hopens⟩ := hs
  obtain ⟨os, hos, -⟩ := h
  exact ⟨o, by rw [hos]; exact List.mem_append_left _ ho, hopens⟩

end Stays

end Epochs

/-! ## Requests of this epoch -/

/-- An epoch has started, and every request that waits or awaits its response is one of it. -/
structure Renewed (s : Sled) : Prop where
  opened : ∃ o ∈ s.trace, o.opens = true
  awaits : Awaits (· ∈ s.epochRequests) s

namespace Renewed

variable {s t : Sled}

/-- The invariant survives what keeps the epoch and adds no request. -/
lemma of_stays (hs : Renewed s) (h : Stays s t)
    (ht : ∀ Q : Request sledClient → Prop, Awaits Q s → Awaits Q t) : Renewed t :=
  ⟨h.opened hs.opened, ht _ (hs.awaits.mono fun _ => h.mem)⟩

lemma log (hs : Renewed s) {o : Obs sledClient} (ho : o.opens = false) : Renewed (s.log o) :=
  hs.of_stays (.log s ho) fun _ h => h.of_same rfl rfl

lemma withEnv (hs : Renewed s) (e : SledEnv) : Renewed (s.withEnv e) :=
  hs.of_stays (.of_eq rfl) fun _ h => h.of_same rfl rfl

lemma pushAll (hs : Renewed s) (rs : List (Request sledClient)) : Renewed (s.pushAll rs) := by
  have hstays := Stays.pushAll s rs
  refine ⟨hstays.opened hs.opened, ?_⟩
  have hrs := hstays.epochRequests (Host.queuedRequests_pushAll rs)
  refine (hs.awaits.mono fun _ => hstays.mem).pushAll fun r hr => ?_
  rw [hrs]
  exact List.mem_append_right _ hr

lemma push (hs : Renewed s) (r : Request sledClient) : Renewed (s.push r) := hs.pushAll [r]

lemma moves {K : Request sledClient → Prop} {R : SledEnv → SledEnv → Prop} (hs : Renewed s)
    (h : Moves K R s t) : Renewed t :=
  h.invariant hs (fun _ r _ ht => ht.push r) (fun _ e _ ht => ht.withEnv e)
    fun _ _ _ ht => ht.log rfl

lemma setNetState (hs : Renewed s) (n : MchNetState) : Renewed (s.setNetState n) :=
  hs.of_stays ⟨[.note (.netState s.env.mchNet n)], rfl, by simp [Obs.opens]⟩
    fun _ h => h.of_same rfl rfl

lemma sendNmt (hs : Renewed s) (state : UInt8) : Renewed (s.sendNmt state) :=
  hs.of_stays (.of_eq rfl) fun _ h => h.of_same rfl rfl

lemma proceed (hs : Renewed s) : Renewed s.clearActive.proceed :=
  hs.of_stays ((Stays.of_eq rfl).trans (.proceed _)) fun _ h => h.proceed

lemma fail (hs : Renewed s) : Renewed s.clearActive.fail := by
  refine hs.of_stays ((Stays.of_eq rfl).trans (.fail _)) fun _ h => ?_
  unfold Host.fail
  split
  · exact ⟨h.queued, by simp⟩
  · exact ⟨h.queued, by simp⟩

/-- The first request of an epoch takes the place of the one that was active before. -/
lemma first (ho : ∃ o ∈ s.trace, o.opens = true) (hw : s.mchSdo.state = .waiting)
    (hq : s.mchSdo.sdoQueue = []) (r : Request sledClient) (rs : List (Request sledClient)) :
    Renewed (s.pushAll (r :: rs)) := by
  have hstays := Stays.push s r
  have hr := hstays.epochRequests (Host.queuedRequests_push r)
  refine Renewed.pushAll (s := s.push r) ⟨hstays.opened ho, ?_, ?_⟩ rs
  · simp [Host.push_mchSdo_of_waiting hw hq]
  · rw [Host.push_mchSdo_of_waiting hw hq, hr]
    rintro q ⟨⟩
    exact List.mem_append_right _ (List.mem_singleton_self r)

/-- Switching the SDO machine on and queueing a request starts an epoch, or goes on with one. -/
lemma sdoOn {u : Sled} (h : SdoOn s t) (hs : s.mchSdo.state.Enabled → Renewed s)
    (hsdo : u.mchSdo = t.mchSdo) (hstays : Stays t u) (r : Request sledClient)
    (rs : List (Request sledClient)) : Renewed (u.pushAll (r :: rs)) := by
  cases h with
  | already hon =>
    have hu : Renewed u :=
      (hs hon).of_stays hstays fun _ h => h.of_same (by rw [hsdo]) (by rw [hsdo])
    exact hu.pushAll _
  | opened hoff hq =>
    refine first ?_ (by rw [hsdo]; rfl) (by rw [hsdo]; rfl) r rs
    obtain ⟨os, hos, -⟩ := hstays
    refine ⟨.sdoState s.mchSdo.state .waiting, ?_, ?_⟩
    · rw [hos]
      simp [Host.opened]
    · cases hst : s.mchSdo.state <;> simp_all [MchSdoState.Enabled, Obs.opens]

end Renewed

/-! ## The marks of the fields -/

/-- A value of field `f` of profile `i` has been queued in this epoch. -/
def Host.Wrote (s : Sled) (i : Fin MAX_PROFILES) (f : Field) : Prop :=
  ∃ r ∈ s.epochRequests, ∃ v, r.fieldValue? i f = some v

/-- The invariant: while SDOs can be exchanged, everything that waits is of this epoch, and in
`ST_NET_OPERATIONAL` so is every field that is not marked as changed. -/
structure EpochInv (s : Sled) : Prop where
  renewed : s.env.mchNet.Talks → Renewed s
  wrote : s.env.mchNet = .operational → ∀ i, (s.env.profiles i).inUse = true → ∀ f,
    (s.env.profiles i).fieldState f ≠ .changed → s.Wrote i f

lemma Host.Wrote.mono {s t : Sled} {i : Fin MAX_PROFILES} {f : Field} (h : s.Wrote i f)
    (hst : Stays s t) : t.Wrote i f := by
  obtain ⟨r, hr, v, hv⟩ := h
  exact ⟨r, hst.mem hr, v, hv⟩

namespace EpochInv

variable {s s' t u : Sled}

/-- Outside the three states nothing is claimed. -/
lemma of_not_talks (h : ¬ s.env.mchNet.Talks) : EpochInv s :=
  ⟨fun hn => absurd hn h, fun hn => absurd (.inr (.inr hn)) h⟩

lemma of_renewed (hs : EpochInv s) (hr : Renewed s → Renewed t) (h : Stays s t)
    (hnet : t.env.mchNet = s.env.mchNet) (hp : t.env.profiles = s.env.profiles) : EpochInv t := by
  refine ⟨fun hn => hr (hs.renewed (hnet ▸ hn)), fun hn i huse f hf => ?_⟩
  rw [hp] at huse hf
  exact (hs.wrote (hnet ▸ hn) i huse f hf).mono h

lemma log (hs : EpochInv s) {o : Obs sledClient} (ho : o.opens = false) : EpochInv (s.log o) :=
  hs.of_renewed (fun h => h.log ho) (.log s ho) rfl rfl

lemma push (hs : EpochInv s) (r : Request sledClient) : EpochInv (s.push r) :=
  hs.of_renewed (fun h => h.push r) (.push s r) (by simp) (by simp)

lemma withEnv (hs : EpochInv s) {e : SledEnv} (hnet : e.mchNet = s.env.mchNet)
    (hp : e.profiles = s.env.profiles) : EpochInv (s.withEnv e) :=
  hs.of_renewed (fun h => h.withEnv e) (.of_eq rfl) hnet hp

lemma reacts (hs : EpochInv s) (h : Reacts s t) : EpochInv t :=
  h.invariant hs (fun _ r _ ht => ht.push r) (fun _ _ he ht => ht.withEnv he.net he.profiles)
    fun _ _ _ ht => ht.log rfl

lemma proceed (hs : EpochInv s) : EpochInv s.clearActive.proceed :=
  hs.of_renewed (·.proceed) ((Stays.of_eq rfl).trans (.proceed _)) (by simp) (by simp)

lemma fail (hs : EpochInv s) : EpochInv s.clearActive.fail :=
  hs.of_renewed (·.fail) ((Stays.of_eq rfl).trans (.fail _)) (by simp) (by simp)

/-! ### Calls -/

lemma edit (hs : EpochInv s) {g : Fin MAX_PROFILES → SledProfile}
    (hg : ∀ i, (s.env.profiles i).Edited (g i)) : EpochInv (s.setProfiles g) := by
  refine ⟨fun hn => (hs.renewed hn).withEnv _, fun hn i huse f hf => ?_⟩
  have hsame : (g i).fieldState f = (s.env.profiles i).fieldState f :=
    ((hg i).fields f).resolve_left hf
  have hused : (s.env.profiles i).inUse = true := ((hg i).used huse).resolve_right fun h => hf (h f)
  refine Host.Wrote.mono (hs.wrote hn i hused f ?_) (.of_eq rfl)
  rw [← hsame]
  exact hf

/-- A visit queues just the fields that it takes the mark from. -/
lemma visit (hs : EpochInv s) (i : Fin MAX_PROFILES) : EpochInv (s.visit i) := by
  have hstays : Stays s (s.visit i) :=
    (Stays.pushAll s (s.env.visitRequests i)).trans (.of_eq rfl)
  refine ⟨fun hn => ((hs.renewed hn).pushAll _).withEnv _, fun hn j huse f hf => ?_⟩
  have hfield := (visits_profile s.env [i] j).2.2.2.2 f
  have hinUse : ((s.env.visit i).profiles j).inUse = (s.env.profiles j).inUse :=
    (visit_profile_contents s.env i j).2.2.1
  by_cases hc : (s.env.profiles j).fieldState f = .changed
  · obtain rfl : j = i := by
      by_contra hj
      simp only [List.foldl_cons, List.foldl_nil, List.mem_singleton, hj, false_and, if_false]
        at hfield
      exact hf (hfield.trans hc)
    have hq : (s.visit j).epochRequests = s.epochRequests ++ s.env.visitRequests j :=
      hstays.epochRequests (Host.queuedRequests_pushAll _)
    have hwrite : s.env.value j f ∈
        (s.env.visitRequests j).filterMap (Request.fieldValue? j f) := by
      rw [filterMap_visitRequests]
      simp [hc]
    obtain ⟨r, hr, hv⟩ := List.mem_filterMap.mp hwrite
    exact ⟨r, by rw [hq]; exact List.mem_append_right _ hr, _, hv⟩
  · refine Host.Wrote.mono (hs.wrote hn j ?_ f hc) hstays
    rw [← hinUse]
    exact huse

lemma keptByCalls : KeptByCalls EpochInv where
  edit _ _ hg hs := hs.edit hg
  visit _ i hs := hs.visit i
  launch s i _ hs := by
    have hpush := (hs.push (motionTask (s.env.profiles i).profile)).push (controlWord 0x3F)
    exact hpush.reacts (Reacts.setMpState (.refl _) .ppSpNack)
  light _ _ hs := hs.push _

/-! ### Responses -/

/-- What a write response does before the next request is sent. -/
lemma writeEffect {sdo : Sdo sledClient} (hs : EpochInv s) (hl : Linked s)
    (ha : s.mchSdo.sdoActive = some sdo) (hw : sdo.isWrite = true) (h : WriteEffect s sdo u) :
    EpochInv u := by
  cases h with
  | silent | lateUpload => exact hs
  | upload _ hn =>
    have hpre : s.env.mchNet = .preoperational := hn.resolve_right hl.no_uploadconfig
    have hr : Renewed s := hs.renewed (.inl hpre)
    refine ⟨fun _ => (hr.setNetState _).sendNmt _, fun hop => absurd hop ?_⟩
    simp [Host.setNetState, Host.sendNmt]
  | @field i hf hd =>
    refine ⟨fun hn => (hs.renewed hn).withEnv _, fun hn j huse g hg => ?_⟩
    have hmono : Stays s (s.modifyProfile i (sledProfileSetFieldState sdo.index .written)) :=
      .of_eq rfl
    have hactive := (hs.renewed (.inr (.inr hn))).awaits.active sdo ha
    by_cases hj : j = i
    · subst hj
      simp only [Host.modifyProfile_eq, Host.withEnv_env, Function.update_self] at huse hg
      by_cases hindex : sdo.index = g.index
      · refine ⟨sdo.toRequest, hmono.mem hactive, sdo.value, ?_⟩
        simp [Request.fieldValue?, hw, hindex, hd]
      · rw [setFieldState_of_ne hindex] at hg
        rw [(setFieldState_contents _ _ _).2.1] at huse
        exact (hs.wrote hn j huse g hg).mono hmono
    · simp only [Host.modifyProfile_eq, Host.withEnv_env, Function.update_of_ne hj] at huse hg
      exact (hs.wrote hn j huse g hg).mono hmono

/-! ### The network machine -/

lemma netEvent (hs : EpochInv s) (hl : Linked s) {event : MchNetEvent}
    (h : mchNetHandleEvent event s = .ok s') : EpochInv s' := by
  rcases mchNetHandleEvent_ok h with ⟨-, rfl⟩ | ⟨-, henter⟩
  · exact hs
  obtain ⟨hds, -, -, hsdo⟩ := hl.netLeave
  generalize hn : mchNetNextStateGivenEvent s.env.mchNet event = n at henter
  have hnet : s'.env.mchNet = n := henter.env_net.1
  have hleave : s.env.mchNet.Talks → Renewed (s.netLeave.setNetState n) := fun htalks =>
    ((hs.renewed htalks).moves (Reacts.netLeave s)).setNetState n
  -- The epoch goes on if the SDO machine is on.
  have hon : (s.netLeave.setNetState n).mchSdo.state.Enabled →
      Renewed (s.netLeave.setNetState n) := fun hon => hleave (hl.sdo_net (hsdo.enabled.mp hon))
  cases henter with
  | disabled hst | unknown hst | stopped hst | enterpreoperational hst | uploadconfig hst =>
    refine of_not_talks ?_
    rw [hnet, show n = _ from hst]
    simp [MchNetState.Talks]
  | startremotenode hst =>
    obtain rfl : n = .startremotenode := hst
    refine ⟨fun _ => ?_, fun hop => absurd (hnet.symm.trans hop) (by decide)⟩
    exact (hleave (talks_of_startremotenode hn hl.no_uploadconfig)).sendNmt _
  | preoperational hst ht =>
    obtain rfl : n = .preoperational := hst
    obtain ⟨r, rs, hrs⟩ : ∃ r rs, netRequests = r :: rs := ⟨_, _, rfl⟩
    refine ⟨fun _ => ?_, fun hop => absurd (hnet.symm.trans hop) (by decide)⟩
    rw [hrs]
    exact .sdoOn ht hon rfl (.of_eq rfl) r rs
  | @operational t hst ht =>
    have hreset : t.resetProfiles.env.mchDs = .disabled := by
      show t.env.mchDs = .disabled
      rw [ht.env]
      exact hds
    rw [dsMove_netOperational hreset]
    refine ⟨fun _ => ?_, fun _ i huse f hf => absurd ?_ hf⟩
    · exact .sdoOn (u := t.resetProfiles.setDsState .unknown) ht hon rfl
        ⟨[.note (.dsState t.env.mchDs .unknown)], rfl, by simp [Obs.opens]⟩ _ []
    · simp only [Host.pushAll_env, Host.setDsState, Host.resetProfiles, sledProfilesReset,
        Host.setProfiles] at huse ⊢
      split at huse
      case isTrue hused => simp [hused, sledProfileMarkAsUnsaved]
      case isFalse hused => exact absurd huse hused

/-! ### Steps and runs -/

lemma close (hs : EpochInv s) (hl : Linked s) {o : CanOutcome} (h : intfCloseSled o s = .ok s') :
    EpochInv s' := by
  rcases intfCloseSled_ok h with ⟨intf, rfl, -⟩ | ⟨-, intf, -, hnet⟩
  · exact ⟨fun hn => (hs.renewed hn).of_stays (.of_eq rfl) fun _ h => h.of_same rfl rfl,
      fun hn i huse f hf => (hs.wrote hn i huse f hf).mono (.of_eq rfl)⟩
  · have hl' : Linked (((s.setIntfState .closing).withIntf intf).setIntfState .closed) :=
      ⟨hl.sdo_net, hl.net_sdo, hl.ds_net, hl.mp_ds, hl.no_uploadconfig⟩
    obtain ⟨hn, -⟩ := mchNetHandleEvent_env hnet hl'
    refine of_not_talks ?_
    rw [hn, mchNet_intfClosed]
    simp [MchNetState.Talks]

lemma step (hs : EpochInv s) (hc : CoupledInv s) {e : SledEvent} (h : sledStep s e = .ok s') :
    EpochInv s' := by
  have hl := hc.linked
  cases sledStep_effect h with
  | skip => exact hs
  | report _ ht => exact hs.reacts (moves_tpdo ht)
  | watchdog ht => exact hs.netEvent hl ht
  | nmt now _ ht =>
    rcases raiseNmt_ok ht with rfl | ⟨event, -, -, ht⟩
    · exact hs.withEnv rfl rfl
    · exact (hs.netEvent hl ht).withEnv rfl rfl
  | close ht => exact hs.close hl ht
  | write _ hw =>
    obtain ⟨sdo, t, u, ha, hwrite, -, -, ht, hu, rfl⟩ := mchSdoWriteCallback_sled hw
    rcases ht with rfl | ⟨call, rfl⟩
    · exact ((hs.log rfl).writeEffect (hc.log _).linked ha hwrite hu).proceed
    · exact (((hs.log rfl).log rfl).writeEffect ((hc.log _).log _).linked ha hwrite hu).proceed
  | read _ hr =>
    obtain ⟨sdo, -, -, -, -, rfl⟩ := mchSdoReadCallback_sled hr
    exact (hs.log rfl).proceed
  | abort _ hr =>
    obtain ⟨sdo, -, -, -, -, rfl⟩ := mchSdoAbortCallback_sled hr
    exact (hs.log rfl).fail
  | call _ hr => exact keptByCalls.call hs hr

end EpochInv

lemma epochInv_run {mem : SledEnv} {now : ℚ} {o : CanOutcome} {es : List SledEvent} {s : Sled}
    (h : sledRun mem now o es = .ok s) : EpochInv s := by
  obtain ⟨s₀, hcreate, hrun⟩ := sledRun_ok.mp h
  have hstart : EpochInv s₀ := by
    refine .of_not_talks ?_
    obtain ⟨-, ⟨hn, -⟩ | ⟨hn, -⟩⟩ := sledCreate_linked hcreate
    all_goals simp [hn, MchNetState.Talks]
  exact (run_invariant (I := fun s => CoupledInv s ∧ EpochInv s)
    (fun s e s' hs hstep => ⟨hs.1.step hstep, hs.2.step hs.1 hstep⟩)
    ⟨coupledInv_sledCreate hcreate, hstart⟩ hrun).2

/-! ## Executing a profile -/

/-- A profile that is executed has no field left that is marked as changed. -/
lemma not_changed_of_writes {e : SledEnv} {id : ℤ} {is : List (Fin MAX_PROFILES)}
    {i : Fin MAX_PROFILES} (h : writes e id = .ok is) (hi : profileIndex? id = some i) (f : Field) :
    ((is.foldl SledEnv.visit e).profiles i).fieldState f ≠ .changed := by
  have hflushed : Flushed e is i := (series_of_writes h).heads id (by simp) i hi
  intro hf
  have hpending := (visits_pending e is i).mp ((hasChangesPending_iff _).mpr ⟨f, hf⟩)
  rcases hflushed with hmem | hno
  · exact hpending.1 hmem
  · simp [hno] at hpending

lemma stays_visits (s : Sled) (is : List (Fin MAX_PROFILES)) : Stays s (is.foldl Host.visit s) :=
  foldl_keeps (.of_eq rfl) fun t i _ ht =>
    ht.trans ((Stays.pushAll t (t.env.visitRequests i)).trans (.of_eq rfl))

/-- **Everything is uploaded again after a reconnect.**  In every run from `sled_create`, a call of
`sled_profile_execute` that returns 0 is made in an epoch of the SDO machine, which starts with the
entry `o` of the trace.  The call queues the motion task `q`, and in this epoch a value of each of
the eight fields of the profile has been queued before it. -/
theorem uploaded_before_motion {mem : SledEnv} {now : ℚ} {outcome : CanOutcome}
    {es : List SledEvent} {s s' : Sled} (h : sledRun mem now outcome es = .ok s) {profile : ℤ}
    (hex : sledProfileExecute profile s = .ok (0, s')) :
    ∃ i pre o mid q post, profileIndex? profile = some i ∧
      s'.trace = pre ++ o :: (mid ++ .queued q :: post) ∧ s.trace <+: pre ++ o :: mid ∧
      o.opens = true ∧ (∀ x ∈ mid ++ .queued q :: post, x.opens = false) ∧
      q.toRequest = motionTask (s.env.profiles i).profile ∧
      ∀ f, ∃ r v, .queued r ∈ mid ∧ r.toRequest.fieldValue? i f = some v := by
  obtain ⟨-, hnet⟩ := (coupledInv_run h).linked.of_idle (idle_of_execute hex)
  obtain hbad | ⟨i, is, hi, huse, hidle, hwrites, heq⟩ := sledProfileExecute_ok hex
  · simp at hbad
  obtain rfl : s' = (is.foldl Host.visit s).launched i := by
    rw [← started_eq is i hidle]
    exact congrArg Prod.snd heq
  have hinv : EpochInv (is.foldl Host.visit s) := EpochInv.keptByCalls.visits (epochInv_run h) is
  have hvisits := stays_visits s is
  have hnet' : (is.foldl Host.visit s).env.mchNet = .operational := by
    rw [((Acts.visits (.refl s) is).env_rel SledEnv.SameModes.refl fun _ _ _ => .trans).net, hnet]
  have huse' : ((is.foldl Host.visit s).env.profiles i).inUse = true :=
    foldl_keeps huse fun t j _ ht => (visit_profile_contents t.env j i).2.2.1.trans ht
  have hwrote : ∀ f, (is.foldl Host.visit s).Wrote i f := fun f => by
    refine hinv.wrote hnet' i huse' f ?_
    rw [visits_env]
    exact not_changed_of_writes hwrites hi f
  have hnumber : ((is.foldl Host.visit s).env.profiles i).profile = (s.env.profiles i).profile := by
    rw [visits_env]
    exact (visits_profile s.env is i).1
  -- The trace: up to the start of the epoch, up to this call's motion task, and the rest.
  generalize is.foldl Host.visit s = u at *
  obtain ⟨pre, o, htrace, ho⟩ := exists_epoch (hinv.renewed (.inr (.inr hnet'))).opened
  obtain ⟨os, hos, hno⟩ := Stays.push_trace u (motionTask (u.env.profiles i).profile)
  obtain ⟨ps, hps, hno'⟩ : Stays (u.push (motionTask (u.env.profiles i).profile)) (u.launched i) :=
    (Stays.push _ (controlWord 0x3F)).trans
      ⟨[.note (.mpState _ .ppSpNack)], rfl, by simp [Obs.opens]⟩
  refine ⟨i, pre, o, u.epoch,
    (motionTask (u.env.profiles i).profile).new u, os ++ ps, hi, ?_, ?_, ho,
    ?_, by rw [← hnumber]; rfl, fun f => ?_⟩
  · rw [hps, hos, htrace]
    simp
  · obtain ⟨qs, hqs, -⟩ := hvisits
    rw [← htrace, hqs]
    exact List.prefix_append _ _
  · intro x hx
    simp only [List.mem_append, List.mem_cons] at hx
    rcases hx with hx | rfl | hx | hx
    · exact not_opens_of_mem_epoch hx
    · rfl
    · exact hno x hx
    · exact hno' x hx
  · obtain ⟨r, hr, v, hv⟩ := hwrote f
    obtain ⟨x, hx, hqueued⟩ := List.mem_filterMap.mp hr
    cases x with
    | queued q =>
      cases hqueued
      exact ⟨q, v, hx, hv⟩
    | sdoState | sent | answered | called | note => cases hqueued

/-- A profile is executed right after everything has come up. -/
theorem uploaded_before_motion_up :
    ∃ s s', sledRun someMemory 0 ⟨.success, true⟩ (networkUp ++ driveUp) = .ok s ∧
      sledProfileExecute 0 s = .ok (0, s') ∧
      ∃ i pre o mid q post, profileIndex? 0 = some i ∧
        s'.trace = pre ++ o :: (mid ++ .queued q :: post) ∧ s.trace <+: pre ++ o :: mid ∧
        o.opens = true ∧ (∀ x ∈ mid ++ .queued q :: post, x.opens = false) ∧
        q.toRequest = motionTask (s.env.profiles i).profile ∧
        ∀ f, ∃ r v, .queued r ∈ mid ∧ r.toRequest.fieldValue? i f = some v := by
  obtain ⟨s, hs, h⟩ := exists_of_okAnd
    (p := fun s : Sled => okAnd (fun r => r.1 == 0) (sledProfileExecute 0 s))
    (x := sledRun someMemory 0 ⟨.success, true⟩ (networkUp ++ driveUp)) (by decide +kernel)
  obtain ⟨⟨n, s'⟩, hr, h⟩ := exists_of_okAnd h
  obtain rfl : n = 0 := by simpa using h
  exact ⟨s, s', hs, hr, uploaded_before_motion hs hr⟩

end SledServer
