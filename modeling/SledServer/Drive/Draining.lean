import SledServer.Core.Backlog
import SledServer.Drive.Recovery
import SledServer.Drive.Vocabulary

/-!
# How long a request waits

While the SDO machine is on, nothing is dropped from its queue: every confirmation sends the next
request, so one with `n` others before it is on the bus after `n + 1` confirmations, whatever else
happens in the meantime (`bounded_waiting`).

For the drive this means that it is told everything that it is instructed, as long as it goes on
confirming (`instructions_reach_drive`).  Only when the machine is switched off is something lost.
-/

namespace SledServer

open SledServer.Core

variable {c : Client} {σ : Type}

/-! ## Progress -/

/-- A positive response has been processed. -/
def Obs.confirmed : Obs c → Bool
  | .answered _ (.abort _) => false
  | .answered _ _ => true
  | _ => false

/-- The entry neither queues nor confirms anything. -/
def Obs.Mute (o : Obs c) : Prop := o.queued? = none ∧ o.confirmed = false

/-- The requests that have been sent, and those that wait. -/
def Host.backlog (s : Host c σ) : Backlog (Sdo c) := ⟨s.sent, s.mchSdo.sdoQueue⟩

/-- Everything that is queued from `s` to `t` has been sent or waits, and every confirmation has let
a request out of the queue. -/
def Progress (s t : Host c σ) : Prop :=
  ∃ os, t.trace = s.trace ++ os ∧ s.backlog.Serves (os.countP Obs.confirmed) t.backlog ∧
    t.issued.map Sdo.toRequest = s.issued.map Sdo.toRequest ++ os.filterMap Obs.queued?

/-- Nothing waits for a machine that could send it, a machine that sends has an active request, and
the active request has been sent. -/
structure Tidy (s : Host c σ) : Prop where
  waiting : s.mchSdo.state = .waiting → s.mchSdo.sdoQueue = []
  sending : s.mchSdo.state = .sending → ∃ r, s.mchSdo.sdoActive = some r
  active : ∀ r, s.mchSdo.sdoActive = some r → r ∈ s.sent

section Machine

variable {s t u : Host c σ} {os : List (Obs c)}

lemma countP_mute (h : ∀ o ∈ os, o.Mute) : os.countP Obs.confirmed = 0 :=
  List.countP_eq_zero.mpr fun o ho => by simp [(h o ho).2]

lemma filterMap_mute (h : ∀ o ∈ os, o.Mute) : os.filterMap Obs.queued? = [] :=
  List.filterMap_eq_nil_iff.mpr fun o ho => (h o ho).1

lemma mute_sdoState (st st' : MchSdoState) : (Obs.sdoState st st' : Obs c).Mute := ⟨rfl, rfl⟩

namespace Progress

lemma trans (h : Progress s t) (h' : Progress t u) : Progress s u := by
  obtain ⟨os, hos, hserves, hissued⟩ := h
  obtain ⟨ps, hps, hserves', hissued'⟩ := h'
  refine ⟨os ++ ps, by rw [hps, hos, List.append_assoc], ?_, ?_⟩
  · rw [List.countP_append]
    exact hserves.trans hserves'
  · rw [hissued', hissued, List.filterMap_append, List.append_assoc]

/-- Nothing is queued or confirmed; requests may be sent. -/
lemma mute (ht : t.trace = s.trace ++ os) (hos : ∀ o ∈ os, o.Mute) (hissued : t.issued = s.issued) :
    Progress s t := by
  refine ⟨os, ht, ?_, ?_⟩
  · rw [countP_mute hos]
    refine ⟨?_, ?_⟩
    · show s.issued <+: t.issued
      rw [hissued]
    · rw [List.take_zero, List.append_nil]
      exact ⟨_, (Host.sent_of_trace ht).symm⟩
  · rw [filterMap_mute hos, List.append_nil, hissued]

lemma of_eq (ht : t.trace = s.trace) (hq : t.mchSdo.sdoQueue = s.mchSdo.sdoQueue) :
    Progress s t := by
  have hnil : t.trace = s.trace ++ [] := by rw [ht, List.append_nil]
  refine mute hnil (by simp) ?_
  rw [Host.issued, Host.issued, Host.sent, ht, hq]
  rfl

lemma refl (s : Host c σ) : Progress s s := of_eq rfl rfl

lemma log (s : Host c σ) {o : Obs c} (ho : o.Mute) (hsent : o.sent? = none) :
    Progress s (s.log o) :=
  mute (Host.log_trace o s) (by simpa using ho) (Host.issued_log hsent)

lemma setSdoState (s : Host c σ) (st : MchSdoState) : Progress s (s.setSdoState st) := by
  refine mute (Host.setSdoState_trace st s) (by simpa using mute_sdoState _ _) ?_
  rw [Host.issued, Host.sent_setSdoState]
  rfl

lemma resume (s : Host c σ) : Progress s s.resume := by
  cases hq : s.mchSdo.sdoQueue with
  | nil =>
    rw [Host.resume_nil hq]
    exact refl s
  | cons r rs =>
    refine mute (Host.resume_cons_trace hq) ?_ Host.issued_resume
    simp [Obs.Mute, Obs.queued?, Obs.confirmed]

lemma enqueue (s : Host c σ) (r : Request c) : Progress s (s.enqueue r) := by
  have hsent : (s.enqueue r).sent = s.sent := Host.sent_enqueue r
  have hqueue : (s.enqueue r).mchSdo.sdoQueue = s.mchSdo.sdoQueue ++ [r.new s] := rfl
  refine ⟨[.queued (r.new s)], rfl, ?_, ?_⟩
  · rw [Host.backlog, Host.backlog, hsent, hqueue]
    exact .join s.backlog (r.new s)
  · rw [Host.issued, Host.issued, hsent, hqueue]
    simp [Obs.queued?]

lemma push (s : Host c σ) (r : Request c) : Progress s (s.push r) := by
  unfold Host.push
  split
  · exact (enqueue s r).trans (resume _)
  · exact enqueue s r

lemma pushAll (s : Host c σ) (rs : List (Request c)) : Progress s (s.pushAll rs) := by
  induction rs generalizing s with
  | nil => exact refl s
  | cons r rs ih => exact (push s r).trans (ih (s.push r))

lemma disable (s : Host c σ) : Progress s s.disable := by
  unfold Host.disable
  split
  · exact setSdoState s .disabled
  · exact refl s

lemma fail (s : Host c σ) : Progress s s.clearActive.fail := by
  have hclear : Progress s s.clearActive := of_eq rfl rfl
  unfold Host.fail
  split
  · exact hclear.trans (setSdoState _ .error)
  · exact hclear

lemma proceed_trace (s : Host c σ) :
    ∃ os, s.proceed.trace = s.trace ++ os ∧ ∀ o ∈ os, o.Mute := by
  unfold Host.proceed
  split
  · cases hq : s.mchSdo.sdoQueue with
    | nil =>
      rw [Host.resume_nil (s := s.setSdoState .waiting) hq]
      exact ⟨_, Host.setSdoState_trace .waiting s, by simpa using mute_sdoState _ _⟩
    | cons r rs =>
      refine ⟨[.sdoState s.mchSdo.state .waiting, .sdoState .waiting .sending, .sent r], ?_, ?_⟩
      · rw [Host.resume_cons_trace (s := s.setSdoState .waiting) hq, Host.setSdoState_trace,
          List.append_assoc]
        rfl
      · simp [Obs.Mute, Obs.queued?, Obs.confirmed]
  · exact ⟨[], by simp, by simp⟩

/-- A machine that proceeds lets the next request out of its queue. -/
lemma proceed_serves (hs : s.mchSdo.state = .waiting → s.mchSdo.sdoQueue = [])
    (hon : s.mchSdo.state.Enabled) :
    s.backlog.Serves 1 s.proceed.backlog := by
  cases hq : s.mchSdo.sdoQueue with
  | nil =>
    have hsame : s.proceed.backlog = ⟨s.sent, []⟩ := by
      unfold Host.proceed
      split
      · rw [Host.resume_nil (s := s.setSdoState .waiting) hq, Host.backlog, Host.sent_setSdoState,
          Host.setSdoState_sdoQueue, hq]
      · rw [Host.backlog, hq]
    rw [hsame, Host.backlog, hq]
    exact .idle s.sent 1
  | cons r rs =>
    have hsending : s.mchSdo.state = .sending := by
      refine hon.resolve_left fun hwaiting => ?_
      rw [hs hwaiting] at hq
      cases hq
    have hnext : s.proceed.backlog = ⟨s.sent ++ [r], rs⟩ := by
      rw [Host.proceed, if_pos hsending, Host.backlog,
        Host.sent_resume_cons (s := s.setSdoState .waiting) hq,
        Host.resume_cons_mchSdo (s := s.setSdoState .waiting) hq, Host.sent_setSdoState]
    rw [hnext, Host.backlog, hq]
    exact .serve s.sent r rs

/-- A positive response lets the next request out of the queue. -/
lemma answered (hs : Tidy s) (hon : s.mchSdo.state.Enabled) {resp : Response} {r : Sdo c}
    (ht : t.trace = s.trace ++ .answered r resp :: os) (hos : ∀ o ∈ os, o.Mute ∧ o.sent? = none)
    (hm : t.mchSdo = s.mchSdo) : Progress s t.clearActive.proceed := by
  obtain ⟨ps, hps, hmute⟩ := proceed_trace t.clearActive
  have hall : ∀ o ∈ os ++ ps, o.Mute := by
    intro o ho
    rcases List.mem_append.mp ho with ho | ho
    · exact (hos o ho).1
    · exact hmute o ho
  have hsent : t.clearActive.sent = s.sent := by
    rw [Host.sent_clearActive, Host.sent_of_trace ht, List.filterMap_cons]
    simp [Obs.sent?, List.filterMap_eq_nil_iff.mpr fun o ho => (hos o ho).2]
  have hqueue : t.clearActive.mchSdo.sdoQueue = s.mchSdo.sdoQueue := by
    rw [Host.clearActive_sdoQueue, hm]
  have hstate : t.clearActive.mchSdo.state = s.mchSdo.state := by
    rw [Host.clearActive_state, hm]
  have hwaiting : t.clearActive.mchSdo.state = .waiting → t.clearActive.mchSdo.sdoQueue = [] := by
    rw [hqueue, hstate]
    exact hs.waiting
  refine ⟨.answered r resp :: (os ++ ps), ?_, ?_, ?_⟩
  · rw [hps, Host.clearActive_trace, ht, List.append_assoc, List.cons_append]
  · have hserves := proceed_serves hwaiting (hstate ▸ hon)
    have hsame : t.clearActive.backlog = s.backlog := by
      rw [Host.backlog, Host.backlog, hsent, hqueue]
    rw [hsame] at hserves
    refine hserves.mono ?_
    rw [List.countP_cons, countP_mute hall]
    split <;> omega
  · rw [List.filterMap_cons, filterMap_mute hall, Host.issued_proceed, Host.issued, hsent, hqueue]
    simp [Obs.queued?, Host.issued]

end Progress

namespace Tidy

lemma of_eq (h : Tidy s) (hm : t.mchSdo = s.mchSdo) (hsent : t.sent = s.sent) : Tidy t := by
  refine ⟨?_, ?_, ?_⟩
  · rw [hm]
    exact h.waiting
  · rw [hm]
    exact h.sending
  · rw [hm, hsent]
    exact h.active

lemma log (h : Tidy s) {o : Obs c} (ho : o.sent? = none) : Tidy (s.log o) :=
  h.of_eq rfl (Host.sent_log ho)

/-- The machine is switched off. -/
lemma off (h : ∀ r, s.mchSdo.sdoActive = some r → r ∈ s.sent) {st : MchSdoState}
    (hst : ¬ st.Enabled) : Tidy (s.setSdoState st) := by
  refine ⟨fun hw => absurd (.inl hw) hst, fun hs => absurd (.inr hs) hst, fun r hr => ?_⟩
  rw [Host.sent_setSdoState]
  exact h r hr

lemma resume (h : ∀ r, s.mchSdo.sdoActive = some r → r ∈ s.sent) (hw : s.mchSdo.state = .waiting) :
    Tidy s.resume := by
  cases hq : s.mchSdo.sdoQueue with
  | nil =>
    rw [Host.resume_nil hq]
    refine ⟨fun _ => hq, fun hsending => ?_, h⟩
    rw [hw] at hsending
    cases hsending
  | cons r rs =>
    have hm := Host.resume_cons_mchSdo hq
    refine ⟨fun hwaiting => ?_, fun _ => ⟨r, by rw [hm]⟩, fun q hactive => ?_⟩
    · rw [hm] at hwaiting
      cases hwaiting
    · rw [hm] at hactive
      cases hactive
      rw [Host.sent_resume_cons hq]
      exact List.mem_append_right _ List.mem_cons_self

lemma push (h : Tidy s) (r : Request c) : Tidy (s.push r) := by
  have hactive : ∀ q, (s.enqueue r).mchSdo.sdoActive = some q → q ∈ (s.enqueue r).sent := by
    intro q hq
    rw [Host.sent_enqueue]
    exact h.active q hq
  unfold Host.push
  split
  next hwaiting => exact resume hactive hwaiting
  next hbusy => exact ⟨fun hwaiting => absurd hwaiting hbusy, h.sending, hactive⟩

lemma pushAll (h : Tidy s) (rs : List (Request c)) : Tidy (s.pushAll rs) := by
  induction rs generalizing s with
  | nil => exact h
  | cons r rs ih => exact ih (h.push r)

lemma disable (h : Tidy s) : Tidy s.disable := by
  unfold Host.disable
  split
  · exact off h.active (by simp [MchSdoState.Enabled])
  · exact h

lemma proceed (h : Tidy s) : Tidy s.clearActive.proceed := by
  unfold Host.proceed
  split
  · exact resume (by simp) rfl
  next hidle => exact ⟨h.waiting, fun hsending => absurd hsending hidle, by simp⟩

lemma fail (h : Tidy s) : Tidy s.clearActive.fail := by
  unfold Host.fail
  split
  · exact off (by simp) (by simp [MchSdoState.Enabled])
  next hidle => exact ⟨h.waiting, fun hsending => absurd hsending hidle, by simp⟩

end Tidy

end Machine

/-! ## Steps -/

section Steps

variable {s t u : Sled}

lemma Progress.moves {K : Request sledClient → Prop} {R : SledEnv → SledEnv → Prop}
    (h : Moves K R s t) : Progress s t :=
  h.invariant (.refl s) (fun t r _ ht => ht.trans (.push t r))
    (fun _ _ _ ht => ht.trans (.of_eq rfl rfl)) fun t _ _ ht => ht.trans (.log t ⟨rfl, rfl⟩ rfl)

lemma Tidy.moves {K : Request sledClient → Prop} {R : SledEnv → SledEnv → Prop} (hs : Tidy s)
    (h : Moves K R s t) : Tidy t :=
  h.invariant hs (fun _ r _ ht => ht.push r) (fun _ _ _ ht => ht.of_eq rfl rfl)
    fun _ _ _ ht => ht.log rfl

/-- Entering a state of the network machine drops nothing while the SDO machine is on. -/
lemma netEnter_progress (hs : Tidy s) (h : NetEnter s t) :
    Tidy t ∧ (s.mchSdo.state.Enabled → Progress s t) := by
  have hnmt : ∀ {u : Sled} command, Tidy u → Tidy (u.sendNmt command) ∧
      Progress u (u.sendNmt command) := fun _ hu => ⟨hu.of_eq rfl rfl, .of_eq rfl rfl⟩
  have hon : ∀ {u : Sled}, SdoOn s u → Tidy u ∧ (s.mchSdo.state.Enabled → Progress s u) := by
    intro u hu
    cases hu with
    | already => exact ⟨hs, fun _ => .refl s⟩
    | opened hoff =>
      refine ⟨⟨fun _ => rfl, by simp [Host.opened], fun r hr => ?_⟩,
        fun henabled => absurd henabled hoff⟩
      show r ∈ (Host.setSdoState .waiting _).sent
      rw [Host.sent_setSdoState]
      exact hs.active r hr
  cases h with
  | disabled => exact ⟨hs.disable, fun _ => .disable s⟩
  | unknown =>
    exact ⟨(hnmt _ hs.disable).1, fun _ => (Progress.disable s).trans (hnmt _ hs.disable).2⟩
  | stopped =>
    exact ⟨(hnmt _ hs.disable).1, fun _ => (Progress.disable s).trans (hnmt _ hs.disable).2⟩
  | startremotenode => exact ⟨(hnmt _ hs).1, fun _ => (hnmt _ hs).2⟩
  | enterpreoperational => exact ⟨(hnmt _ hs).1, fun _ => (hnmt _ hs).2⟩
  | uploadconfig => exact ⟨hs.pushAll _, fun _ => .pushAll s _⟩
  | @operational u _ hu =>
    obtain ⟨htidy, hprogress⟩ := hon hu
    have hmoves : Reacts u.resetProfiles (u.resetProfiles.dsMove .netOperational) :=
      Reacts.dsMove (.refl _) _
    have hstays : Tidy u.resetProfiles := htidy.of_eq rfl rfl
    have hreset : Progress u u.resetProfiles := .of_eq rfl rfl
    refine ⟨hstays.moves hmoves, fun henabled => ?_⟩
    exact ((hprogress henabled).trans hreset).trans (.moves hmoves)
  | @preoperational u _ hu =>
    obtain ⟨htidy, hprogress⟩ := hon hu
    exact ⟨htidy.pushAll _, fun henabled => (hprogress henabled).trans (.pushAll u _)⟩

lemma setNetState_progress (s : Sled) (n : MchNetState) : Progress s (s.setNetState n) :=
  .trans (.of_eq (t := s.withEnv { s.env with mchNet := n }) rfl rfl) (.log _ ⟨rfl, rfl⟩ rfl)

lemma setIntfState_progress (s : Sled) (st : MchIntfState) : Progress s (s.setIntfState st) :=
  .trans (.of_eq (t := s.withEnv { s.env with mchIntf := st }) rfl rfl) (.log _ ⟨rfl, rfl⟩ rfl)

lemma Tidy.setNetState (h : Tidy s) (n : MchNetState) : Tidy (s.setNetState n) := by
  have hstored : Tidy (s.withEnv { s.env with mchNet := n }) := h.of_eq rfl rfl
  exact hstored.log (o := .note (.netState s.env.mchNet n)) rfl

lemma Tidy.setIntfState (h : Tidy s) (st : MchIntfState) : Tidy (s.setIntfState st) := by
  have hstored : Tidy (s.withEnv { s.env with mchIntf := st }) := h.of_eq rfl rfl
  exact hstored.log (o := .note (.intfState s.env.mchIntf st)) rfl

lemma Tidy.withIntf (h : Tidy s) (intf : Intf) : Tidy (s.withIntf intf) := h.of_eq rfl rfl

lemma netEvent_progress (hs : Tidy s) {event : MchNetEvent}
    (h : mchNetHandleEvent event s = .ok t) :
    Tidy t ∧ (s.mchSdo.state.Enabled → Progress s t) := by
  obtain ⟨-, rfl⟩ | ⟨-, henter⟩ := mchNetHandleEvent_ok h
  · exact ⟨hs, fun _ => .refl _⟩
  · have hleave := Reacts.netLeave s
    have hset := (Progress.moves hleave).trans
      (setNetState_progress s.netLeave (mchNetNextStateGivenEvent s.env.mchNet event))
    obtain ⟨ht, hprogress⟩ := netEnter_progress ((hs.moves hleave).setNetState _) henter
    refine ⟨ht, fun hon => hset.trans (hprogress ?_)⟩
    exact (SameSdo.moves hleave).enabled.mpr hon

/-- The function for success logs what it does, and queues nothing. -/
lemma write_progress (hs : Tidy s) {sdo : Sdo sledClient} {v u : Sled}
    (hv : v = s.log (.answered sdo .write) ∨
      ∃ call, v = (s.log (.answered sdo .write)).log (.called sdo.addr call))
    (hu : WriteEffect v sdo u) : Tidy u.clearActive.proceed ∧
      (s.mchSdo.state.Enabled → Progress s u.clearActive.proceed) := by
  have hm := Lost.write_mchSdo hv hu
  obtain ⟨os, hos, hquiet⟩ : ∃ os, u.trace = s.trace ++ .answered sdo .write :: os ∧
      ∀ o ∈ os, o.Mute ∧ o.sent? = none := by
    obtain ⟨ps, hps, hquiet⟩ : ∃ ps, v.trace = s.trace ++ .answered sdo .write :: ps ∧
        ∀ o ∈ ps, o.Mute ∧ o.sent? = none := by
      obtain rfl | ⟨call, rfl⟩ := hv
      · exact ⟨[], rfl, by simp⟩
      · refine ⟨[.called sdo.addr call], List.append_assoc _ _ _, ?_⟩
        simp [Obs.Mute, Obs.queued?, Obs.confirmed, Obs.sent?]
    cases hu with
    | silent | lateUpload | field => exact ⟨ps, hps, hquiet⟩
    | upload =>
      refine ⟨ps ++ [.note (.netState v.env.mchNet .startremotenode)], ?_, fun o ho => ?_⟩
      · show v.trace ++ [_] = _
        rw [hps, List.append_assoc, List.cons_append]
      · rcases List.mem_append.mp ho with ho | ho
        · exact hquiet o ho
        · rw [List.mem_singleton.mp ho]
          exact ⟨⟨rfl, rfl⟩, rfl⟩
  have hsent : u.sent = s.sent := by
    rw [Host.sent_of_trace hos, List.filterMap_cons]
    simp [Obs.sent?, List.filterMap_eq_nil_iff.mpr fun o ho => (hquiet o ho).2]
  exact ⟨(hs.of_eq hm hsent).proceed, fun hon => .answered hs hon hos hquiet hm⟩

/-- One step drops nothing while the SDO machine is on. -/
lemma step_progress (hs : Tidy s) {e : SledEvent} (h : sledStep s e = .ok t) :
    Tidy t ∧ (s.mchSdo.state.Enabled → Progress s t) := by
  cases sledStep_effect h with
  | skip => exact ⟨hs, fun _ => .refl s⟩
  | report _ ht => exact ⟨hs.moves (moves_tpdo ht), fun _ => .moves (moves_tpdo ht)⟩
  | watchdog ht => exact netEvent_progress hs ht
  | @nmt v state now _ ht =>
    obtain rfl | ⟨event, -, -, ht⟩ := raiseNmt_ok ht
    · exact ⟨hs.of_eq rfl rfl, fun _ => .of_eq rfl rfl⟩
    · obtain ⟨htidy, hprogress⟩ := netEvent_progress hs ht
      exact ⟨htidy.of_eq rfl rfl, fun hon => (hprogress hon).trans (.of_eq rfl rfl)⟩
  | close hclose =>
    obtain ⟨intf, rfl, -⟩ | ⟨-, intf, -, ht⟩ := intfCloseSled_ok hclose
    · exact ⟨hs.withIntf intf, fun _ => .of_eq rfl rfl⟩
    · have hclosed : Progress s (((s.setIntfState .closing).withIntf intf).setIntfState .closed) :=
        (setIntfState_progress s _).trans
          (.trans (.of_eq (t := (s.setIntfState .closing).withIntf intf) rfl rfl)
            (setIntfState_progress _ _))
      obtain ⟨htidy, hprogress⟩ :=
        netEvent_progress (((hs.setIntfState _).withIntf intf).setIntfState _) ht
      exact ⟨htidy, fun hon => hclosed.trans (hprogress hon)⟩
  | write _ hw =>
    obtain ⟨sdo, v, u, -, -, -, -, hv, hu, rfl⟩ := mchSdoWriteCallback_sled hw
    exact write_progress hs hv hu
  | @read _ _ _ value _ hr =>
    obtain ⟨sdo, -, -, -, -, rfl⟩ := mchSdoReadCallback_sled hr
    have hlog : (s.log (.answered sdo (.read value))).trace =
        s.trace ++ .answered sdo (.read value) :: [] := rfl
    exact ⟨(hs.log rfl).proceed, fun hon => .answered hs hon hlog (by simp) rfl⟩
  | abort _ ha =>
    obtain ⟨sdo, -, -, -, -, rfl⟩ := mchSdoAbortCallback_sled ha
    exact ⟨(hs.log rfl).fail, fun _ => (Progress.log s ⟨rfl, rfl⟩ rfl).trans (.fail _)⟩
  | call _ hcall => exact ⟨hs.moves (moves_call hcall), fun _ => .moves (moves_call hcall)⟩

lemma tidy_sledCreate {mem : SledEnv} {now : ℚ} {o : CanOutcome}
    (h : sledCreate mem now o = .ok s) : Tidy s := by
  have hstores : Stores (fun _ => False) (sledAlloc mem now)
      (sledCreateProfiles (sledAlloc mem now)) := Stores.createProfiles (.refl _)
  have henv := hstores.env_rel SledEnv.SameModes.refl fun _ _ _ => .trans
  have halloc : Tidy (sledAlloc mem now) := by
    refine ⟨?_, ?_, ?_⟩ <;> simp [sledAlloc, mchSdoCreate]
  have ht := halloc.moves hstores
  obtain ⟨intf, -, rfl | hnet⟩ := sledCreate_ok h henv.intf hstores.silent.2
  · exact (ht.setIntfState _).withIntf intf
  · exact (netEvent_progress (((ht.setIntfState _).withIntf intf).setIntfState _) hnet).1

lemma tidy_run {mem : SledEnv} {now : ℚ} {o : CanOutcome} {es : List SledEvent}
    (h : sledRun mem now o es = .ok s) : Tidy s := by
  obtain ⟨s₀, hcreate, hrun⟩ := sledRun_ok.mp h
  exact run_invariant (fun _ _ _ hs hstep => (step_progress hs hstep).1) (tidy_sledCreate hcreate)
    hrun

/-- The SDO machine is on before each event. -/
def StaysOn : Sled → List SledEvent → Prop := Guarded sledStep fun s _ => s.mchSdo.state.Enabled

instance StaysOn.decidable (s : Sled) (fs : List SledEvent) : Decidable (StaysOn s fs) :=
  inferInstanceAs (Decidable (Guarded sledStep (fun s _ => s.mchSdo.state.Enabled) s fs))

lemma run_progress (hs : Tidy s) {fs : List SledEvent} (hon : StaysOn s fs)
    (h : run sledStep s fs = .ok t) : Progress s t := by
  induction fs generalizing s with
  | nil =>
    cases h
    exact .refl _
  | cons e fs ih =>
    obtain ⟨u, hu, h⟩ := run_cons_ok.mp h
    obtain ⟨htidy, hprogress⟩ := step_progress hs hu
    exact (hprogress hon.1).trans (ih htidy (hon.2 u hu) h)

end Steps

/-! ## How long a request waits -/

/-- The frames that have been handed to the device, apart from the commands to the network. -/
def Host.sdoFrames (s : Sled) : List CanMessage := s.intf.written.filter fun msg => msg.id != 0

/-- How many requests have been confirmed. -/
def Host.confirmations (s : Host c σ) : ℕ := s.trace.countP Obs.confirmed

/-- **A request does not wait for more than those before it.**  As long as the SDO machine is on,
each confirmation sends the next request of the queue, whatever else happens. -/
theorem bounded_waiting {mem : SledEnv} {now : ℚ} {o : CanOutcome} {es fs : List SledEvent}
    {s t : Sled} (h : sledRun mem now o es = .ok s) (hon : StaysOn s fs)
    (hrun : run sledStep s fs = .ok t) :
    s.sdoFrames ++ (s.mchSdo.sdoQueue.take (t.confirmations - s.confirmations)).map
      (fun r => r.toRequest.frame) <+: t.sdoFrames := by
  obtain ⟨os, hos, hserves, -⟩ := run_progress (tidy_run h) hon hrun
  obtain ⟨s₀, hcreate, hfirst⟩ := sledRun_ok.mp h
  have hspeaks := speaks_run hcreate hfirst
  have hspeaks' := speaks_run hcreate (run_append_ok.mpr ⟨s, hfirst, hrun⟩)
  have hcount : t.confirmations - s.confirmations = os.countP Obs.confirmed := by
    rw [Host.confirmations, Host.confirmations, hos, List.countP_append]
    omega
  rw [hcount, Host.sdoFrames, Host.sdoFrames, hspeaks.written, hspeaks'.written, ← List.map_append]
  exact hserves.leaves.map _

/-- The light is switched on while the configuration is uploaded, and the drive confirms the first
line of it. -/
def litEarly : List SledEvent :=
  .call (.lightSetState true) ::
    (netSetup.take 1).map fun x => frame (writeResponse x.index x.subindex)

lemma litEarly_runs :
    ∃ s t, sledRun someMemory 0 ⟨.success, true⟩ [frame (nmtReport 0x7F)] = .ok s ∧
      StaysOn s litEarly ∧ run sledStep s litEarly = .ok t ∧
      t.confirmations - s.confirmations = 1 ∧ instructed s litEarly = [.light true] := by
  obtain ⟨s, hs, hp⟩ := exists_of_okAnd (x := sledRun someMemory 0 ⟨.success, true⟩
      [frame (nmtReport 0x7F)])
    (p := fun s => decide (StaysOn s litEarly) &&
      (instructed s litEarly == [.light true] &&
        okAnd (fun t : Sled => t.confirmations - s.confirmations == 1) (run sledStep s litEarly)))
    (by decide +kernel)
  simp only [Bool.and_eq_true, decide_eq_true_eq, beq_iff_eq] at hp
  obtain ⟨hon, hinstructed, hrun⟩ := hp
  obtain ⟨t, ht, hcount⟩ := exists_of_okAnd hrun
  exact ⟨s, t, hs, hon, ht, by simpa using hcount, hinstructed⟩

theorem bounded_waiting_lit :
    ∃ s t, sledRun someMemory 0 ⟨.success, true⟩ [frame (nmtReport 0x7F)] = .ok s ∧
      run sledStep s litEarly = .ok t ∧ t.confirmations - s.confirmations = 1 ∧
      s.sdoFrames ++ (s.mchSdo.sdoQueue.take (t.confirmations - s.confirmations)).map
        (fun r => r.toRequest.frame) <+: t.sdoFrames := by
  obtain ⟨s, t, hs, hon, ht, hcount, -⟩ := litEarly_runs
  exact ⟨s, t, hs, ht, hcount, bounded_waiting hs hon ht⟩

/-! ## Confirmations -/

/-- What the functions that are registered for success need. -/
lemma Spoken.success {r : Request sledClient} (h : Spoken r) :
    r.writeCallback = none ∨ r.writeCallback = some .mchNetSdoWriteCallback ∨
      (r.writeCallback = some .onSuccessCallback ∧ ∃ i, r.data = some (.profile i)) := by
  cases h with
  | @setup l hl =>
    cases hfinal : l.final with
    | false => exact .inl (by simp [Setup.request, writeRequest, hfinal])
    | true => exact .inr (.inl (by simp [Setup.request, writeRequest, hfinal]))
  | field i f v => exact .inr (.inr ⟨rfl, i, rfl⟩)
  | controlWord | mode | light | task | load | save | fault => exact .inl rfl

/-- The drive confirms the outstanding request. -/
def Confirms (s : Sled) (e : SledEvent) : Prop :=
  ∃ r, s.mchSdo.sdoActive = some r ∧ e = frame (r.response .confirm)

section Confirmed

variable {s t : Sled} {r : Sdo sledClient}

lemma write_returns (ha : s.mchSdo.sdoActive = some r) (hw : r.isWrite = true)
    (hr : Spoken r.toRequest) :
    ∃ t, mchSdoWriteCallback sledCallbacks r.index r.subindex s = .ok t := by
  have hcall : ∃ u,
      sledCallbacks.write r r.index r.subindex (s.log (.answered r .write)) = .ok u := by
    unfold Callbacks.write
    obtain hnone | hupload | ⟨hfield, i, hi⟩ := hr.success
    · rw [hnone]
      exact ⟨_, rfl⟩
    · have hnet : ∀ t d, mchNetHandleEvent .uploadComplete t ≠ .error d :=
        mchNetHandleEvent_ne_error (by simp) (by simp)
      rw [hupload]
      cases hcall : sledCallbacks.onWrite .mchNetSdoWriteCallback r.data r.index r.subindex
          ((s.log (.answered r .write)).log
            (.called r.addr (.write .mchNetSdoWriteCallback r.data r.index r.subindex))) with
      | ok u => exact ⟨u, hcall⟩
      | error d => exact absurd hcall (hnet _ _)
    · rw [hfield, hi]
      exact ⟨_, rfl⟩
  obtain ⟨u, hu⟩ := hcall
  refine ⟨u.clearActive.proceed, ?_⟩
  unfold mchSdoWriteCallback
  simp only [ha, hw, beq_self_eq_true, assert_true, ok_bind, hu, mchSdoHandleEvent_writeResponse]

lemma read_returns (ha : s.mchSdo.sdoActive = some r) (hw : r.isWrite = false) (value : UInt32) :
    ∃ t, mchSdoReadCallback sledCallbacks r.index r.subindex value s = .ok t := by
  refine ⟨(s.log (.answered r (.read value))).clearActive.proceed, ?_⟩
  have hcall : sledCallbacks.read r r.index r.subindex value
      (s.log (.answered r (.read value))) = .ok (s.log (.answered r (.read value))) := by
    unfold Callbacks.read
    cases hf : r.readCallback with
    | none => rfl
    | some f => exact f.elim
  unfold mchSdoReadCallback
  simp only [ha, hw, Bool.not_false, beq_self_eq_true, assert_true, ok_bind, hcall,
    mchSdoHandleEvent_readResponse]

/-- The confirmation of the active request is taken without an assertion failing. -/
lemma sledStep_confirmation (h : Online s) (ha : s.mchSdo.sdoActive = some r)
    (hr : Spoken r.toRequest) :
    ∃ t, sledStep s (frame (r.response .confirm)) = .ok t ∧ Hears true t ∧
      ∃ u : Sled, u.mchSdo = s.mchSdo ∧ t = u.clearActive.proceed := by
  obtain ⟨hwrite, hread⟩ := h.hears.slots rfl r ha
  have hstep : sledStep s (frame (r.response .confirm)) =
      intfDispatchMsg 0 (r.response .confirm) s :=
    sledStep_response h.hears.readEvent (h.hears.fd rfl) _ _ _
  rw [hstep]
  cases hw : r.isWrite with
  | true =>
    obtain ⟨t, ht⟩ := write_returns ha hw hr
    obtain ⟨sdo, v, u, -, -, -, -, hv, hu, rfl⟩ := mchSdoWriteCallback_sled ht
    refine ⟨_, ?_, h.hears.write ht, u, Lost.write_mchSdo hv hu, rfl⟩
    rw [Sdo.response, if_pos hw, intfDispatchMsg_writeResponse, if_pos (hwrite.trans hw), ht]
  | false =>
    obtain ⟨v, hv⟩ := intfDispatchMsg_readResponse 0 r.index r.subindex 0 s 0
    obtain ⟨t, ht⟩ := read_returns ha hw v
    obtain ⟨sdo, -, -, -, -, rfl⟩ := mchSdoReadCallback_sled ht
    refine ⟨_, ?_, h.hears.inside ((Inside.refl s).log _).clearActive.proceed,
      s.log (.answered sdo (.read v)), rfl, rfl⟩
    rw [Sdo.response, if_neg (by simp [hw]), hv, if_pos (by rw [hread, hw]; rfl), ht]

/-- A machine that sends is online again after the confirmation: it sends the next request of its
queue, or waits. -/
lemma confirmation_next (h : Online s) (ht : Tidy s) {cs : List Instruction} (hs : Speaks cs s)
    (hsending : s.mchSdo.state = .sending) :
    ∃ e t, Confirms s e ∧ sledStep s e = .ok t ∧ Online t ∧
      ((t.mchSdo.state = .waiting ∧ s.mchSdo.sdoQueue = []) ∨
        (t.mchSdo.state = .sending ∧ s.mchSdo.sdoQueue.tail = t.mchSdo.sdoQueue ∧
          s.mchSdo.sdoQueue ≠ [])) := by
  obtain ⟨r, ha⟩ := ht.sending hsending
  have hspoken : Spoken r.toRequest := by
    refine hs.spoken _ (hs.issued.subset ?_)
    exact List.mem_map_of_mem (List.mem_append_left _ (ht.active r ha))
  obtain ⟨t, hstep, hhears, u, hu, rfl⟩ := sledStep_confirmation h ha hspoken
  refine ⟨_, _, ⟨r, ha, rfl⟩, hstep,
    ⟨h.coupled.step hstep, h.config.step h.coupled.linked hstep, hhears⟩, ?_⟩
  have hu' : u.clearActive.mchSdo.state = .sending := by rw [Host.clearActive_state, hu, hsending]
  have hqueue : (u.clearActive.setSdoState .waiting).mchSdo.sdoQueue = s.mchSdo.sdoQueue := by
    rw [Host.setSdoState_sdoQueue, Host.clearActive_sdoQueue, hu]
  rw [Host.proceed, if_pos hu']
  cases hq : s.mchSdo.sdoQueue with
  | nil =>
    rw [hq] at hqueue
    rw [Host.resume_nil hqueue]
    exact .inl ⟨rfl, rfl⟩
  | cons q rest =>
    rw [hq] at hqueue
    rw [Host.resume_cons_mchSdo hqueue]
    exact .inr ⟨rfl, rfl, List.cons_ne_nil _ _⟩

/-- Confirmations empty the queue. -/
lemma drains {cs : List Instruction} : ∀ {q : List (Sdo sledClient)} {s : Sled}, Online s → Tidy s →
    Speaks cs s → s.mchSdo.state = .sending → s.mchSdo.sdoQueue = q →
    ∃ gs u, Guarded sledStep Confirms s gs ∧ StaysOn s gs ∧ gs.length = q.length + 1 ∧
      instructed s gs = [] ∧ run sledStep s gs = .ok u ∧ u.mchSdo.state = .waiting := by
  intro q
  induction q with
  | nil =>
    intro s h ht hs hsending hq
    obtain ⟨e, t, he, hstep, -, ⟨hwaiting, -⟩ | ⟨-, -, hne⟩⟩ := confirmation_next h ht hs hsending
    · refine ⟨[e], t, ⟨he, fun _ _ => trivial⟩, ⟨.inr hsending, fun _ _ => trivial⟩, rfl, ?_,
        run_cons_ok.mpr ⟨t, hstep, rfl⟩, hwaiting⟩
      obtain ⟨r, -, rfl⟩ := he
      exact observed_singleton
    · exact absurd hq hne
  | cons r rest ih =>
    intro s h ht hs hsending hq
    obtain ⟨e, t, he, hstep, hnext, ⟨-, hnil⟩ | ⟨hsending', hrest, -⟩⟩ :=
      confirmation_next h ht hs hsending
    · rw [hnil] at hq
      cases hq
    · rw [hq, List.tail_cons] at hrest
      have hinstruction : e.instruction? s = none := by
        obtain ⟨r, -, rfl⟩ := he
        rfl
      have hs' := hs.step hstep
      rw [hinstruction, Option.toList_none, List.append_nil] at hs'
      obtain ⟨gs, u, hgs, hon, hlength, hnone, hrun, hu⟩ :=
        ih hnext (step_progress ht hstep).1 hs' hsending' hrest.symm
      have hstay : ∀ {ok : Sled → SledEvent → Prop}, ok s e → Guarded sledStep ok t gs →
          Guarded sledStep ok s (e :: gs) := by
        intro ok hok htail
        refine ⟨hok, fun v hv => ?_⟩
        rw [hstep] at hv
        cases hv
        exact htail
      refine ⟨e :: gs, u, hstay he hgs, hstay (.inr hsending) hon, ?_, ?_,
        run_cons_ok.mpr ⟨t, hstep, hrun⟩, hu⟩
      · rw [List.length_cons, List.length_cons, hlength]
      · rw [instructed, observed, hstep, hinstruction]
        exact hnone

end Confirmed

/-! ## What the drive is told -/

/-- The instructions among the frames that have been handed to the device. -/
def Host.told (s : Sled) : List Instruction := s.intf.written.filterMap CanMessage.instruction?

/-- The instructions that wait in the queue. -/
def Host.untold (s : Sled) : List Instruction :=
  s.mchSdo.sdoQueue.filterMap fun r => r.toRequest.frame.instruction?

section Told

variable {mem : SledEnv} {now : ℚ} {o : CanOutcome} {es fs : List SledEvent} {s t : Sled}

lemma Speaks.told_untold {cs : List Instruction} (h : Speaks cs s) :
    s.told ++ s.untold =
      (s.issued.map Sdo.toRequest).filterMap fun r => r.frame.instruction? := by
  rw [Host.told, h.written_instructions, Host.issued, List.map_append, List.filterMap_append,
    Host.untold, List.filterMap_map, List.filterMap_map]
  rfl

/-- While the SDO machine is on, every instruction is told or waits. -/
lemma told_untold (h : sledRun mem now o es = .ok s) (hon : StaysOn s fs)
    (hrun : run sledStep s fs = .ok t) :
    t.told ++ t.untold = s.told ++ s.untold ++ instructed s fs := by
  obtain ⟨os, hos, -, hissued⟩ := run_progress (tidy_run h) hon hrun
  obtain ⟨s₀, hcreate, hfirst⟩ := sledRun_ok.mp h
  have hspeaks := speaks_run hcreate hfirst
  have hspeaks' := speaks_run hcreate (run_append_ok.mpr ⟨s, hfirst, hrun⟩)
  -- What has been queued since is what has been instructed since.
  have hnew : s.queuedRequests.filterMap (fun r => r.frame.instruction?) ++
      (os.filterMap Obs.queued?).filterMap (fun r => r.frame.instruction?) =
        instructed s₀ es ++ instructed s fs := by
    rw [← List.filterMap_append, ← Host.queuedRequests_of_trace hos, hspeaks'.instructions,
      instructed, observed_append, hfirst]
    rfl
  rw [hspeaks.instructions] at hnew
  rw [hspeaks'.told_untold, hspeaks.told_untold, hissued, List.filterMap_append,
    List.append_cancel_left hnew]

lemma untold_of_waiting (ht : Tidy t) (h : t.mchSdo.state = .waiting) : t.untold = [] := by
  rw [Host.untold, ht.waiting h]
  rfl

/-- **The drive is told everything.**  As long as the SDO machine is on, an instruction that has
been accepted is told to the drive or waits, in the order of the calls.  If the drive then confirms
what it is sent, no more often than requests are left, it has been told everything. -/
theorem instructions_reach_drive (h : sledRun mem now o es = .ok s) (hon : StaysOn s fs)
    (hrun : run sledStep s fs = .ok t) :
    t.told ++ t.untold = s.told ++ s.untold ++ instructed s fs ∧
      (t.mchSdo.state.Enabled → t.intf.readEvent = true →
        ∃ gs u, Guarded sledStep Confirms t gs ∧ gs.length ≤ t.mchSdo.sdoQueue.length + 1 ∧
          run sledStep t gs = .ok u ∧ u.told = s.told ++ s.untold ++ instructed s fs) := by
  have htold := told_untold h hon hrun
  refine ⟨htold, fun hstate hread => ?_⟩
  obtain ⟨s₀, hcreate, hfirst⟩ := sledRun_ok.mp h
  have hboth := run_append_ok.mpr ⟨s, hfirst, hrun⟩
  have ht : sledRun mem now o (es ++ fs) = .ok t := sledRun_ok.mpr ⟨s₀, hcreate, hboth⟩
  rw [← htold]
  obtain hwaiting | hsending := hstate
  · refine ⟨[], t, trivial, Nat.zero_le _, rfl, ?_⟩
    rw [untold_of_waiting (tidy_run ht) hwaiting, List.append_nil]
  · obtain ⟨b, hb⟩ := hears_run ht
    have honline : Online t := ⟨coupledInv_run ht, configInv_run ht, hread ▸ hb.readEvent ▸ hb⟩
    obtain ⟨gs, u, hgs, hstays, hlength, hnone, hconfirmed, hu⟩ :=
      drains honline (tidy_run ht) (speaks_run hcreate hboth) hsending rfl
    have hall : sledRun mem now o ((es ++ fs) ++ gs) = .ok u :=
      sledRun_ok.mpr ⟨s₀, hcreate, run_append_ok.mpr ⟨t, hboth, hconfirmed⟩⟩
    refine ⟨gs, u, hgs, hlength.le, hconfirmed, ?_⟩
    have hlast := told_untold ht hstays hconfirmed
    rwa [untold_of_waiting (tidy_run hall) hu, hnone, List.append_nil, List.append_nil] at hlast

end Told

theorem instructions_reach_drive_lit :
    ∃ s t, sledRun someMemory 0 ⟨.success, true⟩ [frame (nmtReport 0x7F)] = .ok s ∧
      run sledStep s litEarly = .ok t ∧ instructed s litEarly = [.light true] ∧
      t.told ++ t.untold = s.told ++ s.untold ++ instructed s litEarly ∧
      (t.mchSdo.state.Enabled → t.intf.readEvent = true →
        ∃ gs u, Guarded sledStep Confirms t gs ∧ gs.length ≤ t.mchSdo.sdoQueue.length + 1 ∧
          run sledStep t gs = .ok u ∧ u.told = s.told ++ s.untold ++ instructed s litEarly) := by
  obtain ⟨s, t, hs, hon, ht, -, hinstructed⟩ := litEarly_runs
  exact ⟨s, t, hs, ht, hinstructed, instructions_reach_drive hs hon ht⟩

end SledServer
