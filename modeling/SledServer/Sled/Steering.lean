import Mathlib.Data.List.Chain
import SledServer.Sled.Changes
import SledServer.Sled.Coupling

/-!
# What steers the drive

Three parts of the program write the control word: the drive machine when it brings the drive up,
the motion machine when it homes and when it acknowledges a set-point, and `sled_profile_execute`.
Apart from the reports of the drive, everything that happens to the sled moves these three by the
starting and stopping of the network and by the execution of a profile only (`Steers`).

Bit 4 of the control word starts a motion, or homing, when it changes from 0 to 1, so two start
commands with nothing between them are one.  `starts_separated` says that this does not happen.
-/

namespace SledServer

open SledServer.Core

/-! ## The control words -/

/-- The control word that the request writes, if it does. -/
def Request.word? (r : Request sledClient) : Option UInt32 :=
  if r.isWrite = true ∧ r.index = OB_CONTROL_WORD then some r.value else none

/-- The control words that have been queued, oldest first. -/
def Host.words (s : Sled) : List UInt32 := s.queuedRequests.filterMap Request.word?

namespace Host

variable {s t : Sled}

lemma words_of_queued (h : t.queuedRequests = s.queuedRequests) : t.words = s.words := by
  rw [words, words, h]

/-- Entries of the trace that queue nothing leave the control words alone. -/
lemma words_of_trace (os : List (Obs sledClient)) (h : t.trace = s.trace ++ os)
    (hos : ∀ o ∈ os, o.queued? = none) : t.words = s.words := by
  refine words_of_queued ?_
  rw [queuedRequests_of_trace h, List.filterMap_eq_nil_iff.mpr hos, List.append_nil]

@[simp] lemma words_pushAll (rs : List (Request sledClient)) :
    (s.pushAll rs).words = s.words ++ rs.filterMap Request.word? := by
  simp [words]

@[simp] lemma words_push (r : Request sledClient) :
    (s.push r).words = s.words ++ r.word?.toList := by
  cases hr : r.word? <;> simp [words, hr]

@[simp] lemma words_setMpState (st : MchMpState) : (s.setMpState st).words = s.words :=
  words_of_trace [.note (.mpState s.env.mchMp st)] rfl (by simp [Obs.queued?])

@[simp] lemma words_setDsState (st : MchDsState) : (s.setDsState st).words = s.words :=
  words_of_trace [.note (.dsState s.env.mchDs st)] rfl (by simp [Obs.queued?])

end Host

@[simp] lemma word?_controlWord (w : UInt16) : (controlWord w).word? = some w.toUInt32 := rfl

/-- A request for another object writes no control word. -/
lemma word?_of_index {r : Request sledClient} (h : r.index ≠ OB_CONTROL_WORD) : r.word? = none :=
  if_neg fun hr => h hr.2

@[simp] lemma word?_copyTask (src dst : ℤ) : (copyTask src dst).word? = none :=
  word?_of_index (show OB_COPY_MOTION_TASK ≠ OB_CONTROL_WORD by decide)

@[simp] lemma word?_fieldWrite (i : Fin MAX_PROFILES) (f : Field) (v : UInt32) :
    (fieldWrite i f v).word? = none := by
  refine word?_of_index (show f.index ≠ OB_CONTROL_WORD from ?_)
  cases f <;> decide

@[simp] lemma word?_motionTask (profile : ℤ) : (motionTask profile).word? = none :=
  word?_of_index (show OB_MOTION_TASK ≠ OB_CONTROL_WORD by decide)

@[simp] lemma word?_lightWrite (state : Bool) : (lightWrite state).word? = none := by
  cases state <;> decide

lemma word?_netRequests : ∀ r ∈ netRequests, r.word? = none := by decide

lemma word?_visitRequests (e : SledEnv) (i : Fin MAX_PROFILES) :
    ∀ r ∈ e.visitRequests i, r.word? = none := by
  intro r hr
  obtain ⟨src, dst, rfl⟩ | ⟨f, v, rfl⟩ := mem_visitRequests hr
  · simp
  · simp

/-! ## The transitions of the drive machine -/

/-- The transition of the drive machine that the entry of the trace records, if it does. -/
def Obs.dsLine? : Obs sledClient → Option (MchDsState × MchDsState)
  | .note (.dsState old new) => some (old, new)
  | _ => none

/-- The transitions that the drive machine has made, oldest first. -/
def Host.dsLines (s : Sled) : List (MchDsState × MchDsState) := s.trace.filterMap Obs.dsLine?

namespace Host

variable {s t : Sled}

lemma dsLines_of_trace (os : List (Obs sledClient)) (h : t.trace = s.trace ++ os)
    (hos : ∀ o ∈ os, o.dsLine? = none) : t.dsLines = s.dsLines := by
  rw [dsLines, h, List.filterMap_append, List.filterMap_eq_nil_iff.mpr hos, List.append_nil]
  rfl

lemma dsLines_resume : s.resume.dsLines = s.dsLines := by
  cases hq : s.mchSdo.sdoQueue with
  | nil => rw [resume_nil hq]
  | cons sdo rest => exact dsLines_of_trace _ (resume_cons_trace hq) (by simp [Obs.dsLine?])

lemma dsLines_push (r : Request sledClient) : (s.push r).dsLines = s.dsLines := by
  have henqueue : (s.enqueue r).dsLines = s.dsLines :=
    dsLines_of_trace [.queued (r.new s)] rfl (by simp [Obs.dsLine?])
  unfold push
  split
  · rw [dsLines_resume, henqueue]
  · exact henqueue

lemma dsLines_pushAll (rs : List (Request sledClient)) : (s.pushAll rs).dsLines = s.dsLines := by
  induction rs generalizing s with
  | nil => rfl
  | cons r rs ih => rw [pushAll_cons, ih, dsLines_push]

lemma dsLines_setSdoState (st : MchSdoState) : (s.setSdoState st).dsLines = s.dsLines :=
  dsLines_of_trace [.sdoState s.mchSdo.state st] rfl (by simp [Obs.dsLine?])

lemma dsLines_proceed : s.proceed.dsLines = s.dsLines := by
  unfold proceed
  split
  · rw [dsLines_resume, dsLines_setSdoState]
  · rfl

lemma dsLines_setMpState (st : MchMpState) : (s.setMpState st).dsLines = s.dsLines :=
  dsLines_of_trace [.note (.mpState s.env.mchMp st)] rfl (by simp [Obs.dsLine?])

lemma dsLines_mpMove (event : MchMpEvent) : (s.mpMove event).dsLines = s.dsLines := by
  unfold mpMove
  dsimp only
  split
  · rfl
  · rw [dsLines_pushAll, dsLines_setMpState, dsLines_pushAll]

lemma dsLines_launched (i : Fin MAX_PROFILES) : (s.launched i).dsLines = s.dsLines := by
  rw [launched, dsLines_setMpState, dsLines_push, dsLines_push]

end Host

/-! ## Steps that leave the machines alone -/

/-- Neither the drive machine nor the motion machine moves, and no control word is queued. -/
structure Steady (s t : Sled) : Prop where
  ds : t.env.mchDs = s.env.mchDs
  mp : t.env.mchMp = s.env.mchMp
  words : t.words = s.words
  lines : t.dsLines = s.dsLines

namespace Steady

variable {s t u : Sled}

lemma refl (s : Sled) : Steady s s := ⟨rfl, rfl, rfl, rfl⟩

lemma trans (h : Steady s t) (h' : Steady t u) : Steady s u :=
  ⟨h'.ds.trans h.ds, h'.mp.trans h.mp, h'.words.trans h.words, h'.lines.trans h.lines⟩

lemma of_trace (os : List (Obs sledClient)) (h : t.trace = s.trace ++ os)
    (hos : ∀ o ∈ os, o.queued? = none ∧ o.dsLine? = none) (hds : t.env.mchDs = s.env.mchDs)
    (hmp : t.env.mchMp = s.env.mchMp) : Steady s t :=
  ⟨hds, hmp, Host.words_of_trace os h fun o ho => (hos o ho).1,
    Host.dsLines_of_trace os h fun o ho => (hos o ho).2⟩

lemma pushAll (s : Sled) {rs : List (Request sledClient)} (h : ∀ r ∈ rs, r.word? = none) :
    Steady s (s.pushAll rs) := by
  refine ⟨by simp, by simp, ?_, Host.dsLines_pushAll rs⟩
  rw [Host.words_pushAll, List.filterMap_eq_nil_iff.mpr h, List.append_nil]

lemma clearActive (s : Sled) : Steady s s.clearActive := ⟨rfl, rfl, rfl, rfl⟩

lemma answered (s : Sled) (sdo : Sdo sledClient) (resp : Response) :
    Steady s (s.log (.answered sdo resp)) :=
  of_trace [.answered sdo resp] rfl (by simp [Obs.queued?, Obs.dsLine?]) rfl rfl

lemma called (s : Sled) (addr : ℕ) (call : Call sledClient) :
    Steady s (s.log (.called addr call)) :=
  of_trace [.called addr call] rfl (by simp [Obs.queued?, Obs.dsLine?]) rfl rfl

lemma setNetState (s : Sled) (st : MchNetState) : Steady s (s.setNetState st) :=
  of_trace [.note (.netState s.env.mchNet st)] rfl (by simp [Obs.queued?, Obs.dsLine?]) rfl rfl

lemma setIntfState (s : Sled) (st : MchIntfState) : Steady s (s.setIntfState st) :=
  of_trace [.note (.intfState s.env.mchIntf st)] rfl (by simp [Obs.queued?, Obs.dsLine?]) rfl rfl

lemma withIntf (s : Sled) (intf : Intf) : Steady s (s.withIntf intf) := ⟨rfl, rfl, rfl, rfl⟩

lemma setSdoState (s : Sled) (st : MchSdoState) : Steady s (s.setSdoState st) :=
  of_trace [.sdoState s.mchSdo.state st] rfl (by simp [Obs.queued?, Obs.dsLine?]) rfl rfl

lemma disable (s : Sled) : Steady s s.disable := by
  unfold Host.disable
  split
  · exact setSdoState s _
  · exact refl s

lemma fail (s : Sled) : Steady s s.fail := by
  unfold Host.fail
  split
  · exact setSdoState s _
  · exact refl s

lemma proceed (s : Sled) : Steady s s.proceed :=
  ⟨by simp, by simp, Host.words_of_queued Host.queuedRequests_proceed, Host.dsLines_proceed⟩

lemma sdoOn (h : SdoOn s t) : Steady s t := by
  cases h with
  | already => exact refl s
  | opened =>
    exact of_trace [.sdoState s.mchSdo.state .waiting] rfl
      (by simp [Obs.queued?, Obs.dsLine?]) rfl rfl

lemma setProfiles (s : Sled) (f : Fin MAX_PROFILES → SledProfile) : Steady s (s.setProfiles f) :=
  ⟨rfl, rfl, rfl, rfl⟩

lemma sendNmt (s : Sled) (command : UInt8) : Steady s (s.sendNmt command) := ⟨rfl, rfl, rfl, rfl⟩

lemma visit (s : Sled) (i : Fin MAX_PROFILES) : Steady s (s.visit i) := by
  have hpush := pushAll s (word?_visitRequests s.env i)
  exact ⟨rfl, rfl, hpush.words, hpush.lines⟩

end Steady

/-! ## Steps that are not reports of the drive -/

/-- The event comes from the network machine. -/
def MchDsEvent.OfNet (event : MchDsEvent) : Prop :=
  event = .netOperational ∨ event = .netInoperational

/-- The network starts and stops the drive machine, and profiles are executed. -/
inductive Steers (s : Sled) : Sled → Prop
  | refl : Steers s s
  | steady {t u : Sled} (h : Steers s t) (hsame : Steady t u) : Steers s u
  | ds {t : Sled} {event : MchDsEvent} (h : Steers s t) (he : event.OfNet) :
      Steers s (t.dsMove event)
  | launch {t : Sled} {i : Fin MAX_PROFILES} (h : Steers s t) (hidle : t.env.mchMp = .ppIdle) :
      Steers s (t.launched i)

namespace Steers

variable {s t u : Sled}

lemma of_steady (h : Steady s t) : Steers s t := .steady .refl h

lemma netLeave (h : Steers s t) : Steers s t.netLeave := by
  unfold Host.netLeave
  split
  · exact .ds h (.inr rfl)
  · exact h

lemma netEnter (h : Steers s t) (hu : NetEnter t u) : Steers s u := by
  cases hu with
  | disabled => exact .steady h (.disable t)
  | unknown => exact .steady h ((Steady.disable t).trans (.sendNmt _ _))
  | stopped => exact .steady h ((Steady.disable t).trans (.sendNmt _ _))
  | startremotenode => exact .steady h (.sendNmt t _)
  | enterpreoperational => exact .steady h (.sendNmt t _)
  | uploadconfig => exact .steady h (.pushAll t word?_netRequests)
  | operational _ hon =>
    exact .ds (.steady h ((Steady.sdoOn hon).trans (.setProfiles _ _))) (.inl rfl)
  | preoperational _ hon =>
    exact .steady h ((Steady.sdoOn hon).trans (.pushAll _ word?_netRequests))

lemma netEvent (h : Steers s t) {event : MchNetEvent} (hu : mchNetHandleEvent event t = .ok u) :
    Steers s u := by
  obtain ⟨-, rfl⟩ | ⟨-, henter⟩ := mchNetHandleEvent_ok hu
  · exact h
  · exact (Steers.steady h.netLeave (.setNetState _ _)).netEnter henter

lemma close (h : Steers s t) {o : CanOutcome} (hu : intfCloseSled o t = .ok u) : Steers s u := by
  obtain ⟨intf, rfl, -⟩ | ⟨-, intf, -, hnet⟩ := intfCloseSled_ok hu
  · exact .steady h (.withIntf t intf)
  · refine Steers.netEvent (.steady h ?_) hnet
    exact ((Steady.setIntfState _ _).trans (.withIntf _ _)).trans (.setIntfState _ _)

lemma writeEffect (h : Steers s t) {sdo : Sdo sledClient} (hu : WriteEffect t sdo u) :
    Steers s u := by
  cases hu with
  | silent => exact h
  | lateUpload => exact h
  | field => exact .steady h (.setProfiles _ _)
  | upload => exact .steady h ((Steady.setNetState t _).trans (.sendNmt _ _))

/-- Calls execute profiles at most. -/
lemma kept (s : Sled) : KeptByCalls (Steers s) where
  edit t f _ h := .steady h (.setProfiles t f)
  visit t i h := .steady h (.visit t i)
  launch t i hidle h := .launch h hidle
  light t state h := by
    have hlight : ∀ r ∈ [lightWrite state], r.word? = none := by simp
    exact .steady h (.pushAll t hlight)

lemma call {c : SledCall} {r : ℤ × Sled} (hr : sledCall s c = .ok r) : Steers s r.2 :=
  (kept s).call .refl hr

end Steers

/-- A report of the drive is handed to the two machines. -/
lemma sledStep_of_report {s : Sled} {e : SledEvent} {status : UInt16} {mode : UInt8}
    (h : e.report? s = some (status, mode)) : sledStep s e = .ok (s.tpdo status mode) := by
  unfold SledEvent.report? at h
  split at h
  case h_2 => cases h
  case h_1 o now msg st =>
    split at h
    case isFalse => cases h
    case isTrue hmsg =>
      simp only [Bool.and_eq_true, beq_iff_eq] at hmsg
      obtain ⟨⟨⟨hread, hfd⟩, htype⟩, hfunction⟩ := hmsg
      cases h
      simp only [sledStep, hread, if_true, intfOnRead, hfd, Bool.not_true, Bool.false_eq_true,
        if_false, htype, ne_eq, not_true_eq_false, intfDispatchMsg, hfunction, true_or]
      exact intfOnTpdo_one now msg.data s

/-- Whatever is not a report of the drive moves the machines through the network and through the
execution of profiles only. -/
lemma steers_of_unreported {s s' : Sled} {e : SledEvent} (hnone : e.report? s = none)
    (h : sledStep s e = .ok s') : Steers s s' := by
  cases sledStep_effect h with
  | skip => exact .refl
  | @report s' now pdo data he ht =>
    have hpdo : pdo ≠ 1 := by
      intro hone
      rw [he hone] at hnone
      cases hnone
    unfold intfOnTpdo at ht
    rw [if_neg hpdo] at ht
    split at ht
    · cases ht
      exact .of_steady ⟨rfl, rfl, rfl, rfl⟩
    · cases ht
      exact .refl
  | watchdog ht => exact Steers.refl.netEvent ht
  | @nmt t state now _ ht =>
    have hst : Steers s t := by
      obtain rfl | ⟨event, -, -, ht⟩ := raiseNmt_ok ht
      · exact .refl
      · exact Steers.refl.netEvent ht
    exact .steady hst ⟨rfl, rfl, rfl, rfl⟩
  | close hc => exact Steers.refl.close hc
  | write _ hw =>
    obtain ⟨sdo, t, u, -, -, -, -, ht, hu, rfl⟩ := mchSdoWriteCallback_sled hw
    have hst : Steers s t := by
      obtain rfl | ⟨call, rfl⟩ := ht
      · exact .of_steady (.answered s _ _)
      · exact .of_steady ((Steady.answered s _ _).trans (.called _ _ _))
    exact .steady (hst.writeEffect hu) ((Steady.clearActive u).trans (.proceed _))
  | read _ hr =>
    obtain ⟨sdo, -, -, -, -, rfl⟩ := mchSdoReadCallback_sled hr
    exact .of_steady (((Steady.answered s sdo _).trans (.clearActive _)).trans (.proceed _))
  | abort _ ha =>
    obtain ⟨sdo, -, -, -, -, rfl⟩ := mchSdoAbortCallback_sled ha
    exact .of_steady (((Steady.answered s sdo _).trans (.clearActive _)).trans (.fail _))
  | call _ hc => exact .call hc

/-! ## Control words of the two machines -/

/-- Bit 4 of the control word: a new set-point, or the start of homing. -/
def Starts (w : UInt32) : Prop := w &&& 0x10 ≠ 0

instance (w : UInt32) : Decidable (Starts w) := inferInstanceAs (Decidable (_ ≠ _))

/-- The control words that one event of the motion machine queues. -/
def mpWords (m : MchMpState) (event : MchMpEvent) : List UInt32 :=
  if m = mchMpNextStateGivenEvent m event then []
  else (m.exit ++ (mchMpNextStateGivenEvent m event).entry).filterMap Request.word?

lemma words_mpMove (s : Sled) (event : MchMpEvent) :
    (s.mpMove event).words = s.words ++ mpWords s.env.mchMp event := by
  unfold Host.mpMove mpWords
  dsimp only
  split
  · simp
  · simp [List.filterMap_append]

/-- The motion machine starts homing, takes a start back, or queues nothing. -/
lemma mpWords_cases (m : MchMpState) (event : MchMpEvent) :
    (mpWords m event = [] ∧
      (mchMpNextStateGivenEvent m event = m ∨ event = .dsInoperational ∨
        m ≠ .hhHoming ∧ m ≠ .ppSpNack ∧ (m = .disabled → event = .dsOperational))) ∨
    mpWords m event = [0x2F] ∨
    (mpWords m event = [0x3F] ∧ m = .hhUnknown ∧
      mchMpNextStateGivenEvent m event = .hhHoming) := by
  cases m <;> cases event <;> decide

lemma not_starts_of_all {ws : List UInt32} (h : ws.all (fun w => !decide (Starts w)) = true) :
    ∀ w ∈ ws, ¬ Starts w := by
  simpa using h

lemma not_starts_dsInoperational (m : MchMpState) :
    ∀ w ∈ mpWords m .dsInoperational, ¬ Starts w := by
  refine not_starts_of_all ?_
  cases m <;> decide

lemma mpWords_dsOperational (m : MchMpState) : mpWords m .dsOperational = [] := by
  cases m <;> decide

lemma not_starts_dsEntry (d : MchDsState) :
    ∀ w ∈ d.entry.filterMap Request.word?, ¬ Starts w := by
  refine not_starts_of_all ?_
  cases d <;> decide

/-- The drive machine starts nothing, and it clears bit 4 when it enables the drive. -/
lemma words_dsMove {s : Sled} {event : MchDsEvent}
    (hne : mchDsNextStateGivenEvent s.env.mchDs event ≠ s.env.mchDs) :
    ∃ ws, (s.dsMove event).words = s.words ++ ws ∧ (∀ w ∈ ws, ¬ Starts w) ∧
      (mchDsNextStateGivenEvent s.env.mchDs event = .enableOperation → ws ≠ []) := by
  have hleave : ∃ ws, s.dsLeave.words = s.words ++ ws ∧ ∀ w ∈ ws, ¬ Starts w := by
    unfold Host.dsLeave
    split
    · exact ⟨_, words_mpMove s _, not_starts_dsInoperational _⟩
    · exact ⟨[], by simp, by simp⟩
  have harrive : ∀ t : Sled, t.dsArrive.words = t.words := by
    intro t
    unfold Host.dsArrive
    split
    · rw [words_mpMove, mpWords_dsOperational, List.append_nil]
    · rfl
  obtain ⟨ws, hws, hclear⟩ := hleave
  generalize hnext : mchDsNextStateGivenEvent s.env.mchDs event = d at hne
  refine ⟨ws ++ d.entry.filterMap Request.word?, ?_, ?_, ?_⟩
  · simp only [Host.dsMove, hnext, if_neg (Ne.symm hne)]
    rw [harrive, Host.words_pushAll, Host.words_setDsState, hws, List.append_assoc]
  · intro w hw
    obtain hw | hw := List.mem_append.mp hw
    · exact hclear w hw
    · exact not_starts_dsEntry d w hw
  · rintro rfl
    simp [MchDsState.entry]

/-! ## Separated starts -/

/-- Between two control words that start something stands one that does not. -/
def Separated (ws : List UInt32) : Prop :=
  ∀ a x b y c, ws = a ++ x :: b ++ y :: c → Starts x → Starts y → ∃ z ∈ b, ¬ Starts z

/-- No two control words in a row start something. -/
def Alternates (ws : List UInt32) : Prop := ws.IsChain fun x y => ¬ (Starts x ∧ Starts y)

lemma Alternates.separated {ws : List UInt32} (h : Alternates ws) : Separated ws := by
  rintro a x b y c rfl hx hy
  rw [Alternates, List.append_assoc, List.cons_append, List.isChain_split] at h
  obtain ⟨-, h⟩ := h
  cases b with
  | nil => exact absurd ⟨hx, hy⟩ (List.isChain_cons_cons.mp h).1
  | cons z b =>
    have hz := (List.isChain_cons_cons.mp h).1
    exact ⟨z, List.mem_cons_self, fun hstarts => hz ⟨hx, hstarts⟩⟩

lemma alternates_of_clear {ws : List UInt32} (h : ∀ w ∈ ws, ¬ Starts w) : Alternates ws := by
  induction ws with
  | nil => exact .nil
  | cons w ws ih =>
    refine (List.isChain_cons.mpr ⟨fun y _ hwy => ?_,
      ih fun v hv => h v (List.mem_cons_of_mem w hv)⟩)
    exact h w List.mem_cons_self hwy.1

/-- The states in which the last control word may be one that started something: homing, a
set-point not yet acknowledged, or a drive that has not been enabled since. -/
def Armed (m : MchMpState) (d : MchDsState) : Prop :=
  m = .hhHoming ∨ m = .ppSpNack ∨ (m = .disabled ∧ d ≠ .enableOperation ∧ d ≠ .operationEnabled)

/-- The control words alternate, and the machines know what the last one was. -/
structure Spaced (s : Sled) : Prop where
  alternates : Alternates s.words
  last : ∀ w ∈ s.words.getLast?, Starts w → Armed s.env.mchMp s.env.mchDs
  mp_ds : s.env.mchMp ≠ .disabled ↔ s.env.mchDs = .operationEnabled

namespace Spaced

variable {s t : Sled}

/-- Control words that start nothing can always follow. -/
lemma clear (h : Spaced s) {ws : List UInt32} (hws : t.words = s.words ++ ws)
    (hclear : ∀ w ∈ ws, ¬ Starts w)
    (hmp : t.env.mchMp ≠ .disabled ↔ t.env.mchDs = .operationEnabled)
    (hstay : ws = [] → Armed s.env.mchMp s.env.mchDs → Armed t.env.mchMp t.env.mchDs) :
    Spaced t := by
  refine ⟨?_, fun w hw hstarts => ?_, hmp⟩
  · rw [hws]
    refine List.isChain_append.mpr ⟨h.alternates, alternates_of_clear hclear, ?_⟩
    rintro x - y hy ⟨-, hstarts⟩
    exact hclear y (List.mem_of_mem_head? hy) hstarts
  · rw [hws] at hw
    cases ws with
    | nil => exact hstay rfl (h.last w (by simpa using hw) hstarts)
    | cons v ws =>
      have hmem : w ∈ (v :: ws).getLast? := by
        rwa [List.getLast?_append_of_ne_nil _ (List.cons_ne_nil v ws)] at hw
      exact absurd hstarts (hclear w (List.mem_of_mem_getLast? hmem))

/-- A control word that starts something can follow where the last one did not. -/
lemma start (h : Spaced s) {w : UInt32} (hws : t.words = s.words ++ [w])
    (hnot : ¬ Armed s.env.mchMp s.env.mchDs) (harmed : Armed t.env.mchMp t.env.mchDs)
    (hmp : t.env.mchMp ≠ .disabled ↔ t.env.mchDs = .operationEnabled) : Spaced t := by
  refine ⟨?_, fun _ _ _ => harmed, hmp⟩
  rw [hws]
  refine List.isChain_append.mpr ⟨h.alternates, List.isChain_singleton w, ?_⟩
  rintro x hx y - ⟨hstarts, -⟩
  exact hnot (h.last x hx hstarts)

lemma of_steady (h : Spaced s) (hst : Steady s t) : Spaced t := by
  have hnil : t.words = s.words ++ [] := by simp [hst.words]
  refine h.clear hnil (by simp) ?_ fun _ => ?_
  · rw [hst.mp, hst.ds]
    exact h.mp_ds
  · rw [hst.mp, hst.ds]
    exact id

lemma mpMove (h : Spaced s) {event : MchMpEvent} (hop : event ≠ .dsOperational)
    (hin : event ≠ .dsInoperational) : Spaced (s.mpMove event) := by
  have hws := words_mpMove s event
  have hmp : (s.mpMove event).env.mchMp ≠ .disabled ↔
      (s.mpMove event).env.mchDs = .operationEnabled := by
    have hdisabled : mchMpNextStateGivenEvent s.env.mchMp event = .disabled ↔
        s.env.mchMp = .disabled := by
      generalize s.env.mchMp = m
      revert hop hin
      cases m <;> cases event <;> decide
    rw [mpMove_env]
    simp only [Ne, hdisabled]
    exact h.mp_ds
  obtain ⟨hnil, hfrom⟩ | hback | ⟨hstart, hunknown, hhoming⟩ := mpWords_cases s.env.mchMp event
  · rw [hnil] at hws
    refine h.clear hws (by simp) hmp fun _ harmed => ?_
    rw [mpMove_env]
    obtain hsame | hbad | ⟨hhh, hnack, hoff⟩ := hfrom
    · simpa only [hsame] using harmed
    · exact absurd hbad hin
    · obtain hm | hm | ⟨hm, -⟩ := harmed
      · exact absurd hm hhh
      · exact absurd hm hnack
      · exact absurd (hoff hm) hop
  · rw [hback] at hws
    exact h.clear hws (not_starts_of_all (by decide)) hmp (by simp)
  · rw [hstart] at hws
    refine h.start hws ?_ (.inl ?_) hmp
    · rw [hunknown]
      simp [Armed]
    · rw [mpMove_env]
      exact hhoming

lemma dsMove (h : Spaced s) (event : MchDsEvent) : Spaced (s.dsMove event) := by
  by_cases hne : mchDsNextStateGivenEvent s.env.mchDs event = s.env.mchDs
  · rwa [dsMove_of_stay hne]
  · obtain ⟨ws, hws, hclear, henable⟩ := words_dsMove hne
    have henv := dsMove_env_of_ne s event hne
    have hcoupled := mpAfter_coupled hne h.mp_ds
    refine h.clear hws hclear (by rwa [henv]) fun hnil harmed => ?_
    have hoff : mchDsNextStateGivenEvent s.env.mchDs event ≠ .enableOperation :=
      fun hon => henable hon hnil
    -- The drive is enabled by way of `enableOperation`, which is where bit 4 has been cleared.
    have hon : mchDsNextStateGivenEvent s.env.mchDs event ≠ .operationEnabled := by
      intro hon
      have hfrom : s.env.mchDs = .enableOperation := by
        revert hon hne
        cases s.env.mchDs <;> cases event <;> decide
      have hmp : s.env.mchMp = .disabled := by
        by_contra hmp
        have hds := h.mp_ds.mp hmp
        rw [hfrom] at hds
        cases hds
      obtain hm | hm | ⟨-, hm, -⟩ := harmed
      · rw [hmp] at hm
        cases hm
      · rw [hmp] at hm
        cases hm
      · exact hm hfrom
    rw [henv]
    refine .inr (.inr ⟨?_, hoff, hon⟩)
    by_contra hmp
    exact hon (hcoupled.mp hmp)

lemma launched (h : Spaced s) (i : Fin MAX_PROFILES) (hidle : s.env.mchMp = .ppIdle) :
    Spaced (s.launched i) := by
  have hds : s.env.mchDs = .operationEnabled := h.mp_ds.mp (by simp [hidle])
  refine h.start (w := 0x3F) ?_ (by simp [hidle, Armed]) (.inr (.inl rfl)) ?_
  · simp [Host.launched]
  · simp [Host.launched, Host.setMpState, hds]

lemma tpdo (h : Spaced s) (status : UInt16) (mode : UInt8) : Spaced (s.tpdo status mode) := by
  refine foldl_keeps (foldl_keeps h fun t event _ ht => ht.dsMove event) ?_
  intro t event he ht
  exact ht.mpMove (mpEvents_external status mode he).1 (mpEvents_external status mode he).2

lemma steers (h : Spaced s) (hst : Steers s t) : Spaced t := by
  induction hst with
  | refl => exact h
  | steady _ hsame ih => exact ih.of_steady hsame
  | ds _ _ ih => exact ih.dsMove _
  | launch _ hidle ih => exact ih.launched _ hidle

lemma step (h : Spaced s) {e : SledEvent} (hstep : sledStep s e = .ok t) : Spaced t := by
  cases hreport : e.report? s with
  | none => exact h.steers (steers_of_unreported hreport hstep)
  | some r =>
    obtain ⟨status, mode⟩ := r
    rw [sledStep_of_report hreport] at hstep
    cases hstep
    exact h.tpdo _ _

end Spaced

/-- The start moves the machines like any other event of the network. -/
lemma steers_sledCreate {mem : SledEnv} {now : ℚ} {o : CanOutcome} {s : Sled}
    (h : sledCreate mem now o = .ok s) : Steers (sledCreateProfiles (sledAlloc mem now)) s := by
  have hstores : Stores (fun _ => False) (sledAlloc mem now)
      (sledCreateProfiles (sledAlloc mem now)) := Stores.createProfiles (.refl _)
  have henv := hstores.env_rel SledEnv.SameModes.refl fun _ _ _ => .trans
  obtain ⟨intf, -, rfl | hopen⟩ := sledCreate_ok h henv.intf hstores.silent.2
  · exact .of_steady ((Steady.setIntfState _ _).trans (.withIntf _ _))
  · refine Steers.netEvent (.of_steady ?_) hopen
    exact ((Steady.setIntfState _ _).trans (.withIntf _ _)).trans (.setIntfState _ _)

lemma spaced_sledCreate {mem : SledEnv} {now : ℚ} {o : CanOutcome} {s : Sled}
    (h : sledCreate mem now o = .ok s) : Spaced s := by
  have hstores : Stores (fun _ => False) (sledAlloc mem now)
      (sledCreateProfiles (sledAlloc mem now)) := Stores.createProfiles (.refl _)
  have henv := hstores.env_rel SledEnv.SameModes.refl fun _ _ _ => .trans
  have hwords : (sledCreateProfiles (sledAlloc mem now)).words = [] := by
    refine hstores.invariant (I := fun t => t.words = []) rfl (fun _ _ hr => hr.elim)
      (fun _ _ _ ht => ht) fun t n _ ht => ?_
    exact (Host.words_of_trace [.note n] rfl (by simp [Obs.queued?])).trans ht
  refine Spaced.steers ⟨?_, ?_, ?_⟩ (steers_sledCreate h)
  · rw [hwords]
    exact .nil
  · simp [hwords]
  · rw [Ne, henv.mp, henv.ds]
    simp [sledAlloc, mchSdoCreate]

/-- **Start commands are separated by a reset.**  In everything that has been queued for the control
word, by whatever part of the program, a value with bit 4 clear stands between any two values with
bit 4 set. -/
theorem starts_separated {mem : SledEnv} {now : ℚ} {o : CanOutcome} {es : List SledEvent}
    {s : Sled} (h : sledRun mem now o es = .ok s) : Separated s.words := by
  obtain ⟨s₀, hcreate, hrun⟩ := sledRun_ok.mp h
  exact (run_invariant (fun _ _ _ hs hstep => hs.step hstep) (spaced_sledCreate hcreate)
    hrun).alternates.separated

/-- A profile is executed on a drive that has been brought up, and the drive reports a fault before
it has acknowledged the set-point. -/
theorem starts_separated_fault :
    ∃ s, sledRun someMemory 0 ⟨.success, true⟩
        (networkUp ++ driveUp ++ [.call (.profileExecute 0), frame (tpdo1 0x0008 0x01)]) = .ok s ∧
      s.words.getLast? = some 0x3F ∧ Separated s.words := by
  obtain ⟨s, hs, hlast⟩ := exists_of_okAnd (p := fun s : Sled => s.words.getLast? == some 0x3F)
    (x := sledRun someMemory 0 ⟨.success, true⟩
      (networkUp ++ driveUp ++ [.call (.profileExecute 0), frame (tpdo1 0x0008 0x01)]))
    (by decide +kernel)
  exact ⟨s, hs, by simpa using hlast, starts_separated hs⟩

end SledServer
