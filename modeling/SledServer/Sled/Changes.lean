import SledServer.Drive.Frames
import SledServer.Sled.Steps

/-!
# Changes of a profile on their way to the drive

A field of a profile is marked `FIELD_CHANGED` by the function that changes it, `FIELD_WRITING` when
its value is queued and `FIELD_WRITTEN` when the drive confirms it.  A field that is not marked as
changed should hold the value that was queued last (`Tracked`).

The confirmation carries the index of the field only, and sets `FIELD_WRITTEN` whatever the mark has
become in the meantime.  If the field was changed again after its value was queued, the new value is
lost: it is not queued by the next write.  `Current` leaves out just these confirmations, and
`no_change_lost_iff` says that nothing else loses a change.
-/

namespace SledServer

open SledServer.Core

variable {c : Client} {σ : Type}

/-! ## What has been queued -/

/-- The request that an entry of the trace puts in the queue. -/
def Obs.queued? : Obs c → Option (Request c)
  | .queued r => some r.toRequest
  | _ => none

namespace Host

/-- The requests that have been put in the queue, oldest first. -/
def queuedRequests (s : Host c σ) : List (Request c) := s.trace.filterMap Obs.queued?

variable {s t : Host c σ}

lemma queuedRequests_of_trace {os : List (Obs c)} (h : t.trace = s.trace ++ os) :
    t.queuedRequests = s.queuedRequests ++ os.filterMap Obs.queued? := by
  simp [queuedRequests, h]

lemma queuedRequests_log {o : Obs c} (h : o.queued? = none) :
    (s.log o).queuedRequests = s.queuedRequests := by
  simp [queuedRequests_of_trace (log_trace o s), h]

@[simp] lemma queuedRequests_setSdoState (st : MchSdoState) :
    (s.setSdoState st).queuedRequests = s.queuedRequests := by
  simp [queuedRequests_of_trace (setSdoState_trace st s), Obs.queued?]

@[simp] lemma queuedRequests_withEnv (e : σ) :
    (s.withEnv e).queuedRequests = s.queuedRequests := rfl

@[simp] lemma queuedRequests_clearActive : s.clearActive.queuedRequests = s.queuedRequests := rfl

@[simp] lemma queuedRequests_resume : s.resume.queuedRequests = s.queuedRequests := by
  cases hq : s.mchSdo.sdoQueue with
  | nil => rw [resume_nil hq]
  | cons r rs =>
    rw [queuedRequests_of_trace (resume_cons_trace hq)]
    exact List.append_nil _

@[simp] lemma queuedRequests_proceed : s.proceed.queuedRequests = s.queuedRequests := by
  unfold proceed
  split <;> simp

@[simp] lemma queuedRequests_push (r : Request c) :
    (s.push r).queuedRequests = s.queuedRequests ++ [r] := by
  have ht : (s.enqueue r).trace = s.trace ++ [.queued (r.new s)] := rfl
  have henq : (s.enqueue r).queuedRequests = s.queuedRequests ++ [r] :=
    queuedRequests_of_trace ht
  unfold push
  split
  · rw [queuedRequests_resume, henq]
  · exact henq

@[simp] lemma queuedRequests_pushAll (rs : List (Request c)) :
    (s.pushAll rs).queuedRequests = s.queuedRequests ++ rs := by
  induction rs generalizing s with
  | nil => simp
  | cons r rs ih =>
    rw [pushAll_cons, ih, queuedRequests_push, List.append_assoc, List.singleton_append]

end Host

/-- The value that a request writes to field `f` of profile `i`, if it does. -/
def Request.fieldValue? (i : Fin MAX_PROFILES) (f : Field) (r : Request sledClient) :
    Option UInt32 :=
  if r.isWrite ∧ r.index = f.index ∧ r.data = some (.profile i) then some r.value else none

/-- The value queued last for field `f` of profile `i`. -/
def Host.lastQueued (s : Sled) (i : Fin MAX_PROFILES) (f : Field) : Option UInt32 :=
  (s.queuedRequests.filterMap (Request.fieldValue? i f)).getLast?

/-- The value that a write of field `f` of profile `i` would compute from its present contents.
There is none if the next link leads out of the table. -/
def SledEnv.present? (e : SledEnv) (i : Fin MAX_PROFILES) (f : Field) : Option UInt32 :=
  if f = .fn ∧ (e.profiles i).nextProfile ≥ 0 ∧
      profileIndex? (e.profiles i).nextProfile = none then none
  else some (e.value i f)

/-- The value queued last is the present one. -/
def Host.UpToDate (s : Sled) (i : Fin MAX_PROFILES) (f : Field) : Prop :=
  ∃ v, s.lastQueued i f = some v ∧ s.env.present? i f = some v

/-- No change is lost: a field that is being written or has been written is up to date. -/
def NoneLost (s : Sled) : Prop :=
  ∀ i, (s.env.profiles i).inUse = true → ∀ f,
    (s.env.profiles i).fieldState f = .writing ∨ (s.env.profiles i).fieldState f = .written →
      s.UpToDate i f

/-! ## Setters, writes and confirmations -/

/-- What happens to profiles. -/
inductive ChangeEvent
  | setTable (profile table : ℤ)
  | setTarget (profile : ℤ) (type : PositionType) (position time : ℚ)
  | setNext (profile nextProfile : ℤ) (delay : ℚ) (blendType : BlendType)
  | writePendingChanges (profile : ℤ)
  /-- The drive confirms the request that is on its way. -/
  | confirm

/-- One step. -/
def changeStep (s : Sled) : ChangeEvent → Except Halt Sled
  | .setTable profile table => .ok (sledProfileSetTable profile table s).2
  | .setTarget profile type position time =>
    .ok (sledProfileSetTarget profile type position time s).2
  | .setNext profile nextProfile delay blendType =>
    .ok (sledProfileSetNext profile nextProfile delay blendType s).2
  | .writePendingChanges profile => do
    let r ← sledProfileWritePendingChanges profile s
    .ok r.2
  | .confirm =>
    match s.mchSdo.sdoActive with
    | none => .ok s
    | some r => mchSdoWriteCallback sledCallbacks r.index r.subindex s

/-- A confirmation does not find its field changed, unless back to the value queued last. -/
def Current (s : Sled) : ChangeEvent → Prop
  | .confirm => ∀ r i f, s.mchSdo.sdoActive = some r → r.isWrite = true →
      r.writeCallback = some .onSuccessCallback → r.data = some (.profile i) →
      Field.ofIndex? r.index = some f → (s.env.profiles i).inUse = true →
      (s.env.profiles i).fieldState f = .changed → s.UpToDate i f
  | _ => True

/-- The invariant. -/
def Tracked (s : Sled) : Prop :=
  ∀ i, (s.env.profiles i).inUse = true → ∀ f,
    (s.env.profiles i).fieldState f ≠ .changed → s.UpToDate i f

lemma Tracked.noneLost {s : Sled} (h : Tracked s) : NoneLost s := by
  intro i hi f hf
  refine h i hi f ?_
  rcases hf with hf | hf <;> simp [hf]

/-! ## Setters -/

/-- The present value of a field depends on the contents behind it and on the numbers of the
profiles. -/
lemma SledEnv.present?_congr {e e' : SledEnv} {i : Fin MAX_PROFILES} {f : Field}
    (hnum : ∀ j, (e'.profiles j).profile = (e.profiles j).profile)
    (hval : ∀ n, (e'.profiles i).value n f = (e.profiles i).value n f)
    (hnext : f = .fn → (e'.profiles i).nextProfile = (e.profiles i).nextProfile) :
    e'.present? i f = e.present? i f := by
  by_cases hf : f = .fn
  · have hn := hnext hf
    have hnumber : e'.nextNumber i = e.nextNumber i := by
      unfold SledEnv.nextNumber
      rw [hn]
      split
      · cases profileIndex? (e.profiles i).nextProfile with
        | none => rfl
        | some j => exact hnum j
      · rfl
    simp only [SledEnv.present?, SledEnv.value, hn, hnumber, hval]
  · have hconst : ∀ (p : SledProfile) (n m : ℤ), p.value n f = p.value m f := by
      intro p n m
      cases f <;> first | rfl | exact absurd rfl hf
    simp only [SledEnv.present?, SledEnv.value, hf, false_and, if_false]
    rw [hval, hconst _ _ (e.nextNumber i)]

lemma Tracked.modifyProfile {s : Sled} (h : Tracked s) (i : Fin MAX_PROFILES)
    {g : SledProfile → SledProfile} (hg : Marks (s.env.profiles i) (g (s.env.profiles i))) :
    Tracked (s.modifyProfile i g) := by
  have hnum : ∀ j, ((s.modifyProfile i g).env.profiles j).profile =
      (s.env.profiles j).profile := by
    intro j
    by_cases hj : j = i
    · subst hj
      simpa [Host.modifyProfile_eq] using hg.profile
    · simp [Host.modifyProfile_eq, hj]
  intro j huse f hst
  have hlast : (s.modifyProfile i g).lastQueued j f = s.lastQueued j f := rfl
  by_cases hj : j = i
  · subst hj
    have hpj : (s.modifyProfile j g).env.profiles j = g (s.env.profiles j) := by
      simp [Host.modifyProfile_eq]
    rw [hpj] at huse hst
    rcases hg.fields f with hc | ⟨hsame, hv, hn⟩
    · exact absurd hc hst
    · obtain ⟨v, hv₁, hv₂⟩ := h j (hg.inUse ▸ huse) f (hsame ▸ hst)
      refine ⟨v, hlast.trans hv₁, ?_⟩
      rw [SledEnv.present?_congr hnum (by rw [hpj]; exact hv) (by rw [hpj]; exact hn)]
      exact hv₂
  · have hpj : (s.modifyProfile i g).env.profiles j = s.env.profiles j := by
      simp [Host.modifyProfile_eq, hj]
    rw [hpj] at huse hst
    obtain ⟨v, hv₁, hv₂⟩ := h j huse f hst
    refine ⟨v, hlast.trans hv₁, ?_⟩
    rw [SledEnv.present?_congr hnum (by rw [hpj]; exact fun _ => rfl)
      (by rw [hpj]; exact fun _ => rfl)]
    exact hv₂

lemma Tracked.onProfile {s : Sled} (h : Tracked s) (id : ℤ) {g : SledProfile → SledProfile}
    (hg : ∀ p, Marks p (g p)) : Tracked (onProfile id g s).2 := by
  unfold SledServer.onProfile
  split
  · exact h
  · split
    · exact h
    · exact h.modifyProfile _ (hg _)

/-! ## Writes -/

section Writes

variable {s : Sled} (e : SledEnv) (i j : Fin MAX_PROFILES) (g : Field)

@[simp] lemma fieldValue?_copyTask (src dst : ℤ) :
    (copyTask src dst).fieldValue? j g = none := by
  simp [Request.fieldValue?, copyTask, plainWrite, writeRequest]

lemma fieldValue?_fieldWrite (f : Field) (v : UInt32) :
    (fieldWrite i f v).fieldValue? j g = if f = g ∧ i = j then some v else none := by
  simp [Request.fieldValue?, fieldWrite, writeRequest, Field.index_injective.eq_iff]

/-- A list of field writes writes a field once, if it is in the list. -/
lemma filterMap_fieldWrites (v : Field → UInt32) (fs : List Field) (hfs : fs.Nodup) :
    (fs.map fun f => fieldWrite i f (v f)).filterMap (Request.fieldValue? j g) =
      if i = j ∧ g ∈ fs then [v g] else [] := by
  induction fs with
  | nil => simp
  | cons f fs ih =>
    obtain ⟨hf, hfs⟩ := List.nodup_cons.mp hfs
    rw [List.map_cons, List.filterMap_cons, fieldValue?_fieldWrite, ih hfs]
    by_cases hfg : f = g
    · subst hfg
      by_cases hij : i = j <;> simp [hij, hf]
    · have hgf : ¬ g = f := fun h => hfg h.symm
      simp [hfg, hgf]

/-- The field writes of a visit: the changed fields of the profile, with their values. -/
lemma filterMap_visitRequests :
    (e.visitRequests i).filterMap (Request.fieldValue? j g) =
      if i = j ∧ (e.profiles i).fieldState g = .changed then [e.value i g] else [] := by
  have hnodup : (e.changedFields i).Nodup := Field.nodup_all.filter _
  have hload : (if e.loads i then [copyTask (e.profiles i).profile 0] else []).filterMap
      (Request.fieldValue? j g) = [] := by
    split <;> simp
  rw [SledEnv.visitRequests, List.filterMap_append, List.filterMap_append, hload,
    filterMap_fieldWrites i j g (e.value i) _ hnodup]
  simp [SledEnv.changedFields, Field.mem_all]

lemma lastQueued_visit :
    (s.visit i).lastQueued j g =
      if i = j ∧ (s.env.profiles i).fieldState g = .changed then some (s.env.value i g)
      else s.lastQueued j g := by
  have hq : (s.visit i).queuedRequests = s.queuedRequests ++ s.env.visitRequests i := by
    simp [Host.visit]
  unfold Host.lastQueued
  rw [hq, List.filterMap_append, filterMap_visitRequests]
  split <;> simp

/-- A visit changes nothing that a value depends on. -/
lemma present?_visit (e : SledEnv) : (e.visit i).present? j g = e.present? j g := by
  exact SledEnv.present?_congr (fun k => (visit_profile_contents e i k).1)
    (fun n => (visit_profile_contents e i j).2.2.2 n g)
    fun _ => (visit_profile_contents e i j).2.1

lemma Tracked.visit (h : Tracked s)
    (hlink : (s.env.profiles i).nextProfile ≥ 0 →
      profileIndex? (s.env.profiles i).nextProfile ≠ none) : Tracked (s.visit i) := by
  intro j huse f hst
  have hpresent : (s.visit i).env.present? j f = s.env.present? j f := present?_visit i j f s.env
  unfold Host.UpToDate
  rw [lastQueued_visit, hpresent]
  by_cases hj : i = j
  · subst hj
    by_cases hc : (s.env.profiles i).fieldState f = .changed
    · refine ⟨s.env.value i f, by simp [hc], ?_⟩
      rw [SledEnv.present?, if_neg]
      rintro ⟨-, hn, hnone⟩
      exact hlink hn hnone
    · have huse' : (s.env.profiles i).inUse = true := by
        simpa [Host.visit, SledEnv.visit, SledProfile.queued] using huse
      rw [if_neg (by simp [hc])]
      exact h i huse' f hc
  · have hsame : (s.visit i).env.profiles j = s.env.profiles j := by
      simp [Host.visit, SledEnv.visit, Ne.symm hj]
    rw [hsame] at huse hst
    rw [if_neg (by simp [hj])]
    exact h j huse f hst

lemma Tracked.visits {is : List (Fin MAX_PROFILES)} (h : Tracked s)
    (hlink : ∀ i ∈ is, (s.env.profiles i).nextProfile ≥ 0 →
      profileIndex? (s.env.profiles i).nextProfile ≠ none) :
    Tracked (is.foldl Host.visit s) := by
  induction is generalizing s with
  | nil => exact h
  | cons i is ih =>
    refine ih (h.visit i (hlink i List.mem_cons_self)) fun j hj => ?_
    have hnext : ((s.visit i).env.profiles j).nextProfile = (s.env.profiles j).nextProfile := by
      by_cases hji : j = i
      · subst hji
        simp [Host.visit, SledEnv.visit, SledProfile.queued]
      · simp [Host.visit, SledEnv.visit, hji]
    rw [hnext]
    exact hlink j (List.mem_cons_of_mem _ hj)

end Writes

/-! ## Confirmations -/

section Confirmations

variable {s s' t : Sled}

/-- The invariant looks at the profile table and at what has been queued only. -/
lemma Tracked.of_eq (h : Tracked s) (hp : t.env.profiles = s.env.profiles)
    (hq : t.queuedRequests = s.queuedRequests) : Tracked t := by
  intro i huse f hst
  rw [hp] at huse hst
  obtain ⟨v, hv, hv'⟩ := h i huse f hst
  refine ⟨v, by rw [Host.lastQueued, hq]; exact hv, ?_⟩
  rw [SledEnv.present?_congr (e := s.env) (by simp [hp]) (by simp [hp]) (by simp [hp])]
  exact hv'

/-- Marking a field as written does not change what it holds. -/
lemma upToDate_setFieldState (i j : Fin MAX_PROFILES) (f g : Field) (st : FieldState) :
    (s.modifyProfile i (·.setField f st)).UpToDate j g ↔ s.UpToDate j g := by
  have hpresent : (s.modifyProfile i (·.setField f st)).env.present? j g = s.env.present? j g := by
    have hprof : ∀ k, ((s.modifyProfile i (·.setField f st)).env.profiles k).profile =
          (s.env.profiles k).profile ∧
        ((s.modifyProfile i (·.setField f st)).env.profiles k).nextProfile =
          (s.env.profiles k).nextProfile ∧
        ∀ n, ((s.modifyProfile i (·.setField f st)).env.profiles k).value n g =
          (s.env.profiles k).value n g := by
      intro k
      by_cases hk : k = i
      · subst hk
        refine ⟨by simp [Host.modifyProfile_eq, SledProfile.setField],
          by simp [Host.modifyProfile_eq, SledProfile.setField], fun n => ?_⟩
        cases g <;> simp [Host.modifyProfile_eq, SledProfile.setField, SledProfile.value,
          sledProfileGetControlword]
      · simp [Host.modifyProfile_eq, hk]
    exact SledEnv.present?_congr (fun k => (hprof k).1) (hprof j).2.2 fun _ => (hprof j).2.1
  unfold Host.UpToDate
  rw [hpresent]
  rfl

/-- Marking a field that is up to date. -/
lemma Tracked.setField (h : Tracked s) (i : Fin MAX_PROFILES) (f : Field)
    (hf : (s.env.profiles i).inUse = true → (s.env.profiles i).fieldState f = .changed →
      s.UpToDate i f) : Tracked (s.modifyProfile i (·.setField f .written)) := by
  intro j huse g hst
  rw [upToDate_setFieldState]
  by_cases hj : j = i
  · subst hj
    have hpj : (s.modifyProfile j (·.setField f .written)).env.profiles j =
        (s.env.profiles j).setField f .written := by simp [Host.modifyProfile_eq]
    rw [hpj] at huse hst
    by_cases hc : (s.env.profiles j).fieldState g = .changed
    · by_cases hg : g = f
      · subst hg
        exact hf huse hc
      · exact absurd (by simpa [SledProfile.setField, hg] using hc) hst
    · exact h j huse g hc
  · have hpj : (s.modifyProfile i (·.setField f .written)).env.profiles j =
        s.env.profiles j := by simp [Host.modifyProfile_eq, hj]
    rw [hpj] at huse hst
    exact h j huse g hst

lemma Tracked.confirm {r : Sdo sledClient} (h : Tracked s) (ha : s.mchSdo.sdoActive = some r)
    (hok : Current s .confirm)
    (hr : mchSdoWriteCallback sledCallbacks r.index r.subindex s = .ok s') : Tracked s' := by
  obtain ⟨sdo, t, u, ha', hw, -, -, ht, hu, rfl⟩ := mchSdoWriteCallback_sled hr
  obtain rfl : sdo = r := by simpa [ha] using ha'.symm
  obtain ⟨henv, hq⟩ : t.env = s.env ∧ t.queuedRequests = s.queuedRequests := by
    rcases ht with rfl | ⟨call, rfl⟩
    · exact ⟨rfl, Host.queuedRequests_log rfl⟩
    · exact ⟨rfl, (Host.queuedRequests_log rfl).trans (Host.queuedRequests_log rfl)⟩
  have htracked : Tracked t := h.of_eq (by rw [henv]) hq
  have hut : Tracked u := by
    cases hu with
    | silent | lateUpload => exact htracked
    | upload =>
      have htrace : ((t.setNetState .startremotenode).sendNmt NMT_STARTREMOTENODE).trace =
        t.trace ++ [.note (.netState t.env.mchNet .startremotenode)] := rfl
      refine htracked.of_eq rfl ?_
      simp [Host.queuedRequests_of_trace htrace, Obs.queued?]
    | @field i hf hd =>
      unfold sledProfileSetFieldState
      cases hidx : Field.ofIndex? sdo.index with
      | none => exact htracked.modifyProfile i (.refl _)
      | some f =>
        refine htracked.setField i f fun huse hc => ?_
        rw [henv] at huse hc
        obtain ⟨v, hv, hv'⟩ := hok sdo i f ha hw hf hd hidx huse hc
        exact ⟨v, by rw [Host.lastQueued, hq]; exact hv, by rw [henv]; exact hv'⟩
  exact hut.of_eq (by simp) (by simp)

/-- A confirmation that finds its field changed marks it as written all the same. -/
lemma confirm_changed {r : Sdo sledClient} {i : Fin MAX_PROFILES} {f : Field}
    (ha : s.mchSdo.sdoActive = some r) (hw : r.isWrite = true)
    (hf : r.writeCallback = some .onSuccessCallback) (hd : r.data = some (.profile i))
    (hidx : Field.ofIndex? r.index = some f) :
    ∃ t, mchSdoWriteCallback sledCallbacks r.index r.subindex s = .ok t ∧
      t.env.profiles = Function.update s.env.profiles i
        ((s.env.profiles i).setField f .written) ∧
      (∀ j g, t.UpToDate j g ↔ s.UpToDate j g) := by
  have hset : sledProfileSetFieldState r.index .written = (·.setField f .written) := by
    funext p
    simp [sledProfileSetFieldState, hidx]
  let u : Sled := (s.log (.answered r .write)).log
    (.called r.addr (.write SledWriteFn.onSuccessCallback r.data r.index r.subindex))
  refine ⟨(u.modifyProfile i (·.setField f .written)).clearActive.proceed, ?_, ?_, ?_⟩
  · unfold mchSdoWriteCallback
    simp only [ha, hw, beq_self_eq_true, assert_true, ok_bind, mchSdoHandleEvent_writeResponse]
    rw [Callbacks.write, hf]
    simp only [sledCallbacks, sledOnWrite, onSuccessCallback, hd, hset, ok_bind, u]
  · simp [Host.modifyProfile_eq, u]
  · intro j g
    have hq : ((u.modifyProfile i (·.setField f .written)).clearActive.proceed).queuedRequests =
        (u.modifyProfile i (·.setField f .written)).queuedRequests := by simp
    have hlog : u.queuedRequests = s.queuedRequests :=
      (Host.queuedRequests_log rfl).trans (Host.queuedRequests_log rfl)
    have hmod := upToDate_setFieldState (s := u) i j f g .written
    have hus : u.UpToDate j g ↔ s.UpToDate j g := by
      unfold Host.UpToDate Host.lastQueued
      rw [hlog]
      rfl
    rw [← hus, ← hmod]
    unfold Host.UpToDate Host.lastQueued
    rw [hq]
    simp

end Confirmations

/-! ## Runs -/

lemma Tracked.step {s s' : Sled} {e : ChangeEvent} (h : Tracked s) (hok : Current s e)
    (hr : changeStep s e = .ok s') : Tracked s' := by
  cases e with
  | setTable profile table => cases hr; exact h.onProfile _ fun p => .setTable p _
  | setTarget => cases hr; exact h.onProfile _ fun p => .setTarget p _ _ _
  | setNext => cases hr; exact h.onProfile _ fun p => .setNext p _ _ _
  | writePendingChanges profile =>
    obtain ⟨r, hw, hr⟩ := bind_eq_ok.mp hr
    cases hr
    obtain ⟨is, his, rfl⟩ := sledProfileWritePendingChanges_ok hw
    exact h.visits (visitOrder_of_writeOrder his).links
  | confirm =>
    simp only [changeStep] at hr
    split at hr
    · cases hr; exact h
    · next r ha => exact h.confirm ha hok hr

/-- A confirmation of a field that has been changed loses the change. -/
lemma not_noneLost_of_not_current {s : Sled} {e : ChangeEvent} (h : ¬ Current s e) :
    ∃ s', changeStep s e = .ok s' ∧ ¬ NoneLost s' := by
  cases e with
  | confirm =>
    simp only [Current, not_forall] at h
    obtain ⟨r, i, f, ha, hw, hf, hd, hidx, huse, -, hstale⟩ := h
    obtain ⟨t, ht, hprof, hup⟩ := confirm_changed ha hw hf hd hidx
    refine ⟨t, by simp only [changeStep, ha]; exact ht, fun hnone => hstale ?_⟩
    rw [← hup]
    refine hnone i ?_ f (.inr ?_)
    · simpa [hprof, SledProfile.setField] using huse
    · simp [hprof, SledProfile.setField]
  | setTable | setTarget | setNext | writePendingChanges => exact absurd trivial h

/-- Every field of every profile waits to be queued, as it does after `sled_create` and
`sled_profiles_reset`. -/
def Unqueued (s : Sled) : Prop :=
  ∀ i, (s.env.profiles i).inUse = true → ∀ f, (s.env.profiles i).fieldState f = .changed

instance (s : Sled) : Decidable (Unqueued s) := inferInstanceAs (Decidable (∀ _, _ → ∀ _, _))

/-- **No change is lost, except by a confirmation that comes after the next change.**  Start with
profiles that have not been queued yet.  A run of setters, writes and confirmations keeps every
field that is being written or has been written up to date, in all the states it reaches, exactly
when no confirmation finds its field changed to a value other than the one queued last. -/
theorem no_change_lost_iff {s : Sled} (h : Unqueued s) (es : List ChangeEvent) :
    (∀ pre, pre <+: es → ∀ t, run changeStep s pre = .ok t → NoneLost t) ↔
      Guarded changeStep Current s es := by
  have hstart : Tracked s := fun i huse f hst => absurd (h i huse f) hst
  constructor
  · exact guarded_of_forall_reached (fun s e s' hs hok hr => hs.step hok hr)
      (fun s e _ hbad => not_noneLost_of_not_current hbad) hstart
  · intro hg pre hpre t ht
    exact (Guarded.invariant (fun s e s' hs hok hr => hs.step hok hr) hstart
      (hg.of_isPrefix hpre) ht).noneLost

instance (s : Sled) (i : Fin MAX_PROFILES) (f : Field) : Decidable (s.UpToDate i f) :=
  decidable_of_iff (∃ v ∈ s.lastQueued i f, s.env.present? i f = some v) Iff.rfl

instance (s : Sled) (e : ChangeEvent) : Decidable (Current s e) :=
  match e with
  | .confirm =>
    decidable_of_iff (∀ r ∈ s.mchSdo.sdoActive, r.isWrite = true →
      r.writeCallback = some .onSuccessCallback → ∀ i, r.data = some (.profile i) →
        ∀ f, Field.ofIndex? r.index = some f → (s.env.profiles i).inUse = true →
          (s.env.profiles i).fieldState f = .changed → s.UpToDate i f)
      ⟨fun h r i f hr hw hf hd => h r hr hw hf i hd f,
        fun h r hr hw hf i hd f => h r i f hr hw hf hd⟩
  | .setTable _ _ | .setTarget _ _ _ _ | .setNext _ _ _ _ | .writePendingChanges _ => isTrue trivial

/-- A profile and its next one are written.  The target of the first one is changed when its
position has been confirmed, and written again when everything has. -/
def changedWhenConfirmed : List ChangeEvent :=
  .writePendingChanges 0 :: .confirm :: .setTarget 0 .posAbsolute (1 / 10) 1 ::
    (List.replicate 17 .confirm ++ [.writePendingChanges 0, .confirm])

/-- The new position is on its way in the end. -/
theorem no_change_lost_confirmed :
    ∃ s t, sledRun someMemory 0 ⟨.success, true⟩ (networkUp ++ driveUp) = .ok s ∧
      Unqueued s ∧ run changeStep s changedWhenConfirmed = .ok t ∧
      (t.env.profiles 0).position = 1 / 10 ∧ t.lastQueued 0 .p = some 100000 ∧ NoneLost t := by
  obtain ⟨s, hs, h⟩ := exists_of_okAnd
    (p := fun s : Sled => decide (Unqueued s) &&
      decide (Guarded changeStep Current s changedWhenConfirmed) &&
      okAnd (fun t : Sled => (t.env.profiles 0).position == 1 / 10 &&
        (t.lastQueued 0 .p == some 100000)) (run changeStep s changedWhenConfirmed))
    (x := sledRun someMemory 0 ⟨.success, true⟩ (networkUp ++ driveUp)) (by decide +kernel)
  rw [Bool.and_eq_true, Bool.and_eq_true, decide_eq_true_eq, decide_eq_true_eq] at h
  obtain ⟨t, ht, hend⟩ := exists_of_okAnd h.2
  rw [Bool.and_eq_true, beq_iff_eq, beq_iff_eq] at hend
  refine ⟨s, t, hs, h.1.1, ht, hend.1, hend.2, ?_⟩
  exact (no_change_lost_iff h.1.1 changedWhenConfirmed).mpr h.1.2 _ (List.prefix_refl _) t ht

/-- The target of a profile is changed while its position is on its way.  The confirmation marks the
position as written, but what was queued is the old one. -/
theorem change_lost_on_late_confirmation :
    ∃ s t, sledRun someMemory 0 ⟨.success, true⟩ (networkUp ++ driveUp) = .ok s ∧ Unqueued s ∧
      run changeStep s [.writePendingChanges 0, .setTarget 0 .posAbsolute (1 / 10) 1, .confirm] =
        .ok t ∧
      (t.env.profiles 0).fieldState .p = .written ∧ t.lastQueued 0 .p = some 0 ∧
      t.env.present? 0 .p = some 100000 ∧ ¬ NoneLost t := by
  obtain ⟨s, hs, h⟩ := exists_of_okAnd
    (p := fun s : Sled => decide (Unqueued s) &&
      okAnd (fun t : Sled => (t.env.profiles 0).inUse &&
          ((t.env.profiles 0).fieldState .p == .written) && (t.lastQueued 0 .p == some 0) &&
          (t.env.present? 0 .p == some 100000))
        (run changeStep s
          [.writePendingChanges 0, .setTarget 0 .posAbsolute (1 / 10) 1, .confirm]))
    (x := sledRun someMemory 0 ⟨.success, true⟩ (networkUp ++ driveUp)) (by decide +kernel)
  rw [Bool.and_eq_true, decide_eq_true_eq] at h
  obtain ⟨t, ht, h'⟩ := exists_of_okAnd h.2
  simp only [Bool.and_eq_true, beq_iff_eq] at h'
  obtain ⟨⟨⟨huse, hst⟩, hlast⟩, hpresent⟩ := h'
  refine ⟨s, t, hs, h.1, ht, hst, hlast, hpresent, fun hnone => ?_⟩
  obtain ⟨v, hv, hv'⟩ := hnone 0 huse .p (.inr hst)
  rw [hlast] at hv
  rw [hpresent, ← hv] at hv'
  simp at hv'

end SledServer
