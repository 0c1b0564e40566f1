import SledServer.Drive.Plant
import SledServer.Sled.Changes

/-!
# The motion tasks of the drive

The drive keeps a table of motion tasks.  The host writes the fields of task 0 only, and copies
whole tasks: it loads the task of a profile into task 0, writes the changed fields there and copies
task 0 back.

`sled_profile_write_pending_changes` leaves out the first copy when `current_profile` says that
task 0 holds the profile already.  But a profile that is written for the first time goes through
task 0 without a word in `current_profile`.  `ScratchValid` says when task 0 holds what the host
takes it to hold; a series of visits then writes the changed fields of the visited profiles and
nothing else (`afterVisits_slot`).
-/

namespace SledServer

open SledServer.Core

/-- The motion tasks of the drive: the fields of each. -/
abbrev Tasks := ℕ → Field → UInt32

/-- What the drive does with a request to its motion tasks. -/
def Tasks.write (t : Tasks) (r : Request sledClient) : Tasks :=
  if r.isWrite then
    if r.index = OB_COPY_MOTION_TASK then
      Function.update t (r.value >>> 16).toNat (t (r.value &&& 0xFFFF).toNat)
    else
      match Field.ofIndex? r.index with
      | some f =>
          if r.subindex = 0x01 then Function.update t 0 (Function.update (t 0) f r.value) else t
      | none => t
  else t

/-- The drive: its motion tasks, and the one it was last told to execute. -/
structure Drive where
  tasks : Tasks
  motionTask : Option ℕ

/-- What the drive does with a request. -/
def Drive.apply (d : Drive) (r : Request sledClient) : Drive where
  tasks := d.tasks.write r
  motionTask :=
    if r.isWrite ∧ r.index = OB_MOTION_TASK then some r.value.toNat else d.motionTask

/-- The motion task of profile `i`. -/
def slot (i : Fin MAX_PROFILES) : ℕ := 201 + i

lemma slot_injective : Function.Injective slot := by
  intro i j h
  exact Fin.ext (Nat.add_left_cancel h)

lemma slot_ne_zero (i : Fin MAX_PROFILES) : slot i ≠ 0 := by
  unfold slot
  omega

/-- Every profile has its own motion task, above task 0. -/
def SledEnv.Numbered (e : SledEnv) : Prop := ∀ i, (e.profiles i).profile = (slot i : ℕ)

/-! ## One visit -/

section Visit

variable (t : Tasks) (e : SledEnv) (i j : Fin MAX_PROFILES)

lemma write_copyTask (src dst : ℤ) :
    t.write (copyTask src dst) = Function.update t (copyValue src dst >>> 16).toNat
      (t (copyValue src dst &&& 0xFFFF).toNat) := by
  simp [Tasks.write, copyTask, plainWrite, writeRequest]

lemma write_load : t.write (copyTask (slot i : ℕ) 0) = Function.update t 0 (t (slot i)) := by
  have hvalue : ∀ i : Fin MAX_PROFILES, ((copyValue (slot i : ℕ) 0) >>> 16).toNat = 0 ∧
      ((copyValue (slot i : ℕ) 0) &&& 0xFFFF).toNat = slot i := by decide +kernel
  rw [write_copyTask, (hvalue i).1, (hvalue i).2]

lemma write_store : t.write (copyTask 0 (slot i : ℕ)) = Function.update t (slot i) (t 0) := by
  have hvalue : ∀ i : Fin MAX_PROFILES, ((copyValue 0 (slot i : ℕ)) >>> 16).toNat = slot i ∧
      ((copyValue 0 (slot i : ℕ)) &&& 0xFFFF).toNat = 0 := by decide +kernel
  rw [write_copyTask, (hvalue i).1, (hvalue i).2]

lemma write_fieldWrite (f : Field) (v : UInt32) :
    t.write (fieldWrite i f v) = Function.update t 0 (Function.update (t 0) f v) := by
  have hindex : f.index ≠ OB_COPY_MOTION_TASK := by cases f <;> decide
  simp [Tasks.write, fieldWrite, writeRequest, hindex]

lemma write_fieldWrites (v : Field → UInt32) (fs : List Field) :
    (fs.map fun f => fieldWrite i f (v f)).foldl Tasks.write t =
      Function.update t 0 fun f => if f ∈ fs then v f else t 0 f := by
  induction fs generalizing t with
  | nil => simp
  | cons g fs ih =>
    rw [List.map_cons, List.foldl_cons, write_fieldWrite, ih, Function.update_idem]
    congr 1
    funext f
    rw [Function.update_self]
    by_cases hfs : f ∈ fs
    · simp [hfs]
    · by_cases hfg : f = g
      · subst hfg
        simp [hfs]
      · simp [hfs, hfg]

/-- What task 0 holds when it is copied back: the changed fields of the profile, on top of what was
there. -/
def Tasks.scratch : Field → UInt32 := fun f =>
  if (e.profiles i).fieldState f = .changed then e.value i f
  else if e.loads i then t (slot i) f else t 0 f

/-- The motion tasks after a visit. -/
def Tasks.visit : Tasks :=
  Function.update (Function.update t 0 (t.scratch e i)) (slot i) (t.scratch e i)

/-- What the drive makes of the requests of a visit. -/
lemma foldl_visitRequests (hnum : e.Numbered) :
    (e.visitRequests i).foldl Tasks.write t = t.visit e i := by
  have hload : (if e.loads i then [copyTask (e.profiles i).profile 0] else []).foldl Tasks.write t =
      Function.update t 0 (if e.loads i then t (slot i) else t 0) := by
    split
    · rw [hnum, List.foldl_cons, List.foldl_nil, write_load]
    · simp
  have hscratch : (fun f => if f ∈ e.changedFields i then e.value i f
      else (if e.loads i then t (slot i) else t 0) f) = t.scratch e i := by
    funext f
    simp only [SledEnv.changedFields, List.mem_filter, Field.mem_all, true_and, Tasks.scratch,
      decide_eq_true_eq]
    split
    · rfl
    · split <;> rfl
  rw [SledEnv.visitRequests, List.foldl_append, List.foldl_append, hload, write_fieldWrites,
    Function.update_self, hscratch, Function.update_idem, hnum, List.foldl_cons, List.foldl_nil,
    write_store, Function.update_self]
  rfl

@[simp] lemma visit_slot_self : t.visit e i (slot i) = t.scratch e i := by simp [Tasks.visit]

@[simp] lemma visit_zero : t.visit e i 0 = t.scratch e i := by
  simp [Tasks.visit, (slot_ne_zero i).symm]

lemma visit_slot_of_ne (h : j ≠ i) : t.visit e i (slot j) = t (slot j) := by
  have hslot : slot j ≠ slot i := fun hs => h (slot_injective hs)
  simp [Tasks.visit, hslot, slot_ne_zero j]

end Visit

/-! ## A series of visits -/

/-- A profile that has never been sent has all its fields to be written. -/
def SledEnv.FreshChanged (e : SledEnv) : Prop :=
  ∀ i, (e.profiles i).neverSent = true → ∀ f, (e.profiles i).fieldState f = .changed

/-- Of the profiles `is`, visited in this order, the first one that has been sent before, and what
task 0 holds when it is visited; `slot0` is what it holds now. -/
def firstSent (e : SledEnv) (slot0 : Field → UInt32) :
    List (Fin MAX_PROFILES) → Option (Fin MAX_PROFILES × (Field → UInt32))
  | [] => none
  | i :: is => if (e.profiles i).neverSent then firstSent e (e.value i) is else some (i, slot0)

/-- If the first profile that has been sent before is the one that `current_profile` names, then
task 0 holds its motion task, in the fields `P` that are not to be written. -/
def ScratchValid (P : Field → Prop) (t : Tasks) (e : SledEnv) (is : List (Fin MAX_PROFILES)) :
    Prop :=
  ∀ q slot0, firstSent e (t 0) is = some (q, slot0) →
    (e.profiles q).profile = e.currentProfile → ∀ f, P f →
      (e.profiles q).fieldState f ≠ .changed → slot0 f = t (slot q) f

instance {P : Field → Prop} [DecidablePred P] (t : Tasks) (e : SledEnv)
    (is : List (Fin MAX_PROFILES)) : Decidable (ScratchValid P t e is) :=
  match h : firstSent e (t 0) is with
  | none => isTrue (by simp [ScratchValid, h])
  | some (q, slot0) =>
    decidable_of_iff ((e.profiles q).profile = e.currentProfile → ∀ f, P f →
      (e.profiles q).fieldState f ≠ .changed → slot0 f = t (slot q) f) (by simp [ScratchValid, h])

/-- The motion tasks after a series of visits. -/
def Tasks.afterVisits (t : Tasks) (e : SledEnv) : List (Fin MAX_PROFILES) → Tasks
  | [] => t
  | i :: is => (t.visit e i).afterVisits (e.visit i) is

section Visits

variable {P : Field → Prop} {t : Tasks} {e : SledEnv} {i : Fin MAX_PROFILES}
  {is : List (Fin MAX_PROFILES)}

lemma firstSent_visit (slot0 : Field → UInt32) (hi : i ∉ is) :
    firstSent (e.visit i) slot0 is = firstSent e slot0 is := by
  induction is generalizing slot0 with
  | nil => rfl
  | cons j is ih =>
    obtain ⟨hj, his⟩ := not_or.mp (List.mem_cons.not.mp hi)
    have hvalue : (e.visit i).value j = e.value j := funext fun f => visit_value e i j f
    rw [firstSent, firstSent, visit_profiles_of_ne e i j (Ne.symm hj), hvalue, ih _ his]

lemma firstSent_mem {q : Fin MAX_PROFILES} {slot0 s0 : Field → UInt32}
    (h : firstSent e slot0 is = some (q, s0)) :
    q ∈ is ∧ (e.profiles q).neverSent = false := by
  induction is generalizing slot0 with
  | nil => simp [firstSent] at h
  | cons j is ih =>
    rw [firstSent] at h
    split at h
    · exact ⟨List.mem_cons_of_mem _ (ih h).1, (ih h).2⟩
    · next hj =>
      simp only [Option.some.injEq, Prod.mk.injEq] at h
      obtain ⟨rfl, -⟩ := h
      exact ⟨List.mem_cons_self, by simpa using hj⟩

/-- Under `ScratchValid`, a visit writes the changed fields of the profile and nothing else. -/
lemma scratch_of_valid (hvalid : ScratchValid P t e (i :: is)) (hfresh : e.FreshChanged) {f : Field}
    (hf : P f) :
    t.scratch e i f =
      if (e.profiles i).fieldState f = .changed then e.value i f else t (slot i) f := by
  unfold Tasks.scratch
  split
  · rfl
  · next hc =>
    have hsent : (e.profiles i).neverSent = false := by
      by_contra hnever
      exact hc (hfresh i (by simpa using hnever) f)
    by_cases hload : e.loads i = true
    · rw [if_pos hload]
    · rw [if_neg hload]
      have hcur : (e.profiles i).profile = e.currentProfile := by
        simp only [SledEnv.loads, hsent, Bool.not_false, Bool.true_and, bne_iff_ne, ne_eq,
          not_not] at hload
        exact hload.symm
      exact hvalid i (t 0) (by simp [firstSent, hsent]) hcur f hf hc

/-- What is left of the series meets the condition after the first visit. -/
lemma ScratchValid.visit (hvalid : ScratchValid P t e (i :: is)) (hnum : e.Numbered)
    (hfresh : e.FreshChanged) (hi : i ∉ is) :
    ScratchValid P (t.visit e i) (e.visit i) is := by
  intro q slot0 hfirst hcur f hf hc
  rw [visit_zero, firstSent_visit _ hi] at hfirst
  obtain ⟨hq, -⟩ := firstSent_mem hfirst
  have hqi : q ≠ i := fun h => hi (h ▸ hq)
  rw [visit_slot_of_ne t e i q hqi]
  rw [visit_profiles_of_ne e i q hqi] at hcur hc
  cases hsent : (e.profiles i).neverSent with
  | true =>
    -- The first visit fills task 0 with the values of the profile.
    have hscratch : t.scratch e i = e.value i := by
      funext g
      rw [Tasks.scratch, if_pos (hfresh i hsent g)]
    rw [hscratch] at hfirst
    have hkeep : (e.visit i).currentProfile = e.currentProfile := by
      simp [SledEnv.visit, SledEnv.loads, hsent]
    exact hvalid q slot0 (by simpa [firstSent, hsent] using hfirst) (by rw [hcur, hkeep]) f hf hc
  | false =>
    -- From here on `current_profile` names a profile that has been visited.
    exfalso
    have hnow : (e.visit i).currentProfile = (e.profiles i).profile := by
      show (if e.loads i then (e.profiles i).profile else e.currentProfile) = _
      split
      · rfl
      · next hload => simpa [SledEnv.loads, hsent] using hload
    rw [hnow, hnum, hnum] at hcur
    exact hqi (slot_injective (by exact_mod_cast hcur))

lemma visit_numbered (e : SledEnv) (i : Fin MAX_PROFILES) (h : e.Numbered) :
    (e.visit i).Numbered := by
  intro j
  rw [(visit_profile_contents e i j).1]
  exact h j

lemma freshChanged_visit (hfresh : e.FreshChanged) : (e.visit i).FreshChanged := by
  intro j hj f
  by_cases hji : j = i
  · subst hji
    rw [visit_profile_self] at hj
    simp [SledProfile.queued] at hj
  · rw [visit_profiles_of_ne e i j hji] at hj ⊢
    exact hfresh j hj f

/-- A series of visits writes the changed fields of the visited profiles and nothing else. -/
theorem afterVisits_slot (hvalid : ScratchValid P t e is) (hnum : e.Numbered)
    (hfresh : e.FreshChanged) (hnodup : is.Nodup) (j : Fin MAX_PROFILES) {f : Field} (hf : P f) :
    t.afterVisits e is (slot j) f =
      if j ∈ is ∧ (e.profiles j).fieldState f = .changed then e.value j f else t (slot j) f := by
  induction is generalizing t e with
  | nil => simp [Tasks.afterVisits]
  | cons i is ih =>
    obtain ⟨hi, hnodup⟩ := List.nodup_cons.mp hnodup
    rw [Tasks.afterVisits, ih (hvalid.visit hnum hfresh hi) (visit_numbered e i hnum)
      (freshChanged_visit hfresh) hnodup, visit_value]
    by_cases hji : j = i
    · subst hji
      rw [visit_slot_self, scratch_of_valid hvalid hfresh hf]
      simp [hi]
    · rw [visit_slot_of_ne t e i j hji, visit_profiles_of_ne e i j hji]
      simp [hji]

end Visits

/-! ## Requests and the drive -/

section Requests

variable {s : Sled}

lemma foldl_apply_tasks (rs : List (Request sledClient)) (d : Drive) :
    (rs.foldl Drive.apply d).tasks = rs.foldl Tasks.write d.tasks := by
  induction rs generalizing d with
  | nil => rfl
  | cons r rs ih => exact ih (d.apply r)

lemma visitRequests_index {e : SledEnv} {i : Fin MAX_PROFILES} {r : Request sledClient}
    (h : r ∈ e.visitRequests i) : r.index ≠ OB_MOTION_TASK := by
  rcases mem_visitRequests h with ⟨src, dst, rfl⟩ | ⟨f, v, rfl⟩
  · show OB_COPY_MOTION_TASK ≠ OB_MOTION_TASK
    decide
  · show f.index ≠ OB_MOTION_TASK
    cases f <;> decide

/-- What a series of visits issues, and what the drive makes of it. -/
lemma visits_requests (is : List (Fin MAX_PROFILES)) (hnum : s.env.Numbered) :
    ∃ rs, (is.foldl Host.visit s).requests = s.requests ++ rs ∧
      (∀ t : Tasks, rs.foldl Tasks.write t = t.afterVisits s.env is) ∧
      ∀ r ∈ rs, r.index ≠ OB_MOTION_TASK := by
  induction is generalizing s with
  | nil => exact ⟨[], by simp, fun t => rfl, by simp⟩
  | cons i is ih =>
    obtain ⟨rs, hrs, happly, hindex⟩ := ih (s := s.visit i) (visit_numbered s.env i hnum)
    have hvisit : (s.visit i).requests = s.requests ++ s.env.visitRequests i := by
      simp [Host.visit]
    refine ⟨s.env.visitRequests i ++ rs, by rw [List.foldl_cons, hrs, hvisit, List.append_assoc],
      fun t => ?_, fun r hr => ?_⟩
    · rw [List.foldl_append, foldl_visitRequests t s.env i hnum, happly]
      rfl
    · rcases List.mem_append.mp hr with hr | hr
      · exact visitRequests_index hr
      · exact hindex r hr

/-- A request to an object that has nothing to do with motion tasks. -/
lemma write_of_index {t : Tasks} {r : Request sledClient} (hcopy : r.index ≠ OB_COPY_MOTION_TASK)
    (hfield : Field.ofIndex? r.index = none) : t.write r = t := by
  simp [Tasks.write, hcopy, hfield]

lemma write_of_command {t : Tasks} {r : Request sledClient} (h : r.Command) : t.write r = t := by
  refine write_of_index ?_ ?_
  · rcases h.index with hi | hi | hi <;> rw [hi] <;> decide
  · rcases h.index with hi | hi | hi <;> rw [hi] <;> decide

lemma write_motionTask (t : Tasks) (profile : ℤ) : t.write (motionTask profile) = t := by
  have hindex : (motionTask profile).index = OB_MOTION_TASK := rfl
  refine write_of_index ?_ ?_
  · rw [hindex]
    decide
  · rw [hindex]
    decide

end Requests

end SledServer
