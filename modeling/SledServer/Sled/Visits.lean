import Mathlib.Data.Fintype.Card
import SledServer.Sled.Profile

/-!
# Writing profiles, visit by visit

The recursion of `sled_profile_write_pending_changes` is a walk along the next links.  `writeOrder`
is the list of profiles it visits, `SledEnv.visitRequests` the requests one visit queues and
`SledEnv.visit` what it does to the rest of the sled; `writePendingChangesAt_eq` puts the three
together.  `writeOrder` depends on the profile table only.
-/

namespace SledServer

open SledServer.Core

namespace Host

variable {c : Client} {σ : Type}

/-- The same process with another environment. -/
def withEnv (e : σ) (s : Host c σ) : Host c σ := { s with env := e }

@[simp] lemma withEnv_mchSdo (e : σ) (s : Host c σ) : (s.withEnv e).mchSdo = s.mchSdo := rfl

@[simp] lemma withEnv_trace (e : σ) (s : Host c σ) : (s.withEnv e).trace = s.trace := rfl

@[simp] lemma withEnv_intf (e : σ) (s : Host c σ) : (s.withEnv e).intf = s.intf := rfl

@[simp] lemma withEnv_env (e : σ) (s : Host c σ) : (s.withEnv e).env = e := rfl

@[simp] lemma withEnv_withEnv (e e' : σ) (s : Host c σ) :
    (s.withEnv e).withEnv e' = s.withEnv e' := rfl

@[simp] lemma withEnv_self (s : Host c σ) : s.withEnv s.env = s := rfl

lemma withEnv_resume (e : σ) (s : Host c σ) : (s.withEnv e).resume = s.resume.withEnv e := by
  unfold resume
  simp only [withEnv_mchSdo]
  split <;> rfl

/-- Queueing does not look at the environment. -/
@[simp] lemma withEnv_push (e : σ) (r : Request c) (s : Host c σ) :
    (s.withEnv e).push r = (s.push r).withEnv e := by
  by_cases h : s.mchSdo.state = .waiting
  · rw [push, push, if_pos h, if_pos (by simpa using h), ← withEnv_resume]
    rfl
  · rw [push, push, if_neg h, if_neg (by simpa using h)]
    rfl

@[simp] lemma withEnv_pushAll (e : σ) (rs : List (Request c)) (s : Host c σ) :
    (s.withEnv e).pushAll rs = (s.pushAll rs).withEnv e := by
  induction rs generalizing s with
  | nil => rfl
  | cons r rs ih => rw [pushAll_cons, withEnv_push, ih, pushAll_cons]

end Host

/-! ## One visit -/

/-- The request that writes a field of profile `i`. -/
def fieldWrite (i : Fin MAX_PROFILES) (f : Field) (value : UInt32) : Request sledClient :=
  writeRequest f.index 0x01 value 0x04 (some .onSuccessCallback) (some .onFailureCallback)
    (some (.profile i))

/-- The request that copies one motion task to another. -/
def copyTask (src dst : ℤ) : Request sledClient :=
  plainWrite OB_COPY_MOTION_TASK 0x0 (copyValue src dst) 0x04

/-- A profile once its pending changes have been queued. -/
def SledProfile.queued (p : SledProfile) : SledProfile :=
  { p with
    neverSent := false
    fieldState := fun f => if p.fieldState f = .changed then .writing else p.fieldState f }

namespace SledEnv

variable (e : SledEnv) (i : Fin MAX_PROFILES)

/-- The local variable `next_profile` of `sled_profile_write_pending_changes`. -/
def nextNumber : ℤ :=
  if (e.profiles i).nextProfile ≥ 0 then
    match profileIndex? (e.profiles i).nextProfile with
    | some j => (e.profiles j).profile
    | none => 0
  else 0

/-- The value of a field of profile `i`, as it would be written now. -/
def value (f : Field) : UInt32 := (e.profiles i).value (e.nextNumber i) f

/-- The visit loads the motion task of the profile into task 0. -/
def loads : Bool :=
  !(e.profiles i).neverSent && e.currentProfile != (e.profiles i).profile

/-- The fields of profile `i` that wait to be written. -/
def changedFields : List Field :=
  Field.all.filter fun f => (e.profiles i).fieldState f = .changed

/-- The requests that a visit queues. -/
def visitRequests : List (Request sledClient) :=
  (if e.loads i then [copyTask (e.profiles i).profile 0] else []) ++
    (e.changedFields i).map (fun f => fieldWrite i f (e.value i f)) ++
    [copyTask 0 (e.profiles i).profile]

/-- What a visit does to the environment. -/
def visit : SledEnv :=
  { e with
    currentProfile := if e.loads i then (e.profiles i).profile else e.currentProfile
    profiles := Function.update e.profiles i (e.profiles i).queued }

end SledEnv

/-- One visit. -/
def Host.visit (s : Sled) (i : Fin MAX_PROFILES) : Sled :=
  (s.pushAll (s.env.visitRequests i)).withEnv (s.env.visit i)

/-- The profiles that `sled_profile_write_pending_changes` visits, in order. -/
def writeOrder : ℕ → SledEnv → ℤ → Except Halt (List (Fin MAX_PROFILES))
  | 0, _, _ => .error .depth
  | depth + 1, e, id =>
    match profileIndex? id with
    | none => .error .undefined
    | some i =>
      if !sledProfileHasChangesPending (e.profiles i) then .ok []
      else if (e.profiles i).nextProfile ≥ 0 then
        if profileIndex? (e.profiles i).nextProfile = none then .error .undefined
        else (i :: ·) <$> writeOrder depth (e.visit i) (e.profiles i).nextProfile
      else .ok [i]

/-! ## What a visit does to the environment -/

section Environment

variable (e : SledEnv) (i j : Fin MAX_PROFILES)

lemma visit_profiles_of_ne (h : j ≠ i) : (e.visit i).profiles j = e.profiles j := by
  simp [SledEnv.visit, h]

lemma visit_profile_self : (e.visit i).profiles i = (e.profiles i).queued := by
  simp [SledEnv.visit]

/-- A visit touches the marks of the profile only. -/
lemma visit_profile_contents :
    ((e.visit i).profiles j).profile = (e.profiles j).profile ∧
      ((e.visit i).profiles j).nextProfile = (e.profiles j).nextProfile ∧
      ((e.visit i).profiles j).inUse = (e.profiles j).inUse ∧
      ∀ n f, ((e.visit i).profiles j).value n f = (e.profiles j).value n f := by
  by_cases hj : j = i
  · subst hj
    rw [visit_profile_self]
    refine ⟨rfl, rfl, rfl, fun n f => ?_⟩
    cases f <;> rfl
  · rw [visit_profiles_of_ne e i j hj]
    exact ⟨rfl, rfl, rfl, fun _ _ => rfl⟩

lemma visit_nextNumber : (e.visit i).nextNumber j = e.nextNumber j := by
  unfold SledEnv.nextNumber
  rw [(visit_profile_contents e i j).2.1]
  split
  · cases profileIndex? (e.profiles j).nextProfile with
    | none => rfl
    | some k => exact (visit_profile_contents e i k).1
  · rfl

@[simp] lemma visit_value (f : Field) : (e.visit i).value j f = e.value j f := by
  rw [SledEnv.value, visit_nextNumber, (visit_profile_contents e i j).2.2.2]
  rfl

end Environment

/-! ## The recursion is a sequence of visits -/

namespace Host

variable (s : Sled) (i : Fin MAX_PROFILES)

/-- `WRITE_FIELD_IF_CHANGED` as a function. -/
def writeField (f : Field) (value : UInt32) : Sled :=
  if (s.env.profiles i).fieldState f = .changed then
    (s.push (fieldWrite i f value)).modifyProfile i (·.setField f .writing)
  else s

/-- The first part of a visit. -/
def load : Sled :=
  if s.env.loads i then
    (s.push (copyTask (s.env.profiles i).profile 0)).withEnv
      { s.env with currentProfile := (s.env.profiles i).profile }
  else s

lemma modifyProfile_eq (f : SledProfile → SledProfile) :
    s.modifyProfile i f = s.withEnv
      { s.env with profiles := Function.update s.env.profiles i (f (s.env.profiles i)) } := rfl

@[simp] lemma load_profiles : (s.load i).env.profiles = s.env.profiles := by
  unfold load; split <;> rfl

@[simp] lemma writeField_profile (f : Field) (v : UInt32) (j : Fin MAX_PROFILES) :
    ((s.writeField i f v).env.profiles j).profile = (s.env.profiles j).profile := by
  unfold writeField
  split
  · by_cases hj : j = i
    · subst hj
      simp [modifyProfile_eq, SledProfile.setField]
    · simp [modifyProfile_eq, hj]
  · rfl

lemma writeFieldIfChanged_eq (f : Field) (v : UInt32) :
    writeFieldIfChanged i f v s = .ok (s.writeField i f v) := by
  unfold writeFieldIfChanged writeField
  split
  · simp [modifyProfile_eq, fieldWrite]
  · rfl

lemma copyMotionTask_eq (src dst : ℤ) :
    copyMotionTask src dst s = .ok (s.push (copyTask src dst)) :=
  mchSdoQueueWrite_eq _ _ _ _ _ _

/-- A series of field writes queues the changed fields, in order, and marks them. -/
lemma foldl_writeField (vals : Field → UInt32) (fs : List Field) (hfs : fs.Nodup) :
    fs.foldl (fun s f => writeField s i f (vals f)) s =
      (s.pushAll ((fs.filter fun f => (s.env.profiles i).fieldState f = .changed).map
          fun f => fieldWrite i f (vals f))).modifyProfile i fun p =>
        { p with fieldState := fun f =>
            if f ∈ fs ∧ p.fieldState f = .changed then .writing else p.fieldState f } := by
  induction fs generalizing s with
  | nil =>
    simp [modifyProfile_eq]
    rfl
  | cons f fs ih =>
    obtain ⟨hf, hfs⟩ := List.nodup_cons.mp hfs
    rw [List.foldl_cons, ih _ hfs]
    by_cases hch : (s.env.profiles i).fieldState f = .changed
    · -- Marking `f` changes nothing for the fields that follow.
      have hfilter : (fs.filter fun g =>
          Function.update (s.env.profiles i).fieldState f .writing g = .changed) =
          fs.filter fun g => (s.env.profiles i).fieldState g = .changed := by
        refine List.filter_congr fun g hg => ?_
        have hne : g ≠ f := fun h => hf (h ▸ hg)
        rw [Function.update_of_ne hne]
      have hstates : ∀ g, (if g ∈ fs ∧
            Function.update (s.env.profiles i).fieldState f .writing g = .changed then .writing
          else Function.update (s.env.profiles i).fieldState f .writing g) =
          if (g = f ∨ g ∈ fs) ∧ (s.env.profiles i).fieldState g = .changed then .writing
          else (s.env.profiles i).fieldState g := by
        intro g
        by_cases hg : g = f
        · subst hg
          simp [hf, hch]
        · simp [hg]
      simp [writeField, hch, modifyProfile_eq, SledProfile.setField, hfilter, hstates]
    · have hstates : ∀ g, (if g ∈ fs ∧ (s.env.profiles i).fieldState g = .changed then .writing
          else (s.env.profiles i).fieldState g) =
          if (g = f ∨ g ∈ fs) ∧ (s.env.profiles i).fieldState g = .changed then .writing
          else (s.env.profiles i).fieldState g := by
        intro g
        by_cases hg : g = f
        · subst hg
          simp [hch]
        · simp [hg]
      simp [writeField, hch, modifyProfile_eq, hstates]

/-- The parts of a visit, put together. -/
lemma visit_eq :
    ((Field.all.foldl (fun t f => writeField t i f (s.env.value i f)) (s.load i)).push
        (copyTask 0 (s.env.profiles i).profile)).modifyProfile i
      (fun p => { p with neverSent := false }) = s.visit i := by
  rw [foldl_writeField _ _ _ _ Field.nodup_all, load_profiles]
  have hfields : ∀ p : SledProfile,
      (fun f => if f ∈ Field.all ∧ p.fieldState f = .changed then .writing else p.fieldState f) =
        p.queued.fieldState := by
    intro p
    funext f
    simp [SledProfile.queued, Field.mem_all]
  unfold load
  split
  case isTrue h =>
    simp [h, modifyProfile_eq, hfields, visit, SledEnv.visit, SledEnv.visitRequests,
      SledEnv.changedFields, SledProfile.queued]
    rfl
  case isFalse h =>
    simp [h, modifyProfile_eq, hfields, visit, SledEnv.visit, SledEnv.visitRequests,
      SledEnv.changedFields, SledProfile.queued]

lemma loadMotionTask_eq : loadMotionTask i s = .ok (s.load i) := by
  unfold loadMotionTask load SledEnv.loads
  simp only [copyMotionTask_eq, ok_bind, Bool.and_eq_true, bne_iff_ne]
  split <;> simp [withEnv]

/-- The next number is read after other fields have been marked, which does not change it. -/
lemma nextProfileNumber_eq (t : Sled)
    (hnext : (t.env.profiles i).nextProfile = (s.env.profiles i).nextProfile)
    (hnumber : ∀ j, (t.env.profiles j).profile = (s.env.profiles j).profile)
    (hlink : (s.env.profiles i).nextProfile ≥ 0 →
      profileIndex? (s.env.profiles i).nextProfile ≠ none) :
    nextProfileNumber i t = .ok (s.env.nextNumber i) := by
  unfold nextProfileNumber SledEnv.nextNumber
  rw [hnext]
  by_cases h : (s.env.profiles i).nextProfile ≥ 0
  · rw [if_pos h, if_pos h]
    cases hj : profileIndex? (s.env.profiles i).nextProfile with
    | none => exact absurd hj (hlink h)
    | some j => simp only [hnumber]
  · rw [if_neg h, if_neg h]

@[simp] lemma writeField_nextProfile (f : Field) (v : UInt32) (j : Fin MAX_PROFILES) :
    ((s.writeField i f v).env.profiles j).nextProfile = (s.env.profiles j).nextProfile := by
  unfold writeField
  split
  · by_cases hj : j = i
    · subst hj
      simp [modifyProfile_eq, SledProfile.setField]
    · simp [modifyProfile_eq, hj]
  · rfl

end Host

/-- The recursion is a sequence of visits. -/
theorem writePendingChangesAt_eq (depth : ℕ) (id : ℤ) (s : Sled) :
    writePendingChangesAt depth id s =
      (fun is => is.foldl Host.visit s) <$> writeOrder depth s.env id := by
  induction depth generalizing id s with
  | zero => rfl
  | succ depth ih =>
    unfold writePendingChangesAt writeOrder
    cases hi : profileIndex? id with
    | none => rfl
    | some i =>
      dsimp only
      by_cases hp : sledProfileHasChangesPending (s.env.profiles i) = true
      swap
      · simp [hp]
      simp only [hp, Bool.not_true, Bool.false_eq_true, if_false, ok_bind,
        Host.loadMotionTask_eq, Host.writeFieldIfChanged_eq, Host.copyMotionTask_eq]
      by_cases hlink : (s.env.profiles i).nextProfile ≥ 0 →
        profileIndex? (s.env.profiles i).nextProfile ≠ none
      · have hvisit := Host.visit_eq s i
        simp only [Field.all, List.foldl_cons, List.foldl_nil, SledEnv.value,
          SledProfile.value] at hvisit
        rw [Host.nextProfileNumber_eq s i _ (by simp) (by simp) hlink]
        simp only [ok_bind, hvisit, ih]
        by_cases hn : (s.env.profiles i).nextProfile ≥ 0
        · simp [hn, hlink hn, Host.visit]
        · simp [hn]
      · -- The link leaves the table: the source reads outside the array.
        simp only [Classical.not_imp, not_not] at hlink
        simp [hlink.1, hlink.2, nextProfileNumber]

/-! ## Every profile is visited once at most -/

lemma hasChangesPending_iff (p : SledProfile) :
    sledProfileHasChangesPending p = true ↔ ∃ f, p.fieldState f = .changed := by
  simp [sledProfileHasChangesPending, Field.mem_all]

lemma not_hasChangesPending_queued (p : SledProfile) :
    sledProfileHasChangesPending p.queued = false := by
  rw [Bool.eq_false_iff, Ne, hasChangesPending_iff, not_exists]
  intro f
  simp only [SledProfile.queued]
  split <;> simp_all

/-- The profiles with changes pending. -/
def SledEnv.pending (e : SledEnv) : Finset (Fin MAX_PROFILES) :=
  Finset.univ.filter fun i => sledProfileHasChangesPending (e.profiles i) = true

lemma SledEnv.mem_pending {e : SledEnv} {i : Fin MAX_PROFILES} :
    i ∈ e.pending ↔ sledProfileHasChangesPending (e.profiles i) = true := by
  simp [pending]

lemma SledEnv.pending_visit (e : SledEnv) (i : Fin MAX_PROFILES) :
    (e.visit i).pending = e.pending.erase i := by
  ext j
  rw [Finset.mem_erase, mem_pending, mem_pending]
  by_cases hj : j = i
  · subst hj
    simp [visit, not_hasChangesPending_queued]
  · simp [visit, hj]

lemma SledEnv.card_pending_visit {e : SledEnv} {i : Fin MAX_PROFILES}
    (hp : sledProfileHasChangesPending (e.profiles i) = true) :
    (e.visit i).pending.card < e.pending.card := by
  rw [pending_visit]
  exact Finset.card_erase_lt_of_mem (mem_pending.mpr hp)

lemma SledEnv.card_pending_lt (e : SledEnv) : e.pending.card < MAX_PROFILES + 1 := by
  have hle := Finset.card_le_univ e.pending
  rw [Fintype.card_fin] at hle
  omega

/-- The depth allotted to the recursion is enough: a visited profile is not pending any more. -/
lemma writeOrder_ne_depth (depth : ℕ) (e : SledEnv) (id : ℤ) (h : e.pending.card < depth) :
    writeOrder depth e id ≠ .error .depth := by
  induction depth generalizing e id with
  | zero => omega
  | succ depth ih =>
    unfold writeOrder
    cases hi : profileIndex? id with
    | none => simp
    | some i =>
      by_cases hp : sledProfileHasChangesPending (e.profiles i) = true
      · have hcard : (e.visit i).pending.card < depth := by
          have := SledEnv.card_pending_visit hp
          omega
        have hrec := ih (e.visit i) (e.profiles i).nextProfile hcard
        simp only [hp, Bool.not_true, Bool.false_eq_true, if_false]
        split_ifs
        · simp
        · intro habs
          apply hrec
          cases hw : writeOrder depth (e.visit i) (e.profiles i).nextProfile with
          | ok is => simp [hw] at habs
          | error x => simp_all
        · simp
      · simp [hp]

/-- `sled_profile_write_pending_changes` comes to an end: it returns 0 after a series of visits,
or a link leads out of the table. -/
theorem writePendingChangesAt_depth (id : ℤ) (s : Sled) :
    sledProfileWritePendingChanges id s ≠ .error .depth := by
  have h := writeOrder_ne_depth _ s.env id s.env.card_pending_lt
  unfold sledProfileWritePendingChanges
  rw [writePendingChangesAt_eq]
  cases hw : writeOrder (MAX_PROFILES + 1) s.env id with
  | ok is => simp
  | error x =>
    intro habs
    apply h
    simp_all

/-- The order of visits of a call. -/
def writes (e : SledEnv) (id : ℤ) : Except Halt (List (Fin MAX_PROFILES)) :=
  writeOrder (MAX_PROFILES + 1) e id

/-- The next links of the profiles in `S` end the series or lead to profiles in `S`. -/
def SledEnv.LinkedIn (e : SledEnv) (S : Set (Fin MAX_PROFILES)) : Prop :=
  ∀ i ∈ S, ¬ (e.profiles i).nextProfile ≥ 0 ∨ ∃ j ∈ S, (e.profiles i).nextProfile = ((j : ℕ) : ℤ)

lemma SledEnv.LinkedIn.visit {e : SledEnv} {S : Set (Fin MAX_PROFILES)} (h : e.LinkedIn S)
    (k : Fin MAX_PROFILES) : (e.visit k).LinkedIn S := fun i hi => by
  rw [(visit_profile_contents e k i).2.1]
  exact h i hi

/-- A series of visits that starts in `S` returns. -/
lemma writeOrder_returns {S : Set (Fin MAX_PROFILES)} (depth : ℕ) {e : SledEnv}
    {i : Fin MAX_PROFILES} (hcard : e.pending.card < depth) (h : e.LinkedIn S) (hi : i ∈ S) :
    ∃ is, writeOrder depth e (i : ℕ) = .ok is := by
  induction depth generalizing e i with
  | zero => omega
  | succ depth ih =>
    unfold writeOrder
    simp only [profileIndex?_natCast]
    split_ifs with hpending hge hlink
    · exact ⟨[], rfl⟩
    · obtain hend | ⟨j, -, hj⟩ := h i hi
      · exact absurd hge hend
      · rw [hj, profileIndex?_natCast] at hlink
        cases hlink
    · obtain hend | ⟨j, hjS, hj⟩ := h i hi
      · exact absurd hge hend
      · have hless := SledEnv.card_pending_visit (by simpa using hpending)
        obtain ⟨is, his⟩ := ih (by omega) (h.visit i) hjS
        exact ⟨i :: is, by rw [hj, his]; rfl⟩
    · exact ⟨[i], rfl⟩

lemma writes_returns {S : Set (Fin MAX_PROFILES)} {e : SledEnv} {i : Fin MAX_PROFILES}
    (h : e.LinkedIn S) (hi : i ∈ S) : ∃ is, writes e (i : ℕ) = .ok is :=
  writeOrder_returns _ e.card_pending_lt h hi

lemma sledProfileWritePendingChanges_eq (id : ℤ) (s : Sled) :
    sledProfileWritePendingChanges id s =
      (fun is => (0, is.foldl Host.visit s)) <$> writes s.env id := by
  unfold sledProfileWritePendingChanges writes
  rw [writePendingChangesAt_eq]
  cases writeOrder (MAX_PROFILES + 1) s.env id <;> rfl

lemma sledProfileWritePendingChanges_ok {id : ℤ} {s : Sled} {r : ℤ × Sled}
    (h : sledProfileWritePendingChanges id s = .ok r) :
    ∃ is, writes s.env id = .ok is ∧ r = (0, is.foldl Host.visit s) := by
  rw [sledProfileWritePendingChanges_eq] at h
  cases hw : writes s.env id with
  | error x => simp [hw] at h
  | ok is => exact ⟨is, rfl, by simpa [hw] using h.symm⟩

/-! ## The order of the visits -/

/-- The relation that `writeOrder` computes: a profile without changes ends the series, and so does
one without a next profile. -/
inductive VisitOrder : SledEnv → ℤ → List (Fin MAX_PROFILES) → Prop
  | done {e : SledEnv} {id : ℤ} {i : Fin MAX_PROFILES} (hi : profileIndex? id = some i)
      (hp : sledProfileHasChangesPending (e.profiles i) = false) : VisitOrder e id []
  | last {e : SledEnv} {id : ℤ} {i : Fin MAX_PROFILES} (hi : profileIndex? id = some i)
      (hp : sledProfileHasChangesPending (e.profiles i) = true)
      (hn : ¬ (e.profiles i).nextProfile ≥ 0) : VisitOrder e id [i]
  | next {e : SledEnv} {id : ℤ} {i : Fin MAX_PROFILES} {is : List (Fin MAX_PROFILES)}
      (hi : profileIndex? id = some i)
      (hp : sledProfileHasChangesPending (e.profiles i) = true)
      (hn : (e.profiles i).nextProfile ≥ 0)
      (hlink : profileIndex? (e.profiles i).nextProfile ≠ none)
      (h : VisitOrder (e.visit i) (e.profiles i).nextProfile is) : VisitOrder e id (i :: is)

lemma visitOrder_of_writeOrder {depth : ℕ} {e : SledEnv} {id : ℤ} {is : List (Fin MAX_PROFILES)}
    (h : writeOrder depth e id = .ok is) : VisitOrder e id is := by
  induction depth generalizing e id is with
  | zero => simp [writeOrder] at h
  | succ depth ih =>
    unfold writeOrder at h
    cases hi : profileIndex? id with
    | none => simp [hi] at h
    | some i =>
      simp only [hi] at h
      split_ifs at h with hp hn hlink
      · cases h
        exact .done hi (by simpa using hp)
      · cases hw : writeOrder depth (e.visit i) (e.profiles i).nextProfile with
        | error x => simp [hw] at h
        | ok js =>
          simp only [hw, Functor.map, Except.map, Except.ok.injEq] at h
          subst h
          exact .next hi (by simpa using hp) hn hlink (ih hw)
      · cases h
        exact .last hi (by simpa using hp) hn

namespace VisitOrder

variable {e : SledEnv} {id : ℤ} {is : List (Fin MAX_PROFILES)}

/-- A visited profile has something to be written. -/
lemma pending (h : VisitOrder e id is) :
    ∀ i ∈ is, sledProfileHasChangesPending (e.profiles i) = true := by
  induction h with
  | done => simp
  | last hi hp hn => simpa using hp
  | @next e id k is hi hp hn hlink _ ih =>
    intro i hmem
    rcases List.mem_cons.mp hmem with rfl | hmem
    · exact hp
    · have hrec := ih i hmem
      by_cases hk : i = k
      · rw [hk]
        exact hp
      · rwa [visit_profiles_of_ne e k i hk] at hrec

/-- No profile is visited again after its visit. -/
lemma not_mem_of_visit {k : Fin MAX_PROFILES} (h : VisitOrder (e.visit k) id is) : k ∉ is := by
  intro hk
  have hp := h.pending k hk
  rw [visit_profile_self, not_hasChangesPending_queued] at hp
  cases hp

lemma nodup (h : VisitOrder e id is) : is.Nodup := by
  induction h with
  | done => simp
  | last => simp
  | next _ _ _ _ h ih => exact List.nodup_cons.mpr ⟨h.not_mem_of_visit, ih⟩

/-- The links of the visited profiles lead to profiles. -/
lemma links (h : VisitOrder e id is) : ∀ i ∈ is, (e.profiles i).nextProfile ≥ 0 →
    profileIndex? (e.profiles i).nextProfile ≠ none := by
  induction h with
  | done => simp
  | last hi hp hn =>
    intro i hmem hge
    rw [List.mem_singleton.mp hmem] at hge
    exact absurd hge hn
  | @next e id k is hi hp hn hlink _ ih =>
    intro i hmem
    rcases List.mem_cons.mp hmem with rfl | hmem
    · exact fun _ => hlink
    · have hrec := ih i hmem
      rwa [(visit_profile_contents e k i).2.1] at hrec

end VisitOrder

/-! ## Execution -/

/-- The request that names the motion task to be executed. -/
def motionTask (profile : ℤ) : Request sledClient :=
  plainWrite OB_MOTION_TASK 0x00 (UInt32.ofInt profile) 0x02

/-- The state after a successful `sled_profile_execute` of profile `i`, once the profiles `is`
have been written. -/
def Host.started (s : Sled) (is : List (Fin MAX_PROFILES)) (i : Fin MAX_PROFILES) : Sled :=
  let t := is.foldl Host.visit s
  ((t.push (motionTask (t.env.profiles i).profile)).push (controlWord 0x3F)).mpMove .setpointSet

/-- A profile that is in use is written and executed, provided that the sled is idle. -/
lemma sledProfileExecute_eq (id : ℤ) (s : Sled) :
    sledProfileExecute id s =
      match profileIndex? id with
      | none => .ok (-1, s)
      | some i =>
        if (s.env.profiles i).inUse = true ∧ s.env.mchMp = .ppIdle then
          (fun is => (0, s.started is i)) <$> writes s.env id
        else .ok (-1, s) := by
  unfold sledProfileExecute
  cases profileIndex? id with
  | none => rfl
  | some i =>
    dsimp only
    by_cases huse : (s.env.profiles i).inUse = true
    · by_cases hidle : s.env.mchMp = .ppIdle
      · simp only [huse, hidle, sledProfileWritePendingChanges_eq, mchSdoQueueWrite_eq, ok_bind,
          mchMpHandleEvent_eq]
        cases writes s.env id with
        | error d => rfl
        | ok is => rfl
      · simp [huse, hidle]
    · simp [huse]

/-- Everything `sled_profile_execute` can do. -/
lemma sledProfileExecute_ok {id : ℤ} {s : Sled} {r : ℤ × Sled}
    (h : sledProfileExecute id s = .ok r) :
    r = (-1, s) ∨ ∃ i is, profileIndex? id = some i ∧ (s.env.profiles i).inUse = true ∧
      s.env.mchMp = .ppIdle ∧ writes s.env id = .ok is ∧ r = (0, s.started is i) := by
  rw [sledProfileExecute_eq] at h
  cases hi : profileIndex? id with
  | none =>
    rw [hi] at h
    cases h
    exact .inl rfl
  | some i =>
    simp only [hi] at h
    split at h
    case isFalse =>
      cases h
      exact .inl rfl
    case isTrue hready =>
      cases hw : writes s.env id with
      | error d => simp [hw] at h
      | ok is =>
        rw [hw] at h
        cases h
        exact .inr ⟨i, is, rfl, hready.1, hready.2, rfl, rfl⟩

/-- What `sled_profile_execute` does with a profile that is in use depends on whether the sled is
idle. -/
lemma sledProfileExecute_of_inUse {i : Fin MAX_PROFILES} {s : Sled} {r : ℤ × Sled}
    (huse : (s.env.profiles i).inUse = true) (h : sledProfileExecute (i : ℕ) s = .ok r) :
    (s.env.mchMp ≠ .ppIdle ∧ r = (-1, s)) ∨
      (s.env.mchMp = .ppIdle ∧ ∃ is, writes s.env (i : ℕ) = .ok is ∧ r = (0, s.started is i)) := by
  rw [sledProfileExecute_eq] at h
  simp only [profileIndex?_natCast, huse, true_and] at h
  split at h
  case isFalse hbusy =>
    cases h
    exact .inl ⟨hbusy, rfl⟩
  case isTrue hidle =>
    cases hw : writes s.env (i : ℕ) with
    | error d => simp [hw] at h
    | ok is =>
      rw [hw] at h
      cases h
      exact .inr ⟨hidle, is, rfl, rfl⟩

end SledServer
