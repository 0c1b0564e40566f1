import SledServer.Sled.Mask
import SledServer.Sled.Sinusoid

/-!
# Calls on memory that has not been written yet

A call that writes profiles reads `never_sent` of each, and `current_profile` where the profile has
been sent before.  As long as it visits profiles only that have been created and not been sent
(`FreshWrites`), and asks for the position only once it has been reported, it does not look at what
is masked (`mask_call`).
-/

namespace SledServer

open SledServer.Core

variable {k : Known} {s : Sled}

/-- A result, with fixed values in place of what is not known. -/
def maskResult (k : Known) (r : ℤ × Sled) : ℤ × Sled := (r.1, r.2.mask k)

/-! ## Calls on single profiles -/

section Profiles

lemma mask_onProfile {f : SledProfile → SledProfile} (profile : ℤ)
    (hf : ∀ p v, { f p with neverSent := v } = f { p with neverSent := v }) :
    onProfile profile f (s.mask k) = maskResult k (onProfile profile f s) := by
  unfold onProfile
  cases profileIndex? profile with
  | none => rfl
  | some i =>
    dsimp only
    rw [mask_profiles, mask_inUse, mask_modifyProfile i hf]
    split
    · rfl
    · rfl

lemma mask_setTable (profile table : ℤ) :
    sledProfileSetTable profile table (s.mask k) =
      maskResult k (sledProfileSetTable profile table s) := by
  refine mask_onProfile profile fun p v => ?_
  unfold SledProfile.setTable
  split
  · rfl
  · rfl

lemma mask_setTarget (profile : ℤ) (type : PositionType) (position time : ℚ) :
    sledProfileSetTarget profile type position time (s.mask k) =
      maskResult k (sledProfileSetTarget profile type position time s) := by
  refine mask_onProfile profile fun p v => ?_
  simp only [SledProfile.setTarget, SledProfile.setField]
  split_ifs <;> rfl

lemma mask_setNext (profile nextProfile : ℤ) (delay : ℚ) (blendType : BlendType) :
    sledProfileSetNext profile nextProfile delay blendType (s.mask k) =
      maskResult k (sledProfileSetNext profile nextProfile delay blendType s) := by
  refine mask_onProfile profile fun p v => ?_
  simp only [SledProfile.setNext, SledProfile.setField]
  split_ifs <;> rfl

/-- What is known once a profile has been created. -/
def Known.afterCreate (k : Known) (e : SledEnv) : Known :=
  match freeProfile? e.profiles with
  | some i => { k with created := Function.update k.created i true }
  | none => k

lemma mask_freeProfile? : freeProfile? (s.mask k).env.profiles = freeProfile? s.env.profiles := by
  unfold freeProfile?
  simp only [mask_profiles, mask_inUse]

lemma mask_create :
    sledProfileCreate (s.mask k) = maskResult (k.afterCreate s.env) (sledProfileCreate s) := by
  unfold Known.afterCreate
  cases hfree : freeProfile? s.env.profiles with
  | none =>
    have hmask := mask_freeProfile? (k := k).trans hfree
    simp only [sledProfileCreate, hfree, hmask]
    rfl
  | some i =>
    rw [sledProfileCreate_of_free hfree,
      sledProfileCreate_of_free (mask_freeProfile? (k := k).trans hfree)]
    have hcreated : ∀ b (p : SledProfile), SledProfile.created i (p.mask b) =
        SledProfile.created i p := by
      intro b p
      unfold SledProfile.mask
      split
      · rfl
      · rfl
    have hprofiles : Function.update (fun j => (s.env.profiles j).mask (k.created j)) i
          (SledProfile.created i (s.env.profiles i)) =
        fun j => (Function.update s.env.profiles i (SledProfile.created i (s.env.profiles i))
          j).mask (Function.update k.created i true j) := by
      funext j
      by_cases hj : j = i
      · subst hj
        rw [Function.update_self, Function.update_self, Function.update_self]
        rfl
      · rw [Function.update_of_ne hj, Function.update_of_ne hj, Function.update_of_ne hj]
    simp only [maskResult, Host.mask, Host.modifyProfile_eq, Host.withEnv_env,
      Host.withEnv_withEnv, SledEnv.mask, hcreated, hprofiles]

lemma mask_createPt (position time : ℚ) :
    sledProfileCreatePt position time (s.mask k) =
      maskResult (k.afterCreate s.env) (sledProfileCreatePt position time s) := by
  unfold sledProfileCreatePt
  rw [mask_create]
  simp only [maskResult]
  split
  · rw [mask_modifyProfile _ fun _ _ => rfl]
  · rfl

lemma mask_reset : sledProfilesReset (s.mask k) = maskResult k (sledProfilesReset s) :=
  congrArg (Prod.mk 0) mask_resetProfiles

end Profiles

/-! ## Writing profiles -/

section Writes

/-- The two environments agree on what the order of the visits depends on. -/
structure SledEnv.SameLinks (e e' : SledEnv) : Prop where
  fieldState : ∀ i, (e'.profiles i).fieldState = (e.profiles i).fieldState
  nextProfile : ∀ i, (e'.profiles i).nextProfile = (e.profiles i).nextProfile

lemma SledEnv.SameLinks.visit {e e' : SledEnv} (h : e.SameLinks e') (i : Fin MAX_PROFILES) :
    (e.visit i).SameLinks (e'.visit i) := by
  refine ⟨fun j => ?_, fun j => ?_⟩
  · by_cases hj : j = i
    · subst hj
      simp only [visit_profile_self, SledProfile.queued, h.fieldState]
    · rw [visit_profiles_of_ne _ _ _ hj, visit_profiles_of_ne _ _ _ hj, h.fieldState]
  · rw [(visit_profile_contents e' i j).2.1, (visit_profile_contents e i j).2.1, h.nextProfile]

lemma SledEnv.SameLinks.writeOrder_eq {depth : ℕ} {e e' : SledEnv} (h : e.SameLinks e') (id : ℤ) :
    writeOrder depth e' id = writeOrder depth e id := by
  induction depth generalizing e e' id with
  | zero => rfl
  | succ depth ih =>
    unfold writeOrder
    cases profileIndex? id with
    | none => rfl
    | some i =>
      have hpending : sledProfileHasChangesPending (e'.profiles i) =
          sledProfileHasChangesPending (e.profiles i) := by
        unfold sledProfileHasChangesPending
        rw [h.fieldState]
      dsimp only
      rw [hpending, h.nextProfile, ih (h.visit i)]

lemma mask_writes (e : SledEnv) (id : ℤ) : writes (e.mask k) id = writes e id :=
  SledEnv.SameLinks.writeOrder_eq ⟨fun _ => mask_fieldState, fun _ => mask_nextProfile⟩ id

/-- The profile has been created, and nothing of it has been sent. -/
def SledEnv.Fresh (k : Known) (e : SledEnv) (i : Fin MAX_PROFILES) : Prop :=
  k.created i = true ∧ (e.profiles i).neverSent = true

instance (k : Known) (e : SledEnv) (i : Fin MAX_PROFILES) : Decidable (e.Fresh k i) :=
  inferInstanceAs (Decidable (_ ∧ _))

lemma SledEnv.Fresh.mask_iff {e : SledEnv} {i : Fin MAX_PROFILES} :
    (e.mask k).Fresh k i ↔ e.Fresh k i := by
  refine and_congr_right fun hk => ?_
  show ((e.profiles i).mask (k.created i)).neverSent = true ↔ _
  rw [hk]
  rfl

section Visit

variable {e : SledEnv} {i : Fin MAX_PROFILES}

lemma mask_nextNumber : (e.mask k).nextNumber i = e.nextNumber i := by
  unfold SledEnv.nextNumber SledEnv.mask
  simp only [mask_nextProfile, mask_profile]

/-- The first visit of a profile does not look at what has been loaded. -/
lemma loads_of_fresh (h : e.Fresh k i) : e.loads i = false := by
  unfold SledEnv.loads
  rw [h.2]
  rfl

lemma mask_visitRequests (h : e.Fresh k i) : (e.mask k).visitRequests i = e.visitRequests i := by
  have hvalue : ∀ f, (e.mask k).value i f = e.value i f := by
    intro f
    unfold SledEnv.value
    rw [mask_nextNumber]
    exact mask_value _ f
  have hfields : (e.mask k).changedFields i = e.changedFields i := by
    unfold SledEnv.changedFields SledEnv.mask
    simp only [mask_fieldState]
  have hprofile : ((e.mask k).profiles i).profile = (e.profiles i).profile := mask_profile
  unfold SledEnv.visitRequests
  simp only [loads_of_fresh h, loads_of_fresh (SledEnv.Fresh.mask_iff.mpr h), hvalue, hfields,
    hprofile]

lemma mask_visitEnv (h : e.Fresh k i) : (e.mask k).visit i = (e.visit i).mask k := by
  have hprofiles : Function.update (fun j => (e.profiles j).mask (k.created j)) i
        ((e.profiles i).mask (k.created i)).queued =
      fun j => (Function.update e.profiles i (e.profiles i).queued j).mask (k.created j) := by
    funext j
    by_cases hj : j = i
    · subst hj
      rw [Function.update_self, Function.update_self, h.1]
      rfl
    · rw [Function.update_of_ne hj, Function.update_of_ne hj]
  unfold SledEnv.visit
  rw [loads_of_fresh h, loads_of_fresh (SledEnv.Fresh.mask_iff.mpr h)]
  simp only [SledEnv.mask, hprofiles]
  rfl

lemma mask_visit (h : s.env.Fresh k i) : (s.mask k).visit i = (s.visit i).mask k := by
  have hrequests : (s.mask k).env.visitRequests i = s.env.visitRequests i := mask_visitRequests h
  have henv : (s.mask k).env.visit i = (s.env.visit i).mask k := mask_visitEnv h
  unfold Host.visit
  rw [hrequests, henv, mask_pushAll]
  rfl

end Visit

/-- A series of first visits. -/
lemma mask_visits {is : List (Fin MAX_PROFILES)} (hnodup : is.Nodup)
    (h : ∀ i ∈ is, s.env.Fresh k i) :
    is.foldl Host.visit (s.mask k) = (is.foldl Host.visit s).mask k := by
  induction is generalizing s with
  | nil => rfl
  | cons i is ih =>
    obtain ⟨hi, hnodup⟩ := List.nodup_cons.mp hnodup
    rw [List.foldl_cons, List.foldl_cons, mask_visit (h i List.mem_cons_self)]
    refine ih hnodup fun j hj => ?_
    have hne : j ≠ i := fun heq => hi (heq ▸ hj)
    obtain ⟨hk, hnever⟩ := h j (List.mem_cons_of_mem _ hj)
    refine ⟨hk, ?_⟩
    rw [show (s.visit i).env.profiles j = _ from visit_profiles_of_ne s.env i j hne]
    exact hnever

end Writes

/-! ## Calls that write profiles -/

section Calls

/-- A profile is written, or executed; which one is read when its turn comes. -/
inductive Writing
  | write (profile : SledEnv → ℤ)
  | execute (profile : SledEnv → ℤ)

namespace Writing

/-- The profiles that are visited.  Nothing is written of a profile that is not in use, or while
the sled is not idle. -/
def visits (e : SledEnv) : Writing → Except Halt (List (Fin MAX_PROFILES))
  | write profile => writes e (profile e)
  | execute profile =>
    match profileIndex? (profile e) with
    | some i =>
      if (e.profiles i).inUse ∧ e.mchMp = .ppIdle then writes e (profile e) else .ok []
    | none => .ok []

lemma nodup_visits {e : SledEnv} {w : Writing} {is : List (Fin MAX_PROFILES)}
    (h : w.visits e = .ok is) : is.Nodup := by
  have hwrites : ∀ {profile : ℤ}, writes e profile = .ok is → is.Nodup :=
    fun h => (visitOrder_of_writeOrder h).nodup
  unfold visits at h
  split at h
  · exact hwrites h
  · split at h
    · split at h
      · exact hwrites h
      · cases h
        exact List.nodup_nil
    · cases h
      exact List.nodup_nil

end Writing

/-- Every profile that is written is visited for the first time since it was created. -/
def FreshWrites (k : Known) : SledEnv → List Writing → Prop
  | _, [] => True
  | e, w :: ws => ∀ is, w.visits e = .ok is →
      (∀ i ∈ is, e.Fresh k i) ∧ FreshWrites k (is.foldl SledEnv.visit e) ws

instance FreshWrites.decidable (k : Known) :
    ∀ (e : SledEnv) (ws : List Writing), Decidable (FreshWrites k e ws)
  | _, [] => isTrue trivial
  | e, _ :: ws =>
    haveI : DecidablePred fun is : List (Fin MAX_PROFILES) =>
        (∀ i ∈ is, e.Fresh k i) ∧ FreshWrites k (is.foldl SledEnv.visit e) ws := fun is =>
      haveI := FreshWrites.decidable k (is.foldl SledEnv.visit e) ws
      inferInstance
    decidableForallOk

variable {profile : SledEnv → ℤ} {ws : List Writing}

/-- The first visits of a call, and what follows them. -/
lemma mask_writePendingChanges_bind {g : ℤ × Sled → Except Halt (ℤ × Sled)}
    (h : FreshWrites k s.env (.write profile :: ws)) (hp : profile (s.env.mask k) = profile s.env)
    (hg : ∀ is : List (Fin MAX_PROFILES), FreshWrites k (is.foldl Host.visit s).env ws →
      g (0, (is.foldl Host.visit s).mask k) = (g (0, is.foldl Host.visit s)).map (maskResult k)) :
    (sledProfileWritePendingChanges (profile (s.mask k).env) (s.mask k) >>= g) =
      (sledProfileWritePendingChanges (profile s.env) s >>= g).map (maskResult k) := by
  have hwrites : writes (s.mask k).env (profile (s.mask k).env) = writes s.env (profile s.env) := by
    rw [show profile (s.mask k).env = profile s.env from hp]
    exact mask_writes s.env _
  rw [sledProfileWritePendingChanges_eq, sledProfileWritePendingChanges_eq, hwrites]
  cases his : writes s.env (profile s.env) with
  | error d => rfl
  | ok is =>
    obtain ⟨hfresh, htail⟩ := h is his
    rw [← visits_env] at htail
    show g (0, is.foldl Host.visit (s.mask k)) = _
    rw [mask_visits (visitOrder_of_writeOrder his).nodup hfresh]
    exact hg is htail

lemma mask_writePendingChanges (h : FreshWrites k s.env (.write profile :: ws))
    (hp : profile (s.env.mask k) = profile s.env) :
    sledProfileWritePendingChanges (profile (s.mask k).env) (s.mask k) =
      (sledProfileWritePendingChanges (profile s.env) s).map (maskResult k) := by
  have hbind := mask_writePendingChanges_bind (g := pure) h hp fun _ _ => rfl
  rwa [bind_pure, bind_pure] at hbind

lemma mask_started {is : List (Fin MAX_PROFILES)} (i : Fin MAX_PROFILES) (hnodup : is.Nodup)
    (h : ∀ j ∈ is, s.env.Fresh k j) : (s.mask k).started is i = (s.started is i).mask k := by
  unfold Host.started
  rw [mask_visits hnodup h]
  dsimp only
  rw [mask_profiles, mask_profile, mask_push, mask_push, mask_mpMove]

lemma mask_execute (h : FreshWrites k s.env [.execute profile])
    (hp : profile (s.env.mask k) = profile s.env) :
    sledProfileExecute (profile (s.mask k).env) (s.mask k) =
      (sledProfileExecute (profile s.env) s).map (maskResult k) := by
  rw [show profile (s.mask k).env = profile s.env from hp, sledProfileExecute_eq,
    sledProfileExecute_eq]
  cases hi : profileIndex? (profile s.env) with
  | none => rfl
  | some i =>
    dsimp only
    rw [mask_profiles, mask_inUse, mask_mchMp]
    split
    case isFalse => rfl
    case isTrue hidle =>
      have hvisits : Writing.visits s.env (.execute profile) = writes s.env (profile s.env) := by
        unfold Writing.visits
        simp only [hi]
        exact if_pos hidle
      rw [show writes (s.mask k).env (profile s.env) = writes s.env (profile s.env) from
        mask_writes s.env _]
      cases his : writes s.env (profile s.env) with
      | error d => rfl
      | ok is =>
        have hfresh := (h is (hvisits.trans his)).1
        show Except.ok (0, (s.mask k).started is i) = Except.ok (0, (s.started is i).mask k)
        rw [mask_started i (visitOrder_of_writeOrder his).nodup hfresh]

namespace SledCall

/-- The state once targets and links have been set, before anything is written. -/
def prepared (s : Sled) : SledCall → Sled
  | sinusoidStart amplitude period => (SinusoidCall.start amplitude period).setup s
  | sinusoidStop => SinusoidCall.stop.setup s
  | rsinusoidStart amplitude period => (SinusoidCall.rstart amplitude period).setup s
  | rsinusoidStop => SinusoidCall.rstop.setup s
  | _ => s

/-- The profiles that the call writes, in turn. -/
def writings : SledCall → List Writing
  | profileWritePendingChanges profile => [.write fun _ => profile]
  | profileExecute profile => [.execute fun _ => profile]
  | sinusoidStart _ _ => [.execute (·.sinusoidThere)]
  | sinusoidStop | rsinusoidStop => [.write (·.sinusoidThere)]
  | rsinusoidStart _ _ =>
    [.write (·.sinusoidRthere), .write (·.sinusoidThere), .write (·.sinusoidBack),
      .write (·.sinusoidRback), .execute (·.sinusoidRthere)]
  | _ => []

/-- The call reads `last_position`. -/
def readsPosition : SledCall → Bool
  | sinusoidStart _ _ | rsinusoidStart _ _ => true
  | _ => false

end SledCall

/-- Which profiles a call visits does not depend on what is masked. -/
lemma mask_visits_of_mem {c : SledCall} {w : Writing} (h : w ∈ c.writings) (e : SledEnv) :
    w.visits (e.mask k) = w.visits e := by
  have hwrite : ∀ profile : SledEnv → ℤ, profile (e.mask k) = profile e →
      (Writing.write profile).visits (e.mask k) = (Writing.write profile).visits e := by
    intro profile hp
    simp only [Writing.visits, hp, mask_writes]
  have hexecute : ∀ profile : SledEnv → ℤ, profile (e.mask k) = profile e →
      (Writing.execute profile).visits (e.mask k) = (Writing.execute profile).visits e := by
    intro profile hp
    have huse : ∀ i, ((e.mask k).profiles i).inUse = (e.profiles i).inUse := fun i => mask_inUse
    have hidle : (e.mask k).mchMp = e.mchMp := rfl
    simp only [Writing.visits, hp, mask_writes, huse, hidle]
  cases c <;> simp only [SledCall.writings, List.mem_cons, List.not_mem_nil, or_false] at h
  case profileExecute | sinusoidStart =>
    rw [h]
    exact hexecute _ rfl
  case profileWritePendingChanges | sinusoidStop | rsinusoidStop =>
    rw [h]
    exact hwrite _ rfl
  case rsinusoidStart =>
    rcases h with rfl | rfl | rfl | rfl | rfl
    · exact hwrite _ rfl
    · exact hwrite _ rfl
    · exact hwrite _ rfl
    · exact hwrite _ rfl
    · exact hexecute _ rfl

lemma mask_freshWrites (hws : ∀ w ∈ ws, ∀ e : SledEnv, w.visits (e.mask k) = w.visits e) :
    FreshWrites k (s.mask k).env ws ↔ FreshWrites k s.env ws := by
  induction ws generalizing s with
  | nil => exact Iff.rfl
  | cons w ws ih =>
    have hw : w.visits (s.mask k).env = w.visits s.env := hws w List.mem_cons_self s.env
    simp only [FreshWrites, hw]
    refine forall_congr' fun is => forall_congr' fun his => ?_
    have hfresh : (∀ i ∈ is, (s.mask k).env.Fresh k i) ↔ ∀ i ∈ is, s.env.Fresh k i :=
      forall_congr' fun i => forall_congr' fun _ => SledEnv.Fresh.mask_iff
    rw [hfresh]
    refine and_congr_right fun hall => ?_
    rw [← visits_env, ← visits_env, mask_visits (Writing.nodup_visits his) hall]
    exact ih fun v hv => hws v (List.mem_cons_of_mem _ hv)

lemma mask_lastPosition (h : k.position = true) :
    (s.mask k).env.lastPosition = s.env.lastPosition :=
  if_pos h

lemma mask_prepared {c : SledCall} (h : c.readsPosition = true → k.position = true) :
    c.prepared (s.mask k) = (c.prepared s).mask k := by
  cases c with
  | sinusoidStart amplitude period =>
    have hp := h rfl
    simp only [SledCall.prepared, SinusoidCall.setup, SinusoidCall.sinusoidSetup, mask_setTarget,
      mask_setNext, maskResult, mask_lastPosition hp]
    rfl
  | sinusoidStop =>
    simp only [SledCall.prepared, SinusoidCall.setup, mask_setNext, maskResult]
    rfl
  | rsinusoidStart amplitude period =>
    have hp := h rfl
    simp only [SledCall.prepared, SinusoidCall.setup, sledRsinusoidSetup, mask_setTarget,
      mask_setNext, maskResult, mask_lastPosition hp]
    rfl
  | rsinusoidStop =>
    simp only [SledCall.prepared, SinusoidCall.setup, mask_setNext, maskResult]
    rfl
  | _ => rfl

/-- What is known after a call. -/
def Known.afterCall (k : Known) (e : SledEnv) : SledCall → Known
  | .profileCreate | .profileCreatePt _ _ => k.afterCreate e
  | _ => k

/-- A call does not look at what is masked, unless it writes a profile again or reads a position
that has not been reported. -/
lemma mask_call {c : SledCall} (hposition : c.readsPosition = true → k.position = true)
    (hwrites : FreshWrites k (c.prepared s).env c.writings) :
    sledCall (s.mask k) c = (sledCall s c).map (maskResult (k.afterCall s.env c)) := by
  have hprepared := mask_prepared (s := s) hposition
  cases c with
  | profileCreate => exact congrArg Except.ok mask_create
  | profileCreatePt position time => exact congrArg Except.ok (mask_createPt position time)
  | profileDestroy profile => exact congrArg Except.ok (mask_onProfile profile fun _ _ => rfl)
  | profileSetTable profile table => exact congrArg Except.ok (mask_setTable profile table)
  | profileSetTarget profile type position time =>
    exact congrArg Except.ok (mask_setTarget profile type position time)
  | profileSetNext profile nextProfile delay blendType =>
    exact congrArg Except.ok (mask_setNext profile nextProfile delay blendType)
  | profileWritePendingChanges profile => exact mask_writePendingChanges hwrites rfl
  | profileExecute profile => exact mask_execute hwrites rfl
  | profilesReset => exact congrArg Except.ok mask_reset
  | sinusoidStart amplitude period =>
    have hcall : ∀ t : Sled, sledCall t (.sinusoidStart amplitude period) =
        sledProfileExecute
          ((SledCall.sinusoidStart amplitude period).prepared t).env.sinusoidThere
          ((SledCall.sinusoidStart amplitude period).prepared t) := fun _ => rfl
    rw [hcall, hcall, hprepared]
    exact mask_execute hwrites rfl
  | sinusoidStop =>
    have hcall : ∀ t : Sled, sledCall t .sinusoidStop = sledProfileWritePendingChanges
        (SledCall.sinusoidStop.prepared t).env.sinusoidThere (SledCall.sinusoidStop.prepared t) :=
      fun _ => rfl
    rw [hcall, hcall, hprepared]
    exact mask_writePendingChanges hwrites rfl
  | rsinusoidStart amplitude period =>
    show sledRsinusoidStart amplitude period (s.mask k) =
      (sledRsinusoidStart amplitude period s).map (maskResult k)
    have hsetup : sledRsinusoidSetup amplitude period (s.mask k) =
        (sledRsinusoidSetup amplitude period s).mask k := hprepared
    unfold sledRsinusoidStart
    rw [hsetup]
    refine mask_writePendingChanges_bind hwrites rfl fun _ h₁ => ?_
    refine mask_writePendingChanges_bind h₁ rfl fun _ h₂ => ?_
    refine mask_writePendingChanges_bind h₂ rfl fun _ h₃ => ?_
    refine mask_writePendingChanges_bind h₃ rfl fun _ h₄ => ?_
    exact mask_execute h₄ rfl
  | rsinusoidStop =>
    have hcall : ∀ t : Sled, sledCall t .rsinusoidStop = sledProfileWritePendingChanges
        (SledCall.rsinusoidStop.prepared t).env.sinusoidThere (SledCall.rsinusoidStop.prepared t) :=
      fun _ => rfl
    rw [hcall, hcall, hprepared]
    exact mask_writePendingChanges hwrites rfl
  | lightSetState state =>
    simp only [sledCall, sledLightSetState, mask_mchSdo, mchSdoQueueWrite_eq, ok_bind, mask_push]
    split
    · rfl
    · rfl
  | rtNewSetpoint position => rfl

end Calls

end SledServer
