import SledServer.Core.FirstFit
import SledServer.Sled.Contents
import SledServer.Sled.Shape
import SledServer.Sled.Sinusoid

/-!
# The profile table hands out its slots first-fit

`sled_profile_create` gives a caller a profile of its own.  Over a run of the sled the profiles that
are in use, and what the calls that create one return, are those of `Core.Slots`, a table that does
nothing else: no report of the drive, loss of the network or other call of the library makes a
profile change hands (`profiles_first_fit`, `profile_kept`).
-/

namespace SledServer

open SledServer.Core

/-! ## The table -/

/-- The profiles that are in use. -/
def SledEnv.used (e : SledEnv) : Finset (Fin MAX_PROFILES) :=
  Finset.univ.filter fun i => (e.profiles i).inUse = true

@[simp] lemma SledEnv.mem_used {e : SledEnv} {i : Fin MAX_PROFILES} :
    i ∈ e.used ↔ (e.profiles i).inUse = true := by
  simp [used]

/-- The operation on the table that a call stands for. -/
def SledCall.slotOp? : SledCall → Option (SlotOp (Fin MAX_PROFILES))
  | .profileCreate => some .take
  | .profileCreatePt _ _ => some .take
  | .profileDestroy profile => (profileIndex? profile).map .release
  | _ => none

def SledEvent.slotOp? : SledEvent → Option (SlotOp (Fin MAX_PROFILES))
  | .call c => c.slotOp?
  | _ => none

/-- What a call that creates a profile returns. -/
def SledEvent.created? (s : Sled) : SledEvent → Option ℤ
  | .call .profileCreate => some (sledProfileCreate s).1
  | .call (.profileCreatePt position time) => some (sledProfileCreatePt position time s).1
  | _ => none

/-- The handle of a profile. -/
def handle : Option (Fin MAX_PROFILES) → ℤ
  | some i => (i : ℕ)
  | none => -1

/-! ## Calls -/

section Calls

variable {s t : Sled} {i : Fin MAX_PROFILES}

lemma used_congr {e e' : SledEnv} (h : ∀ j, (e'.profiles j).inUse = (e.profiles j).inUse) :
    e'.used = e.used := by
  ext j
  simp [h j]

lemma freeProfile?_eq (e : SledEnv) : freeProfile? e.profiles = Slots.free? e.used := by
  cases hfree : Slots.free? e.used with
  | some i =>
    obtain ⟨hi, hlt⟩ := Slots.free?_eq_some.mp hfree
    exact freeProfile?_eq_some (by simpa using hi) fun j hj => by simpa using hlt j hj
  | none =>
    have hall := Slots.free?_eq_none.mp hfree
    refine List.find?_eq_none.mpr fun i _ => ?_
    have hi : i ∈ e.used := hall ▸ Finset.mem_univ i
    simpa using hi

lemma used_modifyProfile {g : SledProfile → SledProfile}
    (hg : (g (s.env.profiles i)).inUse = (s.env.profiles i).inUse) :
    (s.modifyProfile i g).env.used = s.env.used := by
  refine used_congr fun j => ?_
  by_cases hj : j = i
  · subst hj
    simpa [Host.modifyProfile, Host.setProfiles] using hg
  · simp [Host.modifyProfile, Host.setProfiles, hj]

lemma used_onProfile {id : ℤ} {g : SledProfile → SledProfile}
    (hg : ∀ p : SledProfile, (g p).inUse = p.inUse) :
    (onProfile id g s).2.env.used = s.env.used := by
  unfold onProfile
  split
  · rfl
  · split
    · rfl
    · exact used_modifyProfile (hg _)

lemma used_setTable (id table : ℤ) (s : Sled) :
    (sledProfileSetTable id table s).2.env.used = s.env.used :=
  used_onProfile fun p => (Marks.setTable p table).inUse

lemma used_setTarget (id : ℤ) (type : PositionType) (position time : ℚ) (s : Sled) :
    (sledProfileSetTarget id type position time s).2.env.used = s.env.used :=
  used_onProfile fun p => (Marks.setTarget p type position time).inUse

lemma used_setNext (id nextProfile : ℤ) (delay : ℚ) (blendType : BlendType) (s : Sled) :
    (sledProfileSetNext id nextProfile delay blendType s).2.env.used = s.env.used :=
  used_onProfile fun p => (Marks.setNext p nextProfile delay blendType).inUse

lemma used_write {id : ℤ} {r : ℤ × Sled} (hr : sledProfileWritePendingChanges id s = .ok r) :
    r.2.env.used = s.env.used := by
  obtain ⟨is, -, rfl⟩ := sledProfileWritePendingChanges_ok hr
  refine foldl_keeps (P := fun t : Sled => t.env.used = s.env.used) rfl fun t i _ ht => ?_
  exact (used_congr fun j => (visit_profile_contents t.env i j).2.2.1).trans ht

lemma used_execute {id : ℤ} {r : ℤ × Sled} (hr : sledProfileExecute id s = .ok r) :
    r.2.env.used = s.env.used := by
  obtain rfl | ⟨i, is, -, -, hidle, hwrites, rfl⟩ := sledProfileExecute_ok hr
  · rfl
  · have hwrite : sledProfileWritePendingChanges id s = .ok (0, is.foldl Host.visit s) := by
      rw [sledProfileWritePendingChanges_eq, hwrites]
      rfl
    rw [started_eq is i hidle, launched_env]
    exact used_write hwrite

/-- `sled_profile_create` takes the least slot. -/
lemma used_create (s : Sled) :
    (sledProfileCreate s).2.env.used = Slots.step s.env.used .take ∧
      (sledProfileCreate s).1 = handle (Slots.free? s.env.used) := by
  rw [Slots.step, ← freeProfile?_eq]
  cases hfree : freeProfile? s.env.profiles with
  | none =>
    simp only [sledProfileCreate, hfree]
    exact ⟨rfl, rfl⟩
  | some i =>
    rw [sledProfileCreate_of_free hfree]
    refine ⟨?_, rfl⟩
    ext j
    by_cases hj : j = i
    · subst hj
      simp [Host.modifyProfile, Host.setProfiles, SledProfile.created]
    · simp [Host.modifyProfile, Host.setProfiles, hj]

lemma used_createPt (position time : ℚ) (s : Sled) :
    (sledProfileCreatePt position time s).2.env.used = Slots.step s.env.used .take ∧
      (sledProfileCreatePt position time s).1 = handle (Slots.free? s.env.used) := by
  obtain ⟨hused, hhandle⟩ := used_create s
  simp only [sledProfileCreatePt, hhandle]
  cases Slots.free? s.env.used with
  | none => exact ⟨hused, rfl⟩
  | some i =>
    simp only [handle, profileIndex?_natCast]
    exact ⟨(used_modifyProfile rfl).trans hused, trivial⟩

/-- `sled_profile_destroy` releases the slot, which may have been free before. -/
lemma used_destroy (profile : ℤ) (s : Sled) :
    (sledProfileDestroy profile s).2.env.used =
      ((profileIndex? profile).map .release).elim s.env.used (Slots.step s.env.used) := by
  unfold sledProfileDestroy onProfile
  cases profileIndex? profile with
  | none => rfl
  | some i =>
    dsimp only [Option.map_some, Option.elim_some, Slots.step]
    split
    · next hfree =>
      have hi : i ∉ s.env.used := by simpa using hfree
      exact (Finset.erase_eq_of_notMem hi).symm
    · ext j
      by_cases hj : j = i
      · subst hj
        simp [Host.modifyProfile, Host.setProfiles]
      · simp [Host.modifyProfile, Host.setProfiles, hj]

/-- What a call does to the table. -/
lemma used_call {c : SledCall} {r : ℤ × Sled} (hr : sledCall s c = .ok r) :
    r.2.env.used = c.slotOp?.elim s.env.used (Slots.step s.env.used) := by
  cases c with
  | profileCreate =>
    cases hr
    exact (used_create s).1
  | profileCreatePt position time =>
    cases hr
    exact (used_createPt position time s).1
  | profileDestroy profile =>
    cases hr
    exact used_destroy profile s
  | profileSetTable =>
    cases hr
    exact used_setTable _ _ s
  | profileSetTarget =>
    cases hr
    exact used_setTarget _ _ _ _ s
  | profileSetNext =>
    cases hr
    exact used_setNext _ _ _ _ s
  | profileWritePendingChanges => exact used_write hr
  | profileExecute => exact used_execute hr
  | profilesReset =>
    cases hr
    refine used_congr fun i => ?_
    change (if (s.env.profiles i).inUse then _ else _ : SledProfile).inUse = _
    split <;> rfl
  | sinusoidStart =>
    refine (used_execute hr).trans ?_
    simp only [used_setNext, used_setTarget]
    rfl
  | sinusoidStop =>
    refine (used_write hr).trans ?_
    simp only [used_setNext]
    rfl
  | rsinusoidStart =>
    obtain ⟨r₁, h₁, hr⟩ := bind_eq_ok.mp hr
    obtain ⟨r₂, h₂, hr⟩ := bind_eq_ok.mp hr
    obtain ⟨r₃, h₃, hr⟩ := bind_eq_ok.mp hr
    obtain ⟨r₄, h₄, hr⟩ := bind_eq_ok.mp hr
    rw [used_execute hr, used_write h₄, used_write h₃, used_write h₂, used_write h₁]
    simp only [sledRsinusoidSetup, used_setNext, used_setTarget]
    rfl
  | rsinusoidStop =>
    refine (used_write hr).trans ?_
    simp only [used_setNext]
    rfl
  | lightSetState state =>
    simp only [sledCall, sledLightSetState] at hr
    split at hr
    · cases hr
      rfl
    · simp only [mchSdoQueueWrite_eq, ok_bind, Except.ok.injEq] at hr
      rw [← hr, Host.push_env]
      rfl
  | rtNewSetpoint =>
    cases hr
    rfl

end Calls

/-! ## Steps and runs -/

lemma used_of_kept {e e' : SledEnv} (h : e.Kept e') : e'.used = e.used := by
  refine used_congr fun i => ?_
  obtain ⟨st, hst⟩ := h.profiles i
  rw [hst]

lemma used_step {s t : Sled} {e : SledEvent} (h : sledStep s e = .ok t) :
    t.env.used = e.slotOp?.elim s.env.used (Slots.step s.env.used) := by
  cases e with
  | read o now r =>
    have hread := sledStep_read h
    split at hread
    · obtain ⟨v, henv⟩ := hread
      rw [henv]
      rfl
    · exact used_of_kept hread
  | watchdog now => exact used_of_kept (kept_watchdog h)
  | call c =>
    obtain ⟨r, hr, hend⟩ := bind_eq_ok.mp h
    cases hend
    exact used_call hr

/-- What is returned is what the table hands out. -/
lemma created?_eq (s : Sled) (e : SledEvent) :
    e.created? s = (e.slotOp?.bind (Slots.hands? s.env.used)).map handle := by
  cases e with
  | read | watchdog => rfl
  | call c =>
    cases c with
    | profileCreate => exact congrArg some (used_create s).2
    | profileCreatePt position time => exact congrArg some (used_createPt position time s).2
    | profileDestroy profile =>
      simp only [SledEvent.created?, SledEvent.slotOp?, SledCall.slotOp?]
      cases profileIndex? profile <;> rfl
    | _ => rfl

/-- The four profiles of the sinusoid have been created. -/
lemma used_sledCreateProfiles (s : Sled) :
    (sledCreateProfiles s).env.used = ({0, 1, 2, 3} : Finset (Fin MAX_PROFILES)) := by
  rw [sledCreateProfiles_eq]
  simp only [Host.linkSinusoid, used_setNext, used_setTable]
  ext i
  rw [SledEnv.mem_used, (stage_withSinusoid s).inUse i]
  revert i
  decide

lemma used_sledCreate {mem : SledEnv} {now : ℚ} {o : CanOutcome} {s : Sled}
    (h : sledCreate mem now o = .ok s) :
    s.env.used = ({0, 1, 2, 3} : Finset (Fin MAX_PROFILES)) := by
  have hstores : Stores (fun _ => False) (sledAlloc mem now)
      (sledCreateProfiles (sledAlloc mem now)) := Stores.createProfiles (.refl _)
  have henv := hstores.env_rel SledEnv.SameModes.refl fun _ _ _ => .trans
  have hused := used_sledCreateProfiles (sledAlloc mem now)
  obtain ⟨intf, -, hend⟩ := sledCreate_ok h henv.intf hstores.silent.2
  generalize sledCreateProfiles (sledAlloc mem now) = t at hused hend
  obtain rfl | hopen := hend
  · exact hused
  · exact (used_of_kept (kept_netEvent hopen)).trans hused

/-- The operations on the table in a run. -/
def slotOps (es : List SledEvent) : List (SlotOp (Fin MAX_PROFILES)) :=
  es.filterMap SledEvent.slotOp?

/-- What the calls that create a profile return in the course of a run. -/
def createdIn (s : Sled) (es : List SledEvent) : List ℤ :=
  observed sledStep (fun s e => e.created? s) s es

/-- From any state on, the table goes its own way. -/
lemma slots_run {s t : Sled} {es : List SledEvent} (h : run sledStep s es = .ok t) :
    t.env.used = Slots.after s.env.used (slotOps es) ∧
      createdIn s es = (Slots.handed s.env.used (slotOps es)).map handle := by
  induction es using List.reverseRecOn generalizing t with
  | nil =>
    cases h
    exact ⟨rfl, rfl⟩
  | append_singleton es e ih =>
    obtain ⟨u, hu, hlast⟩ := run_append_ok.mp h
    obtain ⟨v, hv, ht⟩ := run_cons_ok.mp hlast
    cases ht
    obtain ⟨hused, hcreated⟩ := ih hu
    have hops : slotOps (es ++ [e]) = slotOps es ++ e.slotOp?.toList := by
      rw [slotOps, List.filterMap_append, slotOps]
      cases hop : e.slotOp? <;> simp [hop]
    rw [hops, Slots.after_append, Slots.handed_append, List.map_append, ← hused, ← hcreated,
      createdIn, observed_concat hu, created?_eq, used_step hv]
    cases e.slotOp? with
    | none => exact ⟨rfl, rfl⟩
    | some op =>
      refine ⟨rfl, ?_⟩
      cases op <;> rfl

/-- **The profile table is a first-fit table of 99 slots**, of which the sinusoid has the first
four.  In every run, the profiles in use and what the calls that create one return, -1 included, are
those of such a table, whatever else happens in between. -/
theorem profiles_first_fit {mem : SledEnv} {now : ℚ} {o : CanOutcome} {es : List SledEvent}
    {s₀ s : Sled} (hstart : sledCreate mem now o = .ok s₀) (hrun : run sledStep s₀ es = .ok s) :
    s.env.used = Slots.after {0, 1, 2, 3} (slotOps es) ∧
      createdIn s₀ es = (Slots.handed {0, 1, 2, 3} (slotOps es)).map handle := by
  have hslots := slots_run hrun
  rwa [used_sledCreate hstart] at hslots

/-- **A profile belongs to whom it has been given.**  From when a call has returned a profile until
it is destroyed, whatever happens, the profile stays in use and no other call returns it. -/
theorem profile_kept {es : List SledEvent} {s t u : Sled} {e : SledEvent} {i : Fin MAX_PROFILES}
    (hcreated : e.created? s = some ((i : ℕ) : ℤ)) (hstep : sledStep s e = .ok t)
    (hrun : run sledStep t es = .ok u) (hdestroy : .release i ∉ slotOps es) :
    (u.env.profiles i).inUse = true ∧ ((i : ℕ) : ℤ) ∉ createdIn t es := by
  have hinj : ∀ x, handle x = ((i : ℕ) : ℤ) → x = some i := by
    intro x hx
    cases x with
    | none => simp [handle] at hx
    | some j => exact congrArg some (Fin.ext (Int.ofNat.inj hx))
  have htaken : i ∈ t.env.used := by
    rw [created?_eq] at hcreated
    obtain ⟨x, hx, hhandle⟩ := Option.map_eq_some_iff.mp hcreated
    obtain ⟨op, hop, hhands⟩ := Option.bind_eq_some_iff.mp hx
    rw [hinj x hhandle] at hhands
    rw [used_step hstep, hop]
    cases op with
    | take =>
      rw [Option.elim_some, Slots.step, Option.some.inj hhands]
      exact Finset.mem_insert_self i _
    | release j => cases hhands
  obtain ⟨hused, hreturned⟩ := slots_run hrun
  obtain ⟨hmem, hnot⟩ := Slots.kept htaken hdestroy
  rw [← hused, SledEnv.mem_used] at hmem
  refine ⟨hmem, fun h => ?_⟩
  rw [hreturned] at h
  obtain ⟨x, hx, hhandle⟩ := List.mem_map.mp h
  exact hnot (hinj x hhandle ▸ hx)

/-- The network comes up while the profile is in use. -/
def afterwards : List SledEvent := networkUp ++ [.call .profileCreate]

theorem profile_kept_afterwards :
    ∃ s t u, sledCreate someMemory 0 ⟨.success, true⟩ = .ok s ∧
      sledStep s (.call .profileCreate) = .ok t ∧ run sledStep t afterwards = .ok u ∧
      (u.env.profiles 4).inUse = true ∧ (4 : ℤ) ∉ createdIn t afterwards := by
  obtain ⟨u, hu, -⟩ := exists_of_okAnd (p := fun _ : Sled => true)
    (x := sledRun someMemory 0 ⟨.success, true⟩ (.call .profileCreate :: afterwards))
    (by decide +kernel)
  obtain ⟨s, hs, hrun⟩ := sledRun_ok.mp hu
  obtain ⟨t, ht, hrun⟩ := run_cons_ok.mp hrun
  obtain ⟨s', hs', hcreated⟩ := exists_of_okAnd
    (p := fun s : Sled => SledEvent.created? s (.call .profileCreate) == some 4)
    (x := sledCreate someMemory 0 ⟨.success, true⟩) (by decide +kernel)
  cases hs.symm.trans hs'
  exact ⟨s, t, u, hs, ht, hrun,
    profile_kept (i := 4) (by simpa using hcreated) ht hrun (by decide +kernel)⟩

/-- A profile is created and destroyed, and its slot is created again; the network comes up in
between. -/
def reused : List SledEvent :=
  .call .profileCreate :: .call (.profileDestroy 4) :: networkUp ++
    [.call (.profileCreatePt 1 2), .call .profileCreate, .call (.profileDestroy 200)]

theorem profiles_first_fit_reused :
    ∃ s₀ s, sledCreate someMemory 0 ⟨.success, true⟩ = .ok s₀ ∧ run sledStep s₀ reused = .ok s ∧
      createdIn s₀ reused = [4, 4, 5] ∧
      s.env.used = Slots.after {0, 1, 2, 3} (slotOps reused) ∧
      createdIn s₀ reused = (Slots.handed {0, 1, 2, 3} (slotOps reused)).map handle := by
  obtain ⟨s, hs, -⟩ := exists_of_okAnd (p := fun _ : Sled => true)
    (x := sledRun someMemory 0 ⟨.success, true⟩ reused) (by decide +kernel)
  obtain ⟨s₀, hs₀, hrun⟩ := sledRun_ok.mp hs
  obtain ⟨t, ht, hcreated⟩ := exists_of_okAnd
    (p := fun s₀ : Sled => createdIn s₀ reused == [4, 4, 5])
    (x := sledCreate someMemory 0 ⟨.success, true⟩) (by decide +kernel)
  cases hs₀.symm.trans ht
  exact ⟨s₀, s, hs₀, hrun, by simpa using hcreated, profiles_first_fit hs₀ hrun⟩

end SledServer
