import SledServer.Sled.Events

/-!
# Calls of the library, by what they are made of

A call of the library edits profiles, writes pending changes profile by profile, starts a motion, or
switches the light; nothing else.  `KeptByCalls` lists these four, and a property that survives each
of them survives every call (`KeptByCalls.call`).
-/

namespace SledServer

open SledServer.Core

/-! ## Setters -/

/-- `p'` is `p` with every field marked that has got a new value. -/
structure Marks (p p' : SledProfile) : Prop where
  profile : p'.profile = p.profile
  inUse : p'.inUse = p.inUse
  fields : ∀ f, p'.fieldState f = .changed ∨ (p'.fieldState f = p.fieldState f ∧
    (∀ n, p'.value n f = p.value n f) ∧ (f = .fn → p'.nextProfile = p.nextProfile))

namespace Marks

variable {p p' p'' : SledProfile}

lemma refl (p : SledProfile) : Marks p p :=
  ⟨rfl, rfl, fun _ => .inr ⟨rfl, fun _ => rfl, fun _ => rfl⟩⟩

lemma trans (h : Marks p p') (h' : Marks p' p'') : Marks p p'' := by
  refine ⟨h'.profile.trans h.profile, h'.inUse.trans h.inUse, fun f => ?_⟩
  rcases h'.fields f with hc | ⟨hst, hv, hn⟩
  · exact .inl hc
  · rcases h.fields f with hc | ⟨hst', hv', hn'⟩
    · exact .inl (hst.trans hc)
    · exact .inr ⟨hst.trans hst', fun n => (hv n).trans (hv' n), fun hf => (hn hf).trans (hn' hf)⟩

lemma ite {P : Prop} [Decidable P] (h : Marks p p') : Marks p (if P then p' else p) := by
  split
  · exact h
  · exact refl p

lemma setTable (p : SledProfile) (table : ℤ) : Marks p (p.setTable table) := by
  refine ite ⟨rfl, rfl, fun f => ?_⟩
  cases f <;> simp [SledProfile.setField, SledProfile.value, sledProfileGetControlword]

lemma positionType (p : SledProfile) (type : PositionType) :
    Marks p (if p.positionType ≠ type then
      { p.setField .c .changed with positionType := type } else p) := by
  refine ite ⟨rfl, rfl, fun f => ?_⟩
  cases f <;> simp [SledProfile.setField, SledProfile.value]

lemma position (p : SledProfile) (position : ℚ) :
    Marks p (if p.position ≠ position then
      { p.setField .p .changed with position := position } else p) := by
  refine ite ⟨rfl, rfl, fun f => ?_⟩
  cases f <;> simp [SledProfile.setField, SledProfile.value, sledProfileGetControlword]

lemma time (p : SledProfile) (time : ℚ) :
    Marks p (if p.time ≠ time then
      { (p.setField .acc .changed).setField .dec .changed with time := time } else p) := by
  refine ite ⟨rfl, rfl, fun f => ?_⟩
  cases f <;> simp [SledProfile.setField, SledProfile.value, sledProfileGetControlword]

lemma nextProfile (p : SledProfile) (nextProfile : ℤ) :
    Marks p (if p.nextProfile ≠ nextProfile then
      { (p.setField .c .changed).setField .fn .changed with nextProfile := nextProfile }
      else p) := by
  refine ite ⟨rfl, rfl, fun f => ?_⟩
  cases f <;> simp [SledProfile.setField, SledProfile.value]

lemma delay (p : SledProfile) (delay : ℚ) :
    Marks p (if p.delay ≠ delay then
      { (p.setField .c .changed).setField .ft .changed with delay := delay } else p) := by
  refine ite ⟨rfl, rfl, fun f => ?_⟩
  cases f <;> simp [SledProfile.setField, SledProfile.value]

lemma blendType (p : SledProfile) (blendType : BlendType) :
    Marks p (if p.blendType ≠ blendType then
      { p.setField .c .changed with blendType := blendType } else p) := by
  refine ite ⟨rfl, rfl, fun f => ?_⟩
  cases f <;> simp [SledProfile.setField, SledProfile.value]

lemma setTarget (p : SledProfile) (type : PositionType) (position time : ℚ) :
    Marks p (p.setTarget type position time) :=
  ((positionType p type).trans (Marks.position _ position)).trans (Marks.time _ time)

lemma setNext (p : SledProfile) (nextProfile : ℤ) (delay : ℚ) (blendType : BlendType) :
    Marks p (p.setNext nextProfile delay blendType) :=
  ((Marks.nextProfile p nextProfile).trans (Marks.delay _ delay)).trans
    (Marks.blendType _ blendType)

end Marks

/-- What a call does to a profile that it does not write: each field is marked as changed or left
alone, and a profile that is taken into use has all its fields marked. -/
structure SledProfile.Edited (p p' : SledProfile) : Prop where
  fields : ∀ f, p'.fieldState f = .changed ∨ p'.fieldState f = p.fieldState f
  used : p'.inUse = true → p.inUse = true ∨ ∀ f, p'.fieldState f = .changed

namespace SledProfile.Edited

lemma refl (p : SledProfile) : p.Edited p := ⟨fun _ => .inr rfl, .inl⟩

lemma of_marks {p p' : SledProfile} (h : Marks p p') : p.Edited p' := by
  refine ⟨fun f => ?_, fun huse => .inl (h.inUse ▸ huse)⟩
  exact (h.fields f).imp_right fun hf => hf.1

lemma of_changed {p p' : SledProfile} (h : ∀ f, p'.fieldState f = .changed) : p.Edited p' :=
  ⟨fun f => .inl (h f), fun _ => .inr h⟩

lemma trans {p p' p'' : SledProfile} (h : p.Edited p') (h' : p'.Edited p'') : p.Edited p'' := by
  constructor
  · intro f
    obtain hf | hf := h'.fields f
    · exact .inl hf
    · rw [hf]
      exact h.fields f
  · intro huse
    obtain hused | hall := h'.used huse
    · obtain hused | hall := h.used hused
      · exact .inl hused
      · refine .inr fun f => ?_
        obtain hf | hf := h'.fields f
        · exact hf
        · rw [hf, hall f]
    · exact .inr hall

end SledProfile.Edited

/-! ## Starting a motion -/

/-- The request that switches the light. -/
def lightWrite (state : Bool) : Request sledClient :=
  plainWrite OB_O_O1 0x01 (if state then 0x01 else 0x00) 0x04

/-- The end of a successful `sled_profile_execute`. -/
def Host.launched (s : Sled) (i : Fin MAX_PROFILES) : Sled :=
  ((s.push (motionTask (s.env.profiles i).profile)).push (controlWord 0x3F)).setMpState .ppSpNack

@[simp] lemma launched_env (s : Sled) (i : Fin MAX_PROFILES) :
    (s.launched i).env = { s.env with mchMp := .ppSpNack } := by
  simp [Host.launched, Host.setMpState]

/-- What `EV_MP_SETPOINT_SET` does to an idle motion machine. -/
lemma mpMove_setpointSet {s : Sled} (h : s.env.mchMp = .ppIdle) :
    s.mpMove .setpointSet = s.setMpState .ppSpNack := by
  have hnext : mchMpNextStateGivenEvent .ppIdle .setpointSet = .ppSpNack := by decide
  unfold Host.mpMove
  simp only [h, hnext]
  rfl

@[simp] lemma visits_mchMp (is : List (Fin MAX_PROFILES)) (s : Sled) :
    (is.foldl Host.visit s).env.mchMp = s.env.mchMp := by
  induction is generalizing s with
  | nil => rfl
  | cons i is ih =>
    rw [List.foldl_cons, ih]
    rfl

lemma started_eq {s : Sled} (is : List (Fin MAX_PROFILES)) (i : Fin MAX_PROFILES)
    (hidle : s.env.mchMp = .ppIdle) : s.started is i = (is.foldl Host.visit s).launched i := by
  unfold Host.started Host.launched
  exact mpMove_setpointSet (by simpa using hidle)

/-! ## Calls -/

/-- A property kept by every event of a list is kept by all of them in turn. -/
lemma foldl_keeps {α : Type} {P : Sled → Prop} {f : Sled → α → Sled} {l : List α} {s : Sled}
    (hs : P s) (hf : ∀ t, ∀ a ∈ l, P t → P (f t a)) : P (l.foldl f s) := by
  induction l generalizing s with
  | nil => exact hs
  | cons a l ih =>
    exact ih (hf s a List.mem_cons_self hs) fun t b hb => hf t b (List.mem_cons_of_mem _ hb)

/-- The property survives everything that calls are made of. -/
structure KeptByCalls (I : Sled → Prop) : Prop where
  edit : ∀ s f, (∀ i, (s.env.profiles i).Edited (f i)) → I s → I (s.setProfiles f)
  visit : ∀ s i, I s → I (s.visit i)
  launch : ∀ s i, s.env.mchMp = .ppIdle → I s → I (s.launched i)
  light : ∀ s state, I s → I (s.push (lightWrite state))

namespace KeptByCalls

variable {I : Sled → Prop} {s : Sled} {r : ℤ × Sled}

lemma modifyProfile (h : KeptByCalls I) (hs : I s) (i : Fin MAX_PROFILES)
    {g : SledProfile → SledProfile} (hg : (s.env.profiles i).Edited (g (s.env.profiles i))) :
    I (s.modifyProfile i g) := by
  refine h.edit s _ (fun j => ?_) hs
  by_cases hj : j = i
  · subst hj
    rwa [Function.update_self]
  · rw [Function.update_of_ne hj]
    exact .refl _

lemma onProfile (h : KeptByCalls I) (hs : I s) (id : ℤ) {g : SledProfile → SledProfile}
    (hg : ∀ p : SledProfile, p.Edited (g p)) : I (SledServer.onProfile id g s).2 := by
  unfold SledServer.onProfile
  split
  · exact hs
  · split
    · exact hs
    · exact h.modifyProfile hs _ (hg _)

lemma setTable (h : KeptByCalls I) (hs : I s) (id table : ℤ) :
    I (sledProfileSetTable id table s).2 :=
  h.onProfile hs id fun p => .of_marks (.setTable p table)

lemma setTarget (h : KeptByCalls I) (hs : I s) (id : ℤ) (type : PositionType)
    (position time : ℚ) : I (sledProfileSetTarget id type position time s).2 :=
  h.onProfile hs id fun p => .of_marks (.setTarget p type position time)

lemma setNext (h : KeptByCalls I) (hs : I s) (id nextProfile : ℤ) (delay : ℚ)
    (blendType : BlendType) : I (sledProfileSetNext id nextProfile delay blendType s).2 :=
  h.onProfile hs id fun p => .of_marks (.setNext p nextProfile delay blendType)

lemma create (h : KeptByCalls I) (hs : I s) : I (sledProfileCreate s).2 := by
  cases hfree : freeProfile? s.env.profiles with
  | none =>
    simp only [sledProfileCreate, hfree]
    exact hs
  | some i =>
    rw [sledProfileCreate_of_free hfree]
    exact h.modifyProfile hs i (.of_changed fun f => rfl)

lemma createPt (h : KeptByCalls I) (hs : I s) (position time : ℚ) :
    I (sledProfileCreatePt position time s).2 := by
  simp only [sledProfileCreatePt]
  split
  · dsimp only
    refine h.modifyProfile (h.create hs) _ ⟨fun _ => .inr ?_, fun huse => .inl ?_⟩
    · rfl
    · exact huse
  · exact h.create hs

lemma reset (h : KeptByCalls I) (hs : I s) : I (sledProfilesReset s).2 := by
  refine h.edit s _ (fun i => ?_) hs
  split
  · exact .of_changed fun f => rfl
  · exact .refl _

lemma visits (h : KeptByCalls I) (hs : I s) (is : List (Fin MAX_PROFILES)) :
    I (is.foldl Host.visit s) :=
  foldl_keeps hs fun t i _ => h.visit t i

lemma writePendingChanges (h : KeptByCalls I) (hs : I s) {id : ℤ}
    (hr : sledProfileWritePendingChanges id s = .ok r) : I r.2 := by
  obtain ⟨is, -, rfl⟩ := sledProfileWritePendingChanges_ok hr
  exact h.visits hs is

lemma execute (h : KeptByCalls I) (hs : I s) {id : ℤ} (hr : sledProfileExecute id s = .ok r) :
    I r.2 := by
  obtain rfl | ⟨i, is, -, -, hidle, -, rfl⟩ := sledProfileExecute_ok hr
  · exact hs
  · simp only [started_eq is i hidle]
    exact h.launch _ i (by rw [visits_mchMp, hidle]) (h.visits hs is)

lemma lightSetState (h : KeptByCalls I) (hs : I s) {state : Bool}
    (hr : sledLightSetState state s = .ok r) : I r.2 := by
  unfold sledLightSetState at hr
  split at hr
  · cases hr
    exact hs
  · simp only [mchSdoQueueWrite_eq, ok_bind, Except.ok.injEq] at hr
    rw [← hr]
    exact h.light s state hs

/-- A property that survives everything that calls are made of survives every call. -/
lemma call (h : KeptByCalls I) (hs : I s) {c : SledCall} (hr : sledCall s c = .ok r) : I r.2 := by
  cases c with
  | profileCreate =>
    cases hr
    exact h.create hs
  | profileCreatePt position time =>
    cases hr
    exact h.createPt hs position time
  | profileDestroy =>
    cases hr
    exact h.onProfile hs _ fun p => ⟨fun _ => .inr rfl, nofun⟩
  | profileSetTable =>
    cases hr
    exact h.setTable hs _ _
  | profileSetTarget =>
    cases hr
    exact h.setTarget hs _ _ _ _
  | profileSetNext =>
    cases hr
    exact h.setNext hs _ _ _ _
  | profileWritePendingChanges => exact h.writePendingChanges hs hr
  | profileExecute => exact h.execute hs hr
  | profilesReset =>
    cases hr
    exact h.reset hs
  | sinusoidStart =>
    exact h.execute (h.setNext (h.setNext (h.setTarget (h.setTarget hs _ _ _ _) _ _ _ _) _ _ _ _)
      _ _ _ _) hr
  | sinusoidStop => exact h.writePendingChanges (h.setNext (h.setNext hs _ _ _ _) _ _ _ _) hr
  | rsinusoidStart amplitude period =>
    have hsetup : I (sledRsinusoidSetup amplitude period s) :=
      h.setNext (h.setNext (h.setNext (h.setTarget (h.setTarget (h.setTarget (h.setTarget hs
        _ _ _ _) _ _ _ _) _ _ _ _) _ _ _ _) _ _ _ _) _ _ _ _) _ _ _ _
    obtain ⟨r₁, h₁, hr⟩ := bind_eq_ok.mp hr
    obtain ⟨r₂, h₂, hr⟩ := bind_eq_ok.mp hr
    obtain ⟨r₃, h₃, hr⟩ := bind_eq_ok.mp hr
    obtain ⟨r₄, h₄, hr⟩ := bind_eq_ok.mp hr
    exact h.execute (h.writePendingChanges (h.writePendingChanges (h.writePendingChanges
      (h.writePendingChanges hsetup h₁) h₂) h₃) h₄) hr
  | rsinusoidStop => exact h.writePendingChanges (h.setNext hs _ _ _ _) hr
  | lightSetState => exact h.lightSetState hs hr
  | rtNewSetpoint =>
    cases hr
    exact hs

end KeptByCalls

end SledServer
