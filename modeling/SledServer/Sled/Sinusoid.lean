import SledServer.Sled.Flush
import SledServer.Sled.Steps

/-!
# The profiles of the sinusoid

`sled_create` sets aside four profiles for the sinusoid: `there` and `back`, which are linked to
each other while the sled moves, and `rthere` and `rback`, which lead into this loop and out of it.
Starting and stopping changes targets and links and then writes some of the profiles.

`Setter` says what the first part of such a call does, and `SinusoidCall.outcome` what the call as
a whole does.
-/

namespace SledServer

open SledServer.Core

/-! ## Setters -/

/-- `p'` is `p` with some fields marked as changed; a change of the link marks the fields that
depend on it. -/
structure Touched (p p' : SledProfile) : Prop where
  profile : p'.profile = p.profile
  inUse : p'.inUse = p.inUse
  neverSent : p'.neverSent = p.neverSent
  fields : ∀ f, p'.fieldState f = .changed ∨ p'.fieldState f = p.fieldState f
  next : p'.nextProfile = p.nextProfile ∨ p'.fieldState .c = .changed ∧ p'.fieldState .fn = .changed

namespace Touched

variable {p p' p'' : SledProfile}

lemma refl (p : SledProfile) : Touched p p := ⟨rfl, rfl, rfl, fun _ => .inr rfl, .inl rfl⟩

lemma changed_of_changed (h : Touched p p') {f : Field} (hf : p.fieldState f = .changed) :
    p'.fieldState f = .changed := by
  rcases h.fields f with hc | hc
  · exact hc
  · rw [hc, hf]

lemma trans (h : Touched p p') (h' : Touched p' p'') : Touched p p'' := by
  refine ⟨h'.profile.trans h.profile, h'.inUse.trans h.inUse, h'.neverSent.trans h.neverSent,
    fun f => ?_, ?_⟩
  · rcases h'.fields f with hc | hc
    · exact .inl hc
    · rw [hc]
      exact h.fields f
  · rcases h'.next with hn | hn
    · rcases h.next with hn' | hn'
      · exact .inl (hn.trans hn')
      · exact .inr ⟨h'.changed_of_changed hn'.1, h'.changed_of_changed hn'.2⟩
    · exact .inr hn

lemma unsaved (p : SledProfile) : Touched p (sledProfileMarkAsUnsaved p) :=
  ⟨rfl, rfl, rfl, fun _ => .inl rfl, .inl rfl⟩

lemma setTable (p : SledProfile) (table : ℤ) : Touched p (p.setTable table) := by
  unfold SledProfile.setTable
  split
  · refine ⟨rfl, rfl, rfl, fun f => ?_, .inl rfl⟩
    by_cases hf : f = .tab <;> simp [SledProfile.setField, hf]
  · exact refl p

lemma setTarget (p : SledProfile) (type : PositionType) (position time : ℚ) :
    Touched p (p.setTarget type position time) := by
  refine ⟨?_, setTarget_inUse p type position time, ?_, fun f => ?_, .inl ?_⟩ <;>
    simp only [SledProfile.setTarget, SledProfile.setField]
  · split_ifs <;> rfl
  · split_ifs <;> rfl
  · split_ifs <;> cases f <;> simp
  · split_ifs <;> rfl

lemma setNext (p : SledProfile) (nextProfile : ℤ) (delay : ℚ) (blendType : BlendType) :
    Touched p (p.setNext nextProfile delay blendType) := by
  refine ⟨?_, ?_, ?_, fun f => ?_, ?_⟩ <;>
    simp only [SledProfile.setNext, SledProfile.setField]
  · split_ifs <;> rfl
  · split_ifs <;> rfl
  · split_ifs <;> rfl
  · split_ifs <;> cases f <;> simp
  · split_ifs <;> simp

end Touched

lemma setTable_nextProfile (p : SledProfile) (table : ℤ) :
    (p.setTable table).nextProfile = p.nextProfile := by
  unfold SledProfile.setTable
  split <;> rfl

lemma setTarget_nextProfile (p : SledProfile) (type : PositionType) (position time : ℚ) :
    (p.setTarget type position time).nextProfile = p.nextProfile := by
  simp only [SledProfile.setTarget, SledProfile.setField]
  split_ifs <;> rfl

lemma setNext_nextProfile (p : SledProfile) (nextProfile : ℤ) (delay : ℚ)
    (blendType : BlendType) :
    (p.setNext nextProfile delay blendType).nextProfile = nextProfile := by
  simp only [SledProfile.setNext, SledProfile.setField]
  split_ifs <;> simp_all

/-- The profiles of the sinusoid are the first four, and in use. -/
structure Registered (e : SledEnv) : Prop where
  there : e.sinusoidThere = 0
  rthere : e.sinusoidRthere = 1
  back : e.sinusoidBack = 2
  rback : e.sinusoidRback = 3
  inUse : ∀ i : Fin MAX_PROFILES, (i : ℕ) < 4 → (e.profiles i).inUse = true

lemma Registered.visits {s : Sled} (h : Registered s.env) (is : List (Fin MAX_PROFILES)) :
    Registered (is.foldl Host.visit s).env := by
  induction is generalizing s with
  | nil => exact h
  | cons i is ih =>
    refine ih (s := s.visit i) ⟨h.there, h.rthere, h.back, h.rback, fun j hj => ?_⟩
    exact ((visit_profile_contents s.env i j).2.2.1).trans (h.inUse j hj)

/-- What a series of setters on the profiles of the sinusoid does, which leaves the links `next`. -/
structure Setter (s t : Sled) (next : Fin MAX_PROFILES → ℤ) : Prop where
  registered : Registered t.env
  touched : ∀ i, Touched (s.env.profiles i) (t.env.profiles i)
  next : ∀ i, (t.env.profiles i).nextProfile = next i
  stores : Stores (fun _ => False) s t
  mchMp : t.env.mchMp = s.env.mchMp
  currentProfile : t.env.currentProfile = s.env.currentProfile

namespace Setter

variable {s t : Sled} {next : Fin MAX_PROFILES → ℤ}

lemma refl (h : Registered s.env) : Setter s s fun i => (s.env.profiles i).nextProfile :=
  ⟨h, fun _ => .refl _, fun _ => rfl, .refl s, rfl, rfl⟩

lemma onProfile (h : Setter s t next) {i : Fin MAX_PROFILES} (hi : (i : ℕ) < 4)
    {g : SledProfile → SledProfile} (hg : ∀ p, Touched p (g p)) {next' : Fin MAX_PROFILES → ℤ}
    (hnext : ∀ j, (Function.update t.env.profiles i (g (t.env.profiles i)) j).nextProfile =
      next' j) : Setter s (onProfile (i : ℕ) g t).2 next' := by
  rw [onProfile_of_inUse (h.registered.inUse i hi)]
  have htouched : ∀ j, Touched (t.env.profiles j)
      (Function.update t.env.profiles i (g (t.env.profiles i)) j) := by
    intro j
    by_cases hj : j = i
    · subst hj
      simpa using hg _
    · simpa [hj] using Touched.refl _
  have hreg := h.registered
  refine ⟨⟨hreg.there, hreg.rthere, hreg.back, hreg.rback, fun j hj => ?_⟩,
    fun j => (h.touched j).trans (htouched j), hnext, h.stores.modifyProfile i g, h.mchMp,
    h.currentProfile⟩
  exact (htouched j).inUse.trans (hreg.inUse j hj)

lemma setTarget (h : Setter s t next) {i : Fin MAX_PROFILES} {id : ℤ} (hi : (i : ℕ) < 4)
    (hid : id = (i : ℕ)) (type : PositionType) (position time : ℚ) :
    Setter s (sledProfileSetTarget id type position time t).2 next := by
  rw [hid]
  refine h.onProfile hi (fun p => .setTarget p type position time) fun j => ?_
  by_cases hj : j = i
  · subst hj
    simp [setTarget_nextProfile, h.next]
  · simp [hj, h.next]

lemma setTable (h : Setter s t next) {i : Fin MAX_PROFILES} {id : ℤ} (hi : (i : ℕ) < 4)
    (hid : id = (i : ℕ)) (table : ℤ) : Setter s (sledProfileSetTable id table t).2 next := by
  rw [hid]
  refine h.onProfile hi (fun p => .setTable p table) fun j => ?_
  by_cases hj : j = i
  · subst hj
    simp [setTable_nextProfile, h.next]
  · simp [hj, h.next]

lemma setNext (h : Setter s t next) {i : Fin MAX_PROFILES} {id nextProfile n : ℤ}
    (hi : (i : ℕ) < 4) (hid : id = (i : ℕ)) (hn : nextProfile = n) (delay : ℚ)
    (blendType : BlendType) :
    Setter s (sledProfileSetNext id nextProfile delay blendType t).2
      (Function.update next i n) := by
  rw [hid, hn]
  refine h.onProfile hi (fun p => .setNext p n delay blendType) fun j => ?_
  by_cases hj : j = i
  · subst hj
    simp [setNext_nextProfile]
  · simp [hj, h.next]

end Setter

/-! ## Calls -/

/-- The calls that start and stop the sinusoid. -/
inductive SinusoidCall
  | start (amplitude period : ℚ)
  | stop
  | rstart (amplitude period : ℚ)
  | rstop

namespace SinusoidCall

/-- The call. -/
def toSledCall : SinusoidCall → SledCall
  | start amplitude period => .sinusoidStart amplitude period
  | stop => .sinusoidStop
  | rstart amplitude period => .rsinusoidStart amplitude period
  | rstop => .rsinusoidStop

/-- The call is one that stops. -/
def isStop : SinusoidCall → Bool
  | start _ _ | rstart _ _ => false
  | stop | rstop => true

/-- The part of `sled_sinusoid_start` that sets up the profiles. -/
def sinusoidSetup (amplitude period : ℚ) (s : Sled) : Sled :=
  let s := (sledProfileSetTarget s.env.sinusoidThere .posAbsolute
    (s.env.lastPosition + amplitude * 2) (period / 2) s).2
  let s := (sledProfileSetTarget s.env.sinusoidBack .posAbsolute
    s.env.lastPosition (period / 2) s).2
  let s := (sledProfileSetNext s.env.sinusoidThere s.env.sinusoidBack 0 .blnAfter s).2
  (sledProfileSetNext s.env.sinusoidBack s.env.sinusoidThere 0 .blnAfter s).2

/-- The first part of the call: targets and links are set. -/
def setup (s : Sled) : SinusoidCall → Sled
  | start amplitude period => sinusoidSetup amplitude period s
  | stop =>
    let s := (sledProfileSetNext s.env.sinusoidThere (-1) 0 .blnAfter s).2
    (sledProfileSetNext s.env.sinusoidBack (-1) 0 .blnAfter s).2
  | rstart amplitude period => sledRsinusoidSetup amplitude period s
  | rstop => (sledProfileSetNext s.env.sinusoidThere s.env.sinusoidRback 0 .blnAfter s).2

/-- The profiles that the second part of the call writes, in turn.  `sled_sinusoid_start` writes
nothing unless the sled is idle. -/
def written (e : SledEnv) : SinusoidCall → List ℤ
  | start _ _ => if e.mchMp = .ppIdle then [0] else []
  | stop | rstop => [0]
  | rstart _ _ => [1, 0, 2, 3]

/-- The profile that the call executes. -/
def executed : SinusoidCall → Option (Fin MAX_PROFILES)
  | start _ _ => some 0
  | rstart _ _ => some 1
  | stop | rstop => none

/-- The links that the first part of the call leaves. -/
def links (next : Fin MAX_PROFILES → ℤ) : SinusoidCall → Fin MAX_PROFILES → ℤ
  | start _ _ => Function.update (Function.update next 0 2) 2 0
  | stop => Function.update (Function.update next 0 (-1)) 2 (-1)
  | rstart _ _ => Function.update (Function.update (Function.update next 1 2) 0 2) 2 0
  | rstop => Function.update next 0 3

section Setup

variable {s : Sled} (h : Registered s.env)

include h

lemma sinusoidSetup_setter (amplitude period : ℚ) :
    Setter s (sinusoidSetup amplitude period s)
      (Function.update (Function.update (fun i => (s.env.profiles i).nextProfile) 0 2) 2 0) := by
  unfold sinusoidSetup
  extract_lets s₁ s₂ s₃
  have hs₁ : Setter s s₁ _ :=
    (Setter.refl h).setTarget (i := 0) (by decide) h.there .posAbsolute _ (period / 2)
  have hs₂ : Setter s s₂ _ :=
    hs₁.setTarget (i := 2) (by decide) hs₁.registered.back .posAbsolute _ (period / 2)
  have hs₃ : Setter s s₃ _ :=
    hs₂.setNext (i := 0) (by decide) hs₂.registered.there hs₂.registered.back 0 .blnAfter
  exact hs₃.setNext (i := 2) (by decide) hs₃.registered.back hs₃.registered.there 0 .blnAfter

lemma rsinusoidSetup_setter (amplitude period : ℚ) :
    Setter s (sledRsinusoidSetup amplitude period s)
      (Function.update (Function.update (Function.update
        (fun i => (s.env.profiles i).nextProfile) 1 2) 0 2) 2 0) := by
  unfold sledRsinusoidSetup
  extract_lets s₁ s₂ s₃ s₄ s₅ s₆
  have hs₁ : Setter s s₁ _ :=
    (Setter.refl h).setTarget (i := 1) (by decide) h.rthere .posAbsolute _ (period / 2)
  have hs₂ : Setter s s₂ _ :=
    hs₁.setTarget (i := 0) (by decide) hs₁.registered.there .posAbsolute _ (period / 2)
  have hs₃ : Setter s s₃ _ :=
    hs₂.setTarget (i := 2) (by decide) hs₂.registered.back .posAbsolute _ (period / 2)
  have hs₄ : Setter s s₄ _ :=
    hs₃.setTarget (i := 3) (by decide) hs₃.registered.rback .posAbsolute _ (period / 2)
  have hs₅ : Setter s s₅ _ :=
    hs₄.setNext (i := 1) (by decide) hs₄.registered.rthere hs₄.registered.back 0 .blnAfter
  have hs₆ : Setter s s₆ _ :=
    hs₅.setNext (i := 0) (by decide) hs₅.registered.there hs₅.registered.back 0 .blnAfter
  exact hs₆.setNext (i := 2) (by decide) hs₆.registered.back hs₆.registered.there 0 .blnAfter

/-- What the first part of the call does. -/
lemma setter (c : SinusoidCall) :
    Setter s (c.setup s) (c.links fun i => (s.env.profiles i).nextProfile) := by
  cases c with
  | start amplitude period => exact sinusoidSetup_setter h amplitude period
  | stop =>
    have hs₁ := (Setter.refl h).setNext (i := 0) (by decide) h.there
      (rfl : (-1 : ℤ) = -1) 0 .blnAfter
    exact hs₁.setNext (i := 2) (by decide) hs₁.registered.back rfl 0 .blnAfter
  | rstart amplitude period => exact rsinusoidSetup_setter h amplitude period
  | rstop => exact (Setter.refl h).setNext (i := 0) (by decide) h.there h.rback 0 .blnAfter

end Setup

/-- The profiles in which nothing is left to be written are not visited. -/
lemma writes_nil {e : SledEnv} {id : ℤ} {i : Fin MAX_PROFILES} (hi : profileIndex? id = some i)
    (hp : sledProfileHasChangesPending (e.profiles i) = false) : writes e id = .ok [] := by
  unfold writes writeOrder
  simp [hi, hp]

/-- What the call as a whole does: the profiles are written, and one of them may be executed. -/
inductive Outcome (s : Sled) (c : SinusoidCall) : ℤ × Sled → Prop
  | written (is : List (Fin MAX_PROFILES)) (code : ℤ)
      (his : writesAll (c.setup s).env (c.written (c.setup s).env) = .ok is) :
      Outcome s c (code, is.foldl Host.visit (c.setup s))
  | started (is : List (Fin MAX_PROFILES)) {i : Fin MAX_PROFILES}
      (his : writesAll (c.setup s).env (c.written (c.setup s).env) = .ok is)
      (hi : c.executed = some i) (hidle : (c.setup s).env.mchMp = .ppIdle) :
      Outcome s c (0, (c.setup s).started is i)

lemma writesAll_singleton {e : SledEnv} {id : ℤ} {is : List (Fin MAX_PROFILES)}
    (h : writes e id = .ok is) : writesAll e [id] = .ok is := by
  simp [writesAll, h]

/-- Writing the profiles in turn, as the calls do it. -/
lemma writesAll_cons {e : SledEnv} {id : ℤ} {ids : List ℤ} {is js : List (Fin MAX_PROFILES)}
    (h : writes e id = .ok is) (h' : writesAll (is.foldl SledEnv.visit e) ids = .ok js) :
    writesAll e (id :: ids) = .ok (is ++ js) := by
  simp [writesAll, h, h']

/-- Writing one of the profiles. -/
lemma written_registered {s : Sled} (h : Registered s.env) {id n : ℤ} (hid : id = n) {r : ℤ × Sled}
    (hr : sledProfileWritePendingChanges id s = .ok r) :
    ∃ is, writes s.env n = .ok is ∧ Registered (is.foldl Host.visit s).env ∧
      r = (0, is.foldl Host.visit s) := by
  obtain ⟨is, his, rfl⟩ := sledProfileWritePendingChanges_ok hr
  exact ⟨is, hid ▸ his, h.visits is, rfl⟩

/-- Every call has one of these outcomes. -/
lemma outcome {s : Sled} (h : Registered s.env) {c : SinusoidCall} {r : ℤ × Sled}
    (hr : sledCall s c.toSledCall = .ok r) : Outcome s c r := by
  have hreg := (setter h c).registered
  cases c with
  | start amplitude period =>
    have hexec : sledProfileExecute ((start amplitude period).setup s).env.sinusoidThere
      ((start amplitude period).setup s) = .ok r := hr
    rw [hreg.there] at hexec
    rcases sledProfileExecute_of_inUse (i := 0) (hreg.inUse 0 (by decide)) hexec with
      ⟨hbusy, rfl⟩ | ⟨hidle, is, his, rfl⟩
    · refine .written [] (-1) ?_
      rw [written, if_neg hbusy]
      rfl
    · refine .started is ?_ rfl hidle
      rw [written, if_pos hidle]
      exact writesAll_singleton his
  | stop =>
    have hwrite : sledProfileWritePendingChanges (stop.setup s).env.sinusoidThere (stop.setup s) =
      .ok r := hr
    obtain ⟨is, his, rfl⟩ := sledProfileWritePendingChanges_ok hwrite
    rw [hreg.there] at his
    exact .written is 0 (writesAll_singleton his)
  | rstart amplitude period =>
    obtain ⟨r₁, h₁, hr⟩ := bind_eq_ok.mp hr
    obtain ⟨r₂, h₂, hr⟩ := bind_eq_ok.mp hr
    obtain ⟨r₃, h₃, hr⟩ := bind_eq_ok.mp hr
    obtain ⟨r₄, h₄, hr⟩ := bind_eq_ok.mp hr
    obtain ⟨is₁, his₁, hreg₁, rfl⟩ := written_registered hreg hreg.rthere h₁
    obtain ⟨is₂, his₂, hreg₂, rfl⟩ := written_registered hreg₁ hreg₁.there h₂
    obtain ⟨is₃, his₃, hreg₃, rfl⟩ := written_registered hreg₂ hreg₂.back h₃
    obtain ⟨is₄, his₄, hreg₄, rfl⟩ := written_registered hreg₃ hreg₃.rback h₄
    have hall : writesAll ((rstart amplitude period).setup s).env [1, 0, 2, 3] =
        .ok (is₁ ++ (is₂ ++ (is₃ ++ is₄))) := by
      rw [visits_env] at his₂ his₃ his₄
      rw [visits_env] at his₃ his₄
      rw [visits_env] at his₄
      exact writesAll_cons his₁ (writesAll_cons his₂ (writesAll_cons his₃
        (writesAll_singleton his₄)))
    have hstate : is₄.foldl Host.visit (is₃.foldl Host.visit (is₂.foldl Host.visit
        (is₁.foldl Host.visit ((rstart amplitude period).setup s)))) =
        (is₁ ++ (is₂ ++ (is₃ ++ is₄))).foldl Host.visit ((rstart amplitude period).setup s) := by
      simp only [List.foldl_append]
    dsimp only at hr hreg₄
    rw [hstate] at hr hreg₄
    rw [hreg₄.rthere] at hr
    rcases sledProfileExecute_of_inUse (i := 1) (hreg₄.inUse 1 (by decide)) hr with
      ⟨-, rfl⟩ | ⟨hidle, is, his, rfl⟩
    · exact .written _ (-1) hall
    · -- The profile has been written already.
      have hflushed : sledProfileHasChangesPending (((is₁ ++ (is₂ ++ (is₃ ++ is₄))).foldl Host.visit
          ((rstart amplitude period).setup s)).env.profiles 1) = false := by
        rw [visits_env, Bool.eq_false_iff, Ne, visits_pending]
        rintro ⟨hmem, hpending⟩
        rcases (series_of_writesAll hall).heads 1 (by simp) 1 rfl with hin | hno
        · exact hmem hin
        · rw [hno] at hpending
          cases hpending
      have hnil : is = [] := by
        rw [writes_nil (profileIndex?_natCast 1) hflushed] at his
        cases his
        rfl
      subst hnil
      rw [visits_mchMp] at hidle
      exact .started _ hall rfl hidle
  | rstop =>
    have hwrite : sledProfileWritePendingChanges (rstop.setup s).env.sinusoidThere (rstop.setup s) =
      .ok r := hr
    obtain ⟨is, his, rfl⟩ := sledProfileWritePendingChanges_ok hwrite
    rw [hreg.there] at his
    exact .written is 0 (writesAll_singleton his)

end SinusoidCall

/-! ## The start -/

/-- The profile table with the first `k` profiles in use, and nothing written yet. -/
structure Stage (k : ℕ) (e : SledEnv) : Prop where
  profile : ∀ i, (e.profiles i).profile = 201 + (i : ℕ)
  changed : ∀ i f, (e.profiles i).fieldState f = .changed
  next : ∀ i, (e.profiles i).nextProfile = -1
  inUse : ∀ i, (e.profiles i).inUse = decide ((i : ℕ) < k)
  neverSent : ∀ i : Fin MAX_PROFILES, (i : ℕ) < k → (e.profiles i).neverSent = true

/-- Every profile is cleared. -/
lemma foldl_clear (s : Sled) (n : ℕ) :
    (List.range n).foldl (fun s i => sledProfileClear (i : ℕ) false s) s = s.setProfiles fun j =>
      if (j : ℕ) < n then SledProfile.clear j false (s.env.profiles j) else s.env.profiles j := by
  induction n with
  | zero => rfl
  | succ n ih =>
    rw [List.range_succ, List.foldl_append, List.foldl_cons, List.foldl_nil, ih]
    unfold sledProfileClear
    cases hi : profileIndex? ((n : ℕ) : ℤ) with
    | none =>
      have hn : ¬ n < MAX_PROFILES := by
        intro hn
        have hsome := profileIndex?_natCast ⟨n, hn⟩
        rw [show (((⟨n, hn⟩ : Fin MAX_PROFILES) : ℕ) : ℤ) = (n : ℤ) from rfl, hi] at hsome
        cases hsome
      dsimp only
      congr 1
      funext j
      have hj : (j : ℕ) < n := by omega
      rw [if_pos hj, if_pos (Nat.lt_succ_of_lt hj)]
    | some i =>
      have hin : n = (i : ℕ) := by exact_mod_cast profileIndex?_eq_some.mp hi
      subst hin
      dsimp only [Host.modifyProfile, Host.setProfiles]
      congr 2
      funext j
      by_cases hj : j = i
      · subst hj
        simp
      · have hne : (j : ℕ) ≠ (i : ℕ) := fun h => hj (Fin.ext h)
        have hlt : (j : ℕ) < (i : ℕ) + 1 ↔ (j : ℕ) < (i : ℕ) := by omega
        simp only [Function.update_of_ne hj, hlt]

/-- The profile table `f`, cleared, with the first `k` profiles created. -/
def createdTable (k : ℕ) (f : Fin MAX_PROFILES → SledProfile) (i : Fin MAX_PROFILES) :
    SledProfile :=
  if (i : ℕ) < k then SledProfile.created i (f i) else SledProfile.clear i false (f i)

lemma freeProfile?_createdTable {k : ℕ} (hk : k < MAX_PROFILES)
    (f : Fin MAX_PROFILES → SledProfile) :
    freeProfile? (createdTable k f) = some ⟨k, hk⟩ := by
  refine freeProfile?_eq_some ?_ fun j hj => ?_
  · simp [createdTable, SledProfile.clear, sledProfileMarkAsUnsaved]
  · have hlt : (j : ℕ) < k := hj
    simp [createdTable, hlt, SledProfile.created]

/-- The next profile is registered. -/
lemma registerProfile_createdTable {k : ℕ} {s : Sled} {e : SledEnv}
    {f : Fin MAX_PROFILES → SledProfile} (hk : k < MAX_PROFILES) (h : e.profiles = createdTable k f)
    (store : ℤ → SledEnv → SledEnv) :
    registerProfile store (s.withEnv e) =
      s.withEnv (store k { e with profiles := createdTable (k + 1) f }) := by
  have htable : Function.update (createdTable k f) ⟨k, hk⟩
      (SledProfile.created ⟨k, hk⟩ (createdTable k f ⟨k, hk⟩)) = createdTable (k + 1) f := by
    funext j
    by_cases hj : j = ⟨k, hk⟩
    · subst hj
      rw [Function.update_self]
      simp only [createdTable, lt_irrefl, if_false, Nat.lt_succ_self, if_true]
      rfl
    · have hne : (j : ℕ) ≠ k := fun heq => hj (Fin.ext heq)
      have hlt : (j : ℕ) < k + 1 ↔ (j : ℕ) < k := by omega
      rw [Function.update_of_ne hj]
      simp only [createdTable, hlt]
  have hfree : freeProfile? (s.withEnv e).env.profiles = some ⟨k, hk⟩ := by
    rw [Host.withEnv_env, h]
    exact freeProfile?_createdTable hk f
  unfold registerProfile
  rw [sledProfileCreate_of_free hfree]
  dsimp only [Host.modifyProfile_eq, Host.withEnv_env, Host.withEnv_withEnv]
  rw [h, htable]

/-- The state of `sled_create` once the profiles of the sinusoid have been registered. -/
def Host.withSinusoid (s : Sled) : Sled :=
  s.withEnv { s.env with
    profiles := createdTable 4 s.env.profiles
    sinusoidThere := 0
    sinusoidRthere := 1
    sinusoidBack := 2
    sinusoidRback := 3 }

/-- The tables and the links that `sled_create` sets. -/
def Host.linkSinusoid (s : Sled) : Sled :=
  let s := (sledProfileSetTable s.env.sinusoidThere 0 s).2
  let s := (sledProfileSetTable s.env.sinusoidRthere 1 s).2
  let s := (sledProfileSetTable s.env.sinusoidBack 0 s).2
  let s := (sledProfileSetTable s.env.sinusoidRback 3 s).2
  let s := (sledProfileSetNext s.env.sinusoidThere s.env.sinusoidBack 0 .blnAfter s).2
  let s := (sledProfileSetNext s.env.sinusoidRthere s.env.sinusoidBack 0 .blnAfter s).2
  (sledProfileSetNext s.env.sinusoidBack s.env.sinusoidThere 0 .blnAfter s).2

lemma sledCreateProfiles_eq (s : Sled) :
    sledCreateProfiles s = s.withSinusoid.linkSinusoid := by
  have hclear : (List.range MAX_PROFILES).foldl (fun s i => sledProfileClear (i : ℕ) false s) s =
      s.withEnv { s.env with profiles := createdTable 0 s.env.profiles } := by
    rw [foldl_clear]
    refine congrArg s.setProfiles ?_
    funext j
    rw [if_pos j.isLt]
    rfl
  unfold sledCreateProfiles
  extract_lets s₀ s₁ s₂ s₃ s₄ s₅ s₆ s₇ s₈ s₉ s₁₀
  have hregistered : s₄ = s.withSinusoid := by
    show registerProfile _ (registerProfile _ (registerProfile _ (registerProfile _ s₀))) = _
    rw [show s₀ = _ from hclear, registerProfile_createdTable (k := 0) (by decide) rfl,
      registerProfile_createdTable (k := 1) (by decide) rfl,
      registerProfile_createdTable (k := 2) (by decide) rfl,
      registerProfile_createdTable (k := 3) (by decide) rfl]
    rfl
  clear_value s₄
  rw [← hregistered]
  dsimp only [Host.linkSinusoid, s₅, s₆, s₇, s₈, s₉, s₁₀]

lemma registered_withSinusoid (s : Sled) : Registered s.withSinusoid.env where
  there := rfl
  rthere := rfl
  back := rfl
  rback := rfl
  inUse i hi := by
    show (createdTable 4 s.env.profiles i).inUse = true
    rw [createdTable, if_pos hi]
    rfl

lemma stage_withSinusoid (s : Sled) : Stage 4 s.withSinusoid.env := by
  refine ⟨fun i => ?_, fun i f => ?_, fun i => ?_, fun i => ?_, fun i hi => ?_⟩ <;>
    simp only [Host.withSinusoid, Host.withEnv_env, createdTable]
  · split <;> rfl
  · split <;> rfl
  · split <;> rfl
  · split
    · next hlt => exact (decide_eq_true hlt).symm
    · next hlt => exact (decide_eq_false hlt).symm
  · rw [if_pos hi]
    rfl

/-- The profiles after `sled_create`. -/
structure Created (e : SledEnv) : Prop where
  registered : Registered e
  profile : ∀ i, (e.profiles i).profile = 201 + (i : ℕ)
  changed : ∀ i f, (e.profiles i).fieldState f = .changed
  neverSent : ∀ i : Fin MAX_PROFILES, (i : ℕ) < 4 → (e.profiles i).neverSent = true
  next_there : (e.profiles 0).nextProfile = 2
  next_rthere : (e.profiles 1).nextProfile = 2
  next_back : (e.profiles 2).nextProfile = 0
  next_rback : (e.profiles 3).nextProfile = -1

/-- The table of `sled_create`: four profiles are taken, and then tables and links are set. -/
lemma stage_sledCreateProfiles (s : Sled) : ∃ t : Sled, Stage 4 t.env ∧
    Setter t (sledCreateProfiles s) (Function.update (Function.update (Function.update
      (fun i => (t.env.profiles i).nextProfile) 0 2) 1 2) 2 0) := by
  have hreg := registered_withSinusoid s
  refine ⟨s.withSinusoid, stage_withSinusoid s, ?_⟩
  rw [sledCreateProfiles_eq]
  unfold Host.linkSinusoid
  extract_lets s₁ s₂ s₃ s₄ s₅ s₆
  have hs₁ : Setter s.withSinusoid s₁ _ :=
    (Setter.refl hreg).setTable (i := 0) (by decide) hreg.there 0
  have hs₂ : Setter s.withSinusoid s₂ _ :=
    hs₁.setTable (i := 1) (by decide) hs₁.registered.rthere 1
  have hs₃ : Setter s.withSinusoid s₃ _ :=
    hs₂.setTable (i := 2) (by decide) hs₂.registered.back 0
  have hs₄ : Setter s.withSinusoid s₄ _ :=
    hs₃.setTable (i := 3) (by decide) hs₃.registered.rback 3
  have hs₅ : Setter s.withSinusoid s₅ _ :=
    hs₄.setNext (i := 0) (by decide) hs₄.registered.there hs₄.registered.back 0 .blnAfter
  have hs₆ : Setter s.withSinusoid s₆ _ :=
    hs₅.setNext (i := 1) (by decide) hs₅.registered.rthere hs₅.registered.back 0 .blnAfter
  exact hs₆.setNext (i := 2) (by decide) hs₆.registered.back hs₆.registered.there 0 .blnAfter

lemma created_sledCreateProfiles (s : Sled) : Created (sledCreateProfiles s).env := by
  obtain ⟨t, hstage, hend⟩ := stage_sledCreateProfiles s
  refine ⟨hend.registered, fun i => ?_, fun i f => ?_, fun i hi => ?_, ?_, ?_, ?_, ?_⟩
  · exact (hend.touched i).profile.trans (hstage.profile i)
  · exact (hend.touched i).changed_of_changed (hstage.changed i f)
  · exact (hend.touched i).neverSent.trans (hstage.neverSent i hi)
  · exact hend.next 0
  · exact hend.next 1
  · exact hend.next 2
  · exact (hend.next 3).trans (hstage.next 3)

end SledServer
