import SledServer.Server.Service
import SledServer.Sled.Sinusoid

/-!
# Profile ids of the clients

The clients name profiles by any integers; `tlate_profile_id` takes a profile of the sled for each
new one, as long as there are any.  What the server does to the profile table is said once
(`SledEnv.Tended`), and everything that the table and the map have to be follows
(`profile_ids_safe`): in particular no command makes the sled reach out of the table.
-/

namespace SledServer

open SledServer.Core Flex

/-! ## The profile table -/

/-- The link of a profile leads nowhere, or to a profile that is in use. -/
def SledEnv.Linked (e : SledEnv) (link : ℤ) : Prop :=
  link = -1 ∨ ∃ j : Fin MAX_PROFILES, link = (j : ℕ) ∧ (e.profiles j).inUse = true

/-- What holds of the profile table. -/
structure SledEnv.Sound (e : SledEnv) : Prop where
  registered : Registered e
  slot : ∀ i, (e.profiles i).profile = 201 + (i : ℕ)
  next : ∀ i, (e.profiles i).inUse = true → e.Linked (e.profiles i).nextProfile

/-- No profile is given up, and new links lead to profiles in use. -/
structure SledEnv.Tended (e e' : SledEnv) : Prop where
  there : e'.sinusoidThere = e.sinusoidThere
  rthere : e'.sinusoidRthere = e.sinusoidRthere
  back : e'.sinusoidBack = e.sinusoidBack
  rback : e'.sinusoidRback = e.sinusoidRback
  slot : ∀ i, (e'.profiles i).profile = (e.profiles i).profile ∨
    (e'.profiles i).profile = 201 + (i : ℕ)
  inUse : ∀ i, (e.profiles i).inUse = true → (e'.profiles i).inUse = true
  next : ∀ i, (e'.profiles i).inUse = true → e'.Linked (e'.profiles i).nextProfile ∨
    ((e.profiles i).inUse = true ∧ (e'.profiles i).nextProfile = (e.profiles i).nextProfile)

namespace SledEnv

variable {e e' e'' : SledEnv}

lemma Linked.mono {link : ℤ} (h : e.Linked link)
    (huse : ∀ i, (e.profiles i).inUse = true → (e'.profiles i).inUse = true) : e'.Linked link := by
  obtain hnone | ⟨j, hj, hused⟩ := h
  · exact .inl hnone
  · exact .inr ⟨j, hj, huse j hused⟩

lemma Sound.tended (h : e.Sound) (ht : e.Tended e') : e'.Sound := by
  have hreg := h.registered
  refine ⟨⟨ht.there.trans hreg.there, ht.rthere.trans hreg.rthere, ht.back.trans hreg.back,
    ht.rback.trans hreg.rback, fun i hi => ht.inUse i (hreg.inUse i hi)⟩, fun i => ?_,
    fun i hi => ?_⟩
  · obtain hsame | hnew := ht.slot i
    · rw [hsame, h.slot i]
    · exact hnew
  · obtain hlink | ⟨hused, hsame⟩ := ht.next i hi
    · exact hlink
    · rw [hsame]
      exact (h.next i hused).mono ht.inUse

namespace Tended

lemma refl (e : SledEnv) : e.Tended e :=
  ⟨rfl, rfl, rfl, rfl, fun _ => .inl rfl, fun _ => id, fun _ hi => .inr ⟨hi, rfl⟩⟩

lemma trans (h : e.Tended e') (h' : e'.Tended e'') : e.Tended e'' := by
  refine ⟨h'.there.trans h.there, h'.rthere.trans h.rthere, h'.back.trans h.back,
    h'.rback.trans h.rback, fun i => ?_, fun i hi => h'.inUse i (h.inUse i hi), fun i hi => ?_⟩
  · obtain hsame | hnew := h'.slot i
    · rw [hsame]
      exact h.slot i
    · exact .inr hnew
  · obtain hlink | ⟨hused, hsame⟩ := h'.next i hi
    · exact .inl hlink
    · obtain hlink | ⟨hused', hsame'⟩ := h.next i hused
      · rw [hsame]
        exact .inl (hlink.mono h'.inUse)
      · exact .inr ⟨hused', hsame.trans hsame'⟩

/-- Profiles that stay in use, with the same slots and links. -/
lemma of_same (hthere : e'.sinusoidThere = e.sinusoidThere)
    (hrthere : e'.sinusoidRthere = e.sinusoidRthere) (hback : e'.sinusoidBack = e.sinusoidBack)
    (hrback : e'.sinusoidRback = e.sinusoidRback)
    (hprofiles : ∀ i, (e'.profiles i).profile = (e.profiles i).profile ∧
      (e'.profiles i).inUse = (e.profiles i).inUse ∧
      (e'.profiles i).nextProfile = (e.profiles i).nextProfile) : e.Tended e' := by
  refine ⟨hthere, hrthere, hback, hrback, fun i => .inl (hprofiles i).1, fun i hi => ?_,
    fun i hi => .inr ⟨?_, (hprofiles i).2.2⟩⟩
  · rw [(hprofiles i).2.1, hi]
  · rw [← (hprofiles i).2.1, hi]

lemma of_kept (h : e.Kept e') : e.Tended e' := by
  refine of_same h.there h.rthere h.back h.rback fun i => ?_
  obtain ⟨st, hst⟩ := h.profiles i
  rw [hst]
  exact ⟨rfl, rfl, rfl⟩

lemma visit (e : SledEnv) (i : Fin MAX_PROFILES) : e.Tended (e.visit i) := by
  refine of_same rfl rfl rfl rfl fun j => ?_
  obtain ⟨hprofile, hnext, huse, -⟩ := visit_profile_contents e i j
  exact ⟨hprofile, huse, hnext⟩

lemma visits (e : SledEnv) (is : List (Fin MAX_PROFILES)) :
    e.Tended (is.foldl SledEnv.visit e) := by
  induction is generalizing e with
  | nil => exact refl e
  | cons i is ih => exact (visit e i).trans (ih _)

end Tended

end SledEnv

section Operations

variable {s t : Sled} {i : Fin MAX_PROFILES}

/-- One profile is changed. -/
lemma tended_modifyProfile {f : SledProfile → SledProfile}
    (hslot : (f (s.env.profiles i)).profile = (s.env.profiles i).profile ∨
      (f (s.env.profiles i)).profile = 201 + (i : ℕ))
    (huse : (s.env.profiles i).inUse = true → (f (s.env.profiles i)).inUse = true)
    (hnext : s.env.Linked (f (s.env.profiles i)).nextProfile ∨ ((s.env.profiles i).inUse = true ∧
      (f (s.env.profiles i)).nextProfile = (s.env.profiles i).nextProfile)) :
    s.env.Tended (s.modifyProfile i f).env := by
  have hprofile : ∀ j, (s.modifyProfile i f).env.profiles j =
      Function.update s.env.profiles i (f (s.env.profiles i)) j := fun _ => rfl
  have hmono : ∀ j, (s.env.profiles j).inUse = true →
      ((s.modifyProfile i f).env.profiles j).inUse = true := by
    intro j hj
    rw [hprofile]
    by_cases hji : j = i
    · subst hji
      rw [Function.update_self]
      exact huse hj
    · rwa [Function.update_of_ne hji]
  refine ⟨rfl, rfl, rfl, rfl, fun j => ?_, hmono, fun j hj => ?_⟩ <;>
    by_cases hji : j = i
  · subst hji
    rw [hprofile, Function.update_self]
    exact hslot
  · rw [hprofile, Function.update_of_ne hji]
    exact .inl rfl
  · subst hji
    rw [hprofile, Function.update_self]
    exact hnext.imp_left fun hlink => hlink.mono hmono
  · rw [hprofile, Function.update_of_ne hji] at hj ⊢
    exact .inr ⟨hj, rfl⟩

/-- A setter that leaves the links alone. -/
lemma tended_onProfile {f : SledProfile → SledProfile} (hf : ∀ p, Marks p (f p))
    (hnext : ∀ p, (f p).nextProfile = p.nextProfile) (id : ℤ) (s : Sled) :
    s.env.Tended (onProfile id f s).2.env := by
  unfold onProfile
  split
  · exact .refl _
  · split
    · exact .refl _
    · next huse =>
      refine tended_modifyProfile (.inl (hf _).profile) (fun _ => ?_) (.inr ⟨?_, hnext _⟩)
      · rw [(hf _).inUse]
        simpa using huse
      · simpa using huse

lemma tended_setNext {id link : ℤ} (hlink : s.env.Linked link) (delay : ℚ) (blendType : BlendType) :
    s.env.Tended (sledProfileSetNext id link delay blendType s).2.env := by
  unfold sledProfileSetNext onProfile
  split
  · exact .refl _
  · split
    · exact .refl _
    · refine tended_modifyProfile (.inl (Marks.setNext _ _ _ _).profile) (fun hused => ?_)
        (.inl ?_)
      · rw [(Marks.setNext _ _ _ _).inUse, hused]
      · rwa [setNext_nextProfile]

lemma tended_writePendingChanges {id : ℤ} {r : ℤ × Sled}
    (h : sledProfileWritePendingChanges id s = .ok r) : s.env.Tended r.2.env := by
  obtain ⟨is, -, rfl⟩ := sledProfileWritePendingChanges_ok h
  rw [visits_env]
  exact .visits _ _

lemma tended_started (s : Sled) (is : List (Fin MAX_PROFILES)) (i : Fin MAX_PROFILES) :
    s.env.Tended (s.started is i).env := by
  have hend : (s.started is i).env = { is.foldl SledEnv.visit s.env with
      mchMp := mchMpNextStateGivenEvent (is.foldl SledEnv.visit s.env).mchMp .setpointSet } := by
    simp [Host.started, visits_env]
  rw [hend]
  exact (SledEnv.Tended.visits s.env is).trans (.of_same rfl rfl rfl rfl fun _ => ⟨rfl, rfl, rfl⟩)

lemma tended_execute {id : ℤ} {r : ℤ × Sled} (h : sledProfileExecute id s = .ok r) :
    s.env.Tended r.2.env := by
  obtain rfl | ⟨i, is, -, -, -, -, rfl⟩ := sledProfileExecute_ok h
  · exact .refl _
  · exact tended_started s is i

lemma tended_lightSetState {state : Bool} {r : ℤ × Sled} (h : sledLightSetState state s = .ok r) :
    s.env.Tended r.2.env := by
  unfold sledLightSetState at h
  split at h
  · cases h
    exact .refl _
  · simp only [mchSdoQueueWrite_eq, ok_bind, Except.ok.injEq] at h
    rw [← h, Host.push_env]
    exact .refl _

/-- A link that the sinusoid leaves as it is, or that leads nowhere or to one of its profiles. -/
def SinusoidLink (old link : ℤ) : Prop :=
  link = old ∨ link = -1 ∨ ∃ j : Fin MAX_PROFILES, (j : ℕ) < 4 ∧ link = (j : ℕ)

lemma tended_setter {next : Fin MAX_PROFILES → ℤ} (h : Setter s t next) (hs : Registered s.env)
    (hnext : ∀ i, SinusoidLink (s.env.profiles i).nextProfile (next i)) : s.env.Tended t.env := by
  have hreg := h.registered
  refine ⟨hreg.there.trans hs.there.symm, hreg.rthere.trans hs.rthere.symm,
    hreg.back.trans hs.back.symm, hreg.rback.trans hs.rback.symm,
    fun i => .inl (h.touched i).profile, fun i hi => ?_, fun i hi => ?_⟩
  · rw [(h.touched i).inUse, hi]
  · rw [h.next i]
    obtain hsame | hnone | ⟨j, hj, hjnext⟩ := hnext i
    · refine .inr ⟨?_, hsame⟩
      rw [← (h.touched i).inUse, hi]
    · exact .inl (.inl hnone)
    · exact .inl (.inr ⟨j, hjnext, hreg.inUse j hj⟩)

lemma SinusoidLink.profile {j : Fin MAX_PROFILES} {link : ℤ} (hj : (j : ℕ) < 4)
    (hlink : link = (j : ℕ)) (old : ℤ) : SinusoidLink old link := .inr (.inr ⟨j, hj, hlink⟩)

lemma SinusoidLink.update {next f : Fin MAX_PROFILES → ℤ} (hf : ∀ i, SinusoidLink (next i) (f i))
    (k : Fin MAX_PROFILES) {link : ℤ} (hlink : ∀ old, SinusoidLink old link)
    (i : Fin MAX_PROFILES) :
    SinusoidLink (next i) (Function.update f k link i) := by
  by_cases hik : i = k
  · subst hik
    rw [Function.update_self]
    exact hlink _
  · rw [Function.update_of_ne hik]
    exact hf i

/-- The links that the calls of the sinusoid set. -/
lemma sinusoidLink_links (c : SinusoidCall) (next : Fin MAX_PROFILES → ℤ) :
    ∀ i, SinusoidLink (next i) (c.links next i) := by
  have hkeep : ∀ i, SinusoidLink (next i) (next i) := fun _ => .inl rfl
  have hnone : ∀ old, SinusoidLink old (-1) := fun _ => .inr (.inl rfl)
  have hthere : ∀ old, SinusoidLink old 0 := .profile (j := 0) (by decide) rfl
  have hback : ∀ old, SinusoidLink old 2 := .profile (j := 2) (by decide) rfl
  have hrback : ∀ old, SinusoidLink old 3 := .profile (j := 3) (by decide) rfl
  cases c with
  | start => exact .update (.update hkeep 0 hback) 2 hthere
  | stop => exact .update (.update hkeep 0 hnone) 2 hnone
  | rstart => exact .update (.update (.update hkeep 1 hback) 0 hback) 2 hthere
  | rstop => exact .update hkeep 0 hrback

lemma tended_sinusoid {c : SinusoidCall} {r : ℤ × Sled} (hs : Registered s.env)
    (h : sledCall s c.toSledCall = .ok r) : s.env.Tended r.2.env := by
  have hsetup : s.env.Tended (c.setup s).env :=
    tended_setter (c.setter hs) hs (sinusoidLink_links c _)
  cases c.outcome hs h with
  | written is =>
    rw [visits_env]
    exact hsetup.trans (.visits _ _)
  | started is => exact hsetup.trans (tended_started _ _ _)

/-! ## Returning -/

/-- The next links of the profiles in use lead to profiles in use. -/
lemma SledEnv.Sound.linkedIn {e : SledEnv} (h : e.Sound) :
    e.LinkedIn {i | (e.profiles i).inUse = true} := fun i hi => by
  obtain hnone | ⟨j, hj, hused⟩ := h.next i hi
  · exact .inl (by rw [hnone]; decide)
  · exact .inr ⟨j, hused, hj⟩

lemma writePendingChanges_returns (hs : s.env.Sound) (hi : (s.env.profiles i).inUse = true) :
    ∃ r, sledProfileWritePendingChanges (i : ℕ) s = .ok r ∧ r.2.env.Sound := by
  obtain ⟨is, his⟩ := writes_returns hs.linkedIn hi
  have hr : sledProfileWritePendingChanges (i : ℕ) s = .ok (0, is.foldl Host.visit s) := by
    rw [sledProfileWritePendingChanges_eq, his]
    rfl
  exact ⟨_, hr, hs.tended (tended_writePendingChanges hr)⟩

lemma execute_returns (hs : s.env.Sound) (id : ℤ) : ∃ r, sledProfileExecute id s = .ok r := by
  unfold sledProfileExecute
  cases hid : profileIndex? id with
  | none => exact ⟨_, rfl⟩
  | some i =>
    obtain rfl := profileIndex?_eq_some.mp hid
    dsimp only
    split_ifs with huse hidle
    · exact ⟨_, rfl⟩
    · exact ⟨_, rfl⟩
    · obtain ⟨r, hr, -⟩ := writePendingChanges_returns hs (i := i) (by simpa using huse)
      rw [hr]
      simp [mchSdoQueueWrite_eq, mchMpHandleEvent_eq]

lemma sinusoid_returns (hs : s.env.Sound) (c : SinusoidCall) :
    ∃ r, sledCall s c.toSledCall = .ok r := by
  have hsetup : (c.setup s).env.Sound :=
    hs.tended (tended_setter (c.setter hs.registered) hs.registered (sinusoidLink_links c _))
  have hwrite : ∀ (t : Sled) (id : ℤ) (i : Fin MAX_PROFILES), t.env.Sound → id = (i : ℕ) →
      (i : ℕ) < 4 → ∃ r, sledProfileWritePendingChanges id t = .ok r ∧ r.2.env.Sound := by
    rintro t id i ht rfl hi
    exact writePendingChanges_returns ht (ht.registered.inUse i hi)
  cases c with
  | start => exact execute_returns hsetup _
  | stop | rstop =>
    obtain ⟨r, hr, -⟩ := hwrite _ _ 0 hsetup hsetup.registered.there (by decide)
    exact ⟨r, hr⟩
  | rstart amplitude period =>
    obtain ⟨r₁, h₁, hs₁⟩ := hwrite _ _ 1 hsetup hsetup.registered.rthere (by decide)
    obtain ⟨r₂, h₂, hs₂⟩ := hwrite _ _ 0 hs₁ hs₁.registered.there (by decide)
    obtain ⟨r₃, h₃, hs₃⟩ := hwrite _ _ 2 hs₂ hs₂.registered.back (by decide)
    obtain ⟨r₄, h₄, hs₄⟩ := hwrite _ _ 3 hs₃ hs₃.registered.rback (by decide)
    obtain ⟨r, hr⟩ := execute_returns hs₄ r₄.2.env.sinusoidRthere
    exact ⟨r, bind_eq_ok.mpr ⟨r₁, h₁, bind_eq_ok.mpr ⟨r₂, h₂, bind_eq_ok.mpr ⟨r₃, h₃,
      bind_eq_ok.mpr ⟨r₄, h₄, hr⟩⟩⟩⟩⟩

lemma lightSetState_returns (s : Sled) (state : Bool) : ∃ r, sledLightSetState state s = .ok r := by
  unfold sledLightSetState
  split
  · exact ⟨_, rfl⟩
  · simp [mchSdoQueueWrite_eq]

end Operations

/-! ## The map -/

/-- The map and the profile table fit together: every id stands for nothing, or for a profile in use
that is not one of the sinusoid, and for which no other id stands. -/
structure ServerCtx.Mapped (ctx : ServerCtx) : Prop where
  sound : ctx.sled.env.Sound
  used : ∀ a id, ctx.profileTlate a = some id → id = -1 ∨
    ∃ i : Fin MAX_PROFILES, 4 ≤ (i : ℕ) ∧ id = (i : ℕ) ∧ (ctx.sled.env.profiles i).inUse = true
  injective : ∀ a b id, ctx.profileTlate a = some id → ctx.profileTlate b = some id → 0 ≤ id → a = b

/-- The map has all the entries that it has had. -/
def ServerCtx.Extends (ctx ctx' : ServerCtx) : Prop :=
  ∀ a id, ctx.profileTlate a = some id → ctx'.profileTlate a = some id

section Map

variable {ctx ctx' ctx'' : ServerCtx} {s : Sled}

lemma ServerCtx.Extends.refl (ctx : ServerCtx) : ctx.Extends ctx := fun _ _ => id

lemma ServerCtx.Extends.trans (h : ctx.Extends ctx') (h' : ctx'.Extends ctx'') :
    ctx.Extends ctx'' := fun a id ha => h' a id (h a id ha)

/-- The sled does what it likes with the profile table, as long as it takes care of it. -/
lemma ServerCtx.Mapped.tended (h : ctx.Mapped) (ht : ctx.sled.env.Tended s.env) :
    (ctx.withSled s).Mapped := by
  refine ⟨h.sound.tended ht, fun a id ha => ?_, h.injective⟩
  obtain hnone | ⟨i, hi, hid, hused⟩ := h.used a id ha
  · exact .inl hnone
  · exact .inr ⟨i, hi, hid, ht.inUse i hused⟩

lemma ServerCtx.Mapped.linked (h : ctx.Mapped) {a id : ℤ} (ha : ctx.profileTlate a = some id) :
    ctx.sled.env.Linked id :=
  (h.used a id ha).imp_right fun ⟨i, _, hid, hused⟩ => ⟨i, hid, hused⟩

/-- A new id gets a profile that no other has, or none. -/
lemma tlateProfileId_mapped (h : ctx.Mapped) (profile : ℤ) :
    (tlateProfileId profile ctx).2.Mapped ∧ ctx.Extends (tlateProfileId profile ctx).2 ∧
      (tlateProfileId profile ctx).2.profileTlate profile =
        some (tlateProfileId profile ctx).1 := by
  cases hprofile : ctx.profileTlate profile with
  | some id =>
    rw [tlateProfileId_of_some hprofile]
    exact ⟨h, .refl ctx, hprofile⟩
  | none =>
    have hextends : ∀ id s, ctx.Extends { ctx with
        sled := s, profileTlate := Function.update ctx.profileTlate profile (some id) } := by
      intro id s a b ha
      have hne : a ≠ profile := by
        rintro rfl
        rw [hprofile] at ha
        cases ha
      exact (Function.update_of_ne hne _ _).trans ha
    rcases ctx.sled.env.free.eq_empty_or_nonempty with hfree | hfree
    · rw [tlateProfileId_of_full hprofile hfree]
      refine ⟨⟨h.sound, fun a id ha => ?_, fun a b id ha hb hid => ?_⟩, hextends (-1) ctx.sled,
        Function.update_self _ _ _⟩
      · simp only [Function.update_apply] at ha
        split at ha
        · cases ha
          exact .inl rfl
        · exact h.used a id ha
      · simp only [Function.update_apply] at ha hb
        split at ha
        · cases ha
          exact absurd hid (by decide)
        · split at hb
          · cases hb
            exact absurd hid (by decide)
          · exact h.injective a b id ha hb hid
    · obtain ⟨i, hi, hr⟩ := tlateProfileId_of_free hprofile hfree
      have hunused : (ctx.sled.env.profiles i).inUse = false := SledEnv.mem_free.mp hi
      have htended : ctx.sled.env.Tended (ctx.sled.modifyProfile i (SledProfile.created i)).env :=
        tended_modifyProfile (.inr rfl) (fun _ => rfl) (.inl (.inl rfl))
      have hsound := h.sound.tended htended
      have hnew : 4 ≤ (i : ℕ) := by
        by_contra hlt
        have hused := h.sound.registered.inUse i (by omega)
        rw [hunused] at hused
        cases hused
      -- No id has stood for the profile before, since it has not been in use.
      have hfresh : ∀ a, ctx.profileTlate a ≠ some ((i : ℕ) : ℤ) := by
        intro a ha
        obtain hnone | ⟨j, -, hj, hused⟩ := h.used a _ ha
        · exact absurd hnone (by omega)
        · have hij : i = j := Fin.ext (by exact_mod_cast hj)
          rw [← hij, hunused] at hused
          cases hused
      rw [hr]
      refine ⟨⟨hsound, fun a id ha => ?_, fun a b id ha hb hid => ?_⟩, hextends _ _,
        Function.update_self _ _ _⟩
      · simp only [Function.update_apply] at ha
        split at ha
        · cases ha
          refine .inr ⟨i, hnew, rfl, ?_⟩
          simp [Host.modifyProfile_eq, SledProfile.created]
        · obtain hnone | ⟨j, hj, hid, hused⟩ := h.used a id ha
          · exact .inl hnone
          · exact .inr ⟨j, hj, hid, htended.inUse j hused⟩
      · simp only [Function.update_apply] at ha hb
        split at ha <;> split at hb
        · next hpa hpb => rw [hpa, hpb]
        · cases ha
          exact absurd hb (hfresh b)
        · cases hb
          exact absurd ha (hfresh a)
        · exact h.injective a b id ha hb hid

/-! ## Commands -/

lemma profileSetNext_mapped (h : ctx.Mapped) (command : Command) (id : ℤ) :
    (profileSetNext command id ctx).1.Mapped ∧ ctx.Extends (profileSetNext command id ctx).1 := by
  unfold profileSetNext
  split
  · obtain ⟨hmapped, hextends, hnext⟩ := tlateProfileId_mapped h command.nextProfile
    dsimp only
    split
    · exact ⟨hmapped, hextends⟩
    · exact ⟨hmapped.tended (tended_setNext (hmapped.linked hnext) _ _), hextends⟩
  · exact ⟨h.tended (tended_setNext (.inl rfl) _ _), .refl ctx⟩

lemma profileSetTarget_mapped (h : ctx.Mapped) (command : Command) (id : ℤ) :
    (profileSetTarget command id ctx).1.Mapped ∧
      ctx.Extends (profileSetTarget command id ctx).1 := by
  have htarget : ctx.sled.env.Tended (sledProfileSetTarget id command.positionType
      command.position command.time ctx.sled).2.env :=
    tended_onProfile (fun p => .setTarget p _ _ _) (fun p => setTarget_nextProfile p _ _ _) id _
  have htable : ∀ s : Sled, s.env.Tended (sledProfileSetTable id command.table s).2.env :=
    fun s => tended_onProfile (fun p => .setTable p _) (fun p => setTable_nextProfile p _) id s
  simp only [profileSetTarget]
  split
  · exact ⟨h.tended htarget, .refl ctx⟩
  · split
    · exact ⟨h.tended (htarget.trans (htable _)), .refl ctx⟩
    · exact profileSetNext_mapped (h.tended (htarget.trans (htable _))) command id

lemma cmdProfileSet_mapped (h : ctx.Mapped) (command : Command) :
    (cmdProfileSet command ctx).1.Mapped ∧ ctx.Extends (cmdProfileSet command ctx).1 := by
  obtain ⟨hmapped, hextends, -⟩ := tlateProfileId_mapped h command.profile
  simp only [cmdProfileSet]
  split
  · exact ⟨hmapped, hextends⟩
  · obtain ⟨hmapped', hextends'⟩ := profileSetTarget_mapped hmapped command
      (tlateProfileId command.profile ctx).1
    exact ⟨hmapped', hextends.trans hextends'⟩

/-- The handler returns, and takes care of profiles and map. -/
lemma handleCommand_mapped (h : ctx.Mapped) (conn : Conn) (command : Command) :
    ∃ r, handleCommand conn command ctx = .ok r ∧ r.1.Mapped ∧ ctx.Extends r.1 := by
  have hcall : ∀ {x : Except Halt (ℤ × Sled)} (ok err : String),
      (∃ r, x = .ok r) → (∀ r, x = .ok r → ctx.sled.env.Tended r.2.env) →
      ∃ r, (x >>= fun a => .ok (replyTo ctx ok err a)) = .ok r ∧ r.1.Mapped ∧ ctx.Extends r.1 := by
    intro x ok err hreturns htended
    obtain ⟨r, rfl⟩ := hreturns
    exact ⟨_, rfl, h.tended (htended r rfl), .refl ctx⟩
  have hsinusoid : ∀ (c : SinusoidCall) (ok err : String),
      ∃ r, (sledCall ctx.sled c.toSledCall >>= fun a => .ok (replyTo ctx ok err a)) = .ok r ∧
        r.1.Mapped ∧ ctx.Extends r.1 := fun c ok err =>
    hcall ok err (sinusoid_returns h.sound c) fun r => tended_sinusoid h.sound.registered
  unfold handleCommand
  cases command.type with
  | profileExecute =>
    obtain ⟨hmapped, hextends, -⟩ := tlateProfileId_mapped h command.profile
    obtain ⟨r, hr⟩ := execute_returns hmapped.sound (tlateProfileId command.profile ctx).1
    refine ⟨_, bind_eq_ok.mpr ⟨r, hr, rfl⟩, hmapped.tended (tended_execute hr), hextends⟩
  | profileSet => exact ⟨_, rfl, cmdProfileSet_mapped h command⟩
  | sinusoid =>
    dsimp only
    split
    · exact hsinusoid (.start command.amplitude command.period) _ _
    · exact hsinusoid .stop _ _
  | rsinusoid =>
    dsimp only
    split
    · exact hsinusoid (.rstart command.amplitude command.period) _ _
    · exact hsinusoid .rstop _ _
  | lights =>
    exact hcall _ _ (lightSetState_returns ctx.sled command.boolean) fun r => tended_lightSetState
  | streamframes | bye => exact ⟨_, rfl, ⟨h.sound, h.used, h.injective⟩, .refl ctx⟩
  | _ => exact ⟨_, rfl, h, .refl ctx⟩

lemma commandHandler_mapped (h : ctx.Mapped) (F : Numerals) (conn : Conn) (text : List UInt8)
    (memory : CommandT) :
    ∃ r, commandHandler F conn text memory ctx = .ok r ∧ r.1.Mapped ∧ ctx.Extends r.1 := by
  rw [commandHandler_eq]
  cases parsed? F text memory with
  | none => exact ⟨_, rfl, h, .refl ctx⟩
  | some command => exact handleCommand_mapped h conn command

end Map

/-! ## Runs -/

section Runs

variable {F : Numerals} {v v' : Server} {e : ServerEvent}

lemma mapped_step (hv : v.ctx.Mapped) (h : serverStep F v e = .ok v') :
    v'.ctx.Mapped ∧ v.ctx.Extends v'.ctx := by
  cases e with
  | connect conn =>
    simp only [serverStep] at h
    split at h <;> cases h <;> exact ⟨hv, .refl _⟩
  | command conn text memory =>
    simp only [serverStep] at h
    split at h
    · obtain ⟨r, hr, hmapped, hextends⟩ := commandHandler_mapped hv F conn text memory
      rw [hr] at h
      cases h
      exact ⟨hmapped, hextends⟩
    · cases h
      exact ⟨hv, .refl _⟩
  | disconnect conn =>
    simp only [serverStep] at h
    split at h <;> cases h
    · exact ⟨⟨hv.sound, hv.used, hv.injective⟩, .refl _⟩
    · exact ⟨hv, .refl _⟩
  | timeout tcurrent now =>
    cases h
    exact ⟨hv, .refl _⟩
  | read o now r =>
    obtain ⟨s, hs, h⟩ := bind_eq_ok.mp h
    cases h
    have htended : v.ctx.sled.env.Tended s.env := by
      have hread := sledStep_read hs
      cases hpdo : tpdo2? v.ctx.sled r with
      | none =>
        rw [hpdo] at hread
        exact .of_kept hread
      | some p =>
        rw [hpdo] at hread
        obtain ⟨velocity, henv⟩ := hread
        rw [henv]
        exact .of_same rfl rfl rfl rfl fun _ => ⟨rfl, rfl, rfl⟩
    exact ⟨hv.tended htended, .refl _⟩
  | watchdog now =>
    obtain ⟨s, hs, h⟩ := bind_eq_ok.mp h
    cases h
    exact ⟨hv.tended (.of_kept (kept_watchdog hs)), .refl _⟩

lemma sledCreate_kept {mem : SledEnv} {now : ℚ} {o : CanOutcome} {s : Sled}
    (h : sledCreate mem now o = .ok s) :
    (sledCreateProfiles (sledAlloc mem now)).env.Kept s.env := by
  have hstores : Stores (fun _ => False) (sledAlloc mem now)
      (sledCreateProfiles (sledAlloc mem now)) := Stores.createProfiles (.refl _)
  have henv := hstores.env_rel SledEnv.SameModes.refl fun _ _ _ => .trans
  obtain ⟨intf, -, hend⟩ := sledCreate_ok h henv.intf hstores.silent.2
  -- What the profiles look like does not matter from here on.
  generalize sledCreateProfiles (sledAlloc mem now) = t at hend
  obtain rfl | hopen := hend
  · exact ⟨fun _ => ⟨_, rfl⟩, rfl, rfl, rfl, rfl, rfl⟩
  · refine SledEnv.Kept.trans ?_ (kept_netEvent hopen)
    exact ⟨fun _ => ⟨_, rfl⟩, rfl, rfl, rfl, rfl, rfl⟩

lemma sound_sledCreateProfiles (s : Sled) : (sledCreateProfiles s).env.Sound := by
  obtain ⟨t, hstage, hend⟩ := stage_sledCreateProfiles s
  have hback : ∀ old, SinusoidLink old 2 := .profile (j := 2) (by decide) rfl
  have hthere : ∀ old, SinusoidLink old 0 := .profile (j := 0) (by decide) rfl
  have hlinks := SinusoidLink.update (.update (.update
    (fun i => (.inl rfl : SinusoidLink (t.env.profiles i).nextProfile _)) 0 hback) 1 hback) 2 hthere
  refine ⟨hend.registered, fun i => ?_, fun i _ => ?_⟩
  · exact (hend.touched i).profile.trans (hstage.profile i)
  · rw [hend.next i]
    obtain hsame | hnone | ⟨j, hj, hjlink⟩ := hlinks i
    · exact .inl (hsame.trans (hstage.next i))
    · exact .inl hnone
    · exact .inr ⟨j, hjlink, hend.registered.inUse j hj⟩

lemma mapped_serverStart {mem : SledEnv} {now : ℚ} {o : CanOutcome}
    (h : serverStart mem now o = .ok v) : v.ctx.Mapped := by
  obtain ⟨s, hs, rfl⟩ := serverStart_ok h
  refine ⟨(sound_sledCreateProfiles _).tended (.of_kept (sledCreate_kept hs)), ?_, ?_⟩
  · intro a id ha
    cases ha
  · intro a b id ha
    cases ha

lemma mapped_run {es : List ServerEvent} (hv : v.ctx.Mapped)
    (h : run (serverStep F) v es = .ok v') : v'.ctx.Mapped ∧ v.ctx.Extends v'.ctx :=
  run_invariant (I := fun u => u.ctx.Mapped ∧ v.ctx.Extends u.ctx)
    (fun _ _ _ hu hstep => ⟨(mapped_step hu.1 hstep).1, hu.2.trans (mapped_step hu.1 hstep).2⟩)
    ⟨hv, .refl _⟩ h

lemma mapped_reaches {es : List ServerEvent} (h : Server.Reaches F es v) : v.ctx.Mapped := by
  obtain ⟨mem, now, o, v₀, hstart, hrun⟩ := h
  exact (mapped_run (mapped_serverStart hstart) hrun).1

end Runs

/-! ## The property -/

/-- What has to hold of the ids, the profiles and their links. -/
structure ServerCtx.SafeIds (ctx : ServerCtx) : Prop where
  /-- Different ids of the protocol stand for different profiles. -/
  distinct : ∀ a b id, ctx.profileTlate a = some id → ctx.profileTlate b = some id → 0 ≤ id → a = b
  notSinusoid : ∀ a id, ctx.profileTlate a = some id → id ≠ ctx.sled.env.sinusoidThere ∧
    id ≠ ctx.sled.env.sinusoidRthere ∧ id ≠ ctx.sled.env.sinusoidBack ∧
    id ≠ ctx.sled.env.sinusoidRback
  used : ∀ a id, ctx.profileTlate a = some id → 0 ≤ id → id < MAX_PROFILES ∧
    ∃ i : Fin MAX_PROFILES, id = (i : ℕ) ∧ (ctx.sled.env.profiles i).inUse = true
  slots : ∀ i j, (ctx.sled.env.profiles i).inUse = true → (ctx.sled.env.profiles j).inUse = true →
    (ctx.sled.env.profiles i).profile = (ctx.sled.env.profiles j).profile → i = j
  slot_ne_zero : ∀ i, (ctx.sled.env.profiles i).inUse = true →
    (ctx.sled.env.profiles i).profile ≠ 0
  next : ∀ i, (ctx.sled.env.profiles i).inUse = true →
    ctx.sled.env.Linked (ctx.sled.env.profiles i).nextProfile

lemma ServerCtx.Mapped.safeIds {ctx : ServerCtx} (h : ctx.Mapped) : ctx.SafeIds := by
  have hreg := h.sound.registered
  refine ⟨h.injective, fun a id ha => ?_, fun a id ha hid => ?_, fun i j _ _ hij => ?_,
    fun i _ => ?_, h.sound.next⟩
  · rw [hreg.there, hreg.rthere, hreg.back, hreg.rback]
    obtain hnone | ⟨i, hi, hid, -⟩ := h.used a id ha
    · omega
    · omega
  · obtain hnone | ⟨i, -, hi, hused⟩ := h.used a id ha
    · omega
    · exact ⟨by omega, i, hi, hused⟩
  · rw [h.sound.slot i, h.sound.slot j] at hij
    exact Fin.ext (by omega)
  · rw [h.sound.slot i]
    omega

/-- Ids, profiles and links are safe after every run, no entry of the map changes any more, and no
command, from whichever connection, reaches out of the profile table. -/
theorem profile_ids_safe {F : Numerals} {es : List ServerEvent} {v : Server}
    (h : Server.Reaches F es v) :
    v.ctx.SafeIds ∧
    (∀ es' v', run (serverStep F) v es' = .ok v' →
      ∀ a id, v.ctx.profileTlate a = some id → v'.ctx.profileTlate a = some id) ∧
    ∀ conn text memory, ∃ v', serverStep F v (.command conn text memory) = .ok v' := by
  have hmapped := mapped_reaches h
  refine ⟨hmapped.safeIds, fun es' v' hrun => (mapped_run hmapped hrun).2,
    fun conn text memory => ?_⟩
  simp only [serverStep]
  split
  · obtain ⟨r, hr, -⟩ := commandHandler_mapped hmapped F conn text memory
    exact ⟨_, bind_eq_ok.mpr ⟨r, hr, rfl⟩⟩
  · exact ⟨v, rfl⟩

/-- The text that sets the profile with this id. -/
def profileText (id : List UInt8) : List UInt8 :=
  bytes "profile" ++ bytes " " ++ (id ++ bytes " " ++ (bytes "set" ++ bytes " " ++
    (bytes "table" ++ bytes " " ++ (bytes "0" ++ bytes " " ++ (bytes "abs" ++ bytes " " ++
      (bytes "0" ++ bytes " " ++ bytes "1"))))))

/-- The command in the text. -/
def profileCommand (profile : ℤ) : Command :=
  ((Sentence.profileSet profile 0 .posAbsolute (.int 0) (.int 1) none).assign .decimal
    .zero).toCommand

lemma parsed?_profileText {id : List UInt8} (h : IsInt id) :
    parsed? .decimal (profileText id) .zero = some (profileCommand (decimal id)) := by
  have hzero : Lexeme .decimal (integer 0) (bytes "0") :=
    .int ⟨[], bytes "0", .inl rfl, by decide, by decide, rfl⟩
  have hone : Lexeme .decimal (integer 1) (bytes "1") :=
    .int ⟨[], bytes "1", .inl rfl, by decide, by decide, rfl⟩
  have hprinted : Printed .decimal
      (Sentence.profileSet (decimal id) 0 .posAbsolute (.int 0) (.int 1) none).tokens
        (profileText id) :=
    .cons (.keyword (k := ("profile", word .profile)) (by decide) (by decide)) (by decide) <|
    .cons (.int h) (by decide) <|
    .cons (.keyword (k := ("set", word .set)) (by decide) (by decide)) (by decide) <|
    .cons (.keyword (k := ("table", word .table)) (by decide) (by decide)) (by decide) <|
    .cons hzero (by decide) <|
    .cons (.keyword (k := ("abs", .postype, .pval .posAbsolute)) (by decide) (by decide))
      (by decide) <|
    .cons hzero (by decide) <|
    .one hone
  refine parsed?_of_sentence (yylex_printed hprinted ?_) .zero
  simp [Sentence.tokens, word, integer, Numeral.token]

/-- The text is carried out, and the client stays. -/
lemma serverStep_profileText {v : Server} {conn : Conn} {id : List UInt8} (h : conn ∈ v.connected)
    (hid : IsInt id) : ∃ v', serverStep .decimal v (.command conn (profileText id) .zero) = .ok v' ∧
      v'.ctx = (cmdProfileSet (profileCommand (decimal id)) v.ctx).1 ∧
      v'.connected = v.connected := by
  refine ⟨_, serverStep_command h (parsed?_profileText hid) rfl, rfl, if_neg fun hmem => ?_⟩
  simpa [CommandType.answers] using mem_cmdProfileSet hmem

/-- A client sets two profiles. -/
def twoProfiles : List ServerEvent :=
  [.connect 0, .command 0 (profileText (bytes "7")) .zero,
    .command 0 (profileText (bytes "9")) .zero]

/-- The ids 7 and 9 stand for the first two profiles after those of the sinusoids. -/
theorem profile_ids_safe_two_profiles : ∃ v, Server.Reaches .decimal twoProfiles v ∧
    v.ctx.profileTlate 7 = some 4 ∧ v.ctx.profileTlate 9 = some 5 ∧ v.ctx.SafeIds := by
  obtain ⟨v, hv, hids⟩ := exists_of_okAnd (x := serverStart someMemory 0 ⟨.success, true⟩)
    (p := fun v =>
      let ctx := (cmdProfileSet (profileCommand 9) (cmdProfileSet (profileCommand 7) v.ctx).1).1
      ctx.profileTlate 7 == some 4 && ctx.profileTlate 9 == some 5) (by decide +kernel)
  obtain ⟨s, -, rfl⟩ := serverStart_ok hv
  rw [Bool.and_eq_true, beq_iff_eq, beq_iff_eq] at hids
  have hdigit : ∀ d ∈ digit, IsInt [d] := fun d hd =>
    ⟨[], [d], .inl rfl, by simpa [IsDigits] using hd, by simp, rfl⟩
  have hfirst : 0 ∈ (⟨⟨s, [], fun _ => none⟩, [0], 0, [], none⟩ : Server).connected := by simp
  obtain ⟨u, hu, hctx, hconn⟩ := serverStep_profileText hfirst (hdigit (byte '7') (by decide))
  rw [← hconn] at hfirst
  obtain ⟨v, hv', hctx', -⟩ := serverStep_profileText hfirst (hdigit (byte '9') (by decide))
  have hreach : Server.Reaches .decimal twoProfiles v :=
    ⟨someMemory, 0, ⟨.success, true⟩, _, hv, run_cons_ok.mpr ⟨_, rfl,
      run_cons_ok.mpr ⟨u, hu, run_cons_ok.mpr ⟨v, hv', rfl⟩⟩⟩⟩
  rw [hctx] at hctx'
  refine ⟨v, hreach, ?_, ?_, (profile_ids_safe hreach).1⟩
  · rw [hctx']
    exact hids.1
  · rw [hctx']
    exact hids.2

end SledServer
