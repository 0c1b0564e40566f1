import SledServer.Drive.Frames
import SledServer.Server.Handler

/-!
# Refused profiles

A client that is told `err-profile-set` should find its profiles as they were.  Two paths of
`cmd_profile_set` break this.  The check of the position sends its error and goes on: the target is
stored, and the client is told `ok-profile-set` as well.  And the next profile is only looked up
after target and table have been stored, so a command that fails there is carried out by half.

`refused_profile_set_iff` says when neither happens.
-/

namespace SledServer

open SledServer.Core

/-! ## Allocation -/

/-- The profiles that are not in use. -/
def SledEnv.free (e : SledEnv) : Finset (Fin MAX_PROFILES) :=
  Finset.univ.filter fun i => (e.profiles i).inUse = false

section Allocation

variable {s : Sled} {i : Fin MAX_PROFILES}

@[simp] lemma SledEnv.mem_free {e : SledEnv} : i ∈ e.free ↔ (e.profiles i).inUse = false := by
  simp [free]

lemma freeProfile?_eq_none (e : SledEnv) : freeProfile? e.profiles = none ↔ e.free = ∅ := by
  simp [freeProfile?, Finset.eq_empty_iff_forall_notMem]

lemma mem_free_of_freeProfile? {e : SledEnv} (h : freeProfile? e.profiles = some i) :
    i ∈ e.free := by
  have hi := List.find?_some h
  simpa using hi

/-- `sled_profile_create` takes a free profile, if there is one. -/
lemma sledProfileCreate_cases (s : Sled) :
    (s.env.free = ∅ ∧ sledProfileCreate s = (-1, s)) ∨
    ∃ i ∈ s.env.free,
      sledProfileCreate s = (((i : ℕ) : ℤ), s.modifyProfile i (SledProfile.created i)) := by
  cases hfree : freeProfile? s.env.profiles with
  | none =>
    refine .inl ⟨(freeProfile?_eq_none s.env).mp hfree, ?_⟩
    simp [sledProfileCreate, hfree]
  | some i => exact .inr ⟨i, mem_free_of_freeProfile? hfree, sledProfileCreate_of_free hfree⟩

/-- Profiles that stay in use or not leave the same profiles free. -/
lemma free_congr {e e' : SledEnv} (h : ∀ j, (e'.profiles j).inUse = (e.profiles j).inUse) :
    e'.free = e.free := by
  ext j
  simp [h j]

lemma free_created (hi : i ∈ s.env.free) :
    (s.modifyProfile i (SledProfile.created i)).env.free = s.env.free.erase i := by
  ext j
  by_cases hj : j = i
  · subst hj
    simp [Host.modifyProfile_eq, SledProfile.created]
  · simp [Host.modifyProfile_eq, hj]

end Allocation

/-! ## Translated ids -/

section Translation

variable {ctx : ServerCtx} {profile : ℤ}

lemma tlateProfileId_of_some {id : ℤ} (h : ctx.profileTlate profile = some id) :
    tlateProfileId profile ctx = (id, ctx) := by
  simp [tlateProfileId, h]

lemma tlateProfileId_of_full (h : ctx.profileTlate profile = none) (hfree : ctx.sled.env.free = ∅) :
    tlateProfileId profile ctx =
      (-1, { ctx with profileTlate := Function.update ctx.profileTlate profile (some (-1)) }) := by
  rcases sledProfileCreate_cases ctx.sled with ⟨-, hr⟩ | ⟨i, hi, -⟩
  · simp [tlateProfileId, h, hr]
  · simp [hfree] at hi

lemma tlateProfileId_of_free (h : ctx.profileTlate profile = none)
    (hfree : ctx.sled.env.free.Nonempty) :
    ∃ i ∈ ctx.sled.env.free, tlateProfileId profile ctx = (((i : ℕ) : ℤ),
      { ctx with
        sled := ctx.sled.modifyProfile i (SledProfile.created i)
        profileTlate := Function.update ctx.profileTlate profile (some ((i : ℕ) : ℤ)) }) := by
  rcases sledProfileCreate_cases ctx.sled with ⟨hempty, -⟩ | ⟨i, hi, hr⟩
  · simp [hempty] at hfree
  · exact ⟨i, hi, by simp [tlateProfileId, h, hr]⟩

/-- An id cannot be translated if it stands for no profile, or if it is new and all profiles are in
use. -/
lemma tlateProfileId_neg_iff : (tlateProfileId profile ctx).1 < 0 ↔
    (∃ id, ctx.profileTlate profile = some id ∧ id < 0) ∨
      ctx.profileTlate profile = none ∧ ctx.sled.env.free = ∅ := by
  cases h : ctx.profileTlate profile with
  | some id => simp [tlateProfileId_of_some h]
  | none =>
    rcases ctx.sled.env.free.eq_empty_or_nonempty with hfree | hfree
    · simp [tlateProfileId_of_full h hfree, hfree]
    · obtain ⟨i, -, hr⟩ := tlateProfileId_of_free h hfree
      simp [hr, hfree.ne_empty]

/-- An id that cannot be translated leaves the sled as it is. -/
lemma tlateProfileId_sled_of_neg (h : (tlateProfileId profile ctx).1 < 0) :
    (tlateProfileId profile ctx).2.sled = ctx.sled := by
  rcases tlateProfileId_neg_iff.mp h with ⟨id, hid, -⟩ | ⟨hnone, hfree⟩
  · rw [tlateProfileId_of_some hid]
  · rw [tlateProfileId_of_full hnone hfree]

end Translation

/-! ## The property -/

/-- What a client has set of a profile, and the states of its fields, stay as they are. -/
structure SledProfile.SameContents (p p' : SledProfile) : Prop where
  position : p'.position = p.position
  time : p'.time = p.time
  table : p'.table = p.table
  positionType : p'.positionType = p.positionType
  nextProfile : p'.nextProfile = p.nextProfile
  delay : p'.delay = p.delay
  blendType : p'.blendType = p.blendType
  fieldState : ∀ f, p'.fieldState f = p.fieldState f

lemma SledProfile.SameContents.refl (p : SledProfile) : p.SameContents p :=
  ⟨rfl, rfl, rfl, rfl, rfl, rfl, rfl, fun _ => rfl⟩

/-- Every profile that was allocated before keeps its contents. -/
def KeepsProfiles (s s' : Sled) : Prop :=
  ∀ i, (s.env.profiles i).inUse = true → (s.env.profiles i).SameContents (s'.env.profiles i)

/-- A command that is refused changes nothing, and one whose position is out of bounds neither. -/
def RefusalSafe (command : Command) (ctx ctx' : ServerCtx) (replies : List Reply) : Prop :=
  (.error "err-profile-set" ∈ replies →
    .command "ok-profile-set" ∉ replies ∧ KeepsProfiles ctx.sled ctx'.sled) ∧
  (|command.position| > 1 / 2 → KeepsProfiles ctx.sled ctx'.sled)

/-! ## When it holds -/

namespace ServerCtx

variable (ctx : ServerCtx) (command : Command)

/-- The command finds a profile for its id: one that is known and in use, or a free one. -/
def Usable : Prop :=
  (∃ i : Fin MAX_PROFILES, ctx.profileTlate command.profile = some ((i : ℕ) : ℤ) ∧
    (ctx.sled.env.profiles i).inUse = true) ∨
  ctx.profileTlate command.profile = none ∧ ctx.sled.env.free.Nonempty

/-- The command names a next profile for which there is none: its id stands for no profile, or is
new, and so few profiles are free that none is left for it. -/
def NextFails : Prop :=
  command.nextProfile ≥ 0 ∧
    ((∃ id, ctx.profileTlate command.nextProfile = some id ∧ id < 0) ∨
      ctx.profileTlate command.nextProfile = none ∧ command.nextProfile ≠ command.profile ∧
        ctx.sled.env.free.card < if ctx.profileTlate command.profile = none then 2 else 1)

/-- The profile, if it is known, has the target and table of the command already. -/
def Stored : Prop :=
  ∀ i : Fin MAX_PROFILES, ctx.profileTlate command.profile = some ((i : ℕ) : ℤ) →
    (ctx.sled.env.profiles i).positionType = command.positionType ∧
      (ctx.sled.env.profiles i).position = command.position ∧
      (ctx.sled.env.profiles i).time = command.time ∧
      (ctx.sled.env.profiles i).table = command.table

end ServerCtx

section ProfileSet

variable {ctx : ServerCtx} {command : Command} {i : Fin MAX_PROFILES}

/-- What `cmd_profile_set` has done to the profile when it comes to the next profile. -/
def SledProfile.targeted (command : Command) (p : SledProfile) : SledProfile :=
  (p.setTarget command.positionType command.position command.time).setTable command.table

lemma targeted_inUse (p : SledProfile) : (p.targeted command).inUse = p.inUse := by
  rw [SledProfile.targeted, setTable_inUse, setTarget_inUse]

/-- Target and table are what the command says. -/
lemma targeted_contents (p : SledProfile) : (p.targeted command).position = command.position ∧
    (p.targeted command).time = command.time ∧ (p.targeted command).table = command.table ∧
    (p.targeted command).positionType = command.positionType := by
  simp only [SledProfile.targeted, SledProfile.setTarget, SledProfile.setTable,
    SledProfile.setField]
  split_ifs <;> simp_all

/-- Storing target and table changes something, unless they are what they were. -/
lemma targeted_sameContents_iff (p : SledProfile) : p.SameContents (p.targeted command) ↔
    p.positionType = command.positionType ∧ p.position = command.position ∧
      p.time = command.time ∧ p.table = command.table := by
  constructor
  · intro h
    obtain ⟨hpos, htime, htable, htype, -, -, -, -⟩ := h
    obtain ⟨hpos', htime', htable', htype'⟩ := @targeted_contents command p
    exact ⟨htype.symm.trans htype', hpos.symm.trans hpos', htime.symm.trans htime',
      htable.symm.trans htable'⟩
  · rintro ⟨htype, hpos, htime, htable⟩
    have hsame : p.targeted command = p := by
      simp [SledProfile.targeted, SledProfile.setTarget, SledProfile.setTable, htype, hpos, htime,
        htable]
    rw [hsame]
    exact .refl p

/-- Target and table of a profile that is in use are stored without errors. -/
lemma profileSetTarget_of_inUse (h : (ctx.sled.env.profiles i).inUse = true) :
    profileSetTarget command (i : ℕ) ctx = profileSetNext command (i : ℕ)
      (ctx.withSled (ctx.sled.modifyProfile i (SledProfile.targeted command))) := by
  have htarget : ((ctx.sled.modifyProfile i
      (SledProfile.setTarget command.positionType command.position command.time)).env.profiles
        i).inUse = true := by
    simp [Host.modifyProfile_eq, setTarget_inUse, h]
  have htwice : (ctx.sled.modifyProfile i
      (SledProfile.setTarget command.positionType command.position command.time)).modifyProfile i
        (SledProfile.setTable command.table) =
      ctx.sled.modifyProfile i (SledProfile.targeted command) := by
    simp [Host.modifyProfile_eq, Host.withEnv, SledProfile.targeted]
  simp [profileSetTarget, sledProfileSetTarget, sledProfileSetTable, onProfile_of_inUse h,
    onProfile_of_inUse htarget, htwice]

lemma profileSetTarget_of_unused {id : ℤ}
    (h : ∀ i, profileIndex? id = some i → (ctx.sled.env.profiles i).inUse = false) :
    profileSetTarget command id ctx = (ctx, [.error "err-profile-set"]) := by
  simp [profileSetTarget, sledProfileSetTarget, onProfile_of_unused h, ServerCtx.withSled]

/-- The next profile cannot be found. -/
lemma profileSetNext_of_neg {id : ℤ} (hnext : command.nextProfile ≥ 0)
    (h : (tlateProfileId command.nextProfile ctx).1 < 0) :
    (profileSetNext command id ctx).1.sled = ctx.sled ∧
      (profileSetNext command id ctx).2 = [.error "err-profile-set"] := by
  simp [profileSetNext, hnext, h, tlateProfileId_sled_of_neg h]

lemma profileSetNext_of_nonneg {id : ℤ}
    (h : command.nextProfile ≥ 0 → ¬ (tlateProfileId command.nextProfile ctx).1 < 0) :
    (profileSetNext command id ctx).2 = [.command "ok-profile-set"] := by
  unfold profileSetNext
  split
  · next hnext => simp [h hnext]
  · rfl

/-- The replies of `cmd_profile_set` that come before those of its second half. -/
def positionReplies (command : Command) : List Reply :=
  if |command.position| > 1 / 2 then [.error "err-profile-set"] else []

/-- A command without a profile is refused and changes nothing. -/
lemma cmdProfileSet_of_not_usable (h : ¬ ctx.Usable command) :
    (cmdProfileSet command ctx).1.sled = ctx.sled ∧
      .command "ok-profile-set" ∉ (cmdProfileSet command ctx).2 := by
  obtain ⟨hknown, hnew⟩ := not_or.mp h
  by_cases hneg : (tlateProfileId command.profile ctx).1 < 0
  · simp [cmdProfileSet, hneg, tlateProfileId_sled_of_neg hneg]
  · cases hid : ctx.profileTlate command.profile with
    | none =>
      have hfree : ctx.sled.env.free = ∅ := by
        rw [← Finset.not_nonempty_iff_eq_empty]
        exact fun hfree => hnew ⟨hid, hfree⟩
      exact absurd (tlateProfileId_neg_iff.mpr (.inr ⟨hid, hfree⟩)) hneg
    | some id =>
      have hunused : ∀ i, profileIndex? id = some i →
          (ctx.sled.env.profiles i).inUse = false := by
        intro i hi
        rw [profileIndex?_eq_some] at hi
        by_contra huse
        exact hknown ⟨i, by rw [hid, hi], by simpa using huse⟩
      rw [tlateProfileId_of_some hid] at hneg
      simp [cmdProfileSet, tlateProfileId_of_some hid, hneg, profileSetTarget_of_unused hunused]

/-- The context in which the next profile is looked up. -/
def ServerCtx.targeted (ctx : ServerCtx) (command : Command) (i : Fin MAX_PROFILES) : ServerCtx :=
  ctx.withSled (ctx.sled.modifyProfile i (SledProfile.targeted command))

lemma free_targeted (ctx : ServerCtx) (i : Fin MAX_PROFILES) :
    (ctx.targeted command i).sled.env.free = ctx.sled.env.free := by
  refine free_congr fun j => ?_
  by_cases hj : j = i
  · subst hj
    simp [ServerCtx.targeted, ServerCtx.withSled, Host.modifyProfile_eq, targeted_inUse]
  · simp [ServerCtx.targeted, ServerCtx.withSled, Host.modifyProfile_eq, hj]

/-- A command that finds its profile: the error of the position check comes first, and the rest
goes on without it. -/
lemma cmdProfileSet_of_tlate {ctx₁ : ServerCtx}
    (ht : tlateProfileId command.profile ctx = (((i : ℕ) : ℤ), ctx₁))
    (hi : (ctx₁.sled.env.profiles i).inUse = true) :
    cmdProfileSet command ctx =
      ((profileSetNext command (i : ℕ) (ctx₁.targeted command i)).1,
        positionReplies command ++
          (profileSetNext command (i : ℕ) (ctx₁.targeted command i)).2) := by
  have hnonneg : ¬ ((i : ℕ) : ℤ) < 0 := by omega
  simp only [cmdProfileSet, ht, hnonneg, if_false, profileSetTarget_of_inUse hi]
  rfl

/-- The profile that a command finds for its id, and the context it is found in: a known profile,
or a new one. -/
inductive Found (ctx : ServerCtx) (profile : ℤ) : Fin MAX_PROFILES → ServerCtx → Prop
  | known {i : Fin MAX_PROFILES} (hid : ctx.profileTlate profile = some ((i : ℕ) : ℤ))
      (huse : (ctx.sled.env.profiles i).inUse = true) : Found ctx profile i ctx
  | new {i : Fin MAX_PROFILES} (hnone : ctx.profileTlate profile = none)
      (hi : i ∈ ctx.sled.env.free) :
      Found ctx profile i { ctx with
        sled := ctx.sled.modifyProfile i (SledProfile.created i)
        profileTlate := Function.update ctx.profileTlate profile (some ((i : ℕ) : ℤ)) }

lemma Found.inUse {profile : ℤ} {ctx₁ : ServerCtx} (h : Found ctx profile i ctx₁) :
    (ctx₁.sled.env.profiles i).inUse = true := by
  cases h with
  | known _ huse => exact huse
  | new => simp [Host.modifyProfile_eq, SledProfile.created]

lemma tlateProfileId_of_usable (h : ctx.Usable command) :
    ∃ (i : Fin MAX_PROFILES) (ctx₁ : ServerCtx),
      tlateProfileId command.profile ctx = (((i : ℕ) : ℤ), ctx₁) ∧
        Found ctx command.profile i ctx₁ := by
  rcases h with ⟨i, hid, huse⟩ | ⟨hnone, hfree⟩
  · exact ⟨i, ctx, tlateProfileId_of_some hid, .known hid huse⟩
  · obtain ⟨i, hi, ht⟩ := tlateProfileId_of_free hnone hfree
    exact ⟨i, _, ht, .new hnone hi⟩

/-- The next profile cannot be found exactly when `NextFails` says so. -/
lemma nextFails_iff {ctx₁ : ServerCtx} (h : Found ctx command.profile i ctx₁) :
    (command.nextProfile ≥ 0 ∧
      (tlateProfileId command.nextProfile (ctx₁.targeted command i)).1 < 0) ↔
      ctx.NextFails command := by
  rw [tlateProfileId_neg_iff, free_targeted, ServerCtx.NextFails]
  refine and_congr_right fun _ => ?_
  cases h with
  | known hid huse =>
    have hne : ctx.profileTlate command.nextProfile = none →
        command.nextProfile ≠ command.profile := by
      intro hnone heq
      rw [heq, hid] at hnone
      cases hnone
    have hcard : ctx.sled.env.free.card < 1 ↔ ctx.sled.env.free = ∅ := by
      rw [Nat.lt_one_iff, Finset.card_eq_zero]
    simp only [hid, reduceCtorEq, if_false, hcard]
    show (∃ id, ctx.profileTlate command.nextProfile = some id ∧ id < 0) ∨ _ ↔ _
    constructor
    · rintro (hneg | ⟨hnone, hfree⟩)
      · exact .inl hneg
      · exact .inr ⟨hnone, hne hnone, hfree⟩
    · rintro (hneg | ⟨hnone, -, hfree⟩)
      · exact .inl hneg
      · exact .inr ⟨hnone, hfree⟩
  | new hnone hi =>
    have hcard : ctx.sled.env.free.card < 2 ↔ ctx.sled.env.free.erase i = ∅ := by
      rw [← Finset.card_eq_zero, Finset.card_erase_of_mem hi]
      have hpos := Finset.card_pos.mpr ⟨i, hi⟩
      omega
    rw [free_created hi, if_pos hnone, hcard]
    show (∃ id, Function.update ctx.profileTlate command.profile (some ((i : ℕ) : ℤ))
      command.nextProfile = some id ∧ id < 0) ∨ Function.update ctx.profileTlate command.profile
      (some ((i : ℕ) : ℤ)) command.nextProfile = none ∧ _ ↔ _
    by_cases heq : command.nextProfile = command.profile
    · -- The profile is its own next one, and has just been allocated.
      rw [heq, Function.update_self, hnone]
      simp
    · rw [Function.update_of_ne heq]
      simp [heq]

/-- What has been stored when the next profile is looked up, for the profiles allocated before. -/
lemma keepsProfiles_targeted_iff {ctx₁ : ServerCtx} (h : Found ctx command.profile i ctx₁) :
    KeepsProfiles ctx.sled (ctx₁.targeted command i).sled ↔ ctx.Stored command := by
  cases h with
  | known hid huse =>
    constructor
    · intro hkeeps j hj
      obtain rfl : i = j := by
        rw [hid, Option.some.injEq] at hj
        exact Fin.ext (by exact_mod_cast hj)
      refine (targeted_sameContents_iff _).mp ?_
      simpa [ServerCtx.targeted, ServerCtx.withSled, Host.modifyProfile_eq] using hkeeps i huse
    · intro hstored j _
      by_cases hj : j = i
      · subst hj
        simpa [ServerCtx.targeted, ServerCtx.withSled, Host.modifyProfile_eq] using
          (targeted_sameContents_iff _).mpr (hstored j hid)
      · simpa [ServerCtx.targeted, ServerCtx.withSled, Host.modifyProfile_eq, hj] using .refl _
  | new hnone hi =>
    constructor
    · intro _ j hj
      rw [hnone] at hj
      cases hj
    · -- The new profile is not one that was allocated before.
      intro _ j hj
      have hne : j ≠ i := by
        rintro rfl
        rw [SledEnv.mem_free.mp hi] at hj
        cases hj
      simpa [ServerCtx.targeted, ServerCtx.withSled, Host.modifyProfile_eq, hne] using .refl _

/-- A command that finds its profile is safe if it fails at the next profile and has stored nothing
new by then, or if it is carried out and its position is within bounds. -/
lemma refusalSafe_of_usable (h : ctx.Usable command) :
    RefusalSafe command ctx (cmdProfileSet command ctx).1 (cmdProfileSet command ctx).2 ↔
      (ctx.NextFails command ∧ ctx.Stored command) ∨
        (¬ ctx.NextFails command ∧ |command.position| ≤ 1 / 2) := by
  obtain ⟨i, ctx₁, ht, hfound⟩ := tlateProfileId_of_usable h
  rw [cmdProfileSet_of_tlate ht hfound.inUse]
  by_cases hfails : ctx.NextFails command
  · obtain ⟨hnext, hneg⟩ := (nextFails_iff hfound).mpr hfails
    obtain ⟨hsled, hreplies⟩ := @profileSetNext_of_neg _ _ (i : ℕ) hnext hneg
    have hkeeps := keepsProfiles_targeted_iff hfound
    have hno : Reply.command "ok-profile-set" ∉
        positionReplies command ++ [.error "err-profile-set"] := by
      unfold positionReplies
      split <;> simp
    simp only [RefusalSafe, hsled, hreplies, hfails, hkeeps, hno, true_and, not_true_eq_false,
      false_and, or_false, not_false_eq_true, List.mem_append, List.mem_singleton, or_true,
      forall_const, and_iff_left_iff_imp]
    exact fun hs _ => hs
  · have hnonneg : command.nextProfile ≥ 0 →
        ¬ (tlateProfileId command.nextProfile (ctx₁.targeted command i)).1 < 0 :=
      fun hnext hneg => hfails ((nextFails_iff hfound).mp ⟨hnext, hneg⟩)
    rw [profileSetNext_of_nonneg hnonneg]
    by_cases hpos : |command.position| > 1 / 2
    · -- Both replies are sent.
      have hboth : positionReplies command = [.error "err-profile-set"] := if_pos hpos
      refine iff_of_false (fun hsafe => ?_) ?_
      · rw [hboth] at hsafe
        exact (hsafe.1 (by simp)).1 (by simp)
      · rintro (⟨hnext, -⟩ | ⟨-, hle⟩)
        · exact hfails hnext
        · exact absurd hle (not_le.mpr hpos)
    · have hnone : positionReplies command = [] := if_neg hpos
      refine iff_of_true ?_ (.inr ⟨hfails, not_lt.mp hpos⟩)
      rw [hnone]
      exact ⟨by simp, fun hgt => absurd hgt hpos⟩

end ProfileSet

/-- **A refused profile-set changes nothing**, unless the error is sent by one of two paths: by the
check of the position, after which the command is carried out, or by the lookup of the next profile,
after the target and table have been stored. -/
theorem refused_profile_set_iff (conn : Conn) (ctx : ServerCtx) (command : Command)
    (h : command.type = .profileSet) :
    (∃ ctx' replies, rtc3dCommandHandler conn (some command) ctx = .ok (ctx', replies) ∧
      RefusalSafe command ctx ctx' replies) ↔
      ¬ ctx.Usable command ∨ (ctx.NextFails command ∧ ctx.Stored command) ∨
        (¬ ctx.NextFails command ∧ |command.position| ≤ 1 / 2) := by
  have hrun : rtc3dCommandHandler conn (some command) ctx = .ok (cmdProfileSet command ctx) := by
    simp only [rtc3dCommandHandler, handleCommand, h]
  have hsafe : (∃ ctx' replies, rtc3dCommandHandler conn (some command) ctx =
      .ok (ctx', replies) ∧ RefusalSafe command ctx ctx' replies) ↔
      RefusalSafe command ctx (cmdProfileSet command ctx).1 (cmdProfileSet command ctx).2 := by
    rw [hrun]
    constructor
    · rintro ⟨ctx', replies, hr, hsafe⟩
      rw [Except.ok.injEq] at hr
      rw [hr]
      exact hsafe
    · exact fun hsafe => ⟨_, _, rfl, hsafe⟩
  rw [hsafe]
  by_cases husable : ctx.Usable command
  · rw [refusalSafe_of_usable husable]
    simp [husable]
  · obtain ⟨hsled, hno⟩ := cmdProfileSet_of_not_usable husable
    have hkeeps : KeepsProfiles ctx.sled (cmdProfileSet command ctx).1.sled := by
      rw [hsled]
      exact fun i _ => .refl _
    exact iff_of_true ⟨fun _ => ⟨hno, hkeeps⟩, fun _ => hkeeps⟩ (.inl husable)

/-- A server that knows no ids yet, and whose sled has not opened its interface. -/
def someServer : ServerCtx := ⟨sledCreateProfiles (sledAlloc someMemory 0), [], fun _ => none⟩

/-- A command that sets profile 1 and has no next profile. -/
def someProfileSet (position : ℚ) : Command where
  type := .profileSet
  boolean := false
  byteOrder := .bigEndian
  amplitude := 0
  period := 0
  profile := 1
  table := 2
  positionType := .posAbsolute
  position := position
  time := 1
  nextProfile := -1
  nextDelay := 0
  blendType := .blnNone

/-- The server once all profiles of its sled are taken. -/
def fullServer : ServerCtx :=
  let env := someServer.sled.env
  someServer.withSled (someServer.sled.withEnv
    { env with profiles := fun i => { env.profiles i with inUse := true } })

/-- A new id is refused when there is no profile left for it. -/
theorem refused_profile_set_full :
    ∃ ctx' replies,
      rtc3dCommandHandler 0 (some (someProfileSet (1 / 10))) fullServer = .ok (ctx', replies) ∧
        replies = [.error "err-profile-set"] ∧
        RefusalSafe (someProfileSet (1 / 10)) fullServer ctx' replies := by
  have hfree : ¬ fullServer.Usable (someProfileSet (1 / 10)) := by
    rintro (⟨i, hid, -⟩ | ⟨-, i, hi⟩)
    · cases hid
    · simp [fullServer, ServerCtx.withSled, SledEnv.free] at hi
  obtain ⟨ctx', replies, hr, hsafe⟩ :=
    (refused_profile_set_iff 0 fullServer (someProfileSet (1 / 10)) rfl).mpr (.inl hfree)
  obtain ⟨r, hr', hreplies⟩ := exists_of_okAnd
    (x := rtc3dCommandHandler 0 (some (someProfileSet (1 / 10))) fullServer)
    (p := fun r => decide (r.2 = [.error "err-profile-set"])) (by decide +kernel)
  obtain rfl := Except.ok.inj (hr.symm.trans hr')
  exact ⟨ctx', replies, hr, of_decide_eq_true hreplies, hsafe⟩

/-- Profile 1 is set to 0.1 m, and then to 0.6 m.  The second command is refused, accepted, and
moves the profile out of bounds. -/
theorem refused_profile_set_stored :
    ∃ ctx ctx' replies,
      rtc3dCommandHandler 0 (some (someProfileSet (1 / 10))) someServer =
        .ok (ctx, [.command "ok-profile-set"]) ∧
      rtc3dCommandHandler 0 (some (someProfileSet (6 / 10))) ctx = .ok (ctx', replies) ∧
      replies = [.error "err-profile-set", .command "ok-profile-set"] ∧
      (ctx.sled.env.profiles 4).inUse = true ∧ (ctx.sled.env.profiles 4).position = 1 / 10 ∧
      (ctx'.sled.env.profiles 4).position = 6 / 10 ∧
      ¬ RefusalSafe (someProfileSet (6 / 10)) ctx ctx' replies := by
  obtain ⟨⟨ctx, out⟩, hctx, h⟩ := exists_of_okAnd
    (x := rtc3dCommandHandler 0 (some (someProfileSet (1 / 10))) someServer)
    (p := fun r => decide (r.2 = [.command "ok-profile-set"]) && (r.1.sled.env.profiles 4).inUse &&
      decide ((r.1.sled.env.profiles 4).position = 1 / 10) &&
      okAnd (fun r' => decide (r'.2 = [.error "err-profile-set", .command "ok-profile-set"]) &&
          decide ((r'.1.sled.env.profiles 4).position = 6 / 10))
        (rtc3dCommandHandler 0 (some (someProfileSet (6 / 10))) r.1)) (by decide +kernel)
  simp only [Bool.and_eq_true, decide_eq_true_eq] at h
  obtain ⟨⟨⟨rfl, huse⟩, hpos⟩, hnext⟩ := h
  obtain ⟨⟨ctx', replies⟩, hctx', h'⟩ := exists_of_okAnd hnext
  simp only [Bool.and_eq_true, decide_eq_true_eq] at h'
  obtain ⟨rfl, hpos'⟩ := h'
  refine ⟨ctx, ctx', _, hctx, hctx', rfl, huse, hpos, hpos', fun hsafe => ?_⟩
  exact (hsafe.1 (by simp)).1 (by simp)

end SledServer
