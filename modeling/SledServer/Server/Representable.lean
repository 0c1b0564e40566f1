import SledServer.Core.Trunc
import SledServer.Server.ProfileSet

/-!
# What an accepted profile makes of its numbers

The drive is told of a profile in 32-bit numbers: micrometres, and milliseconds of acceleration,
deceleration and delay.  `SledEnv.Representable` says that these numbers mean what the client has
sent.  `cmd_profile_set` checks the position, which is enough for it to fit, but neither the time
nor the delay: `profileSet_representable_iff` says which of them are meant well.
-/

namespace SledServer

open SledServer.Core

/-- The value of a field of profile `i`, as the drive reads it. -/
def SledEnv.reading (e : SledEnv) (i : Fin MAX_PROFILES) (f : Field) : ℤ := signed (e.value i f)

/-- The converted numbers of a profile fit, times are not negative, and acceleration and
deceleration take as long together as the motion, up to 2 ms. -/
structure SledEnv.Representable (e : SledEnv) (i : Fin MAX_PROFILES) : Prop where
  position : e.reading i .p = trunc ((e.profiles i).position * 1000 * 1000)
  acc : e.reading i .acc = trunc ((e.profiles i).time * 1000 / 2 + 1 / 2)
  acc_nonneg : 0 ≤ e.reading i .acc
  dec : e.reading i .dec = e.reading i .acc - 1
  dec_nonneg : 0 ≤ e.reading i .dec
  duration : |((e.reading i .acc + e.reading i .dec : ℤ) : ℚ) - (e.profiles i).time * 1000| ≤ 2
  delay : e.reading i .ft = trunc ((e.profiles i).delay * 1000)
  delay_nonneg : 0 ≤ e.reading i .ft

/-- The time of the command is at least a millisecond, and it and the delay to the next profile, if
there is one, are small enough, and the delay is not as much as a millisecond below zero. -/
def Command.Timely (command : Command) : Prop :=
  (1 / 1000 ≤ command.time ∧ command.time * 500 + 1 / 2 < 2 ^ 31) ∧
    (command.nextProfile ≥ 0 → -1 / 1000 < command.nextDelay ∧ command.nextDelay * 1000 < 2 ^ 31)

/-! ## Numbers -/

section Numbers

variable {x : ℚ}

/-- A number that does not fit reads as something else. -/
lemma signed_int32 : signed (int32 x) = trunc x ↔ -2 ^ 31 ≤ trunc x ∧ trunc x < 2 ^ 31 := by
  have hunfold : int32 x =
      if -2 ^ 31 ≤ trunc x ∧ trunc x < 2 ^ 31 then UInt32.ofInt (trunc x) else 0x80000000 := rfl
  rw [hunfold]
  split
  case isTrue h => exact iff_of_true (signed_ofInt h.1 h.2) h
  case isFalse h =>
    refine iff_of_false (fun heq => h ?_) h
    exact heq ▸ signed_range _

/-- A number in a range around zero fits. -/
lemma signed_int32_of_abs (h : |x| ≤ 500000) : signed (int32 x) = trunc x := by
  obtain ⟨hlow, hhigh⟩ := abs_le.mp h
  refine signed_int32.mpr ⟨?_, ?_⟩
  · have hbound : -(2 ^ 31 : ℤ) < trunc x :=
      (neg_lt_trunc (by norm_num)).mpr (by push_cast; linarith)
    exact hbound.le
  · exact (trunc_lt (by norm_num)).mpr (by push_cast; linarith)

/-- The acceleration fits and leaves something for the deceleration. -/
lemma signed_int32_acc : (signed (int32 x) = trunc x ∧ 0 < signed (int32 x)) ↔
    1 ≤ x ∧ x < 2 ^ 31 := by
  have hlt : trunc x < 2 ^ 31 ↔ x < 2 ^ 31 := by
    have h := trunc_lt (x := x) (n := 2 ^ 31) (by norm_num)
    rwa [show (((2 ^ 31 : ℤ)) : ℚ) = 2 ^ 31 by norm_num] at h
  have hle : 1 ≤ trunc x ↔ 1 ≤ x := by
    have h := le_trunc (x := x) one_pos
    rwa [Int.cast_one] at h
  rw [← hlt, ← hle]
  constructor
  · rintro ⟨hfit, hpos⟩
    obtain ⟨-, hhigh⟩ := signed_int32.mp hfit
    exact ⟨by omega, hhigh⟩
  · rintro ⟨hone, hhigh⟩
    have hfit := signed_int32.mpr ⟨by omega, hhigh⟩
    exact ⟨hfit, by omega⟩

/-- A delay fits and is not negative. -/
lemma signed_int32_delay : (signed (int32 x) = trunc x ∧ 0 ≤ signed (int32 x)) ↔
    -1 < x ∧ x < 2 ^ 31 := by
  have hlt : trunc x < 2 ^ 31 ↔ x < 2 ^ 31 := by
    have h := trunc_lt (x := x) (n := 2 ^ 31) (by norm_num)
    rwa [show (((2 ^ 31 : ℤ)) : ℚ) = 2 ^ 31 by norm_num] at h
  rw [← hlt, ← trunc_nonneg]
  constructor
  · rintro ⟨hfit, hpos⟩
    obtain ⟨-, hhigh⟩ := signed_int32.mp hfit
    exact ⟨by omega, hhigh⟩
  · rintro ⟨hnonneg, hhigh⟩
    have hfit := signed_int32.mpr ⟨by omega, hhigh⟩
    exact ⟨hfit, by omega⟩

end Numbers

/-- A profile within bounds is representable if its time and delay are. -/
lemma representable_iff {e : SledEnv} {i : Fin MAX_PROFILES}
    (hposition : |(e.profiles i).position| ≤ 1 / 2) :
    e.Representable i ↔
      (1 / 1000 ≤ (e.profiles i).time ∧ (e.profiles i).time * 500 + 1 / 2 < 2 ^ 31) ∧
        -1 / 1000 < (e.profiles i).delay ∧ (e.profiles i).delay * 1000 < 2 ^ 31 := by
  set p := e.profiles i with hp
  have hreading : ∀ f, e.reading i f = signed (p.value (e.nextNumber i) f) := fun _ => rfl
  have hfits : signed (int32 (p.position * 1000 * 1000)) = trunc (p.position * 1000 * 1000) := by
    refine signed_int32_of_abs ?_
    rw [mul_assoc, abs_mul, show |(1000 * 1000 : ℚ)| = 1000000 by norm_num]
    linarith
  have hacc := signed_int32_acc (x := p.time * 1000 / 2 + 1 / 2)
  have hft := signed_int32_delay (x := p.delay * 1000)
  have htimes : (1 ≤ p.time * 1000 / 2 + 1 / 2 ∧ p.time * 1000 / 2 + 1 / 2 < 2 ^ 31) ↔
      1 / 1000 ≤ p.time ∧ p.time * 500 + 1 / 2 < 2 ^ 31 := by
    constructor <;> rintro ⟨h, h'⟩ <;> constructor <;> linarith
  have hdelays : (-1 < p.delay * 1000 ∧ p.delay * 1000 < 2 ^ 31) ↔
      -1 / 1000 < p.delay ∧ p.delay * 1000 < 2 ^ 31 := by
    constructor <;> rintro ⟨h, h'⟩ <;> constructor <;> linarith
  rw [← htimes, ← hdelays, ← hacc, ← hft]
  constructor
  · intro h
    have hone : 0 < e.reading i .acc := by
      have hdec := h.dec
      have hnonneg := h.dec_nonneg
      omega
    exact ⟨⟨h.acc, hone⟩, h.delay, h.delay_nonneg⟩
  · rintro ⟨⟨hfit, hpos⟩, hdelay, hnonneg⟩
    have hdec : signed (int32 (p.time * 1000 / 2 + 1 / 2) - 1) =
        signed (int32 (p.time * 1000 / 2 + 1 / 2)) - 1 := signed_sub_one (by omega)
    refine ⟨hfits, hfit, hpos.le, hdec, ?_, ?_, hdelay, hnonneg⟩
    · show 0 ≤ signed (int32 (p.time * 1000 / 2 + 1 / 2) - 1)
      omega
    · show |((signed (int32 (p.time * 1000 / 2 + 1 / 2)) +
        signed (int32 (p.time * 1000 / 2 + 1 / 2) - 1) : ℤ) : ℚ) - p.time * 1000| ≤ 2
      have hx : 0 ≤ p.time * 1000 / 2 + 1 / 2 := by
        have := (hacc.mp ⟨hfit, hpos⟩).1
        linarith
      obtain ⟨hlow, hhigh⟩ := trunc_le hx
      rw [hdec, hfit]
      push_cast
      rw [abs_le]
      constructor <;> linarith

/-! ## The command -/

section ProfileSet

variable {ctx ctx' : ServerCtx} {command : Command} {i : Fin MAX_PROFILES}

lemma setNext_contents (p : SledProfile) (next : ℤ) (delay : ℚ) (blendType : BlendType) :
    (p.setNext next delay blendType).position = p.position ∧
      (p.setNext next delay blendType).time = p.time ∧
      (p.setNext next delay blendType).delay = delay := by
  simp only [SledProfile.setNext, SledProfile.setField]
  split_ifs <;> simp_all

/-- Translating an id leaves the profiles in use alone, and the ids that are known. -/
lemma tlateProfileId_keeps (profile : ℤ) (huse : (ctx.sled.env.profiles i).inUse = true) :
    (tlateProfileId profile ctx).2.sled.env.profiles i = ctx.sled.env.profiles i ∧
      ∀ a id, ctx.profileTlate a = some id →
        (tlateProfileId profile ctx).2.profileTlate a = some id := by
  cases h : ctx.profileTlate profile with
  | some id =>
    rw [tlateProfileId_of_some h]
    exact ⟨rfl, fun _ _ ha => ha⟩
  | none =>
    have hother : ∀ a id, ctx.profileTlate a = some id → a ≠ profile := by
      rintro a id ha rfl
      rw [h] at ha
      cases ha
    rcases ctx.sled.env.free.eq_empty_or_nonempty with hfree | hfree
    · rw [tlateProfileId_of_full h hfree]
      exact ⟨rfl, fun a id ha => by rw [← ha]; exact Function.update_of_ne (hother a id ha) _ _⟩
    · obtain ⟨j, hj, hr⟩ := tlateProfileId_of_free h hfree
      have hne : i ≠ j := by
        rintro rfl
        rw [SledEnv.mem_free.mp hj] at huse
        cases huse
      rw [hr]
      refine ⟨by simp [Host.modifyProfile_eq, hne], fun a id ha => ?_⟩
      rw [← ha]
      exact Function.update_of_ne (hother a id ha) _ _

/-- The profile after an accepted command: its position and time are those of the command, and so is
its delay, if the command has a next profile. -/
structure Accepted (command : Command) (ctx : ServerCtx) (i : Fin MAX_PROFILES) : Prop where
  known : ctx.profileTlate command.profile = some ((i : ℕ) : ℤ)
  position : (ctx.sled.env.profiles i).position = command.position
  time : (ctx.sled.env.profiles i).time = command.time
  delay : (ctx.sled.env.profiles i).delay = if command.nextProfile ≥ 0 then command.nextDelay else 0

/-- Linking the profile to the next one. -/
lemma accepted_setNext (hknown : ctx.profileTlate command.profile = some ((i : ℕ) : ℤ))
    (huse : (ctx.sled.env.profiles i).inUse = true)
    (hposition : (ctx.sled.env.profiles i).position = command.position)
    (htime : (ctx.sled.env.profiles i).time = command.time) (next : ℤ) {delay : ℚ}
    (hdelay : delay = if command.nextProfile ≥ 0 then command.nextDelay else 0)
    (blendType : BlendType) :
    Accepted command
      (ctx.withSled (sledProfileSetNext (i : ℕ) next delay blendType ctx.sled).2) i := by
  obtain ⟨hposition', htime', hdelay'⟩ :=
    setNext_contents (ctx.sled.env.profiles i) next delay blendType
  have hprofile : ((ctx.withSled (sledProfileSetNext (i : ℕ) next delay blendType
      ctx.sled).2).sled.env.profiles i) =
        (ctx.sled.env.profiles i).setNext next delay blendType := by
    simp [ServerCtx.withSled, sledProfileSetNext, onProfile_of_inUse huse, Host.modifyProfile_eq]
  refine ⟨hknown, ?_, ?_, ?_⟩ <;> rw [hprofile]
  · exact hposition'.trans hposition
  · exact htime'.trans htime
  · exact hdelay'.trans hdelay

lemma accepted_profileSetNext (hknown : ctx.profileTlate command.profile = some ((i : ℕ) : ℤ))
    (huse : (ctx.sled.env.profiles i).inUse = true)
    (hposition : (ctx.sled.env.profiles i).position = command.position)
    (htime : (ctx.sled.env.profiles i).time = command.time)
    (hok : (profileSetNext command (i : ℕ) ctx).2 = [.command "ok-profile-set"]) :
    Accepted command (profileSetNext command (i : ℕ) ctx).1 i := by
  unfold profileSetNext at hok ⊢
  by_cases hnext : command.nextProfile ≥ 0
  · obtain ⟨hsame, hids⟩ := tlateProfileId_keeps command.nextProfile huse
    rw [if_pos hnext] at hok ⊢
    dsimp only at hok ⊢
    split
    case isTrue hneg => simp [hneg] at hok
    case isFalse =>
      refine accepted_setNext (hids _ _ hknown) ?_ ?_ ?_ _ (by rw [if_pos hnext]) _
      · rwa [hsame]
      · rwa [hsame]
      · rwa [hsame]
  · rw [if_neg hnext]
    exact accepted_setNext hknown huse hposition htime _ (by rw [if_neg hnext]) _

lemma Found.known_id {profile : ℤ} {ctx₁ : ServerCtx} (h : Found ctx profile i ctx₁) :
    ctx₁.profileTlate profile = some ((i : ℕ) : ℤ) := by
  cases h with
  | known hid => exact hid
  | new => simp

/-- A command that is accepted without an error has a position within bounds, and its numbers are
stored. -/
lemma accepted_cmdProfileSet
    (hok : (cmdProfileSet command ctx).2 = [.command "ok-profile-set"]) :
    |command.position| ≤ 1 / 2 ∧ ∃ i, Accepted command (cmdProfileSet command ctx).1 i := by
  have husable : ctx.Usable command := by
    by_contra hno
    exact (cmdProfileSet_of_not_usable hno).2 (by rw [hok]; exact List.mem_singleton_self _)
  obtain ⟨i, ctx₁, ht, hfound⟩ := tlateProfileId_of_usable husable
  rw [cmdProfileSet_of_tlate ht hfound.inUse] at hok ⊢
  have hposition : |command.position| ≤ 1 / 2 := by
    by_contra hgt
    rw [positionReplies, if_pos (not_le.mp hgt)] at hok
    simp at hok
  rw [positionReplies, if_neg (not_lt.mpr hposition), List.nil_append] at hok
  obtain ⟨hpos, htime, -, -⟩ :=
    @targeted_contents command (ctx₁.sled.env.profiles i)
  refine ⟨hposition, i, accepted_profileSetNext hfound.known_id ?_ ?_ ?_ hok⟩
  · simp [ServerCtx.targeted, ServerCtx.withSled, Host.modifyProfile_eq, targeted_inUse,
      hfound.inUse]
  · simpa [ServerCtx.targeted, ServerCtx.withSled, Host.modifyProfile_eq] using hpos
  · simpa [ServerCtx.targeted, ServerCtx.withSled, Host.modifyProfile_eq] using htime

end ProfileSet

/-- **What an accepted profile makes of its numbers.**  After a command that is answered with
`ok-profile-set` only, the numbers that are written for its profile are representable exactly if the
time and the delay of the command are within bounds. -/
theorem profileSet_representable_iff {conn : Conn} {ctx ctx' : ServerCtx} {command : Command}
    (h : command.type = .profileSet)
    (hok : rtc3dCommandHandler conn (some command) ctx =
      .ok (ctx', [.command "ok-profile-set"])) :
    ∃ i : Fin MAX_PROFILES, ctx'.profileTlate command.profile = some ((i : ℕ) : ℤ) ∧
      (ctx'.sled.env.Representable i ↔ command.Timely) := by
  have hrun : rtc3dCommandHandler conn (some command) ctx = .ok (cmdProfileSet command ctx) := by
    simp only [rtc3dCommandHandler, handleCommand, h]
  rw [hrun, Except.ok.injEq] at hok
  obtain ⟨hposition, i, haccepted⟩ := accepted_cmdProfileSet (congrArg Prod.snd hok)
  rw [hok] at haccepted
  refine ⟨i, haccepted.known, ?_⟩
  rw [representable_iff (by rwa [haccepted.position]), haccepted.time, haccepted.delay,
    Command.Timely]
  refine and_congr_right fun _ => ?_
  by_cases hnext : command.nextProfile ≥ 0
  · simp [hnext]
  · simp only [hnext, if_false, false_implies, iff_true]
    norm_num

/-- A motion of one second. -/
theorem profileSet_representable_second :
    ∃ ctx', rtc3dCommandHandler 0 (some (someProfileSet (1 / 10))) someServer =
        .ok (ctx', [.command "ok-profile-set"]) ∧
      ∃ i : Fin MAX_PROFILES,
        ctx'.profileTlate (someProfileSet (1 / 10)).profile = some ((i : ℕ) : ℤ) ∧
        (ctx'.sled.env.Representable i ↔ (someProfileSet (1 / 10)).Timely) := by
  obtain ⟨⟨ctx', replies⟩, hrun, hreplies⟩ := exists_of_okAnd
    (p := fun r => decide (r.2 = [.command "ok-profile-set"]))
    (x := rtc3dCommandHandler 0 (some (someProfileSet (1 / 10))) someServer) (by decide +kernel)
  obtain rfl : replies = [.command "ok-profile-set"] := by simpa using hreplies
  exact ⟨ctx', hrun, profileSet_representable_iff rfl hrun⟩

/-- A motion that takes no time.  The command is accepted, and the drive is told to decelerate for
`0xFFFFFFFF` ms. -/
theorem profileSet_no_time :
    ∃ ctx', rtc3dCommandHandler 0 (some { someProfileSet (1 / 10) with time := 0 }) someServer =
        .ok (ctx', [.command "ok-profile-set"]) ∧
      ctx'.profileTlate 1 = some 4 ∧ ctx'.sled.env.value 4 .dec = 0xFFFFFFFF ∧
      ¬ ctx'.sled.env.Representable 4 := by
  obtain ⟨⟨ctx', replies⟩, hrun, h⟩ := exists_of_okAnd
    (p := fun r => decide (r.2 = [.command "ok-profile-set"]) &&
      decide (r.1.profileTlate 1 = some 4) &&
      decide (r.1.sled.env.value 4 .dec = 0xFFFFFFFF))
    (x := rtc3dCommandHandler 0 (some { someProfileSet (1 / 10) with time := 0 }) someServer)
    (by decide +kernel)
  simp only [Bool.and_eq_true, decide_eq_true_eq] at h
  obtain ⟨⟨rfl, hid⟩, hdec⟩ := h
  refine ⟨ctx', hrun, hid, hdec, fun hrep => ?_⟩
  have hnonneg := hrep.dec_nonneg
  rw [SledEnv.reading, hdec] at hnonneg
  exact absurd hnonneg (by decide)

end SledServer
