import SledServer.Drive.Frames
import SledServer.Sdo.Reports
import SledServer.Sled.Calls
import SledServer.Sled.Flush

/-!
# The shape of a call

Every call of the library does the same three things, or leaves some of them out: it edits the
profile table, then it writes some profiles to the drive, each of them with the profiles that follow
it, and in the end it may start a motion or switch the light (`sledCall_shape`).

No profile is written twice in a call, so the number of requests that a call queues is bounded,
however the profiles are linked (`requests_call_le`).
-/

namespace SledServer

open SledServer.Core

/-! ## Editing the table -/

/-- What editing does to profile `i`.  A profile keeps its motion task or is given the one that
belongs to its place in the table. -/
structure Renews (i : Fin MAX_PROFILES) (p p' : SledProfile) : Prop where
  edited : p.Edited p'
  profile : p'.profile = p.profile ∨ p'.profile = 201 + (i : ℕ)

namespace Renews

variable {i : Fin MAX_PROFILES} {p p' p'' : SledProfile}

lemma refl (i : Fin MAX_PROFILES) (p : SledProfile) : Renews i p p := ⟨.refl p, .inl rfl⟩

lemma of_marks (h : Marks p p') : Renews i p p' := ⟨.of_marks h, .inl h.profile⟩

lemma trans (h : Renews i p p') (h' : Renews i p' p'') : Renews i p p'' := by
  refine ⟨⟨fun f => ?_, fun huse => ?_⟩, ?_⟩
  · obtain hf | hf := h'.edited.fields f
    · exact .inl hf
    · rw [hf]
      exact h.edited.fields f
  · obtain huse | hall := h'.edited.used huse
    · refine (h.edited.used huse).imp_right fun hall f => ?_
      obtain hf | hf := h'.edited.fields f
      · exact hf
      · rw [hf, hall f]
    · exact .inr hall
  · obtain hp | hp := h'.profile
    · rw [hp]
      exact h.profile
    · exact .inr hp

end Renews

/-- The profile table is edited, and nothing else happens. -/
def Edits (s t : Sled) : Prop :=
  ∃ f, (∀ i, Renews i (s.env.profiles i) (f i)) ∧ t = s.setProfiles f

namespace Edits

variable {s t u : Sled}

lemma refl (s : Sled) : Edits s s := ⟨s.env.profiles, fun i => .refl i _, rfl⟩

lemma trans (h : Edits s t) (h' : Edits t u) : Edits s u := by
  obtain ⟨f, hf, rfl⟩ := h
  obtain ⟨g, hg, rfl⟩ := h'
  exact ⟨g, fun i => (hf i).trans (hg i), rfl⟩

lemma modifyProfile (h : Edits s t) (i : Fin MAX_PROFILES) {g : SledProfile → SledProfile}
    (hg : Renews i (t.env.profiles i) (g (t.env.profiles i))) : Edits s (t.modifyProfile i g) := by
  refine h.trans ⟨_, fun j => ?_, rfl⟩
  by_cases hj : j = i
  · subst hj
    rwa [Function.update_self]
  · rw [Function.update_of_ne hj]
    exact .refl _ _

lemma onProfile (h : Edits s t) (id : ℤ) {g : SledProfile → SledProfile}
    (hg : ∀ i p, Renews i p (g p)) : Edits s (SledServer.onProfile id g t).2 := by
  unfold SledServer.onProfile
  split
  · exact h
  · split
    · exact h
    · exact h.modifyProfile _ (hg _ _)

lemma setTable (h : Edits s t) (id table : ℤ) : Edits s (sledProfileSetTable id table t).2 :=
  h.onProfile id fun _ p => .of_marks (.setTable p table)

lemma setTarget (h : Edits s t) (id : ℤ) (type : PositionType) (position time : ℚ) :
    Edits s (sledProfileSetTarget id type position time t).2 :=
  h.onProfile id fun _ p => .of_marks (.setTarget p type position time)

lemma setNext (h : Edits s t) (id nextProfile : ℤ) (delay : ℚ) (blendType : BlendType) :
    Edits s (sledProfileSetNext id nextProfile delay blendType t).2 :=
  h.onProfile id fun _ p => .of_marks (.setNext p nextProfile delay blendType)

lemma destroy (h : Edits s t) (id : ℤ) : Edits s (sledProfileDestroy id t).2 :=
  h.onProfile id fun _ _ => ⟨⟨fun _ => .inr rfl, nofun⟩, .inl rfl⟩

lemma create (h : Edits s t) : Edits s (sledProfileCreate t).2 := by
  cases hfree : freeProfile? t.env.profiles with
  | none =>
    simp only [sledProfileCreate, hfree]
    exact h
  | some i =>
    rw [sledProfileCreate_of_free hfree]
    exact h.modifyProfile i ⟨.of_changed fun f => rfl, .inr rfl⟩

lemma createPt (h : Edits s t) (position time : ℚ) :
    Edits s (sledProfileCreatePt position time t).2 := by
  simp only [sledProfileCreatePt]
  split
  · dsimp only
    exact h.create.modifyProfile _ ⟨⟨fun _ => .inr rfl, .inl⟩, .inl rfl⟩
  · exact h.create

lemma reset (h : Edits s t) : Edits s (sledProfilesReset t).2 := by
  refine h.trans ⟨_, fun i => ?_, rfl⟩
  split
  · exact ⟨.of_changed fun f => rfl, .inl rfl⟩
  · exact .refl _ _

/-- Editing leaves everything but the profiles alone. -/
lemma mchMp (h : Edits s t) : t.env.mchMp = s.env.mchMp := by
  obtain ⟨f, -, rfl⟩ := h
  rfl

end Edits

/-! ## Calls -/

/-- What the drive can be told to do. -/
inductive Instruction
  | motion (i : Fin MAX_PROFILES)
  | light (state : Bool)
  deriving DecidableEq

/-- What a call asks for. -/
def SledCall.instruction? (e : SledEnv) : SledCall → Option Instruction
  | .profileExecute profile => (profileIndex? profile).map .motion
  | .sinusoidStart _ _ => (profileIndex? e.sinusoidThere).map .motion
  | .rsinusoidStart _ _ => (profileIndex? e.sinusoidRthere).map .motion
  | .lightSetState state => some (.light state)
  | _ => none

/-- What a call has been accepted for, if it has. -/
def SledCall.accepted? (e : SledEnv) (c : SledCall) (result : ℤ) : Option Instruction :=
  (c.instruction? e).filter fun _ => result = 0

/-- How a call ends. -/
inductive Finish (s : Sled) : Option Instruction → Sled → Prop
  | quiet : Finish s none s
  | launched (i : Fin MAX_PROFILES) (hidle : s.env.mchMp = .ppIdle) :
      Finish s (some (.motion i)) (s.launched i)
  | light (state : Bool) : Finish s (some (.light state)) (s.push (lightWrite state))

/-- What a call does: the table is edited, the profiles `is` are written, and the call ends. -/
structure Shape (s : Sled) (t : Sled) (is : List (Fin MAX_PROFILES))
    (order : Option Instruction) (s' : Sled) : Prop where
  edits : Edits s t
  writes : ∃ ids, writesAll t.env ids = .ok is
  finish : Finish (is.foldl Host.visit t) order s'

section Shapes

variable {s t : Sled} {r : ℤ × Sled}

lemma Edits.shape (h : Edits s t) : Shape s t [] none t := ⟨h, ⟨[], rfl⟩, .quiet⟩

/-- Two series of writes, one after the other. -/
lemma writesAll_append {ids ids' : List ℤ} : ∀ {e : SledEnv} {is js : List (Fin MAX_PROFILES)},
    writesAll e ids = .ok is → writesAll (is.foldl SledEnv.visit e) ids' = .ok js →
    writesAll e (ids ++ ids') = .ok (is ++ js) := by
  induction ids with
  | nil =>
    intro e is js h h'
    cases h
    exact h'
  | cons id ids ih =>
    intro e is js h h'
    obtain ⟨ks, hks, h⟩ := bind_eq_ok.mp h
    obtain ⟨ls, hls, h⟩ := bind_eq_ok.mp h
    cases h
    rw [List.foldl_append] at h'
    rw [List.cons_append, writesAll, hks, ok_bind, ih hls h', ok_bind, List.append_assoc]

/-- A call that has edited the table and written some profiles. -/
def Written (s t : Sled) (is : List (Fin MAX_PROFILES)) (u : Sled) : Prop :=
  Edits s t ∧ (∃ ids, writesAll t.env ids = .ok is) ∧ u = is.foldl Host.visit t

lemma Edits.written (h : Edits s t) : Written s t [] t := ⟨h, ⟨[], rfl⟩, rfl⟩

lemma Written.concat {is : List (Fin MAX_PROFILES)} {u : Sled} (h : Written s t is u) {id : ℤ}
    (hr : sledProfileWritePendingChanges id u = .ok r) : ∃ js, Written s t js r.2 := by
  obtain ⟨hedits, ⟨ids, hids⟩, rfl⟩ := h
  obtain ⟨js, hjs, rfl⟩ := sledProfileWritePendingChanges_ok hr
  rw [visits_env] at hjs
  have hone : writesAll (is.foldl SledEnv.visit t.env) [id] = .ok js := by simp [writesAll, hjs]
  exact ⟨is ++ js, hedits, ⟨_, writesAll_append hids hone⟩, by rw [List.foldl_append]⟩

lemma Written.shape {is : List (Fin MAX_PROFILES)} {u : Sled} (h : Written s t is u) :
    Shape s t is none u := ⟨h.1, h.2.1, h.2.2 ▸ .quiet⟩

lemma Written.env {is : List (Fin MAX_PROFILES)} {u : Sled} (h : Written s t is u) :
    u.env.sinusoidThere = s.env.sinusoidThere ∧ u.env.sinusoidRthere = s.env.sinusoidRthere := by
  obtain ⟨⟨f, -, rfl⟩, -, rfl⟩ := h
  refine foldl_keeps (P := fun u : Sled => u.env.sinusoidThere = s.env.sinusoidThere ∧
    u.env.sinusoidRthere = s.env.sinusoidRthere) ⟨rfl, rfl⟩ fun t i _ ht => ?_
  exact ht

lemma Written.execute {is : List (Fin MAX_PROFILES)} {u : Sled} (h : Written s t is u) {id : ℤ}
    (hr : sledProfileExecute id u = .ok r) :
    ∃ js, Shape s t js (((profileIndex? id).map .motion).filter fun _ => r.1 = 0) r.2 := by
  obtain rfl | ⟨i, js, hi, -, hidle, hjs, rfl⟩ := sledProfileExecute_ok hr
  · refine ⟨is, ?_⟩
    rw [Option.filter_eq_none_iff.mpr (by simp)]
    exact h.shape
  · rw [hi]
    have hwrite : sledProfileWritePendingChanges id u = .ok (0, js.foldl Host.visit u) := by
      rw [sledProfileWritePendingChanges_eq, hjs]
      rfl
    obtain ⟨ks, hedits, hks, hu⟩ := h.concat hwrite
    refine ⟨ks, hedits, hks, ?_⟩
    rw [started_eq js i hidle, ← hu]
    exact .launched i (by rw [visits_mchMp, hidle])

/-- **The shape of a call.**  Every call edits the profile table, writes some profiles and ends by
doing nothing more, by starting a motion or by switching the light, as it has been asked to. -/
theorem sledCall_shape {c : SledCall} (hr : sledCall s c = .ok r) :
    ∃ t is, Shape s t is (c.accepted? s.env r.1) r.2 := by
  have hs : Edits s s := .refl s
  cases c with
  | profileCreate =>
    cases hr
    exact ⟨_, _, hs.create.shape⟩
  | profileCreatePt position time =>
    cases hr
    exact ⟨_, _, (hs.createPt position time).shape⟩
  | profileDestroy =>
    cases hr
    exact ⟨_, _, (hs.destroy _).shape⟩
  | profileSetTable =>
    cases hr
    exact ⟨_, _, (hs.setTable _ _).shape⟩
  | profileSetTarget =>
    cases hr
    exact ⟨_, _, (hs.setTarget _ _ _ _).shape⟩
  | profileSetNext =>
    cases hr
    exact ⟨_, _, (hs.setNext _ _ _ _).shape⟩
  | profileWritePendingChanges =>
    obtain ⟨is, h⟩ := hs.written.concat hr
    exact ⟨_, is, h.shape⟩
  | profileExecute => exact ⟨_, hs.written.execute hr⟩
  | profilesReset =>
    cases hr
    exact ⟨_, _, hs.reset.shape⟩
  | sinusoidStart amplitude period =>
    obtain ⟨js, h⟩ := Written.execute ((((hs.setTarget _ _ _ _).setTarget _ _ _ _).setNext _ _ _
      _).setNext _ _ _ _).written hr
    rw [(((((hs.setTarget _ _ _ _).setTarget _ _ _ _).setNext _ _ _ _).setNext _ _ _
      _).written).env.1] at h
    exact ⟨_, js, h⟩
  | sinusoidStop =>
    obtain ⟨is, h⟩ := Written.concat (((hs.setNext _ _ _ _).setNext _ _ _ _).written) hr
    exact ⟨_, is, h.shape⟩
  | rsinusoidStart amplitude period =>
    have hsetup : Edits s (sledRsinusoidSetup amplitude period s) :=
      ((((((hs.setTarget _ _ _ _).setTarget _ _ _ _).setTarget _ _ _ _).setTarget _ _ _ _).setNext
        _ _ _ _).setNext _ _ _ _).setNext _ _ _ _
    obtain ⟨r₁, h₁, hr⟩ := bind_eq_ok.mp hr
    obtain ⟨r₂, h₂, hr⟩ := bind_eq_ok.mp hr
    obtain ⟨r₃, h₃, hr⟩ := bind_eq_ok.mp hr
    obtain ⟨r₄, h₄, hr⟩ := bind_eq_ok.mp hr
    obtain ⟨is₁, hw⟩ := hsetup.written.concat h₁
    obtain ⟨is₂, hw⟩ := hw.concat h₂
    obtain ⟨is₃, hw⟩ := hw.concat h₃
    obtain ⟨is₄, hw⟩ := hw.concat h₄
    obtain ⟨js, h⟩ := hw.execute hr
    rw [hw.env.2] at h
    exact ⟨_, js, h⟩
  | rsinusoidStop =>
    obtain ⟨is, h⟩ := Written.concat (hs.setNext _ _ _ _).written hr
    exact ⟨_, is, h.shape⟩
  | lightSetState state =>
    simp only [sledCall, sledLightSetState] at hr
    split at hr
    · cases hr
      exact ⟨_, _, hs.shape⟩
    · simp only [mchSdoQueueWrite_eq, ok_bind, Except.ok.injEq] at hr
      rw [← hr]
      exact ⟨s, [], hs, ⟨[], rfl⟩, .light state⟩
  | rtNewSetpoint =>
    cases hr
    exact ⟨_, _, hs.shape⟩

end Shapes

/-! ## How much a call queues -/

section Requests

variable {s t s' : Sled}

/-- A visit queues at most two requests to copy a motion task and one for each field. -/
lemma length_visitRequests (e : SledEnv) (i : Fin MAX_PROFILES) :
    (e.visitRequests i).length ≤ 10 := by
  have hfields : (e.changedFields i).length ≤ 8 := List.length_filter_le _ _
  simp only [SledEnv.visitRequests, List.length_append, List.length_map, List.length_singleton]
  split
  · rw [List.length_singleton]
    omega
  · rw [List.length_nil]
    omega

lemma allocated_pushAll (rs : List (Request sledClient)) (s : Sled) :
    (s.pushAll rs).mchSdo.allocated = s.mchSdo.allocated + rs.length := by
  induction rs generalizing s with
  | nil => rfl
  | cons r rs ih =>
    rw [Host.pushAll_cons, ih, allocated_push, List.length_cons]
    omega

lemma allocated_visits (is : List (Fin MAX_PROFILES)) (s : Sled) :
    (is.foldl Host.visit s).mchSdo.allocated ≤ s.mchSdo.allocated + 10 * is.length := by
  induction is generalizing s with
  | nil => exact Nat.le_refl _
  | cons i is ih =>
    have hone : (s.visit i).mchSdo.allocated ≤ s.mchSdo.allocated + 10 :=
      (allocated_pushAll _ s).le.trans (Nat.add_le_add_left (length_visitRequests s.env i) _)
    have hrest := ih (s.visit i)
    rw [List.foldl_cons, List.length_cons]
    omega

lemma Finish.allocated_le {order : Option Instruction} (h : Finish s order t) :
    t.mchSdo.allocated ≤ s.mchSdo.allocated + 2 := by
  cases h with
  | quiet => exact Nat.le_add_right _ _
  | launched i =>
    refine (?_ : _ = s.mchSdo.allocated + 1 + 1).le
    exact (allocated_push _ _).trans (congrArg (· + 1) (allocated_push _ _))
  | light state =>
    rw [allocated_push]
    omega

/-- **A call queues a bounded number of requests**, in any state and however the profiles are
linked: ten for each of the 99 profiles, and two to start a motion. -/
theorem requests_call_le {c : SledCall} {r : ℤ × Sled} (hr : sledCall s c = .ok r) :
    r.2.mchSdo.allocated ≤ s.mchSdo.allocated + (10 * MAX_PROFILES + 2) := by
  obtain ⟨t, is, hedits, ⟨ids, hids⟩, hfinish⟩ := sledCall_shape hr
  have hlength : is.length ≤ MAX_PROFILES := by
    simpa using (series_of_writesAll hids).nodup.length_le_card
  have hedit : t.mchSdo = s.mchSdo := by
    obtain ⟨f, -, rfl⟩ := hedits
    rfl
  have hvisits := allocated_visits is t
  have hend := hfinish.allocated_le
  rw [hedit] at hvisits
  omega

/-- The first sinusoid writes its four profiles, each with all fields. -/
theorem requests_call_le_rsinusoid :
    ∃ r, sledCall (sledCreateProfiles (sledAlloc someMemory 0)) (.rsinusoidStart 1 2) = .ok r ∧
      r.2.mchSdo.allocated = 36 ∧
      r.2.mchSdo.allocated ≤ (sledCreateProfiles (sledAlloc someMemory 0)).mchSdo.allocated +
        (10 * MAX_PROFILES + 2) := by
  obtain ⟨r, hr, hall⟩ := exists_of_okAnd
    (p := fun r : ℤ × Sled => r.2.mchSdo.allocated == 36)
    (x := sledCall (sledCreateProfiles (sledAlloc someMemory 0)) (.rsinusoidStart 1 2))
    (by decide +kernel)
  exact ⟨r, hr, by simpa using hall, requests_call_le hr⟩

end Requests

end SledServer
