import SledServer.Drive.Frames
import SledServer.Drive.Lockstep
import SledServer.Drive.Quiet
import SledServer.Drive.Tasks

/-!
# Stopping the sinusoid

While the sled moves, the motion tasks of `there` and `back` are linked to each other in the drive.
Stopping rewrites the link of `there` only, and the sled leaves the loop when it comes by: the chain
of motion tasks that starts at the one being executed has to come to an end (`Halts`).

The invariant `LoopInv` says what the four motion tasks of the sinusoid hold once everything issued
has been applied.  A call keeps it when task 0 holds what the host takes it to hold, as far as
control word and link are concerned.
-/

namespace SledServer

open SledServer.Core

/-! ## Chains -/

/-- The chain that starts at motion task `m` comes to an end: after finitely many hops there is a
task whose control word has no next task. -/
inductive Halts (t : Tasks) : ℕ → Prop
  | stop {m : ℕ} (h : t m .c &&& 0x08 = 0) : Halts t m
  | hop {m : ℕ} (h : t m .c &&& 0x08 ≠ 0) (hnext : Halts t (t m .fn).toNat) : Halts t m

/-- A chain comes to an end if it does so from its second task on. -/
lemma Halts.of_next {t : Tasks} {m : ℕ} (h : Halts t (t m .fn).toNat) : Halts t m := by
  by_cases hc : t m .c &&& 0x08 = 0
  · exact .stop hc
  · exact .hop hc h

/-- A task that is its own next task is never left. -/
lemma not_halts_of_loop {t : Tasks} {m : ℕ} (hc : t m .c &&& 0x08 ≠ 0) (hfn : (t m .fn).toNat = m) :
    ¬ Halts t m := by
  intro h
  induction h with
  | stop h => exact hc h
  | hop _ _ ih =>
    rw [hfn] at ih
    exact ih hc hfn

/-- The fields that make up the chain. -/
def LinkField (f : Field) : Prop := f = .c ∨ f = .fn

instance : DecidablePred LinkField := fun f => inferInstanceAs (Decidable (f = .c ∨ f = .fn))

/-- The control word of a profile without a next profile. -/
lemma controlword_of_no_next {p : SledProfile} (h : p.nextProfile = -1) :
    sledProfileGetControlword p &&& 0x08 = 0 := by
  have hno : ¬ p.nextProfile ≥ 0 := by omega
  unfold sledProfileGetControlword
  cases p.positionType <;> cases p.blendType <;> simp only [hno, if_false] <;> decide

lemma toNat_slot : ∀ j : Fin MAX_PROFILES, (UInt32.ofInt (slot j : ℕ)).toNat = slot j := by
  decide +kernel

/-- The link to profile `j`. -/
lemma value_fn {e : SledEnv} {i j : Fin MAX_PROFILES} (hnum : e.Numbered)
    (h : (e.profiles i).nextProfile = (j : ℕ)) : (e.value i .fn).toNat = slot j := by
  have hnext : e.nextNumber i = (slot j : ℕ) := by
    rw [SledEnv.nextNumber, h, if_pos (by omega), profileIndex?_natCast]
    exact hnum j
  have hvalue : e.value i .fn = UInt32.ofInt (slot j : ℕ) := by
    show UInt32.ofInt (e.nextNumber i) = _
    rw [hnext]
  rw [hvalue, toNat_slot]

/-! ## The four motion tasks -/

/-- The motion tasks of the sinusoid, once everything issued has been applied.  Profiles 0 to 3 are
`there`, `rthere`, `back` and `rback`. -/
structure LoopInv (e : SledEnv) (t : Tasks) : Prop where
  registered : Registered e
  numbered : e.Numbered
  fresh : e.FreshChanged
  next_there : (e.profiles 0).nextProfile = 2 ∨ (e.profiles 0).nextProfile = -1 ∨
    (e.profiles 0).nextProfile = 3
  next_rthere : (e.profiles 1).nextProfile = 2
  next_rback : (e.profiles 3).nextProfile = -1
  /-- What `rthere` leads to has been sent with it. -/
  rthere_back : (e.profiles 1).neverSent = false → (e.profiles 2).neverSent = false
  rthere_fn : (e.profiles 1).neverSent = false → (t (slot 1) .fn).toNat = slot 2
  back_fn : (e.profiles 2).neverSent = false → (t (slot 2) .fn).toNat = slot 0
  rback_c : (e.profiles 3).neverSent = false → t (slot 3) .c &&& 0x08 = 0
  /-- After `sled_sinusoid_stop`. -/
  stopped : (e.profiles 0).nextProfile = -1 → t (slot 0) .c &&& 0x08 = 0
  /-- After `sled_rsinusoid_stop`. -/
  rstopped : (e.profiles 0).nextProfile = 3 →
    (e.profiles 3).neverSent = false ∧ (t (slot 0) .fn).toNat = slot 3

section Loop

variable {e e' : SledEnv} {t : Tasks} {is : List (Fin MAX_PROFILES)}

/-- A stopped loop comes to an end, wherever the sled is in it. -/
lemma LoopInv.halts (h : LoopInv e t) (hstopped : (e.profiles 0).nextProfile ≠ 2) {m : ℕ}
    (hm : m = slot 0 ∨ m = slot 1 ∧ (e.profiles 1).neverSent = false) : Halts t m := by
  have hthere : Halts t (slot 0) := by
    rcases h.next_there with hn | hn | hn
    · exact absurd hn hstopped
    · exact .stop (h.stopped hn)
    · obtain ⟨hsent, hfn⟩ := h.rstopped hn
      refine .of_next ?_
      rw [hfn]
      exact .stop (h.rback_c hsent)
  rcases hm with rfl | ⟨rfl, hsent⟩
  · exact hthere
  · have hback : Halts t (slot 2) := by
      refine .of_next ?_
      rw [h.back_fn (h.rthere_back hsent)]
      exact hthere
    refine .of_next ?_
    rw [h.rthere_fn hsent]
    exact hback

/-- The invariant does not depend on the marks of the fields, except for profiles that have never
been sent. -/
lemma LoopInv.of_contents (h : LoopInv e t) (hreg : Registered e') (hfresh : e'.FreshChanged)
    (hprofile : ∀ i, (e'.profiles i).profile = (e.profiles i).profile)
    (hsent : ∀ i, (e'.profiles i).neverSent = (e.profiles i).neverSent)
    (hnext : ∀ i, (e'.profiles i).nextProfile = (e.profiles i).nextProfile) : LoopInv e' t := by
  refine ⟨hreg, fun i => (hprofile i).trans (h.numbered i), hfresh, ?_, ?_, ?_, ?_, ?_, ?_, ?_, ?_,
    ?_⟩
  all_goals simp only [hnext, hsent]
  exacts [h.next_there, h.next_rthere, h.next_rback, h.rthere_back, h.rthere_fn, h.back_fn,
    h.rback_c, h.stopped, h.rstopped]

/-- Profiles that are touched have all their fields to be written, if they have never been sent. -/
lemma freshChanged_of_touched (h : e.FreshChanged)
    (htouched : ∀ i, Touched (e.profiles i) (e'.profiles i)) : e'.FreshChanged := by
  intro i hn f
  rw [(htouched i).neverSent] at hn
  exact (htouched i).changed_of_changed (h i hn f)

/-! ## Visits -/

/-- A profile in which nothing is left to be written has been sent. -/
lemma sent_of_flushed (hfresh : e.FreshChanged) {j : Fin MAX_PROFILES} (h : Flushed e is j) :
    ((is.foldl SledEnv.visit e).profiles j).neverSent = false := by
  obtain ⟨-, -, -, hn, -⟩ := visits_profile e is j
  rw [hn]
  split
  · rfl
  · next hj =>
    rcases h with h | h
    · exact absurd h hj
    · by_contra hnever
      have hchanged := hfresh j (by simpa using hnever) .p
      have hpending := (hasChangesPending_iff _).mpr ⟨.p, hchanged⟩
      rw [h] at hpending
      cases hpending

/-- Sent profiles stay sent. -/
lemma sent_visits {j : Fin MAX_PROFILES} (h : (e.profiles j).neverSent = false) :
    ((is.foldl SledEnv.visit e).profiles j).neverSent = false := by
  obtain ⟨-, -, -, hn, -⟩ := visits_profile e is j
  rw [hn, h]
  simp

/-- A property that the link field `f` of profile `j` has whenever it is written holds of the drive
once the profile has been sent. -/
lemma afterVisits_of_sent {V : UInt32 → Prop} {j : Fin MAX_PROFILES} {f : Field}
    (hf : LinkField f) (hvalid : ScratchValid LinkField t e is) (hnum : e.Numbered)
    (hfresh : e.FreshChanged) (hnodup : is.Nodup)
    (hold : (e.profiles j).neverSent = false → V (t (slot j) f))
    (hnew : j ∈ is → V (e.value j f))
    (hsent : ((is.foldl SledEnv.visit e).profiles j).neverSent = false) :
    V (t.afterVisits e is (slot j) f) := by
  rw [afterVisits_slot hvalid hnum hfresh hnodup j hf]
  split
  · next hj => exact hnew hj.1
  · next hj =>
    refine hold ?_
    obtain ⟨-, -, -, hn, -⟩ := visits_profile e is j
    by_contra hnever
    have hnever' : (e.profiles j).neverSent = true := by simpa using hnever
    rw [hn, hnever'] at hsent
    have hmem : j ∈ is := by
      by_contra hno
      simp [hno] at hsent
    exact hj ⟨hmem, hfresh j hnever' f⟩

end Loop

/-! ## Calls -/

namespace SinusoidCall

variable {next : Fin MAX_PROFILES → ℤ}

lemma links_rthere (c : SinusoidCall) (h : next 1 = 2) : c.links next 1 = 2 := by
  cases c <;> simp +decide [links, h]

lemma links_rback (c : SinusoidCall) (h : next 3 = -1) : c.links next 3 = -1 := by
  cases c <;> simp +decide [links, h]

/-- The link of `there` tells which kind of call came last. -/
lemma links_there (c : SinusoidCall) (next : Fin MAX_PROFILES → ℤ) :
    (c.isStop = false ∧ c.links next 0 = 2) ∨ (c = .stop ∧ c.links next 0 = -1) ∨
      (c = .rstop ∧ c.links next 0 = 3) := by
  cases c <;> simp +decide [links, isStop]

/-- Only a start writes `back`, and links it to `there`. -/
lemma back_of_mem {e : SledEnv} {is : List (Fin MAX_PROFILES)} {c : SinusoidCall}
    (hnext : ∀ i, (e.profiles i).nextProfile = c.links next i) (hrback : next 3 = -1)
    (h : Series e (c.written e) is) (hmem : 2 ∈ is) : (e.profiles 2).nextProfile = 0 := by
  cases c with
  | start | rstart => simp [hnext, links]
  | stop =>
    exfalso
    have hwithin : LinksWithin e {0} := by
      rintro i rfl j hj
      rw [hnext] at hj
      simp [links, profileIndex?] at hj
    have hin := h.within {0} hwithin (by simp [written, profileIndex?]) 2 hmem
    simp at hin
  | rstop =>
    exfalso
    have hwithin : LinksWithin e {0, 3} := by
      rintro i hi j hj
      rw [hnext] at hj
      rcases hi with rfl | rfl
      · rw [profileIndex?_eq_some] at hj
        simp only [links, Function.update_self] at hj
        have hj' : (j : ℕ) = ((3 : Fin MAX_PROFILES) : ℕ) := by exact_mod_cast hj.symm
        exact .inr (Fin.ext hj')
      · simp [links, hrback, profileIndex?] at hj
    have hin := h.within {0, 3} hwithin (by simp [written, profileIndex?]) 2 hmem
    simp at hin

end SinusoidCall

section Call

variable {s : Sled} {t : Tasks} {c : SinusoidCall} {is : List (Fin MAX_PROFILES)}

/-- The link of `there` is what it was, unless control word and link are written. -/
lemma next_of_not_written (hset : Setter s (c.setup s) (c.links fun i =>
      (s.env.profiles i).nextProfile)) (hflushed : Flushed (c.setup s).env is 0) {f : Field}
    (hf : LinkField f)
    (h : ¬ (0 ∈ is ∧ ((c.setup s).env.profiles 0).fieldState f = .changed)) :
    (s.env.profiles 0).nextProfile = ((c.setup s).env.profiles 0).nextProfile := by
  rcases (hset.touched 0).next with hsame | ⟨hc, hfn⟩
  · exact hsame.symm
  · exfalso
    have hchanged : ((c.setup s).env.profiles 0).fieldState f = .changed := by
      rcases hf with rfl | rfl
      · exact hc
      · exact hfn
    rcases hflushed with hmem | hno
    · exact h ⟨hmem, hchanged⟩
    · have hpending := (hasChangesPending_iff _).mpr ⟨f, hchanged⟩
      rw [hno] at hpending
      cases hpending

/-- What a call has prepared when it starts to write. -/
structure Prepared (c : SinusoidCall) (s : Sled) (t : Tasks) (is : List (Fin MAX_PROFILES)) :
    Prop where
  loop : LoopInv s.env t
  setter : Setter s (c.setup s) (c.links fun i => (s.env.profiles i).nextProfile)
  series : Series (c.setup s).env (c.written (c.setup s).env) is
  numbered : (c.setup s).env.Numbered
  fresh : (c.setup s).env.FreshChanged
  valid : ScratchValid LinkField t (c.setup s).env is

namespace Prepared

lemma of_writesAll (h : LoopInv s.env t)
    (his : writesAll (c.setup s).env (c.written (c.setup s).env) = .ok is)
    (hvalid : ScratchValid LinkField t (c.setup s).env is) : Prepared c s t is := by
  have hset := SinusoidCall.setter h.registered c
  exact ⟨h, hset, series_of_writesAll his,
    fun i => (hset.touched i).profile.trans (h.numbered i),
    freshChanged_of_touched h.fresh hset.touched, hvalid⟩

variable (h : Prepared c s t is)

include h

lemma slot_eq (j : Fin MAX_PROFILES) {f : Field} (hf : LinkField f) :
    t.afterVisits (c.setup s).env is (slot j) f =
      if j ∈ is ∧ ((c.setup s).env.profiles j).fieldState f = .changed then
        (c.setup s).env.value j f else t (slot j) f :=
  afterVisits_slot h.valid h.numbered h.fresh h.series.nodup j hf

/-- A property of a link field that holds whenever it is written, once the profile has been
sent. -/
lemma of_sent {V : UInt32 → Prop} {j : Fin MAX_PROFILES} {f : Field} (hf : LinkField f)
    (hold : (s.env.profiles j).neverSent = false → V (t (slot j) f))
    (hnew : j ∈ is → V ((c.setup s).env.value j f)) :
    ((is.foldl SledEnv.visit (c.setup s).env).profiles j).neverSent = false →
      V (t.afterVisits (c.setup s).env is (slot j) f) := by
  refine afterVisits_of_sent hf h.valid h.numbered h.fresh h.series.nodup (fun hsent => ?_) hnew
  rw [(h.setter.touched j).neverSent] at hsent
  exact hold hsent

lemma next_rthere : ((c.setup s).env.profiles 1).nextProfile = 2 := by
  rw [h.setter.next, c.links_rthere h.loop.next_rthere]

lemma next_rback : ((c.setup s).env.profiles 3).nextProfile = -1 := by
  rw [h.setter.next, c.links_rback h.loop.next_rback]

/-- `back` is sent with `rthere`. -/
lemma rthere_back
    (hsent : ((is.foldl SledEnv.visit (c.setup s).env).profiles 1).neverSent = false) :
    ((is.foldl SledEnv.visit (c.setup s).env).profiles 2).neverSent = false := by
  by_cases hmem : 1 ∈ is
  · refine sent_of_flushed h.fresh (h.series.closed 1 hmem 2 ?_)
    rw [h.next_rthere]
    rfl
  · obtain ⟨-, -, -, hn, -⟩ := visits_profile (c.setup s).env is 1
    rw [hn, if_neg hmem, (h.setter.touched 1).neverSent] at hsent
    refine sent_visits ?_
    rw [(h.setter.touched 2).neverSent]
    exact h.loop.rthere_back hsent

/-- The call was a stop if `there` does not lead to `back` any more. -/
lemma isStop_of_next (hn : ((c.setup s).env.profiles 0).nextProfile ≠ 2) : c.isStop = true := by
  rw [h.setter.next] at hn
  rcases c.links_there fun i => (s.env.profiles i).nextProfile with ⟨-, hl⟩ | ⟨rfl, -⟩ | ⟨rfl, -⟩
  · exact absurd hl hn
  · rfl
  · rfl

/-- Nothing is left to be written in `there` after a stop. -/
lemma flushed_of_stop (hn : ((c.setup s).env.profiles 0).nextProfile ≠ 2) :
    Flushed (c.setup s).env is 0 := by
  have hstop := h.isStop_of_next hn
  refine h.series.heads 0 ?_ 0 rfl
  cases c with
  | start | rstart => cases hstop
  | stop | rstop => simp [SinusoidCall.written]

/-- After `sled_sinusoid_stop`, `there` has no next task. -/
lemma stopped (hn : ((c.setup s).env.profiles 0).nextProfile = -1) :
    t.afterVisits (c.setup s).env is (slot 0) .c &&& 0x08 = 0 := by
  rw [h.slot_eq 0 (.inl rfl)]
  split
  · exact controlword_of_no_next hn
  · next hno =>
    refine h.loop.stopped ?_
    rw [next_of_not_written h.setter (h.flushed_of_stop (by omega)) (.inl rfl) hno, hn]

/-- After `sled_rsinusoid_stop`, `rback` comes after `there`. -/
lemma rstopped (hn : ((c.setup s).env.profiles 0).nextProfile = 3) :
    ((is.foldl SledEnv.visit (c.setup s).env).profiles 3).neverSent = false ∧
      (t.afterVisits (c.setup s).env is (slot 0) .fn).toNat = slot 3 := by
  have hflushed := h.flushed_of_stop (by omega)
  rw [h.slot_eq 0 (.inr rfl)]
  split
  · next hwritten =>
    refine ⟨sent_of_flushed h.fresh (h.series.closed 0 hwritten.1 3 ?_), value_fn h.numbered hn⟩
    rw [hn]
    rfl
  · next hno =>
    have hsame := next_of_not_written h.setter hflushed (.inr rfl) hno
    obtain ⟨hsent, hfn⟩ := h.loop.rstopped (hsame.trans hn)
    refine ⟨sent_visits ?_, hfn⟩
    rw [(h.setter.touched 3).neverSent]
    exact hsent

/-- The invariant holds after the call. -/
lemma loopInv :
    LoopInv (is.foldl SledEnv.visit (c.setup s).env) (t.afterVisits (c.setup s).env is) := by
  have hprofile := visits_profile (c.setup s).env is
  have hnext : ∀ j, ((is.foldl SledEnv.visit (c.setup s).env).profiles j).nextProfile =
      ((c.setup s).env.profiles j).nextProfile := fun j => (hprofile j).2.1
  have hreg : Registered (is.foldl SledEnv.visit (c.setup s).env) := by
    rw [← visits_env]
    exact h.setter.registered.visits is
  refine ⟨hreg, fun j => (hprofile j).1.trans (h.numbered j), ?_, ?_, ?_, ?_, h.rthere_back, ?_, ?_,
    ?_, ?_, ?_⟩
  · intro j hn f
    obtain ⟨-, -, -, hsent, hst⟩ := hprofile j
    rw [hsent] at hn
    split at hn
    · cases hn
    · next hj =>
      rw [hst f, if_neg (by simp [hj])]
      exact h.fresh j hn f
  · rw [hnext, h.setter.next]
    rcases c.links_there fun i => (s.env.profiles i).nextProfile with hl | hl | hl
    · exact .inl hl.2
    · exact .inr (.inl hl.2)
    · exact .inr (.inr hl.2)
  · rw [hnext, h.next_rthere]
  · rw [hnext, h.next_rback]
  · exact h.of_sent (V := fun v => v.toNat = slot 2) (.inr rfl) h.loop.rthere_fn
      fun _ => value_fn h.numbered h.next_rthere
  · refine h.of_sent (V := fun v => v.toNat = slot 0) (.inr rfl) h.loop.back_fn fun hmem => ?_
    exact value_fn h.numbered
      (SinusoidCall.back_of_mem h.setter.next h.loop.next_rback h.series hmem)
  · exact h.of_sent (V := fun v => v &&& 0x08 = 0) (.inl rfl) h.loop.rback_c
      fun _ => controlword_of_no_next h.next_rback
  · rw [hnext]
    exact h.stopped
  · rw [hnext]
    exact h.rstopped

end Prepared

end Call

/-! ## Runs -/

/-- The plant, and whether the last call of the library was a stop that returned 0. -/
structure StopPlant where
  plant : Plant Drive
  stopped : Bool

/-- What happens: a call, anything else that happens to the host, and the exchange of requests and
confirmations. -/
inductive StopEvent
  | call (c : SinusoidCall)
  | host (e : SledEvent)
  | receive
  | deliver (now : ℚ)

/-- One step. -/
def stopStep (q : StopPlant) : StopEvent → Except Halt StopPlant
  | .call c => do
    let r ← sledCall q.plant.sys.host c.toSledCall
    .ok ⟨q.plant.withHost r.2, c.isStop && decide (r.1 = 0)⟩
  | .host e =>
    if e.isCall then .ok q
    else do
      let p ← plantStep Drive.apply q.plant (.host e)
      .ok { q with plant := p }
  | .receive => do
    let p ← plantStep Drive.apply q.plant .receive
    .ok { q with plant := p }
  | .deliver now => do
    let p ← plantStep Drive.apply q.plant (.deliver now)
    .ok { q with plant := p }

/-- The condition on a step.  A call finds in task 0 what the host takes it to hold there, when it
comes to the first of the profiles it visits that has been sent before; and no request is
dropped. -/
def LinksOk (q : StopPlant) : StopEvent → Prop
  | .call c => ∀ is, writesAll (c.setup q.plant.sys.host).env
      (c.written (c.setup q.plant.sys.host).env) = .ok is →
        ScratchValid LinkField (q.plant.settled Drive.apply).tasks (c.setup q.plant.sys.host).env is
  | .host e => Undropped q.plant.sys.host e
  | _ => True

/-- The request is for a profile that has been sent. -/
def Request.ForSent (e : SledEnv) (r : Request sledClient) : Prop :=
  ∀ i, r.writeCallback = some .onSuccessCallback → r.data = some (.profile i) →
    (e.profiles i).neverSent = false

/-- The invariant. -/
structure StopInv (q : StopPlant) : Prop where
  sane : q.plant.Sane
  loop : LoopInv q.plant.sys.host.env (q.plant.settled Drive.apply).tasks
  awaits : Awaits (Request.ForSent q.plant.sys.host.env) q.plant.sys.host
  motion : ∀ m, (q.plant.settled Drive.apply).motionTask = some m →
    m = slot 0 ∨ m = slot 1 ∧ (q.plant.sys.host.env.profiles 1).neverSent = false
  stopped : q.stopped = true → (q.plant.sys.host.env.profiles 0).nextProfile ≠ 2

section Requests

variable {e e' : SledEnv} {r : Request sledClient}

lemma forSent_of_plain (h : r.Plain) : r.ForSent e := by
  intro i hw
  simp [h.write] at hw

lemma forSent_of_harmless (h : r.Harmless) : r.ForSent e := fun _ hw => absurd hw h.callback

lemma Request.ForSent.mono (hsent : ∀ i, (e.profiles i).neverSent = false →
    (e'.profiles i).neverSent = false) (h : r.ForSent e) : r.ForSent e' :=
  fun i hw hd => hsent i (h i hw hd)

lemma Confirmed.registered {s t : Sled} (h : Confirmed s t) (hs : Registered s.env) :
    Registered t.env := by
  have henv := h.env
  refine ⟨?_, ?_, ?_, ?_, fun i hi => (h.contents i).2.1.trans (hs.inUse i hi)⟩ <;> rw [henv]
  exacts [hs.there, hs.rthere, hs.back, hs.rback]

/-- A confirmation comes for profiles that have been sent, so those that have never been sent keep
their marks. -/
lemma Confirmed.freshChanged {s t : Sled} (h : Confirmed s t) (hs : s.env.FreshChanged)
    (ha : Awaits (Request.ForSent s.env) s) : t.env.FreshChanged := by
  intro j hn f
  rw [(h.contents j).2.2.1] at hn
  rcases h.effect with hsame | ⟨r, i, hactive, hw, hd, hset⟩
  · rw [hsame]
    exact hs j hn f
  · have hj : j ≠ i := by
      rintro rfl
      rw [ha.active r hactive j hw hd] at hn
      cases hn
    rw [hset, Function.update_of_ne hj]
    exact hs j hn f

/-- Requests that are none of the drive's motion tasks' business. -/
lemma apply_of_harmless (d : Drive) (h : r.Harmless) : d.apply r = d := by
  simp [Drive.apply, write_of_index h.copy h.field, h.motionTask]

/-- Which task the drive executes depends on requests that name one. -/
lemma foldl_apply_motionTask {rs : List (Request sledClient)}
    (h : ∀ r ∈ rs, r.index ≠ OB_MOTION_TASK) (d : Drive) :
    (rs.foldl Drive.apply d).motionTask = d.motionTask := by
  induction rs generalizing d with
  | nil => rfl
  | cons r rs ih =>
    rw [List.foldl_cons, ih fun q hq => h q (List.mem_cons_of_mem _ hq)]
    simp [Drive.apply, h r List.mem_cons_self]

end Requests

namespace StopInv

variable {q : StopPlant} {s : Sled}

/-- Anything that happens to the host but a call. -/
lemma quiet (h : StopInv q) (hq : Quiet q.plant.sys.host s) :
    StopInv { q with plant := q.plant.withHost s } := by
  have hsettled : (q.plant.withHost s).settled Drive.apply = q.plant.settled Drive.apply :=
    Plant.settled_of_issues h.sane (fun d _ => apply_of_harmless d) hq.issues
  have hsent : ∀ i, (s.env.profiles i).neverSent =
      (q.plant.sys.host.env.profiles i).neverSent := fun i => (hq.touched i).neverSent
  refine ⟨h.sane.withHost hq.issues, ?_, ?_, ?_, ?_⟩
  · rw [hsettled]
    exact h.loop.of_contents (hq.registered h.loop.registered)
      (freshChanged_of_touched h.loop.fresh hq.touched) (fun i => (hq.touched i).profile) hsent
      hq.next
  · refine hq.awaits _ (fun _ => forSent_of_harmless) (h.awaits.mono fun r => ?_)
    exact Request.ForSent.mono fun i hi => (hsent i).trans hi
  · intro m hm
    rw [hsettled] at hm
    show m = slot 0 ∨ m = slot 1 ∧ (s.env.profiles 1).neverSent = false
    rw [hsent]
    exact h.motion m hm
  · intro hstop
    show (s.env.profiles 0).nextProfile ≠ 2
    rw [hq.next]
    exact h.stopped hstop

/-- The profiles are set up and written. -/
lemma written (h : StopInv q) {c : SinusoidCall} {is : List (Fin MAX_PROFILES)} {b : Bool}
    (hb : b = true → c.isStop = true)
    (his : writesAll (c.setup q.plant.sys.host).env (c.written (c.setup q.plant.sys.host).env) =
      .ok is) (hok : LinksOk q (.call c)) :
    StopInv ⟨q.plant.withHost (is.foldl Host.visit (c.setup q.plant.sys.host)), b⟩ := by
  have hprep := Prepared.of_writesAll h.loop his (hok is his)
  have hset := hprep.setter
  obtain ⟨rs, hrs, happly, hindex⟩ := visits_requests (s := c.setup q.plant.sys.host) is
    hprep.numbered
  have hsetup : (c.setup q.plant.sys.host).requests = q.plant.sys.host.requests := by
    obtain ⟨rs, hrs, hnone⟩ := Issues.moves hset.stores
    rw [hrs, List.eq_nil_iff_forall_not_mem.mpr hnone, List.append_nil]
  rw [hsetup] at hrs
  have henv := visits_env (c.setup q.plant.sys.host) is
  have hsettled : (q.plant.withHost (is.foldl Host.visit (c.setup q.plant.sys.host))).settled
      Drive.apply = rs.foldl Drive.apply (q.plant.settled Drive.apply) :=
    Plant.settled_of_requests h.sane hrs
  have hsent : ∀ i, (q.plant.sys.host.env.profiles i).neverSent = false →
      ((is.foldl Host.visit (c.setup q.plant.sys.host)).env.profiles i).neverSent = false := by
    intro i hi
    rw [henv]
    exact sent_visits ((hset.touched i).neverSent.trans hi)
  refine ⟨h.sane.withHost (K := fun _ => True) ⟨rs, hrs, fun _ _ => trivial⟩, ?_, ?_, ?_, ?_⟩
  · rw [hsettled, foldl_apply_tasks, happly]
    show LoopInv (is.foldl Host.visit (c.setup q.plant.sys.host)).env _
    rw [henv]
    exact hprep.loopInv
  · have hold : Awaits (Request.ForSent (is.foldl Host.visit (c.setup q.plant.sys.host)).env)
        (c.setup q.plant.sys.host) := by
      refine Awaits.of_same (h.awaits.mono fun r => Request.ForSent.mono hsent) ?_ ?_ <;>
        rw [hset.stores.silent.1]
    refine hold.visits (fun _ => forSent_of_plain) fun i hi f v j _ hd => ?_
    obtain rfl : i = j := by simpa [fieldWrite, writeRequest] using hd
    rw [henv, (visits_profile _ is i).2.2.2.1, if_pos hi]
  · intro m hm
    rw [hsettled, foldl_apply_motionTask hindex] at hm
    exact (h.motion m hm).imp_right fun hm => ⟨hm.1, hsent 1 hm.2⟩
  · intro hstop
    show ((is.foldl Host.visit (c.setup q.plant.sys.host)).env.profiles 0).nextProfile ≠ 2
    rw [henv, (visits_profile _ is 0).2.1, hset.next]
    rcases c.links_there fun i => (q.plant.sys.host.env.profiles i).nextProfile with
      ⟨hno, -⟩ | ⟨-, hl⟩ | ⟨-, hl⟩
    · rw [hb hstop] at hno
      cases hno
    · rw [hl]
      decide
    · rw [hl]
      decide

/-- The drive is told to execute a profile of the sinusoid. -/
lemma execute (h : StopInv q) {i : Fin MAX_PROFILES}
    (hi : i = 0 ∨ i = 1 ∧ (q.plant.sys.host.env.profiles 1).neverSent = false) :
    StopInv { q with plant := q.plant.withHost (q.plant.sys.host.push
      (motionTask (q.plant.sys.host.env.profiles i).profile)) } := by
  have hrequests : (q.plant.sys.host.push (motionTask
      (q.plant.sys.host.env.profiles i).profile)).requests = q.plant.sys.host.requests ++
        [motionTask (q.plant.sys.host.env.profiles i).profile] := Host.requests_push _
  have hsettled : (q.plant.withHost _).settled Drive.apply =
      [motionTask (q.plant.sys.host.env.profiles i).profile].foldl Drive.apply
        (q.plant.settled Drive.apply) := Plant.settled_of_requests h.sane hrequests
  have henv := Host.push_env (motionTask (q.plant.sys.host.env.profiles i).profile)
    q.plant.sys.host
  refine ⟨h.sane.withHost (K := fun _ => True) ⟨_, hrequests, fun _ _ => trivial⟩, ?_, ?_, ?_, ?_⟩
  · rw [hsettled, foldl_apply_tasks, List.foldl_cons, List.foldl_nil, write_motionTask]
    show LoopInv (Host.push _ q.plant.sys.host).env _
    rw [henv]
    exact h.loop
  · show Awaits (Request.ForSent (Host.push _ q.plant.sys.host).env) _
    rw [henv]
    exact h.awaits.push (forSent_of_plain (plain_plainWrite _ _ _ _))
  · intro m hm
    show m = slot 0 ∨ m = slot 1 ∧ ((Host.push _ q.plant.sys.host).env.profiles 1).neverSent = false
    rw [henv]
    have hslot : slot i = m := by
      rw [hsettled, h.loop.numbered i] at hm
      simpa [Drive.apply, motionTask, plainWrite, writeRequest, toNat_slot] using hm
    rcases hi with rfl | ⟨rfl, hsent⟩
    · exact .inl hslot.symm
    · exact .inr ⟨hslot.symm, hsent⟩
  · intro hstop
    show ((Host.push _ q.plant.sys.host).env.profiles 0).nextProfile ≠ 2
    rw [henv]
    exact h.stopped hstop

/-- A call. -/
lemma call (h : StopInv q) {c : SinusoidCall} {r : ℤ × Sled} (hok : LinksOk q (.call c))
    (hr : sledCall q.plant.sys.host c.toSledCall = .ok r) :
    StopInv ⟨q.plant.withHost r.2, c.isStop && decide (r.1 = 0)⟩ := by
  cases SinusoidCall.outcome h.loop.registered hr with
  | written is code his =>
    exact h.written (fun hb => (Bool.and_eq_true _ _ ▸ hb).1) his hok
  | @started is i his hi hidle =>
    have hstart : c.isStop = false := by
      cases c with
      | start | rstart => rfl
      | stop | rstop => cases hi
    have hwritten : StopInv ⟨q.plant.withHost (is.foldl Host.visit (c.setup q.plant.sys.host)),
        false⟩ := h.written (by simp) his hok
    have hprep := Prepared.of_writesAll h.loop his (hok is his)
    have hsent : i = 0 ∨ i = 1 ∧ ((is.foldl Host.visit (c.setup
        q.plant.sys.host)).env.profiles 1).neverSent = false := by
      cases c with
      | start =>
        cases hi
        exact .inl rfl
      | rstart =>
        cases hi
        refine .inr ⟨rfl, ?_⟩
        rw [visits_env]
        exact sent_of_flushed hprep.fresh
          (hprep.series.heads 1 (by simp [SinusoidCall.written]) 1 rfl)
      | stop | rstop => cases hi
    have hmove := (hwritten.execute hsent).quiet (.reacts
      (Reacts.mpMove (.push (.refl _) (command_controlWord 0x3F)) .setpointSet))
    rw [hstart]
    exact hmove

lemma received (h : StopInv q) {r : Sdo sledClient} {rest : List (Sdo sledClient)}
    (hr : q.plant.sys.toDrive = r :: rest) :
    StopInv { q with plant := q.plant.received Drive.apply r } := by
  refine ⟨h.sane.received hr, ?_, h.awaits, ?_, h.stopped⟩
  · rw [Plant.settled_receive hr]
    exact h.loop
  · rw [Plant.settled_receive hr]
    exact h.motion

lemma deliver (h : StopInv q) {msg : CanMessage} {rest : List CanMessage}
    (hm : q.plant.sys.toHost = msg :: rest) (hc : Confirmed q.plant.sys.host s) :
    StopInv { q with plant :=
      { q.plant with sys := { q.plant.sys with host := s, toHost := rest } } } := by
  have hcontents := hc.contents
  have hsent : ∀ i, (s.env.profiles i).neverSent =
      (q.plant.sys.host.env.profiles i).neverSent := fun i => (hcontents i).2.2.1
  refine ⟨h.sane.deliver hm hc, ?_, ?_, ?_, ?_⟩
  · rw [Plant.settled_deliver hc]
    exact h.loop.of_contents (hc.registered h.loop.registered)
      (hc.freshChanged h.loop.fresh h.awaits) (fun i => (hcontents i).1) hsent
      fun i => (hcontents i).2.2.2
  · refine hc.awaits (h.awaits.mono fun r => ?_)
    exact Request.ForSent.mono fun i hi => (hsent i).trans hi
  · intro m hmotion
    rw [Plant.settled_deliver hc] at hmotion
    show m = slot 0 ∨ m = slot 1 ∧ (s.env.profiles 1).neverSent = false
    rw [hsent]
    exact h.motion m hmotion
  · intro hstop
    show (s.env.profiles 0).nextProfile ≠ 2
    rw [(hcontents 0).2.2.2]
    exact h.stopped hstop

/-- Every step keeps the invariant. -/
lemma step (h : StopInv q) {e : StopEvent} {q' : StopPlant} (hok : LinksOk q e)
    (hstep : stopStep q e = .ok q') : StopInv q' := by
  cases e with
  | call c =>
    obtain ⟨r, hr, hstep⟩ := bind_eq_ok.mp hstep
    cases hstep
    exact h.call hok hr
  | host e =>
    simp only [stopStep] at hstep
    split at hstep
    · cases hstep
      exact h
    · next hcall =>
      obtain ⟨p, hp, hstep⟩ := bind_eq_ok.mp hstep
      cases hstep
      cases plantStep_effect h.sane hp with
      | idle => exact h
      | host hsdo ht => exact h.quiet (quiet_of_step hsdo (by simpa using hcall) hok ht)
  | receive =>
    obtain ⟨p, hp, hstep⟩ := bind_eq_ok.mp hstep
    cases hstep
    cases plantStep_effect h.sane hp with
    | idle => exact h
    | receive hr => exact h.received hr
  | deliver now =>
    obtain ⟨p, hp, hstep⟩ := bind_eq_ok.mp hstep
    cases hstep
    cases plantStep_effect h.sane hp with
    | idle => exact h
    | deliver hm hc => exact h.deliver hm hc

end StopInv

/-! ## The start -/

/-- The plant after `sled_create`, with any motion tasks in the drive. -/
def StopPlant.init (s : Sled) (t : Tasks) : StopPlant := ⟨⟨.init s, ⟨t, none⟩⟩, false⟩

lemma quiet_sledCreate {mem : SledEnv} {now : ℚ} {o : CanOutcome} {s : Sled}
    (h : sledCreate mem now o = .ok s) : Quiet (sledCreateProfiles (sledAlloc mem now)) s := by
  have hstores : Stores (fun _ => False) (sledAlloc mem now)
      (sledCreateProfiles (sledAlloc mem now)) := Stores.createProfiles (.refl _)
  have henv := hstores.env_rel SledEnv.SameModes.refl fun _ _ _ => .trans
  obtain ⟨intf, -, hend⟩ := sledCreate_ok h henv.intf hstores.silent.2
  have hopening : Quiet (sledCreateProfiles (sledAlloc mem now))
      (((sledCreateProfiles (sledAlloc mem now)).setIntfState .opening).withIntf intf) :=
    (Quiet.setIntfState _ _).trans (.withIntf _ intf)
  rcases hend with rfl | hevent
  · exact hopening
  · exact (hopening.trans (.setIntfState _ _)).trans (.netEvent (by simp) hevent)

/-- The invariant holds before the interface is opened: nothing has been issued. -/
lemma stopInv_sledCreateProfiles (mem : SledEnv) (now : ℚ) (t : Tasks) :
    StopInv (.init (sledCreateProfiles (sledAlloc mem now)) t) := by
  have hcreated := created_sledCreateProfiles (sledAlloc mem now)
  have hstores : Stores (fun _ => False) (sledAlloc mem now)
      (sledCreateProfiles (sledAlloc mem now)) := Stores.createProfiles (.refl _)
  have hrequests : (sledCreateProfiles (sledAlloc mem now)).requests = [] := by
    obtain ⟨rs, hrs, hnone⟩ := Issues.moves hstores
    rw [hrs, List.eq_nil_iff_forall_not_mem.mpr hnone]
    rfl
  have hmchSdo := hstores.silent.1
  generalize sledCreateProfiles (sledAlloc mem now) = s at hcreated hrequests hmchSdo
  have hsettled : (StopPlant.init s t).plant.settled Drive.apply = ⟨t, none⟩ := by
    show (s.requests.drop 0).foldl Drive.apply ⟨t, none⟩ = ⟨t, none⟩
    rw [hrequests]
    rfl
  have hnever : ∀ i : Fin MAX_PROFILES, (i : ℕ) < 4 → (s.env.profiles i).neverSent ≠ false := by
    intro i hi
    simp [hcreated.neverSent i hi]
  have hthere : (s.env.profiles 0).nextProfile = 2 := hcreated.next_there
  refine ⟨⟨Nat.zero_le _, fun m hm => absurd hm List.not_mem_nil⟩, ?_, ?_, ?_, fun hstop => ?_⟩
  · rw [hsettled]
    refine ⟨hcreated.registered, fun i => ?_, fun i _ f => hcreated.changed i f, .inl hthere,
      hcreated.next_rthere, hcreated.next_rback, fun hsent => ?_, fun hsent => ?_, fun hsent => ?_,
      fun hsent => ?_, fun hn => ?_, fun hn => ?_⟩
    · show (s.env.profiles i).profile = _
      rw [hcreated.profile, slot]
      omega
    · exact absurd hsent (hnever 1 (by decide))
    · exact absurd hsent (hnever 1 (by decide))
    · exact absurd hsent (hnever 2 (by decide))
    · exact absurd hsent (hnever 3 (by decide))
    · exact absurd (hthere.symm.trans hn) (by decide)
    · exact absurd (hthere.symm.trans hn) (by decide)
  · refine .of_idle ?_ ?_
    · show s.mchSdo.sdoQueue = []
      rw [hmchSdo]
      rfl
    · show s.mchSdo.sdoActive = none
      rw [hmchSdo]
      rfl
  · intro m hm
    rw [hsettled] at hm
    cases hm
  · cases hstop

lemma StopInv.quiet_init {s s' : Sled} {t : Tasks} (h : StopInv (.init s t)) (hq : Quiet s s') :
    StopInv (.init s' t) := h.quiet hq

lemma stopInv_init {mem : SledEnv} {now : ℚ} {o : CanOutcome} {s : Sled}
    (h : sledCreate mem now o = .ok s) (t : Tasks) : StopInv (.init s t) :=
  (stopInv_sledCreateProfiles mem now t).quiet_init (quiet_sledCreate h)

/-- **Stop really stops**, as long as task 0 holds what the host takes it to hold whenever a call is
about to write.  In every run from `sled_create` of starts and stops, with anything else that can
happen to the host in between as long as no request is dropped: when the last call was a stop that
returned 0 and everything has been applied and confirmed, the chain of motion tasks that starts at
the one last executed comes to an end. -/
theorem stop_ends_chain {mem : SledEnv} {now : ℚ} {o : CanOutcome} {s : Sled}
    (hcreate : sledCreate mem now o = .ok s) {t : Tasks} {es : List StopEvent} {q : StopPlant}
    (hg : Guarded stopStep LinksOk (.init s t) es) (hrun : run stopStep (.init s t) es = .ok q)
    (hstopped : q.stopped = true) (hd : q.plant.drained = true) {m : ℕ}
    (hm : q.plant.drive.motionTask = some m) : Halts q.plant.drive.tasks m := by
  have hinv : StopInv q := Guarded.invariant (fun _ _ _ hs hok hstep => hs.step hok hstep)
    (stopInv_init hcreate t) hg hrun
  have hloop := hinv.loop
  have hmotion := hinv.motion m
  rw [Plant.settled_of_drained hd] at hloop hmotion
  exact hloop.halts (hinv.stopped hstopped) (hmotion hm)

instance : ∀ (q : StopPlant) (e : StopEvent), Decidable (LinksOk q e)
  | q, .call c => inferInstanceAs (Decidable (∀ is, writesAll (c.setup q.plant.sys.host).env
      (c.written (c.setup q.plant.sys.host).env) = .ok is →
        ScratchValid LinkField (q.plant.settled Drive.apply).tasks
          (c.setup q.plant.sys.host).env is))
  | q, .host e => inferInstanceAs (Decidable (Undropped q.plant.sys.host e))
  | _, .receive => isTrue trivial
  | _, .deliver _ => isTrue trivial

/-! ### Runs in lockstep -/

/-- `stopStep`, with the next request taken from the SDO machine. -/
def quickStopStep (q : StopPlant) : StopEvent → Except Halt StopPlant
  | .receive => do
    let p ← quickPlantStep Drive.apply q.plant .receive
    .ok { q with plant := p }
  | e => stopStep q e

/-- The step leaves at most one request outstanding. -/
def StopPlant.InStep (q : StopPlant) : StopEvent → Prop
  | .call _ => True
  | .host e => q.plant.InStep (.host e)
  | .receive => q.plant.InStep .receive
  | .deliver now => q.plant.InStep (.deliver now)

instance : ∀ (q : StopPlant) (e : StopEvent), Decidable (q.InStep e)
  | _, .call _ => isTrue trivial
  | q, .host e => inferInstanceAs (Decidable (q.plant.InStep (.host e)))
  | q, .receive => inferInstanceAs (Decidable (q.plant.InStep .receive))
  | q, .deliver now => inferInstanceAs (Decidable (q.plant.InStep (.deliver now)))

namespace BusInv

variable {q q' : StopPlant} {e : StopEvent}

lemma quickStopStep_eq (h : BusInv q.plant.sys) (hok : q.InStep e) :
    quickStopStep q e = stopStep q e := by
  cases e with
  | receive => rw [quickStopStep, h.quickPlantStep_eq (e := .receive) hok, SledServer.stopStep]
  | call c => rfl
  | host e => rfl
  | deliver now => rfl

lemma stopStep (h : BusInv q.plant.sys) (hok : q.InStep e)
    (hstep : stopStep q e = .ok q') : BusInv q'.plant.sys := by
  cases e with
  | call c =>
    obtain ⟨r, hr, hend⟩ := bind_eq_ok.mp hstep
    cases hend
    exact h.call hr
  | host e =>
    simp only [SledServer.stopStep] at hstep
    split at hstep
    · cases hstep
      exact h
    · obtain ⟨p, hp, hend⟩ := bind_eq_ok.mp hstep
      cases hend
      exact h.plantStep (e := .host e) hok hp
  | receive =>
    obtain ⟨p, hp, hend⟩ := bind_eq_ok.mp hstep
    cases hend
    exact h.plantStep (e := .receive) hok hp
  | deliver now =>
    obtain ⟨p, hp, hend⟩ := bind_eq_ok.mp hstep
    cases hend
    exact h.plantStep (e := .deliver now) hok hp

end BusInv

/-- A run in lockstep is a run of the plant. -/
lemma stop_of_quick {mem : SledEnv} {now : ℚ} {o : CanOutcome} {s : Sled} {t : Tasks}
    {es : List StopEvent} {q : StopPlant} {ok : StopPlant → StopEvent → Prop}
    (hok : ∀ q e, ok q e → q.InStep e) (hcreate : sledCreate mem now o = .ok s)
    (hg : Guarded quickStopStep ok (.init s t) es)
    (hrun : run quickStopStep (.init s t) es = .ok q) :
    Guarded stopStep ok (.init s t) es ∧ run stopStep (.init s t) es = .ok q ∧
      BusInv q.plant.sys := by
  have hinit : BusInv (StopPlant.init s t).plant.sys :=
    ⟨coupledInv_sledCreate hcreate, matched_sledCreate hcreate⟩
  have hsame : ∀ q e, BusInv q.plant.sys → ok q e → quickStopStep q e = stopStep q e :=
    fun q e hq he => hq.quickStopStep_eq (hok q e he)
  have hstep : ∀ q e q', BusInv q.plant.sys → ok q e → quickStopStep q e = .ok q' →
      BusInv q'.plant.sys :=
    fun q e q' hq he h => hq.stopStep (hok q e he) (hsame q e hq he ▸ h)
  refine ⟨Guarded.congr (I := fun q => BusInv q.plant.sys) hstep hsame hinit hg, ?_,
    Guarded.invariant (I := fun q => BusInv q.plant.sys) hstep hinit hg hrun⟩
  rw [← Guarded.run_congr (I := fun q => BusInv q.plant.sys) hstep hsame hinit hg, hrun]

/-- The next `n` requests are applied and confirmed. -/
def exchanges (n : ℕ) : List StopEvent :=
  (List.replicate n [StopEvent.receive, StopEvent.deliver 0]).flatten

/-- A frame reaches the host, and the next `n` requests are applied and confirmed. -/
def afterFrame (msg : CanMessage) (n : ℕ) : List StopEvent := .host (frame msg) :: exchanges n

/-- The network and the drive come up. -/
def brought : List StopEvent :=
  afterFrame (nmtReport 0x7F) 24 ++ afterFrame (nmtReport 0x05) 1 ++ afterFrame (tpdo1 0x31 0) 1 ++
    afterFrame (tpdo1 0x33 0) 1 ++ afterFrame (tpdo1 0x37 0) 1 ++ afterFrame (tpdo1 0x1037 6) 1 ++
    afterFrame (tpdo1 0x37 1) 0

/-- A start, whose `n` requests are applied, and which the drive acknowledges. -/
def startedWith (c : SinusoidCall) (n : ℕ) : List StopEvent :=
  .call c :: exchanges n ++ afterFrame (tpdo1 0x1037 1) 1 ++ afterFrame (tpdo1 0x37 1) 0

/-- A start and a stop. -/
def startedAndStopped : List StopEvent :=
  brought ++ startedWith (.start (1 / 10) 1) 20 ++ .call .stop :: exchanges 4

/-- Two starts with different periods, and then a start of the other kind. -/
def restartedAndStopped : List StopEvent :=
  brought ++ startedWith (.start (1 / 10) 1) 20 ++ startedWith (.start (1 / 10) 2) 14 ++
    .call (.rstart (1 / 10) 1) :: exchanges 30 ++ .call .stop :: exchanges 4

/-- A start and a stop, with empty motion tasks in the drive. -/
theorem stop_ends_chain_once :
    ∃ s q, sledCreate someMemory 0 ⟨.success, true⟩ = .ok s ∧
      Guarded stopStep LinksOk (.init s fun _ _ => 0) startedAndStopped ∧
      run stopStep (.init s fun _ _ => 0) startedAndStopped = .ok q ∧ q.stopped = true ∧
      q.plant.drained = true ∧ q.plant.drive.motionTask = some 201 ∧
      Halts q.plant.drive.tasks 201 := by
  obtain ⟨s, hs, h⟩ := exists_of_okAnd (x := sledCreate someMemory 0 ⟨.success, true⟩)
    (p := fun s => decide (Guarded quickStopStep (fun q e => q.InStep e ∧ LinksOk q e)
        (.init s fun _ _ => 0) startedAndStopped) &&
      okAnd (fun q : StopPlant => decide (q.stopped = true ∧ q.plant.resting = true ∧
        q.plant.drive.motionTask = some 201))
        (run quickStopStep (.init s fun _ _ => 0) startedAndStopped)) (by decide +kernel)
  rw [Bool.and_eq_true, decide_eq_true_eq] at h
  obtain ⟨q, hq, hend⟩ := exists_of_okAnd h.2
  obtain ⟨hstopped, hrest, hm⟩ := of_decide_eq_true hend
  obtain ⟨hg, hrun, hbus⟩ := stop_of_quick (fun _ _ hok => hok.1) hs h.1 hq
  have hlinks := hg.mono fun _ _ hok => hok.2
  have hd := hbus.drained hrest
  exact ⟨s, q, hs, hlinks, hrun, hstopped, hd, hm, stop_ends_chain hs hlinks hrun hstopped hd hm⟩

/-- After two starts, `current_profile` names `back`.  The start of the other kind then writes
`rthere` for the first time, through task 0, and goes on to `back`, which it does not load: the
motion task of `back` gets the link of `rthere`, which leads to `back`.  Stopping does not touch
it, and the sled, which executes `rthere`, never leaves `back`. -/
theorem stop_leaves_loop :
    ∃ s q, sledCreate someMemory 0 ⟨.success, true⟩ = .ok s ∧
      run stopStep (.init s fun _ _ => 0) restartedAndStopped = .ok q ∧ q.stopped = true ∧
      q.plant.drained = true ∧ q.plant.drive.motionTask = some 202 ∧
      ¬ Halts q.plant.drive.tasks 202 := by
  obtain ⟨s, hs, h⟩ := exists_of_okAnd (x := sledCreate someMemory 0 ⟨.success, true⟩)
    (p := fun s => decide (Guarded quickStopStep StopPlant.InStep (.init s fun _ _ => 0)
        restartedAndStopped) &&
      okAnd (fun q : StopPlant => decide (q.stopped = true ∧ q.plant.resting = true ∧
        q.plant.drive.motionTask = some 202 ∧ q.plant.drive.tasks 202 .c &&& 0x08 ≠ 0 ∧
        (q.plant.drive.tasks 202 .fn).toNat = 203 ∧ q.plant.drive.tasks 203 .c &&& 0x08 ≠ 0 ∧
        (q.plant.drive.tasks 203 .fn).toNat = 203))
      (run quickStopStep (.init s fun _ _ => 0) restartedAndStopped)) (by decide +kernel)
  rw [Bool.and_eq_true, decide_eq_true_eq] at h
  obtain ⟨q, hq, hend⟩ := exists_of_okAnd h.2
  obtain ⟨hstopped, hrest, hm, hc, hfn, hc', hfn'⟩ := of_decide_eq_true hend
  obtain ⟨-, hrun, hbus⟩ := stop_of_quick (fun _ _ hok => hok) hs h.1 hq
  refine ⟨s, q, hs, hrun, hstopped, hbus.drained hrest, hm, fun hhalts => ?_⟩
  cases hhalts with
  | stop h => exact hc h
  | hop _ hnext =>
    rw [hfn] at hnext
    exact not_halts_of_loop hc' hfn' hnext

end SledServer
