import SledServer.Drive.Tasks
import SledServer.Sled.Flush

/-!
# Host and drive agree on every motion task

A profile whose fields have all been written should be in the drive as the host has it.  The
invariant compares the profile table with the drive once everything issued has been applied: every
field that is not marked as changed is in the motion task of its profile (`Agrees`).

A visit keeps this when task 0 holds what the host takes it to hold, which is the condition
`ScratchOk` on a call, and breaks it otherwise.
-/

namespace SledServer

open SledServer.Core

/-- The profiles and the motion tasks agree, wherever nothing is to be written. -/
structure Agrees (t : Tasks) (e : SledEnv) : Prop where
  numbered : e.Numbered
  fresh : e.FreshChanged
  agree : ∀ i, (e.profiles i).neverSent = false → ∀ f, (e.profiles i).fieldState f ≠ .changed →
    e.present? i f = some (t (slot i) f)

/-! ## Changes of the profile table -/

/-- `p'` is `p`, except for fields that are marked as changed. -/
structure Retains (p p' : SledProfile) : Prop where
  profile : p'.profile = p.profile
  fresh : p'.neverSent = true → ∀ f, p'.fieldState f = .changed
  same : ∀ f, p'.neverSent = false → p'.fieldState f ≠ .changed →
    p.neverSent = false ∧ p.fieldState f ≠ .changed ∧ (∀ n, p'.value n f = p.value n f) ∧
      (f = .fn → p'.nextProfile = p.nextProfile)

section Profiles

variable {t : Tasks} {e e' : SledEnv} {p p' : SledProfile}

lemma Retains.refl (h : p.neverSent = true → ∀ f, p.fieldState f = .changed) : Retains p p :=
  ⟨rfl, h, fun _ hn hc => ⟨hn, hc, fun _ => rfl, fun _ => rfl⟩⟩

/-- A profile whose fields are all to be written agrees with anything. -/
lemma Retains.of_changed (hn : p'.profile = p.profile) (h : ∀ f, p'.fieldState f = .changed) :
    Retains p p' := ⟨hn, fun _ => h, fun f _ hc => absurd (h f) hc⟩

lemma Retains.of_marks (h : Marks p p') (hn : p'.neverSent = p.neverSent)
    (hp : p.neverSent = true → ∀ f, p.fieldState f = .changed) : Retains p p' := by
  refine ⟨h.profile, fun hn' f => ?_, fun f hn' hc => ?_⟩
  · rcases h.fields f with hc | ⟨hst, -, -⟩
    · exact hc
    · exact hst.trans (hp (hn ▸ hn') f)
  · rcases h.fields f with hc' | ⟨hst, hv, hnext⟩
    · exact absurd hc' hc
    · exact ⟨hn ▸ hn', hst ▸ hc, hv, hnext⟩

lemma Agrees.retains (h : Agrees t e) (hr : ∀ i, Retains (e.profiles i) (e'.profiles i)) :
    Agrees t e' := by
  refine ⟨fun i => (hr i).profile.trans (h.numbered i), fun i => (hr i).fresh, fun i hn f hc => ?_⟩
  obtain ⟨hn', hc', hv, hnext⟩ := (hr i).same f hn hc
  rw [SledEnv.present?_congr (fun j => (hr j).profile) hv hnext]
  exact h.agree i hn' f hc'

lemma Agrees.of_profiles (h : Agrees t e) (hp : e'.profiles = e.profiles) : Agrees t e' :=
  h.retains fun i => by rw [hp]; exact .refl (h.fresh i)

lemma Agrees.modifyProfile {s : Sled} (h : Agrees t s.env) (i : Fin MAX_PROFILES)
    {g : SledProfile → SledProfile} (hg : Retains (s.env.profiles i) (g (s.env.profiles i))) :
    Agrees t (s.modifyProfile i g).env := by
  refine h.retains fun j => ?_
  by_cases hj : j = i
  · subst hj
    simpa [Host.modifyProfile_eq] using hg
  · simpa [Host.modifyProfile_eq, hj] using Retains.refl (h.fresh j)

lemma Agrees.onProfile {s : Sled} (h : Agrees t s.env) (id : ℤ) {g : SledProfile → SledProfile}
    (hg : ∀ p, Marks p (g p)) (hn : ∀ p, (g p).neverSent = p.neverSent) :
    Agrees t (onProfile id g s).2.env := by
  unfold SledServer.onProfile
  split
  · exact h
  · split
    · exact h
    · exact h.modifyProfile _ (.of_marks (hg _) (hn _) (h.fresh _))

lemma setTable_neverSent (p : SledProfile) (table : ℤ) :
    (p.setTable table).neverSent = p.neverSent := by
  unfold SledProfile.setTable
  split <;> rfl

lemma setTarget_neverSent (p : SledProfile) (type : PositionType) (position time : ℚ) :
    (p.setTarget type position time).neverSent = p.neverSent := by
  simp only [SledProfile.setTarget, SledProfile.setField]
  split_ifs <;> rfl

lemma setNext_neverSent (p : SledProfile) (nextProfile : ℤ) (delay : ℚ) (blendType : BlendType) :
    (p.setNext nextProfile delay blendType).neverSent = p.neverSent := by
  simp only [SledProfile.setNext, SledProfile.setField]
  split_ifs <;> rfl

lemma Agrees.create {s : Sled} (h : Agrees t s.env) : Agrees t (sledProfileCreate s).2.env := by
  unfold sledProfileCreate
  split
  · next i hi =>
    dsimp only
    unfold sledProfileClear
    rw [profileIndex?_natCast]
    have hnum : (201 + (i : ℕ) : ℤ) = (s.env.profiles i).profile := by
      rw [h.numbered i, slot]
      omega
    have hclear : Agrees t (s.modifyProfile i (SledProfile.clear i true)).env :=
      h.modifyProfile i (.of_changed hnum fun _ => rfl)
    refine hclear.modifyProfile i (.of_changed rfl fun f => ?_)
    simp [Host.modifyProfile_eq, SledProfile.clear, sledProfileMarkAsUnsaved]
  · exact h

lemma Agrees.reset {s : Sled} (h : Agrees t s.env) : Agrees t (sledProfilesReset s).2.env := by
  refine h.retains fun i => ?_
  show Retains (s.env.profiles i) (if (s.env.profiles i).inUse then _ else _)
  split
  · exact .of_changed rfl fun _ => rfl
  · exact .refl (h.fresh i)

end Profiles

/-! ## Visits -/

section Visits

variable {t : Tasks} {e : SledEnv} {is : List (Fin MAX_PROFILES)}

lemma Agrees.visits (h : Agrees t e) (hnodup : is.Nodup)
    (hlink : ∀ i ∈ is, (e.profiles i).nextProfile ≥ 0 →
      profileIndex? (e.profiles i).nextProfile ≠ none)
    (hvalid : ScratchValid (fun _ => True) t e is) :
    Agrees (t.afterVisits e is) (is.foldl SledEnv.visit e) := by
  refine ⟨fun i => (visits_profile e is i).1.trans (h.numbered i),
    fun i hn f => ?_, fun i hn f hc => ?_⟩
  · obtain ⟨-, -, -, hnever, hst⟩ := visits_profile e is i
    rw [hnever] at hn
    split at hn
    · cases hn
    · next hi =>
      rw [hst f, if_neg (by simp [hi])]
      exact h.fresh i hn f
  · obtain ⟨-, hnext, hv, -, hst⟩ := visits_profile e is i
    rw [SledEnv.present?_congr (fun j => (visits_profile e is j).1) (fun n => hv n f)
      fun _ => hnext,
      afterVisits_slot hvalid h.numbered h.fresh hnodup i trivial]
    split
    case isTrue hi =>
      rw [SledEnv.present?, if_neg]
      rintro ⟨-, hge, hnone⟩
      exact hlink i hi.1 hge hnone
    case isFalse hi =>
      rw [hst f, if_neg hi] at hc
      refine h.agree i ?_ f hc
      by_contra hnever
      exact hc (h.fresh i (by simpa using hnever) f)

end Visits

/-! ## Requests that await their confirmation -/

/-- The confirmation of the request does not find a changed field. -/
def Request.Marked (e : SledEnv) (r : Request sledClient) : Prop :=
  ∀ i f, r.writeCallback = some .onSuccessCallback → r.data = some (.profile i) →
    Field.ofIndex? r.index = some f → (e.profiles i).fieldState f ≠ .changed

/-- No confirmation still to come finds a changed field. -/
abbrev Answerable (e : SledEnv) (s : Sled) : Prop := Awaits (Request.Marked e) s

namespace Answerable

variable {e e' : SledEnv} {s t : Sled} {r : Request sledClient}

lemma marked_of_plain (h : r.Plain) : r.Marked e := by
  intro i f hw
  simp [h.write] at hw

/-- Fields that are not marked as changed stay so. -/
lemma weaken (h : Answerable e s)
    (hc : ∀ i f, (e.profiles i).fieldState f ≠ .changed → (e'.profiles i).fieldState f ≠ .changed) :
    Answerable e' s :=
  h.mono fun _ hr i f hw hd hi => hc i f (hr i f hw hd hi)

/-- A series of commands. -/
lemma reacts (h : Answerable e s) (hr : Reacts s t) : Answerable e t :=
  Awaits.moves h (fun _ hr => marked_of_plain hr.toPlain) hr

/-- A series of visits marks what it writes. -/
lemma visits (h : Answerable s.env s) (is : List (Fin MAX_PROFILES)) :
    Answerable (is.foldl Host.visit s).env (is.foldl Host.visit s) := by
  rw [visits_env]
  have hkeep : Answerable (is.foldl SledEnv.visit s.env) s := by
    refine h.weaken fun i f hc => ?_
    obtain ⟨-, -, -, -, hst⟩ := visits_profile s.env is i
    rw [hst f]
    simp [hc]
  refine Awaits.visits hkeep (fun _ => marked_of_plain) fun i hi f v j g _ hd _ => ?_
  obtain rfl : i = j := by simpa [fieldWrite, writeRequest] using hd
  obtain ⟨-, -, -, -, hst⟩ := visits_profile s.env is i
  rw [hst g]
  split
  · simp
  · next hc => exact fun hchanged => hc ⟨hi, hchanged⟩

end Answerable

/-! ## Confirmations -/

/-- A confirmation marks a field that was not marked as changed. -/
lemma Agrees.confirmed {t : Tasks} {s s' : Sled} (h : Agrees t s.env)
    (ha : Answerable s.env s) (hc : Confirmed s s') :
    Agrees t s'.env ∧ Answerable s'.env s' := by
  rcases hc.effect with hsame | ⟨r, i, hactive, hf, hd, hset⟩
  · refine ⟨h.of_profiles hsame, (hc.awaits ha).mono fun r hr j f hw hd hi => ?_⟩
    rw [hsame]
    exact hr j f hw hd hi
  · have hmarked : ∀ f, Field.ofIndex? r.index = some f →
        (s.env.profiles i).fieldState f ≠ .changed := fun f hi => ha.active r hactive i f hf hd hi
    have hkeep : ∀ g, (sledProfileSetFieldState r.index .written (s.env.profiles i)).fieldState g ≠
        .changed ↔ (s.env.profiles i).fieldState g ≠ .changed := by
      intro g
      unfold sledProfileSetFieldState
      cases hidx : Field.ofIndex? r.index with
      | none => exact Iff.rfl
      | some f =>
        by_cases hg : g = f
        · subst hg
          simp [SledProfile.setField, hmarked g hidx]
        · simp [SledProfile.setField, hg]
    refine ⟨h.retains fun j => ?_, Answerable.weaken (hc.awaits ha) fun j g => ?_⟩
    · rw [hset]
      by_cases hj : j = i
      · subst hj
        obtain ⟨hp, -, hn, hnext, hv⟩ := setFieldState_contents r.index .written (s.env.profiles j)
        rw [Function.update_self]
        refine ⟨hp, fun hnever g => ?_, fun g hnever hc => ?_⟩
        · rw [hn] at hnever
          by_contra hg
          exact (hkeep g).mp hg (h.fresh j hnever g)
        · exact ⟨hn ▸ hnever, (hkeep g).mp hc, fun n => hv n g, fun _ => hnext⟩
      · rw [Function.update_of_ne hj]
        exact .refl (h.fresh j)
    · rw [hset]
      by_cases hj : j = i
      · subst hj
        rw [Function.update_self]
        exact (hkeep g).mpr
      · rw [Function.update_of_ne hj]
        exact fun hg => hg

/-! ## Calls and reports -/

/-- The functions of the library that the result below is about. -/
inductive ProfileCall
  | create
  | setTable (profile table : ℤ)
  | setTarget (profile : ℤ) (type : PositionType) (position time : ℚ)
  | setNext (profile nextProfile : ℤ) (delay : ℚ) (blendType : BlendType)
  | writePendingChanges (profile : ℤ)
  | execute (profile : ℤ)
  | reset

/-- The call. -/
def ProfileCall.toSledCall : ProfileCall → SledCall
  | create => .profileCreate
  | setTable profile table => .profileSetTable profile table
  | setTarget profile type position time => .profileSetTarget profile type position time
  | setNext profile nextProfile delay blendType =>
    .profileSetNext profile nextProfile delay blendType
  | writePendingChanges profile => .profileWritePendingChanges profile
  | execute profile => .profileExecute profile
  | reset => .profilesReset

/-- What happens: a call, which is only made when everything before it has been applied and
confirmed; a report of the drive; and the exchange of requests and confirmations. -/
inductive TaskEvent
  | call (c : ProfileCall)
  | report (now : ℚ) (data : Vector UInt8 8)
  | receive
  | deliver (now : ℚ)

/-- One step. -/
def taskStep (p : Plant Drive) : TaskEvent → Except Halt (Plant Drive)
  | .call c =>
    if p.drained then plantStep Drive.apply p (.host (.call c.toSledCall)) else .ok p
  | .report now data => plantStep Drive.apply p (.host (tpdoEvent now data))
  | .receive => plantStep Drive.apply p .receive
  | .deliver now => plantStep Drive.apply p (.deliver now)

/-- The condition on a call: task 0 of the drive holds what the host takes it to hold when it
comes to the first of the profiles it visits that has been sent before. -/
def ScratchOk (p : Plant Drive) : TaskEvent → Prop
  | .call (.writePendingChanges profile) => p.drained = true →
      ∀ is, writes p.sys.host.env profile = .ok is →
        ScratchValid (fun _ => True) p.drive.tasks p.sys.host.env is
  | .call (.execute profile) => p.drained = true → p.sys.host.env.mchMp = .ppIdle →
      ∀ i is, profileIndex? profile = some i → (p.sys.host.env.profiles i).inUse = true →
        writes p.sys.host.env profile = .ok is →
          ScratchValid (fun _ => True) p.drive.tasks p.sys.host.env is
  | _ => True

/-- The invariant. -/
structure AgreeInv (p : Plant Drive) : Prop where
  sane : p.Sane
  agrees : Agrees (p.settled Drive.apply).tasks p.sys.host.env
  answerable : Answerable p.sys.host.env p.sys.host

namespace AgreeInv

variable {p : Plant Drive} {t : Sled}

/-- The drive looks the same to a host that has issued nothing. -/
lemma store (h : AgreeInv p) (hr : t.requests = p.sys.host.requests)
    (ha : Agrees (p.settled Drive.apply).tasks t.env)
    (hq : t.mchSdo.sdoQueue = []) (hactive : t.mchSdo.sdoActive = none) :
    AgreeInv (p.withHost t) := by
  refine ⟨h.sane.withHost (K := fun _ => True) (.of_eq hr), ?_, Awaits.of_idle hq hactive⟩
  have hnone : t.requests = p.sys.host.requests ++ [] := by simpa using hr
  rw [Plant.settled_of_requests h.sane hnone]
  exact ha

/-- A series of visits. -/
lemma visits (h : AgreeInv p) {id : ℤ} {is : List (Fin MAX_PROFILES)}
    (his : writes p.sys.host.env id = .ok is)
    (hvalid : ScratchValid (fun _ => True) (p.settled Drive.apply).tasks p.sys.host.env is) :
    AgreeInv (p.withHost (is.foldl Host.visit p.sys.host)) := by
  obtain ⟨rs, hrs, happly, -⟩ := visits_requests is h.agrees.numbered
  refine ⟨h.sane.withHost (K := fun _ => True) ⟨rs, hrs, fun _ _ => trivial⟩, ?_,
    h.answerable.visits is⟩
  rw [Plant.settled_of_requests h.sane hrs, foldl_apply_tasks, happly]
  show Agrees _ (is.foldl Host.visit p.sys.host).env
  rw [visits_env]
  exact h.agrees.visits (visitOrder_of_writeOrder his).nodup
    (visitOrder_of_writeOrder his).links hvalid

/-- A series of commands. -/
lemma reacts (h : AgreeInv p) (hr : Reacts p.sys.host t) : AgreeInv (p.withHost t) := by
  have henv := hr.env_rel SledEnv.SameProfiles.refl fun _ _ _ => .trans
  have hissues := Issues.moves hr
  refine ⟨h.sane.withHost hissues, ?_, ?_⟩
  · obtain ⟨rs, hrs, hall⟩ := hissues
    have hsame : rs.foldl Tasks.write (p.settled Drive.apply).tasks =
        (p.settled Drive.apply).tasks := by
      clear hrs
      induction rs with
      | nil => rfl
      | cons r rs ih =>
        rw [List.foldl_cons, write_of_command (hall r List.mem_cons_self)]
        exact ih fun q hq => hall q (List.mem_cons_of_mem _ hq)
    rw [Plant.settled_of_requests h.sane hrs, foldl_apply_tasks, hsame]
    exact h.agrees.of_profiles henv.profiles
  · refine (h.answerable.reacts hr).weaken fun i f hc => ?_
    show (t.env.profiles i).fieldState f ≠ .changed
    rwa [henv.profiles]

/-- A plain request that does not touch the motion tasks. -/
lemma push (h : AgreeInv p) {r : Request sledClient} (hr : r.Plain)
    (hwrite : ∀ t : Tasks, t.write r = t) : AgreeInv (p.withHost (p.sys.host.push r)) := by
  have hreq : (p.sys.host.push r).requests = p.sys.host.requests ++ [r] := Host.requests_push r
  refine ⟨h.sane.withHost (K := fun _ => True) ⟨[r], hreq, fun _ _ => trivial⟩, ?_, ?_⟩
  · rw [Plant.settled_of_requests h.sane hreq, foldl_apply_tasks, List.foldl_cons, List.foldl_nil,
      hwrite]
    show Agrees _ (p.sys.host.push r).env
    rw [Host.push_env]
    exact h.agrees
  · show Answerable (p.sys.host.push r).env _
    rw [Host.push_env]
    exact Awaits.push h.answerable (Answerable.marked_of_plain hr)

/-- Nothing awaits its confirmation in a drained plant. -/
lemma idle_of_drained (h : p.drained = true) :
    p.sys.host.mchSdo.sdoQueue = [] ∧ p.sys.host.mchSdo.sdoActive = none := by
  simp only [Plant.drained, Bool.and_eq_true, List.isEmpty_iff, Option.isNone_iff_eq_none] at h
  exact ⟨h.1.1.1, h.1.1.2⟩

/-- A call that only stores into the profile table. -/
lemma stores (h : AgreeInv p) (hd : p.drained = true)
    (hs : Stores (fun _ => False) p.sys.host t)
    (ha : Agrees (p.settled Drive.apply).tasks t.env) : AgreeInv (p.withHost t) := by
  obtain ⟨hq, hactive⟩ := idle_of_drained hd
  have hsame := hs.silent
  obtain ⟨rs, hrs, hnone⟩ := Issues.moves hs
  have hnil : rs = [] := List.eq_nil_iff_forall_not_mem.mpr hnone
  rw [hnil, List.append_nil] at hrs
  exact h.store hrs ha (by rw [hsame.1, hq]) (by rw [hsame.1, hactive])

/-- A successful execution: the visits, the number of the motion task and the commands. -/
lemma started (h : AgreeInv p) {id : ℤ} {i : Fin MAX_PROFILES} {is : List (Fin MAX_PROFILES)}
    (his : writes p.sys.host.env id = .ok is)
    (hvalid : ScratchValid (fun _ => True) (p.settled Drive.apply).tasks p.sys.host.env is) :
    AgreeInv (p.withHost (p.sys.host.started is i)) := by
  have hvisits := h.visits his hvalid
  have htask := hvisits.push (plain_plainWrite OB_MOTION_TASK 0x00 _ 0x02)
    fun t => write_motionTask t ((is.foldl Host.visit p.sys.host).env.profiles i).profile
  exact htask.reacts (Reacts.mpMove (.push (.refl _) (command_controlWord 0x3F)) .setpointSet)

/-- A call. -/
lemma call (h : AgreeInv p) (hd : p.drained = true) {c : ProfileCall}
    (hok : ScratchOk p (.call c)) {r : ℤ × Sled} (hr : sledCall p.sys.host c.toSledCall = .ok r) :
    AgreeInv (p.withHost r.2) := by
  have hsettled : p.settled Drive.apply = p.drive := Plant.settled_of_drained hd
  cases c with
  | create =>
    cases hr
    exact h.stores hd (Stores.create (.refl _)) h.agrees.create
  | setTable profile table =>
    cases hr
    exact h.stores hd (Stores.onProfile (.refl _) _ _)
      (h.agrees.onProfile _ (fun p => Marks.setTable p table) fun p => setTable_neverSent p table)
  | setTarget profile type position time =>
    cases hr
    exact h.stores hd (Stores.onProfile (.refl _) _ _)
      (h.agrees.onProfile _ (fun p => Marks.setTarget p type position time)
        fun p => setTarget_neverSent p type position time)
  | setNext profile nextProfile delay blendType =>
    cases hr
    exact h.stores hd (Stores.onProfile (.refl _) _ _)
      (h.agrees.onProfile _ (fun p => Marks.setNext p nextProfile delay blendType)
        fun p => setNext_neverSent p nextProfile delay blendType)
  | writePendingChanges profile =>
    obtain ⟨is, his, rfl⟩ := sledProfileWritePendingChanges_ok hr
    refine h.visits his ?_
    rw [hsettled]
    exact hok hd is his
  | execute profile =>
    rcases sledProfileExecute_ok hr with rfl | ⟨i, is, hi, huse, hidle, his, rfl⟩
    · exact h
    · refine h.started his ?_
      rw [hsettled]
      exact hok hd hidle i is hi huse his
  | reset =>
    cases hr
    exact h.stores hd (Stores.setProfiles (.refl _) _) h.agrees.reset

/-- A report of the drive queues commands only. -/
lemma report (h : AgreeInv p) {now : ℚ} {data : Vector UInt8 8}
    (ht : sledStep p.sys.host (tpdoEvent now data) = .ok t) : AgreeInv (p.withHost t) := by
  rw [sledStep_tpdoEvent] at ht
  split at ht
  · cases ht
    exact h.reacts (moves_tpdo (intfOnTpdo_one now data _))
  · cases ht
    exact h

/-- A request reaches the drive. -/
lemma received (h : AgreeInv p) {r : Sdo sledClient} {rest : List (Sdo sledClient)}
    (hr : p.sys.toDrive = r :: rest) : AgreeInv (p.received Drive.apply r) := by
  refine ⟨h.sane.received hr, ?_, h.answerable⟩
  rw [Plant.settled_receive hr]
  exact h.agrees

/-- A confirmation reaches the host. -/
lemma deliver (h : AgreeInv p) {msg : CanMessage} {rest : List CanMessage}
    (hm : p.sys.toHost = msg :: rest) (hc : Confirmed p.sys.host t) :
    AgreeInv { p with sys := { p.sys with host := t, toHost := rest } } := by
  obtain ⟨hagrees, hans⟩ := h.agrees.confirmed h.answerable hc
  refine ⟨h.sane.deliver hm hc, ?_, hans⟩
  rw [Plant.settled_deliver hc]
  exact hagrees

/-- Every step keeps the invariant. -/
lemma step (h : AgreeInv p) {e : TaskEvent} {p' : Plant Drive} (hok : ScratchOk p e)
    (hstep : taskStep p e = .ok p') : AgreeInv p' := by
  cases e with
  | call c =>
    simp only [taskStep] at hstep
    split at hstep
    case isTrue hd =>
      cases plantStep_effect h.sane hstep with
      | idle => exact h
      | host _ ht =>
        obtain ⟨r, hr, ht⟩ := bind_eq_ok.mp ht
        cases ht
        exact h.call hd hok hr
    case isFalse =>
      cases hstep
      exact h
  | report now data =>
    have heff : PlantEffect Drive.apply p (.host (tpdoEvent now data)) p' :=
      plantStep_effect h.sane hstep
    cases heff with
    | idle => exact h
    | host _ ht => exact h.report ht
  | receive =>
    have heff : PlantEffect Drive.apply p .receive p' := plantStep_effect h.sane hstep
    cases heff with
    | idle => exact h
    | receive hr => exact h.received hr
  | deliver now =>
    have heff : PlantEffect Drive.apply p (.deliver now) p' := plantStep_effect h.sane hstep
    cases heff with
    | idle => exact h
    | deliver hm hc => exact h.deliver hm hc

end AgreeInv

/-! ## Runs -/

/-- A plant in which no profile has been written yet, as after `sled_create`.  Nothing is said about
`current_profile` or about the motion tasks of the drive. -/
structure Untouched (p : Plant Drive) : Prop where
  drained : p.drained = true
  received : p.sys.received = p.sys.host.sent.length
  numbered : p.sys.host.env.Numbered
  changed : ∀ i f, (p.sys.host.env.profiles i).fieldState f = .changed

lemma Untouched.agreeInv {p : Plant Drive} (h : Untouched p) : AgreeInv p := by
  obtain ⟨hq, hactive⟩ := AgreeInv.idle_of_drained h.drained
  refine ⟨⟨?_, fun m hm => ?_⟩, ?_, Awaits.of_idle hq hactive⟩
  · rw [h.received]
    exact Host.sent_length_le
  · have hempty := h.drained
    simp only [Plant.drained, Bool.and_eq_true, List.isEmpty_iff] at hempty
    simp [hempty.2] at hm
  · exact ⟨h.numbered, fun i _ => h.changed i, fun i _ f hc => absurd (h.changed i f) hc⟩

/-- **Host and drive agree on every motion task**, as long as task 0 holds what the host takes it to
hold whenever it is about to write.  For every initial value of `current_profile`, every initial
table of the drive and every sequence of calls, each made once everything before it has been
applied and confirmed: a profile that has been sent and has no changed field is in its motion task
of the drive, in all eight fields. -/
theorem motion_tasks_agree {p q : Plant Drive} (hp : Untouched p) {es : List TaskEvent}
    (hg : Guarded taskStep ScratchOk p es) (hrun : run taskStep p es = .ok q)
    (hd : q.drained = true) (i : Fin MAX_PROFILES)
    (huse : (q.sys.host.env.profiles i).inUse = true ∧
      (q.sys.host.env.profiles i).neverSent = false)
    (hsaved : ∀ f, (q.sys.host.env.profiles i).fieldState f ≠ .changed) (f : Field) :
    q.sys.host.env.present? i f =
      some (q.drive.tasks (q.sys.host.env.profiles i).profile.toNat f) := by
  have hinv : AgreeInv q :=
    Guarded.invariant (fun _ _ _ hs hok hstep => hs.step hok hstep) hp.agreeInv hg hrun
  have hagrees := hinv.agrees
  rw [Plant.settled_of_drained hd] at hagrees
  rw [hagrees.numbered i, Int.toNat_natCast]
  exact hagrees.agree i huse.2 f (hsaved f)

instance : ∀ (p : Plant Drive) (e : TaskEvent), Decidable (ScratchOk p e)
  | _, .call (.writePendingChanges _) => inferInstanceAs (Decidable (_ → _))
  | p, .call (.execute profile) =>
    decidable_of_iff (p.drained = true → p.sys.host.env.mchMp = .ppIdle →
      (∃ i, profileIndex? profile = some i ∧ (p.sys.host.env.profiles i).inUse = true) →
        ∀ is, writes p.sys.host.env profile = .ok is →
          ScratchValid (fun _ => True) p.drive.tasks p.sys.host.env is) (by
      simp only [ScratchOk]
      constructor
      · exact fun h hd hidle i is hi huse his => h hd hidle ⟨i, hi, huse⟩ is his
      · exact fun h hd hidle ⟨i, hi, huse⟩ is his => h hd hidle i is hi huse his)
  | _, .call .create => isTrue trivial
  | _, .call (.setTable _ _) => isTrue trivial
  | _, .call (.setTarget _ _ _ _) => isTrue trivial
  | _, .call (.setNext _ _ _ _) => isTrue trivial
  | _, .call .reset => isTrue trivial
  | _, .report _ _ => isTrue trivial
  | _, .receive => isTrue trivial
  | _, .deliver _ => isTrue trivial

instance (p : Plant Drive) : Decidable (Untouched p) :=
  decidable_of_iff (p.drained = true ∧ p.sys.received = p.sys.host.sent.length ∧
      (∀ i, (p.sys.host.env.profiles i).profile = (slot i : ℕ)) ∧
      ∀ i f, (p.sys.host.env.profiles i).fieldState f = .changed)
    ⟨fun h => ⟨h.1, h.2.1, h.2.2.1, h.2.2.2⟩, fun h => ⟨h.1, h.2, h.3, h.4⟩⟩

/-- The host with a drive whose motion tasks are all empty, and with nothing on its way. -/
def emptyDrive (s : Sled) : Plant Drive := ⟨⟨s, s.sent.length, []⟩, ⟨fun _ _ => 0, none⟩⟩

/-- The next `n` requests are applied and confirmed. -/
def applied (n : ℕ) : List TaskEvent :=
  (List.replicate n [TaskEvent.receive, TaskEvent.deliver 0]).flatten

/-- A profile is created and written, and then given another table and written again. -/
def writtenTwice : List TaskEvent :=
  [.call .create, .call (.writePendingChanges 4)] ++ applied 9 ++
    [.call (.setTable 4 0), .call (.writePendingChanges 4)] ++ applied 3

/-- The target of the second of two profiles ends up in the motion task of the first. -/
def leftOver : List TaskEvent :=
  writtenTwice ++ [.call .create, .call (.setTarget 5 .posAbsolute (1 / 10) 1),
    .call (.writePendingChanges 5)] ++ applied 9 ++
    [.call (.setTable 4 1), .call (.writePendingChanges 4)] ++ applied 2

/-- Two writes of one profile. -/
theorem motion_tasks_agree_written_twice :
    ∃ s q, sledRun someMemory 0 ⟨.success, true⟩ (networkUp ++ driveUp) = .ok s ∧
      Untouched (emptyDrive s) ∧ Guarded taskStep ScratchOk (emptyDrive s) writtenTwice ∧
      run taskStep (emptyDrive s) writtenTwice = .ok q ∧
      ∀ f, q.sys.host.env.present? 4 f = some (q.drive.tasks 205 f) := by
  obtain ⟨s, hs, h⟩ := exists_of_okAnd
    (p := fun s : Sled => decide (Untouched (emptyDrive s)) &&
      decide (Guarded taskStep ScratchOk (emptyDrive s) writtenTwice) &&
      okAnd (fun q : Plant Drive => q.drained && (q.sys.host.env.profiles 4).inUse &&
          !(q.sys.host.env.profiles 4).neverSent &&
          decide ((q.sys.host.env.profiles 4).profile = 205) &&
          decide (∀ f, (q.sys.host.env.profiles 4).fieldState f ≠ .changed))
        (run taskStep (emptyDrive s) writtenTwice))
    (x := sledRun someMemory 0 ⟨.success, true⟩ (networkUp ++ driveUp)) (by decide +kernel)
  simp only [Bool.and_eq_true, decide_eq_true_eq] at h
  obtain ⟨⟨hstart, hg⟩, hend⟩ := h
  obtain ⟨q, hq, hend⟩ := exists_of_okAnd hend
  simp only [Bool.and_eq_true, decide_eq_true_eq, Bool.not_eq_true'] at hend
  obtain ⟨⟨⟨⟨hd, huse⟩, hsent⟩, hnumber⟩, hsaved⟩ := hend
  refine ⟨s, q, hs, hstart, hg, hq, fun f => ?_⟩
  have hagree := motion_tasks_agree hstart hg hq hd 4 ⟨huse, hsent⟩ hsaved f
  rwa [hnumber] at hagree

/-- A profile is written while task 0 holds it, as `current_profile` says.  Then another profile is
written for the first time, which fills task 0 but leaves `current_profile` as it is.  When the
first profile is written again, it is not loaded, and its motion task gets the target of the
other. -/
theorem motion_task_holds_left_over_field :
    ∃ s q, sledRun someMemory 0 ⟨.success, true⟩ (networkUp ++ driveUp) = .ok s ∧
      Untouched (emptyDrive s) ∧ run taskStep (emptyDrive s) leftOver = .ok q ∧
      q.drained = true ∧ (q.sys.host.env.profiles 4).inUse = true ∧
      (q.sys.host.env.profiles 4).neverSent = false ∧
      (∀ f, (q.sys.host.env.profiles 4).fieldState f ≠ .changed) ∧
      (q.sys.host.env.profiles 4).profile = 205 ∧
      q.sys.host.env.present? 4 .p = some 0 ∧ q.drive.tasks 205 .p = 100000 := by
  obtain ⟨s, hs, h⟩ := exists_of_okAnd
    (p := fun s : Sled => decide (Untouched (emptyDrive s)) &&
      okAnd (fun q : Plant Drive => decide (q.drained = true ∧
          (q.sys.host.env.profiles 4).inUse = true ∧
          (q.sys.host.env.profiles 4).neverSent = false ∧
          (∀ f, (q.sys.host.env.profiles 4).fieldState f ≠ .changed) ∧
          (q.sys.host.env.profiles 4).profile = 205 ∧
          q.sys.host.env.present? 4 .p = some 0 ∧ q.drive.tasks 205 .p = 100000))
        (run taskStep (emptyDrive s) leftOver))
    (x := sledRun someMemory 0 ⟨.success, true⟩ (networkUp ++ driveUp)) (by decide +kernel)
  rw [Bool.and_eq_true, decide_eq_true_eq] at h
  obtain ⟨q, hq, hend⟩ := exists_of_okAnd h.2
  exact ⟨s, q, hs, h.1, hq, of_decide_eq_true hend⟩

end SledServer
