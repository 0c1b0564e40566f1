import SledServer.Sled.Steering

/-!
# What the drive has reported since it was enabled

The drive machine reaches `ST_DS_OPERATION_ENABLED` by a report of the drive only, and from there
the motion machine asks for homing before it takes set-points: `homed_before_motion` finds the
reports that it has waited for among those since the drive machine was last enabled.

The drive machine leaves that state on a fault and on the loss of voltage, and on nothing else, so
it takes a drive that reports another state for an enabled one: `enabled_as_reported_iff`.
-/

namespace SledServer

open SledServer.Core

/-! ## The drive machine in a report -/

/-- The events that an enabled drive machine reacts to. -/
def MchDsEvent.Disables (event : MchDsEvent) : Prop :=
  event = .netInoperational ∨ event = .fault ∨ event = .faultReactionActive ∨
    event = .voltageDisabled

/-- How the drive machine comes to be enabled, and stays so. -/
lemma mchDsNext_enabled (d : MchDsState) (event : MchDsEvent) :
    mchDsNextStateGivenEvent d event = .operationEnabled ↔
      (d = .operationEnabled ∧ ¬ event.Disables) ∨
        (d = .enableOperation ∧ event = .operationEnabled) := by
  unfold MchDsEvent.Disables
  cases d <;> cases event <;> decide

/-- The state of the drive machine after some events. -/
def dsAfter (d : MchDsState) (events : List MchDsEvent) : MchDsState :=
  events.foldl mchDsNextStateGivenEvent d

@[simp] lemma dsAfter_nil (d : MchDsState) : dsAfter d [] = d := rfl

@[simp] lemma dsAfter_cons (d : MchDsState) (event : MchDsEvent) (events : List MchDsEvent) :
    dsAfter d (event :: events) = dsAfter (mchDsNextStateGivenEvent d event) events := rfl

lemma dsAfter_append (d : MchDsState) (events events' : List MchDsEvent) :
    dsAfter d (events ++ events') = dsAfter (dsAfter d events) events' := List.foldl_append

/-- Without the event of that name, the drive machine can only stay enabled. -/
lemma dsAfter_enabled {events : List MchDsEvent} (h : .operationEnabled ∉ events)
    (d : MchDsState) :
    dsAfter d events = .operationEnabled ↔
      d = .operationEnabled ∧ ∀ event ∈ events, ¬ event.Disables := by
  induction events generalizing d with
  | nil => simp
  | cons event events ih =>
    rw [List.mem_cons, not_or] at h
    rw [dsAfter_cons, ih h.2, mchDsNext_enabled]
    simp [Ne.symm h.1, and_assoc]

/-- Events that an enabled drive machine does not react to leave it enabled. -/
lemma dsAfter_of_kept {events : List MchDsEvent} (h : ∀ event ∈ events, ¬ event.Disables) :
    dsAfter .operationEnabled events = .operationEnabled := by
  induction events with
  | nil => rfl
  | cons event events ih =>
    have hnext : mchDsNextStateGivenEvent .operationEnabled event = .operationEnabled :=
      (mchDsNext_enabled _ _).mpr (.inl ⟨rfl, h event List.mem_cons_self⟩)
    rw [dsAfter_cons, hnext]
    exact ih fun event he => h event (List.mem_cons_of_mem _ he)

/-- The events of a report up to the one that enables the drive machine. -/
def enablingEvents (status : UInt16) : List MchDsEvent :=
  (if status &&& 0x4F = 0x40 then [.notReadyToSwitchOn] else []) ++
  (if status &&& 0x6F = 0x21 then [.readyToSwitchOn] else []) ++
  (if status &&& 0x6F = 0x23 then [.switchedOn] else []) ++
  (if status &&& 0x6F = 0x27 then [.operationEnabled] else [])

/-- The events of a report after that one. -/
def laterEvents (status : UInt16) : List MchDsEvent :=
  (if status &&& 0x4F = 0x08 then [.fault] else []) ++
  (if status &&& 0x4F = 0x0F then [.faultReactionActive] else []) ++
  (if status &&& 0x6F = 0x07 then [.quickStopActive] else []) ++
  [if status &&& 0x10 = 0x10 then .voltageEnabled else .voltageDisabled]

lemma dsEvents_eq (status : UInt16) :
    dsEvents status = enablingEvents status ++ laterEvents status := by
  simp only [dsEvents, enablingEvents, laterEvents, List.append_assoc]

lemma mem_enablingEvents {status : UInt16} {event : MchDsEvent}
    (h : event ∈ enablingEvents status) : ¬ event.Disables := by
  unfold enablingEvents at h
  rintro (rfl | rfl | rfl | rfl) <;> split_ifs at h <;> simp at h

lemma operationEnabled_notMem_laterEvents (status : UInt16) :
    .operationEnabled ∉ laterEvents status := by
  unfold laterEvents
  split_ifs <;> simp

/-- An enabled drive machine stays enabled exactly in the reports that raise nothing it
reacts to. -/
lemma dsAfter_dsEvents (status : UInt16) :
    dsAfter .operationEnabled (dsEvents status) = .operationEnabled ↔
      ∀ event ∈ dsEvents status, ¬ event.Disables := by
  have hfront : dsAfter .operationEnabled (enablingEvents status) = .operationEnabled :=
    dsAfter_of_kept fun event => mem_enablingEvents
  rw [dsEvents_eq, dsAfter_append, hfront,
    dsAfter_enabled (operationEnabled_notMem_laterEvents status)]
  simp only [true_and, List.mem_append]
  constructor
  · rintro h event (he | he)
    · exact mem_enablingEvents he
    · exact h event he
  · intro h event he
    exact h event (.inr he)

lemma dsEvents_kept_iff (status : UInt16) :
    (∀ event ∈ dsEvents status, ¬ event.Disables) ↔
      status &&& 0x4F ≠ 0x08 ∧ status &&& 0x4F ≠ 0x0F ∧ status &&& 0x10 = 0x10 := by
  constructor
  · intro h
    refine ⟨fun hf => ?_, fun hf => ?_, ?_⟩
    · exact h .fault (by simp [dsEvents, hf]) (.inr (.inl rfl))
    · exact h .faultReactionActive (by simp [dsEvents, hf]) (.inr (.inr (.inl rfl)))
    · by_contra hv
      exact h .voltageDisabled (by simp [dsEvents, hv]) (.inr (.inr (.inr rfl)))
  · rintro ⟨hfault, hreaction, hvoltage⟩ event he hdisables
    obtain rfl | rfl | rfl | rfl := hdisables
    · exact (dsEvents_external status he).2 rfl
    · unfold dsEvents at he
      rw [if_neg hfault] at he
      split_ifs at he <;> simp at he
    · unfold dsEvents at he
      rw [if_neg hreaction] at he
      split_ifs at he <;> simp at he
    · unfold dsEvents at he
      rw [if_pos hvoltage] at he
      split_ifs at he <;> simp at he

/-- The drive machine comes to be enabled in a report of the enabled state only. -/
lemma dsAfter_dsEvents_of_ne {status : UInt16} (h : status &&& 0x6F ≠ 0x27) (d : MchDsState) :
    dsAfter d (dsEvents status) = .operationEnabled ↔
      d = .operationEnabled ∧ ∀ event ∈ dsEvents status, ¬ event.Disables := by
  refine dsAfter_enabled (fun he => ?_) d
  unfold dsEvents at he
  rw [if_neg h] at he
  split_ifs at he <;> simp at he

section Report

variable (s : Sled)

@[simp] lemma mchDs_dsMove (event : MchDsEvent) :
    (s.dsMove event).env.mchDs = mchDsNextStateGivenEvent s.env.mchDs event := by
  by_cases h : mchDsNextStateGivenEvent s.env.mchDs event = s.env.mchDs
  · simp [Host.dsMove, h]
  · rw [dsMove_env_of_ne s event h]

/-- The events of the drive machine, one after the other. -/
def Host.dsMoves (events : List MchDsEvent) (s : Sled) : Sled :=
  events.foldl (fun s event => s.dsMove event) s

/-- The events of the motion machine, one after the other. -/
def Host.mpMoves (events : List MchMpEvent) (s : Sled) : Sled :=
  events.foldl (fun s event => s.mpMove event) s

lemma tpdo_eq (status : UInt16) (mode : UInt8) :
    s.tpdo status mode = (s.dsMoves (dsEvents status)).mpMoves (mpEvents status mode) := rfl

lemma mchDs_dsMoves (events : List MchDsEvent) :
    (s.dsMoves events).env.mchDs = dsAfter s.env.mchDs events := by
  induction events generalizing s with
  | nil => rfl
  | cons event events ih => rw [dsAfter_cons, ← mchDs_dsMove, ← ih (s.dsMove event)]; rfl

/-- The state of the motion machine after some events. -/
def mpAfterEvents (m : MchMpState) (events : List MchMpEvent) : MchMpState :=
  events.foldl mchMpNextStateGivenEvent m

lemma mpMoves_env (events : List MchMpEvent) :
    (s.mpMoves events).env = { s.env with mchMp := mpAfterEvents s.env.mchMp events } := by
  induction events generalizing s with
  | nil => rfl
  | cons event events ih =>
    have hstep := ih (s.mpMove event)
    rw [mpMove_env] at hstep
    exact hstep

lemma dsLines_mpMoves (events : List MchMpEvent) : (s.mpMoves events).dsLines = s.dsLines := by
  induction events generalizing s with
  | nil => rfl
  | cons event events ih => exact (ih (s.mpMove event)).trans (Host.dsLines_mpMove event)

lemma mchDs_tpdo (status : UInt16) (mode : UInt8) :
    (s.tpdo status mode).env.mchDs = dsAfter s.env.mchDs (dsEvents status) := by
  rw [tpdo_eq, mpMoves_env, mchDs_dsMoves]

variable {s}

lemma dsMoves_of_kept {events : List MchDsEvent} (hds : s.env.mchDs = .operationEnabled)
    (h : ∀ event ∈ events, ¬ event.Disables) : s.dsMoves events = s := by
  induction events with
  | nil => rfl
  | cons event events ih =>
    have hnext := (mchDsNext_enabled s.env.mchDs event).mpr
      (.inl ⟨hds, h event List.mem_cons_self⟩)
    have hstay : s.dsMove event = s := dsMove_of_stay (hnext.trans hds.symm)
    have htail := ih fun event he => h event (List.mem_cons_of_mem _ he)
    rw [Host.dsMoves, List.foldl_cons, hstay]
    exact htail

/-- The motion machine of a drive machine that has just been enabled. -/
lemma dsMoves_entered {events : List MchDsEvent}
    (hmp : s.env.mchMp ≠ .disabled ↔ s.env.mchDs = .operationEnabled)
    (hds : s.env.mchDs ≠ .operationEnabled)
    (h : (s.dsMoves events).env.mchDs = .operationEnabled) :
    (s.dsMoves events).env.mchMp = .switchModeHoming := by
  have hinv : ((s.dsMoves events).env.mchMp ≠ .disabled ↔
      (s.dsMoves events).env.mchDs = .operationEnabled) ∧
      ((s.dsMoves events).env.mchDs = .operationEnabled →
        (s.dsMoves events).env.mchMp = .switchModeHoming) := by
    refine foldl_keeps (P := fun t : Sled => (t.env.mchMp ≠ .disabled ↔
      t.env.mchDs = .operationEnabled) ∧ (t.env.mchDs = .operationEnabled →
        t.env.mchMp = .switchModeHoming)) ⟨hmp, fun hon => absurd hon hds⟩ ?_
    rintro t event - ⟨hcoupled, hhoming⟩
    by_cases hne : mchDsNextStateGivenEvent t.env.mchDs event = t.env.mchDs
    · rw [dsMove_of_stay hne]
      exact ⟨hcoupled, hhoming⟩
    · have henv := dsMove_env_of_ne t event hne
      rw [henv]
      refine ⟨mpAfter_coupled hne hcoupled, fun hon => ?_⟩
      have hoff : t.env.mchDs ≠ .operationEnabled := fun hds => hne (hon.trans hds.symm)
      have hmp : t.env.mchMp = .disabled := by
        by_contra hm
        exact hoff (hcoupled.mp hm)
      have hstart : mchMpNextStateGivenEvent .disabled .dsOperational = .switchModeHoming := by
        decide
      simp only at hon
      simp [mpAfter, hoff, hon, hmp, hstart]
  exact hinv.2 h

end Report

/-! ## The motion machine in a report -/

/-- The states in which the motion machine takes set-points, or waits for one to be answered. -/
def MchMpState.Positions (m : MchMpState) : Prop := m = .ppIdle ∨ m = .ppSpNack ∨ m = .ppSpAck

lemma mchMpNext_switchModePp (m : MchMpState) (event : MchMpEvent)
    (h : mchMpNextStateGivenEvent m event = .switchModePp) :
    m = .switchModePp ∨ event = .homed := by
  revert h
  cases m <;> cases event <;> decide

lemma mchMpNext_positions (m : MchMpState) (event : MchMpEvent)
    (h : (mchMpNextStateGivenEvent m event).Positions) :
    m.Positions ∨ (m = .switchModePp ∧ event = .modePp) := by
  revert h
  unfold MchMpState.Positions
  cases m <;> cases event <;> decide

lemma mpAfterEvents_switchModePp {m : MchMpState} {events : List MchMpEvent}
    (h : mpAfterEvents m events = .switchModePp) : m = .switchModePp ∨ .homed ∈ events := by
  induction events generalizing m with
  | nil => exact .inl h
  | cons event events ih =>
    obtain hnext | hmem := ih h
    · obtain hm | rfl := mchMpNext_switchModePp m event hnext
      · exact .inl hm
      · exact .inr List.mem_cons_self
    · exact .inr (List.mem_cons_of_mem _ hmem)

lemma mpAfterEvents_positions {m : MchMpState} {events : List MchMpEvent}
    (h : (mpAfterEvents m events).Positions) :
    m.Positions ∨ (.modePp ∈ events ∧ (m = .switchModePp ∨ .homed ∈ events)) := by
  induction events generalizing m with
  | nil => exact .inl h
  | cons event events ih =>
    obtain hnext | ⟨hmode, hnext⟩ := ih h
    · obtain hm | ⟨hm, rfl⟩ := mchMpNext_positions m event hnext
      · exact .inl hm
      · exact .inr ⟨List.mem_cons_self, .inl hm⟩
    · refine .inr ⟨List.mem_cons_of_mem _ hmode, ?_⟩
      obtain hnext | hmem := hnext
      · obtain hm | rfl := mchMpNext_switchModePp m event hnext
        · exact .inl hm
        · exact .inr List.mem_cons_self
      · exact .inr (List.mem_cons_of_mem _ hmem)

lemma homed_mem_mpEvents {status : UInt16} {mode : UInt8} (h : .homed ∈ mpEvents status mode) :
    mode = 0x06 ∧ status &&& 0x1000 = 0x1000 := by
  unfold mpEvents at h
  split_ifs at h <;> simp_all

lemma modePp_mem_mpEvents {status : UInt16} {mode : UInt8} (h : .modePp ∈ mpEvents status mode) :
    mode = 0x01 := by
  unfold mpEvents at h
  split_ifs at h <;> simp_all

/-! ## Reports since the drive was enabled -/

/-- Among the reports, each a status word and a mode, is one of a homed drive in the homing mode. -/
def ReportsHomed (rs : List (UInt16 × UInt8)) : Prop :=
  ∃ r ∈ rs, r.2 = 0x06 ∧ r.1 &&& 0x1000 = 0x1000

/-- Among the reports is one of a homed drive in the homing mode, and after it one in the
positioning mode. -/
def ReportsReady (rs : List (UInt16 × UInt8)) : Prop :=
  ∃ before r after, rs = before ++ r :: after ∧ r.2 = 0x01 ∧ ReportsHomed before

/-- The motion machine is not ahead of the reports since the drive was enabled. -/
structure Follows (rs : List (UInt16 × UInt8)) (m : MchMpState) : Prop where
  homed : m = .switchModePp → ReportsHomed rs
  ready : m.Positions → ReportsReady rs

namespace Follows

variable {rs : List (UInt16 × UInt8)} {m : MchMpState}

lemma init : Follows [] .switchModeHoming := ⟨by simp, by simp [MchMpState.Positions]⟩

lemma report (h : Follows rs m) (status : UInt16) (mode : UInt8) :
    Follows (rs ++ [(status, mode)]) (mpAfterEvents m (mpEvents status mode)) := by
  constructor
  · intro hpp
    obtain hm | hhomed := mpAfterEvents_switchModePp hpp
    · obtain ⟨r, hr, hhomed⟩ := h.homed hm
      exact ⟨r, List.mem_append_left _ hr, hhomed⟩
    · exact ⟨(status, mode), by simp, homed_mem_mpEvents hhomed⟩
  · intro hpos
    obtain hm | ⟨hmode, hm⟩ := mpAfterEvents_positions hpos
    · obtain ⟨before, r, after, rfl, hr, hhomed⟩ := h.ready hm
      exact ⟨before, r, after ++ [(status, mode)], by simp, hr, hhomed⟩
    · have hone := modePp_mem_mpEvents hmode
      obtain hm | hhomed := hm
      · exact ⟨rs, (status, mode), [], rfl, hone, h.homed hm⟩
      · -- One report has one mode.
        have hsix := (homed_mem_mpEvents hhomed).1
        rw [hone] at hsix
        cases hsix

lemma positions {m' : MchMpState} (h : Follows rs m) (hm : m.Positions) (hm' : m'.Positions) :
    Follows rs m' := by
  refine ⟨?_, fun _ => h.ready hm⟩
  rintro rfl
  obtain h | h | h := hm' <;> cases h

end Follows

/-- What a step other than a report leaves of an enabled drive machine. -/
lemma Steers.enabled {s t : Sled} (h : Steers s t) (hds : t.env.mchDs = .operationEnabled) :
    s.env.mchDs = .operationEnabled ∧ t.dsLines = s.dsLines ∧
      (t.env.mchMp = s.env.mchMp ∨ (s.env.mchMp.Positions ∧ t.env.mchMp.Positions)) := by
  induction h with
  | refl => exact ⟨hds, rfl, .inl rfl⟩
  | steady _ hsame ih =>
    obtain ⟨hs, hlines, hmp⟩ := ih (hsame.ds ▸ hds)
    refine ⟨hs, hsame.lines.trans hlines, ?_⟩
    rwa [hsame.mp]
  | @ds t event _ he ih =>
    rw [mchDs_dsMove, mchDsNext_enabled] at hds
    obtain ⟨ht, hkept⟩ | ⟨-, rfl⟩ := hds
    · have hstay : t.dsMove event = t := by
        refine dsMove_of_stay (Eq.trans ?_ ht.symm)
        exact (mchDsNext_enabled _ _).mpr (.inl ⟨ht, hkept⟩)
      rw [hstay]
      exact ih ht
    · cases he <;> contradiction
  | @launch t i _ hidle ih =>
    obtain ⟨hs, hlines, hmp⟩ := ih (by simpa using hds)
    have hnack : (t.launched i).env.mchMp.Positions := .inr (.inl (by simp))
    refine ⟨hs, (Host.dsLines_launched _).trans hlines, .inr ⟨?_, hnack⟩⟩
    obtain hmp | ⟨hmp, -⟩ := hmp
    · exact .inl (hmp ▸ hidle)
    · exact hmp

/-- The reports that a run takes in. -/
abbrev reports (s : Sled) (es : List SledEvent) : List (UInt16 × UInt8) :=
  observed sledStep (fun s e => e.report? s) s es

/-- The last step that enabled the drive machine, from `t` to `u`, with what came before it and
what has come since. -/
structure SinceEnabled (s₀ : Sled) (pre : List SledEvent) (t : Sled) (e : SledEvent) (u : Sled)
    (post : List SledEvent) (s : Sled) : Prop where
  before : run sledStep s₀ pre = .ok t
  off : t.env.mchDs ≠ .operationEnabled
  enables : sledStep t e = .ok u
  on : u.env.mchDs = .operationEnabled
  since : run sledStep u post = .ok s
  /-- The drive machine has made no transition since. -/
  unmoved : s.dsLines = u.dsLines

namespace SinceEnabled

variable {s₀ s t u : Sled} {pre post : List SledEvent} {e : SledEvent}

lemma run_cons (h : SinceEnabled s₀ pre t e u post s) : run sledStep t (e :: post) = .ok s :=
  run_cons_ok.mpr ⟨u, h.enables, h.since⟩

lemma extend {s' : Sled} {f : SledEvent} (h : SinceEnabled s₀ pre t e u post s)
    (hstep : sledStep s f = .ok s') (hlines : s'.dsLines = s.dsLines) :
    SinceEnabled s₀ pre t e u (post ++ [f]) s' := by
  refine ⟨h.before, h.off, h.enables, h.on, ?_, hlines.trans h.unmoved⟩
  exact run_append_ok.mpr ⟨s, h.since, run_cons_ok.mpr ⟨s', hstep, rfl⟩⟩

end SinceEnabled

/-- A step that leaves the drive machine enabled. -/
lemma step_enabled {s s' : Sled} {e : SledEvent}
    (hmp : s.env.mchMp ≠ .disabled ↔ s.env.mchDs = .operationEnabled)
    (hstep : sledStep s e = .ok s') (hds : s'.env.mchDs = .operationEnabled) :
    (s.env.mchDs ≠ .operationEnabled ∧ Follows (e.report? s).toList s'.env.mchMp) ∨
    (s.env.mchDs = .operationEnabled ∧ s'.dsLines = s.dsLines ∧
      ∀ rs, Follows rs s.env.mchMp → Follows (rs ++ (e.report? s).toList) s'.env.mchMp) := by
  cases hreport : e.report? s with
  | none =>
    obtain ⟨hs, hlines, hmove⟩ := (steers_of_unreported hreport hstep).enabled hds
    refine .inr ⟨hs, hlines, fun rs h => ?_⟩
    rw [Option.toList_none, List.append_nil]
    obtain hsame | ⟨hpos, hpos'⟩ := hmove
    · rwa [hsame]
    · exact h.positions hpos hpos'
  | some r =>
    obtain ⟨status, mode⟩ := r
    rw [sledStep_of_report hreport] at hstep
    cases hstep
    by_cases hs : s.env.mchDs = .operationEnabled
    · right
      have hkept : ∀ event ∈ dsEvents status, ¬ event.Disables := by
        rw [mchDs_tpdo, hs] at hds
        exact (dsAfter_dsEvents status).mp hds
      have hsame : s.tpdo status mode = s.mpMoves (mpEvents status mode) := by
        rw [tpdo_eq, dsMoves_of_kept hs hkept]
      rw [hsame]
      refine ⟨hs, dsLines_mpMoves s _, fun rs h => ?_⟩
      rw [mpMoves_env]
      exact h.report status mode
    · left
      refine ⟨hs, ?_⟩
      have hon : (s.dsMoves (dsEvents status)).env.mchDs = .operationEnabled := by
        rwa [tpdo_eq, mpMoves_env] at hds
      rw [tpdo_eq, mpMoves_env, dsMoves_entered hmp hs hon]
      exact Follows.init.report status mode

/-- Whenever the drive machine is enabled, a step of the run has enabled it, and the motion machine
is not ahead of the reports since then. -/
lemma exists_sinceEnabled {s₀ : Sled} (hinv : CoupledInv s₀)
    (hoff : s₀.env.mchDs ≠ .operationEnabled) (es : List SledEvent) :
    ∀ s, run sledStep s₀ es = .ok s → s.env.mchDs = .operationEnabled →
      ∃ pre t e u post, es = pre ++ e :: post ∧ SinceEnabled s₀ pre t e u post s ∧
        Follows (reports t (e :: post)) s.env.mchMp := by
  induction es using List.reverseRecOn with
  | nil =>
    rintro s ⟨⟩ hds
    exact absurd hds hoff
  | append_singleton es f ih =>
    intro s' hrun hds
    obtain ⟨s, hs, hlast⟩ := run_append_ok.mp hrun
    obtain ⟨s'', hstep, h⟩ := run_cons_ok.mp hlast
    cases h
    have hmp : s.env.mchMp ≠ .disabled ↔ s.env.mchDs = .operationEnabled :=
      (run_invariant (fun _ _ _ hs hstep => hs.step hstep) hinv hs).linked.mp_ds
    by_cases hbefore : s.env.mchDs = .operationEnabled
    · obtain ⟨pre, t, e, u, post, rfl, hsince, hfollows⟩ := ih s hs hbefore
      obtain ⟨hno, -⟩ | ⟨-, hlines, hkeeps⟩ := step_enabled hmp hstep hds
      · exact absurd hbefore hno
      · refine ⟨pre, t, e, u, post ++ [f], by simp, hsince.extend hstep hlines, ?_⟩
        have hobs : reports t (e :: post ++ [f]) = reports t (e :: post) ++ (f.report? s).toList :=
          observed_concat hsince.run_cons
        rw [← List.cons_append, hobs]
        exact hkeeps _ hfollows
    · obtain ⟨-, hfollows⟩ | ⟨hyes, -⟩ := step_enabled hmp hstep hds
      · refine ⟨es, s, f, s', [], rfl, ⟨hs, hbefore, hstep, hds, rfl, rfl⟩, ?_⟩
        rwa [reports, observed_singleton]
      · exact absurd hyes hbefore

lemma not_enabled_sledCreate {mem : SledEnv} {now : ℚ} {o : CanOutcome} {s : Sled}
    (h : sledCreate mem now o = .ok s) : s.env.mchDs ≠ .operationEnabled := by
  obtain ⟨hl, hn⟩ := sledCreate_linked h
  have hnet : s.env.mchNet ≠ .operational := by
    obtain ⟨hn, -⟩ | ⟨hn, -⟩ := hn <;> simp [hn]
  intro hds
  exact hnet (hl.ds_net.mp (by simp [hds]))

/-- **No motion before homing.**  When a profile is executed, the drive machine has been enabled by
some step of the run and has not moved since; and the drive has since reported, counting the report
of that step, first the homing mode with bit 12 set and later the positioning mode. -/
theorem homed_before_motion {mem : SledEnv} {now : ℚ} {o : CanOutcome} {es : List SledEvent}
    {s s' : Sled} {profile : ℤ} (h : sledRun mem now o es = .ok s)
    (hexecute : sledProfileExecute profile s = .ok (0, s')) :
    ∃ s₀ pre t e u post, sledCreate mem now o = .ok s₀ ∧ es = pre ++ e :: post ∧
      SinceEnabled s₀ pre t e u post s ∧ s.env.mchDs = .operationEnabled ∧
        ReportsReady (reports t (e :: post)) := by
  obtain ⟨s₀, hcreate, hrun⟩ := sledRun_ok.mp h
  have hidle := idle_of_execute hexecute
  obtain ⟨hds, -⟩ := (coupledInv_run h).linked.of_idle hidle
  obtain ⟨pre, t, e, u, post, hes, hsince, hfollows⟩ := exists_sinceEnabled
    (coupledInv_sledCreate hcreate) (not_enabled_sledCreate hcreate) es s hrun hds
  exact ⟨s₀, pre, t, e, u, post, hcreate, hes, hsince, hds, hfollows.ready (.inl hidle)⟩

/-- A profile is executed on a drive that has been brought up. -/
theorem homed_before_motion_up :
    ∃ s s', sledRun someMemory 0 ⟨.success, true⟩ (networkUp ++ driveUp) = .ok s ∧
      sledProfileExecute 0 s = .ok (0, s') ∧
      ∃ s₀ pre t e u post, sledCreate someMemory 0 ⟨.success, true⟩ = .ok s₀ ∧
        networkUp ++ driveUp = pre ++ e :: post ∧ SinceEnabled s₀ pre t e u post s ∧
          s.env.mchDs = .operationEnabled ∧ ReportsReady (reports t (e :: post)) := by
  obtain ⟨s, hs, hok⟩ := exists_of_okAnd
    (p := fun s : Sled => okAnd (fun r : ℤ × Sled => r.1 == 0) (sledProfileExecute 0 s))
    (x := sledRun someMemory 0 ⟨.success, true⟩ (networkUp ++ driveUp)) (by decide +kernel)
  obtain ⟨⟨n, s'⟩, hs', hn⟩ := exists_of_okAnd hok
  obtain rfl : n = 0 := by simpa using hn
  exact ⟨s, s', hs, hs', homed_before_motion hs hs'⟩

/-! ## What an enabled drive machine ignores -/

/-- A report that leaves the drive machine enabled is one of an enabled drive. -/
def Believed (s : Sled) (e : SledEvent) : Prop :=
  ∀ r, e.report? s = some r → ∀ s', sledStep s e = .ok s' →
    s'.env.mchDs = .operationEnabled → r.1 &&& 0x6F = 0x27

/-- What an enabled drive reports is that it is enabled, a fault, or the loss of voltage. -/
def Heeded (s : Sled) (e : SledEvent) : Prop :=
  ∀ r, e.report? s = some r → s.env.mchDs = .operationEnabled →
    r.1 &&& 0x6F = 0x27 ∨ r.1 &&& 0x4F = 0x08 ∨ r.1 &&& 0x4F = 0x0F ∨ r.1 &&& 0x10 ≠ 0x10

lemma believed_iff_heeded (s : Sled) (e : SledEvent) : Believed s e ↔ Heeded s e := by
  refine forall_congr' fun r => forall_congr' fun hr => ?_
  obtain ⟨status, mode⟩ := r
  simp only [sledStep_of_report hr, Except.ok.injEq, forall_eq', mchDs_tpdo]
  by_cases hon : status &&& 0x6F = 0x27
  · simp [hon]
  · rw [dsAfter_dsEvents_of_ne hon, dsEvents_kept_iff]
    simp only [hon, false_or]
    tauto

/-- In a run whose reports are heeded, the last report before an enabled drive machine is one of an
enabled drive. -/
lemma last_report_enabled {s₀ : Sled} (hoff : s₀.env.mchDs ≠ .operationEnabled)
    (es : List SledEvent) : ∀ s, Guarded sledStep Heeded s₀ es → run sledStep s₀ es = .ok s →
      s.env.mchDs = .operationEnabled →
        ∃ r, (reports s₀ es).getLast? = some r ∧ r.1 &&& 0x6F = 0x27 := by
  induction es using List.reverseRecOn with
  | nil =>
    rintro s - ⟨⟩ hds
    exact absurd hds hoff
  | append_singleton es e ih =>
    intro s' hguard hrun hds
    obtain ⟨s, hs, hlast⟩ := run_append_ok.mp hrun
    obtain ⟨s'', hstep, h⟩ := run_cons_ok.mp hlast
    cases h
    have hobs : reports s₀ (es ++ [e]) = reports s₀ es ++ (e.report? s).toList :=
      observed_concat hs
    rw [hobs]
    cases hreport : e.report? s with
    | none =>
      have hbefore := ((steers_of_unreported hreport hstep).enabled hds).1
      rw [Option.toList_none, List.append_nil]
      exact ih s (hguard.of_isPrefix (List.prefix_append es [e])) hs hbefore
    | some r =>
      refine ⟨r, by simp, ?_⟩
      have hheeded : Heeded s e := guarded_iff_forall.mp hguard es e (List.prefix_refl _) s hs
      exact (believed_iff_heeded s e).mpr hheeded r hreport s' hstep hds

/-- **The drive machine is enabled when the drive says so.**  Every report that leaves the drive
machine enabled is one of an enabled drive, exactly when an enabled drive machine is told of
nothing but faults, the loss of voltage and the enabled state; and then a profile is only executed
while the latest report is one of an enabled drive. -/
theorem enabled_as_reported_iff {mem : SledEnv} {now : ℚ} {o : CanOutcome} {s₀ : Sled}
    (hcreate : sledCreate mem now o = .ok s₀) (es : List SledEvent) :
    ((∀ pre e, pre ++ [e] <+: es → ∀ s, run sledStep s₀ pre = .ok s → Believed s e) ↔
      Guarded sledStep Heeded s₀ es) ∧
    (Guarded sledStep Heeded s₀ es → ∀ s profile s', run sledStep s₀ es = .ok s →
      sledProfileExecute profile s = .ok (0, s') →
        ∃ r, (reports s₀ es).getLast? = some r ∧ r.1 &&& 0x6F = 0x27) := by
  constructor
  · rw [guarded_iff_forall]
    simp only [believed_iff_heeded]
  · intro hguard s profile s' hrun hexecute
    have hinv := run_invariant (fun _ _ _ hs hstep => hs.step hstep)
      (coupledInv_sledCreate hcreate) hrun
    obtain ⟨hds, -⟩ := hinv.linked.of_idle (idle_of_execute hexecute)
    exact last_report_enabled (not_enabled_sledCreate hcreate) es s hguard hrun hds

/-- Every report of a drive that comes up and executes a profile is heeded. -/
theorem enabled_as_reported_up :
    ∃ s₀, sledCreate someMemory 0 ⟨.success, true⟩ = .ok s₀ ∧
      ((∀ pre e, pre ++ [e] <+: networkUp ++ driveUp → ∀ s, run sledStep s₀ pre = .ok s →
        Believed s e) ↔ Guarded sledStep Heeded s₀ (networkUp ++ driveUp)) ∧
      (Guarded sledStep Heeded s₀ (networkUp ++ driveUp) → ∀ s profile s',
        run sledStep s₀ (networkUp ++ driveUp) = .ok s →
        sledProfileExecute profile s = .ok (0, s') →
          ∃ r, (reports s₀ (networkUp ++ driveUp)).getLast? = some r ∧ r.1 &&& 0x6F = 0x27) := by
  obtain ⟨s₀, hcreate, -⟩ := exists_of_okAnd (p := fun _ : Sled => true)
    (x := sledCreate someMemory 0 ⟨.success, true⟩) (by decide +kernel)
  exact ⟨s₀, hcreate, enabled_as_reported_iff hcreate _⟩

/-- A drive that has been brought up reports that it is switched on only.  The drive machine stays
enabled, and the next profile is executed. -/
theorem enabled_while_switchedOn :
    ∃ s s' s'', sledRun someMemory 0 ⟨.success, true⟩ (networkUp ++ driveUp) = .ok s ∧
      (frame (tpdo1 0x33 0x01)).report? s = some (0x33, 0x01) ∧
      sledStep s (frame (tpdo1 0x33 0x01)) = .ok s' ∧ s'.env.mchDs = .operationEnabled ∧
      (0x33 : UInt16) &&& 0x6F ≠ 0x27 ∧ sledProfileExecute 0 s' = .ok (0, s'') := by
  obtain ⟨s, hs, h⟩ := exists_of_okAnd
    (p := fun s : Sled => (frame (tpdo1 0x33 0x01)).report? s == some (0x33, 0x01) &&
      okAnd (fun s' : Sled => s'.env.mchDs == .operationEnabled &&
        okAnd (fun r : ℤ × Sled => r.1 == 0) (sledProfileExecute 0 s'))
        (sledStep s (frame (tpdo1 0x33 0x01))))
    (x := sledRun someMemory 0 ⟨.success, true⟩ (networkUp ++ driveUp)) (by decide +kernel)
  rw [Bool.and_eq_true, beq_iff_eq] at h
  obtain ⟨hreport, h⟩ := h
  obtain ⟨s', hs', h⟩ := exists_of_okAnd h
  rw [Bool.and_eq_true, beq_iff_eq] at h
  obtain ⟨hds, h⟩ := h
  obtain ⟨⟨n, s''⟩, hs'', hn⟩ := exists_of_okAnd h
  obtain rfl : n = 0 := by simpa using hn
  exact ⟨s, s', s'', hs, hreport, hs', hds, by decide, hs''⟩

end SledServer
