import SledServer.Drive.Plant
import SledServer.Drive.Recovery
import SledServer.Sled.Enabled

/-!
# Bringing the drive into operation

The way from an operational network to a sled that takes motions: the drive machine follows the
reports of the drive to `ST_DS_OPERATION_ENABLED`, and the motion machine through homing to
`ST_MP_PP_IDLE`.  No state on this way is a dead end: a fault takes the drive machine back to the
start from wherever it is, and so the sled can be brought into operation whenever the network can
(`commissions_iff`).
-/

namespace SledServer

open SledServer.Core

/-! ## The two machines in a report -/

/-- The states of the drive machine and of the motion machine. -/
abbrev Machines : Type := MchDsState × MchMpState

/-- The two machines of the sled. -/
def Host.machines (s : Sled) : Machines := (s.env.mchDs, s.env.mchMp)

/-- The two machines after an event of the drive machine. -/
def dsStep (p : Machines) (event : MchDsEvent) : Machines :=
  let d := mchDsNextStateGivenEvent p.1 event
  (d, if d = p.1 then p.2 else mpAfter p.1 d p.2)

/-- The two machines after a report. -/
def machinesAfter (status : UInt16) (mode : UInt8) (p : Machines) : Machines :=
  let q := (dsEvents status).foldl dsStep p
  (q.1, mpAfterEvents q.2 (mpEvents status mode))

lemma machines_dsMove (s : Sled) (event : MchDsEvent) :
    (s.dsMove event).machines = dsStep s.machines event := by
  by_cases h : mchDsNextStateGivenEvent s.env.mchDs event = s.env.mchDs
  · rw [dsMove_of_stay h]
    simp [Host.machines, dsStep, h]
  · simp [Host.machines, dsStep, h, dsMove_env_of_ne s event h]

lemma machines_dsMoves (s : Sled) (events : List MchDsEvent) :
    (s.dsMoves events).machines = events.foldl dsStep s.machines := by
  induction events generalizing s with
  | nil => rfl
  | cons event events ih =>
    rw [List.foldl_cons, ← machines_dsMove]
    exact ih (s.dsMove event)

lemma machines_tpdo (s : Sled) (status : UInt16) (mode : UInt8) :
    (s.tpdo status mode).machines = machinesAfter status mode s.machines := by
  have hds := machines_dsMoves s (dsEvents status)
  rw [machinesAfter, ← hds, tpdo_eq, Host.machines, mpMoves_env]
  rfl

/-- A fault takes both machines back to where they start. -/
lemma machinesAfter_fault {d : MchDsState} {m : MchMpState} (hd : d ≠ .disabled)
    (h : m ≠ .disabled ↔ d = .operationEnabled) :
    machinesAfter 0x18 0 (d, m) = (.clearingFault, .disabled) := by
  cases d <;> cases m <;> simp at hd h <;> decide

/-! ## What the drive can do -/

/-- What the drive can do for the sled: help the network, or report its state and its mode of
operation. -/
inductive Serves (s : Sled) : SledEvent → Prop
  | helps {e : SledEvent} (h : Helps s e) : Serves s e
  | report (o : CanOutcome) (now : ℚ) (status : ℤ) (word : UInt16) (mode : UInt8) :
      Serves s (.read o now (.message (tpdo1 word mode) status))

/-- The drive can bring the sled to the state in which it executes profiles, and the process
survives it. -/
def Commissions (s : Sled) : Prop :=
  ∃ es t, Guarded sledStep Serves s es ∧ run sledStep s es = .ok t ∧ t.env.mchMp = .ppIdle

lemma Commissions.of_run {s t : Sled} {es : List SledEvent} (hes : Guarded sledStep Serves s es)
    (hrun : run sledStep s es = .ok t) (h : Commissions t) : Commissions s := by
  obtain ⟨es', u, hes', hrun', hu⟩ := h
  refine ⟨es ++ es', u, hes.append fun t' ht' => ?_, run_append_ok.mpr ⟨t, hrun, hrun'⟩, hu⟩
  rw [hrun] at ht'
  cases ht'
  exact hes'

/-- The drive does not make the host close the interface. -/
lemma Serves.closing?_eq {s : Sled} {e : SledEvent} (h : Serves s e) : e.closing? s = none := by
  have hmessage : ∀ (o : CanOutcome) (now : ℚ) (status : ℤ) (msg : CanMessage), msg.type = 0 →
      SledEvent.closing? s (.read o now (.message msg status)) = none := by
    intro o now status msg htype
    simp [SledEvent.closing?, htype]
  cases h with
  | report o now status word mode => exact hmessage _ _ _ _ rfl
  | helps h =>
    cases h with
    | report o now status => exact hmessage _ _ _ _ rfl
    | watchdog => rfl
    | @confirm o now status r _ unused value =>
      refine hmessage _ _ _ _ ?_
      unfold Sdo.response
      cases r.isWrite <;> rfl

namespace Online

variable {s t : Sled}

lemma serves (h : Online s) {e : SledEvent} (he : Serves s e) (hstep : sledStep s e = .ok t) :
    Online t :=
  ⟨h.coupled.step hstep, h.config.step h.coupled.linked hstep,
    h.hears.inside (sledStep_inside he.closing?_eq hstep)⟩

lemma serves_run {es : List SledEvent} (h : Online s) (hes : Guarded sledStep Serves s es)
    (hrun : run sledStep s es = .ok t) : Online t :=
  Guarded.invariant (fun _ _ _ hs he hstep => hs.serves he hstep) h hes hrun

/-- A report is taken. -/
lemma sledStep_tpdo1 (h : Online s) (word : UInt16) (mode : UInt8) :
    ∃ t, sledStep s (frame (tpdo1 word mode)) = .ok t ∧ Online t ∧
      t.machines = machinesAfter (statusWord (tpdo1 word mode).data) mode s.machines := by
  have hstep : sledStep s (frame (tpdo1 word mode)) =
      .ok (s.tpdo (statusWord (tpdo1 word mode).data) mode) := by
    have hevent := sledStep_tpdoEvent 0 (tpdo1 word mode).data s
    rw [h.hears.readEvent, h.hears.fd rfl] at hevent
    exact hevent
  exact ⟨_, hstep, h.serves (.report _ _ _ _ _) hstep, machines_tpdo _ _ _⟩

/-- Some reports, one after the other. -/
lemma reports : ∀ (words : List (UInt16 × UInt8)) {s : Sled}, Online s →
    ∃ es t, Guarded sledStep Serves s es ∧ run sledStep s es = .ok t ∧
      t.machines = words.foldl
        (fun p w => machinesAfter (statusWord (tpdo1 w.1 w.2).data) w.2 p) s.machines
  | [], s, _ => ⟨[], s, trivial, rfl, rfl⟩
  | w :: words, s, h => by
    obtain ⟨t, hstep, ht, hmachines⟩ := h.sledStep_tpdo1 w.1 w.2
    obtain ⟨es, u, hes, hrun, hu⟩ := reports words ht
    refine ⟨frame (tpdo1 w.1 w.2) :: es, u, ⟨.report _ _ _ _ _, fun v hv => ?_⟩,
      run_cons_ok.mpr ⟨t, hstep, hrun⟩, ?_⟩
    · rw [hstep] at hv
      cases hv
      exact hes
    · rw [hu, List.foldl_cons, hmachines]

/-- With the network operational, the drive reports a fault, recovers from it, is switched on and
enabled, has been homed, and takes set-points. -/
lemma commissions_of_operational (h : Online s) (hnet : s.env.mchNet = .operational) :
    Commissions s := by
  obtain ⟨es, t, hes, hrun, ht⟩ :=
    h.reports [(0x18, 0), (0x31, 0), (0x33, 0), (0x37, 0), (0x1037, 6), (0x37, 1)]
  refine ⟨es, t, hes, hrun, ?_⟩
  have hfault : machinesAfter (statusWord (tpdo1 0x18 0).data) 0 s.machines =
      (.clearingFault, .disabled) :=
    machinesAfter_fault (h.coupled.linked.ds_net.mpr hnet) h.coupled.linked.mp_ds
  have hrest : [(0x31, 0), (0x33, 0), (0x37, 0), (0x1037, 6), (0x37, 1)].foldl
      (fun p (w : UInt16 × UInt8) => machinesAfter (statusWord (tpdo1 w.1 w.2).data) w.2 p)
        (.clearingFault, .disabled) = (.operationEnabled, .ppIdle) := by decide +kernel
  rw [List.foldl_cons, hfault, hrest] at ht
  exact congrArg Prod.snd ht

/-- The network either recovers or is lost. -/
lemma recovers_or_lost (h : Online s) (hopen : s.env.mchIntf = .opened) : Recovers s ∨ Lost s := by
  by_cases hf : s.Fatal
  · cases hn : s.env.mchNet with
    | disabled => exact absurd hn (h.coupled.net_intf.mpr hopen)
    | operational => exact .inl ⟨[], s, trivial, rfl, hn⟩
    | stopped => exact .inr ⟨by simp [hn], .inr (.inl hn)⟩
    | uploadconfig => exact absurd hn h.coupled.linked.no_uploadconfig
    | preoperational =>
      obtain ⟨done, cur, rest, hup⟩ := h.config.uploading hn
      exact absurd (.inr hup.state) hf.1
    | unknown | enterpreoperational | startremotenode =>
      exact .inr ⟨by simp [hn], .inr (.inr ⟨hf, by simp [hn]⟩)⟩
  · cases hn : s.env.mchNet with
    | disabled => exact absurd hn (h.coupled.net_intf.mpr hopen)
    | operational => exact .inl ⟨[], s, trivial, rfl, hn⟩
    | stopped => exact .inr ⟨by simp [hn], .inr (.inl hn)⟩
    | uploadconfig => exact absurd hn h.coupled.linked.no_uploadconfig
    | preoperational =>
      obtain ⟨done, cur, rest, hup⟩ := h.config.uploading hn
      exact .inl (recovers_of_upload h hup hn)
    | unknown => exact .inl (h.recovers_of_waiting (.inl hn) hf)
    | enterpreoperational => exact .inl (h.recovers_of_waiting (.inr hn) hf)
    | startremotenode => exact .inl (h.recovers_of_startremotenode hn hf)

end Online

/-! ## Where the drive cannot help -/

/-- On a bus that is not read, only the watchdog does anything, and it starts no motion machine. -/
lemma deaf_step {s t : Sled} {e : SledEvent} (hc : CoupledInv s) (hdeaf : s.intf.readEvent = false)
    (hmp : s.env.mchMp ≠ .ppIdle) (he : Serves s e) (hstep : sledStep s e = .ok t) :
    t.intf.readEvent = false ∧ t.env.mchMp ≠ .ppIdle := by
  have hread : ∀ (o : CanOutcome) (now : ℚ) (r : ReadResult),
      sledStep s (.read o now r) = .ok t → t.intf.readEvent = false ∧ t.env.mchMp ≠ .ppIdle := by
    intro o now r h
    simp only [sledStep, hdeaf, Bool.false_eq_true, if_false, Except.ok.injEq] at h
    exact h ▸ ⟨hdeaf, hmp⟩
  have hwatchdog : ∀ now, sledStep s (.watchdog now) = .ok t →
      t.intf.readEvent = false ∧ t.env.mchMp ≠ .ppIdle := by
    intro now h
    have ht := hc.step h
    have hsame := (sledStep_inside (e := .watchdog now) rfl h).sameDevice.readEvent
    refine ⟨hsame.trans hdeaf, fun hidle => ?_⟩
    have hnet := (ht.linked.of_idle hidle).2
    simp only [sledStep, nmtWatchdog] at h
    split at h
    · have hnext := (mchNetHandleEvent_env h hc.linked).1
      rw [hnet] at hnext
      revert hnext
      cases s.env.mchNet <;> decide
    · cases h
      exact hmp hidle
  cases he with
  | report o now status word mode => exact hread _ _ _ hstep
  | helps he =>
    cases he with
    | report o now status => exact hread _ _ _ hstep
    | confirm o now status => exact hread _ _ _ hstep
    | watchdog now => exact hwatchdog now hstep

lemma not_commissions_of_deaf {s : Sled} (hc : CoupledInv s) (hdeaf : s.intf.readEvent = false)
    (hmp : s.env.mchMp ≠ .ppIdle) : ¬ Commissions s := by
  rintro ⟨es, t, hes, hrun, hidle⟩
  have hinv : CoupledInv t ∧ t.intf.readEvent = false ∧ t.env.mchMp ≠ .ppIdle :=
    Guarded.invariant (I := fun t => CoupledInv t ∧ t.intf.readEvent = false ∧
        t.env.mchMp ≠ .ppIdle)
      (fun _ _ _ hs he hstep => ⟨hs.1.step hstep, deaf_step hs.1 hs.2.1 hs.2.2 he hstep⟩)
      ⟨hc, hdeaf, hmp⟩ hes hrun
  exact hinv.2.2 hidle

lemma not_commissions_of_lost {s : Sled} (h : Lost s) (hc : CoupledInv s) : ¬ Commissions s := by
  rintro ⟨es, t, -, hrun, hidle⟩
  have hinv : CoupledInv t ∧ Lost t :=
    run_invariant (I := fun t => CoupledInv t ∧ Lost t)
      (fun _ _ _ hs hstep => ⟨hs.1.step hstep, hs.2.step hs.1 hstep⟩) ⟨hc, h⟩ hrun
  exact hinv.2.down (hinv.1.linked.of_idle hidle).2

/-- **The sled can be brought into operation whenever the network can.**  From a reachable state
with the interface machine open, the drive can bring the motion machine to `ST_MP_PP_IDLE`, where
`sled_profile_execute` takes motions, exactly if it is there already, or the bus is read and the
network can be brought to `ST_NET_OPERATIONAL`: whatever state the drive machine and the motion
machine are in. -/
theorem commissions_iff {mem : SledEnv} {now : ℚ} {o : CanOutcome} {es : List SledEvent} {s : Sled}
    (h : sledRun mem now o es = .ok s) (hopen : s.env.mchIntf = .opened) :
    Commissions s ↔ s.env.mchMp = .ppIdle ∨ (s.intf.readEvent = true ∧ Recovers s) := by
  have hc := coupledInv_run h
  obtain ⟨b, hb⟩ := hears_run h
  constructor
  · intro hcom
    by_contra hno
    push Not at hno
    obtain ⟨hmp, hlost⟩ := hno
    cases hread : s.intf.readEvent with
    | false => exact not_commissions_of_deaf hc hread hmp hcom
    | true =>
      have hon : Online s := ⟨hc, configInv_run h, hread ▸ hb.readEvent ▸ hb⟩
      obtain hrec | hl := hon.recovers_or_lost hopen
      · exact hlost hread hrec
      · exact not_commissions_of_lost hl hc hcom
  · rintro (hidle | ⟨hread, es', t, hes', hrun, hnet⟩)
    · exact ⟨[], s, trivial, rfl, hidle⟩
    · have hon : Online s := ⟨hc, configInv_run h, hread ▸ hb.readEvent ▸ hb⟩
      have hserves := hes'.mono fun _ _ => Serves.helps
      exact .of_run hserves hrun ((hon.serves_run hserves hrun).commissions_of_operational hnet)

/-- After a loss of the network the motion machine can be brought back, from `ST_MP_DISABLED`. -/
theorem commissions_after_loss :
    ∃ s, sledRun someMemory 0 ⟨.success, true⟩ networkLost = .ok s ∧ s.env.mchIntf = .opened ∧
      s.env.mchMp = .disabled ∧ Commissions s := by
  obtain ⟨s, hs, hopen, hnet, hread, hqueue⟩ := networkLost_run
  have hc := coupledInv_run hs
  obtain ⟨b, hb⟩ := hears_run hs
  have hon : Online s := ⟨hc, configInv_run hs, hread ▸ hb.readEvent ▸ hb⟩
  have hsafe : ¬ s.Fatal := (not_fatal_iff s).mpr (.inr (by simp [hqueue]))
  have hmp : s.env.mchMp = .disabled := by
    by_contra hmp
    have hds := hc.linked.mp_ds.mp hmp
    have hoperational := hc.linked.ds_net.mp (by simp [hds])
    simp [hnet] at hoperational
  have hrec : Recovers s := hon.recovers_of_waiting (.inl hnet) hsafe
  exact ⟨s, hs, hopen, hmp, (commissions_iff hs hopen).mpr (.inr ⟨hread, hrec⟩)⟩

end SledServer
