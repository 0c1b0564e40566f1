import SledServer.Core.FourPhase
import SledServer.Drive.Plant
import SledServer.Sled.Enabled
import SledServer.Sled.Flush

/-!
# The set-point handshake

A motion starts when bit 4 of the control word rises at the drive.  `sled_profile_execute` queues
the profile, the motion task and a control word with the bit set; the drive reports the bit back as
bit 12 of its status word, whereupon the motion machine clears it, and waits for that to be reported
too.  Commands travel as SDO requests and the reports as TPDO1, so the motion machine decides on
status words that may be old.

The handshake is the one of `Core.FourPhase`: every step of host, bus and drive is a step of it, or
changes nothing in it (`Handshake.Sound.step`).
-/

namespace SledServer

open SledServer.Core

/-! ## The drive -/

/-- Bit 4 after the drive has applied a request, if the request writes the control word. -/
def Request.setpoint? (r : Request sledClient) : Option Bool :=
  r.word?.map fun w => decide (Starts w)

/-- A drive, as far as set-points go: bit 4 of the last control word that it applied, the requests
that it has applied, oldest first, and what it had applied each time the bit rose. -/
structure SetpointDrive where
  bit : Bool
  applied : List (Request sledClient)
  rises : List (List (Request sledClient))

/-- The drive applies a request. -/
def SetpointDrive.apply (d : SetpointDrive) (r : Request sledClient) : SetpointDrive :=
  let bit := r.setpoint?.getD d.bit
  { bit
    applied := d.applied ++ [r]
    rises := if bit && !d.bit then d.rises ++ [d.applied ++ [r]] else d.rises }

/-- Bit 12 of the status word in TPDO1. -/
def setpointAcknowledge (data : Vector UInt8 8) : Bool :=
  decide (statusWord data &&& 0x1000 = 0x1000)

/-- TPDO1 of a drive in profile position mode, with operation enabled and voltage. -/
def Positioning (data : Vector UInt8 8) : Prop :=
  modeOfOperation data = 0x01 ∧ statusWord data &&& 0x6F = 0x27 ∧ statusWord data &&& 0x10 = 0x10

instance (data : Vector UInt8 8) : Decidable (Positioning data) :=
  inferInstanceAs (Decidable (_ ∧ _ ∧ _))

/-! ## Host, bus and drive -/

/-- Host, bus and drive, with TPDO1 on its way to the host.  `launches` records what each call of
`sled_profile_execute` that returned 0 has queued. -/
structure Handshake where
  plant : Plant SetpointDrive
  /-- TPDO1 frames on their way to the host, oldest first. -/
  reports : List (Vector UInt8 8)
  launches : List (List (Request sledClient))

/-- What can happen. -/
inductive HandshakeEvent
  | execute (profile : ℤ)
  /-- The next request reaches the drive, which applies and confirms it. -/
  | receive
  /-- The next confirmation reaches the host. -/
  | deliver (now : ℚ)
  /-- The drive sends TPDO1. -/
  | emit (data : Vector UInt8 8)
  /-- The next TPDO1 reaches the host. -/
  | report (now : ℚ)

/-- The requests queued between two states of the host. -/
def queuedSince (s t : Sled) : List (Request sledClient) :=
  t.queuedRequests.drop s.queuedRequests.length

/-- What a call of `sled_profile_execute` queues: what `sled_profile_write_pending_changes` queues
for the profile, its motion task, and the control word with bit 4. -/
def IsLaunch (s : Sled) (profile : ℤ) (q : List (Request sledClient)) : Prop :=
  ∃ i u, profileIndex? profile = some i ∧ sledProfileWritePendingChanges profile s = .ok (0, u) ∧
    q = queuedSince s u ++ [motionTask (s.env.profiles i).profile, controlWord 0x3F]

/-- One step.  TPDO1 is what the drive reports at the time: the positioning mode, operation enabled
with voltage, and bit 4 of the last control word that it applied. -/
def handshakeStep (h : Handshake) : HandshakeEvent → Except Halt Handshake
  | .execute profile => do
    let r ← sledProfileExecute profile h.plant.sys.host
    .ok
      { h with
        plant := h.plant.withHost r.2
        launches :=
          if r.1 = 0 then h.launches ++ [queuedSince h.plant.sys.host r.2] else h.launches }
  | .receive => do
    let plant ← plantStep SetpointDrive.apply h.plant .receive
    .ok { h with plant := plant }
  | .deliver now => do
    let plant ← plantStep SetpointDrive.apply h.plant (.deliver now)
    .ok { h with plant := plant }
  | .emit data =>
    if Positioning data ∧ setpointAcknowledge data = h.plant.drive.bit then
      .ok { h with reports := h.reports ++ [data] }
    else .ok h
  | .report now =>
    match h.reports with
    | [] => .ok h
    | data :: rest => do
      let plant ← plantStep SetpointDrive.apply h.plant (.host (tpdoEvent now data))
      .ok { h with plant := plant, reports := rest }

namespace Handshake

/-- The state of the motion machine. -/
def mchMp (h : Handshake) : MchMpState := h.plant.sys.host.env.mchMp

/-- The motion machine is idle and the drive machine enabled, bit 4 is clear, no control word is
queued or on its way, and neither is a report of bit 12. -/
structure Ready (h : Handshake) : Prop where
  sane : h.plant.Sane
  idle : h.mchMp = .ppIdle
  enabled : h.plant.sys.host.env.mchDs = .operationEnabled
  bit : h.plant.drive.bit = false
  pending : ∀ r ∈ h.plant.pending, r.word? = none
  reports : ∀ data ∈ h.reports, Positioning data ∧ setpointAcknowledge data = false
  rises : h.plant.drive.rises = []
  launches : h.launches = []

end Handshake

/-! ## The handshake as a four-phase one -/

/-- What the motion machine waits for. -/
def MchMpState.phase : MchMpState → FourPhase.Phase
  | .ppSpNack => .raising
  | .ppSpAck => .lowering
  | _ => .idle

/-- The handshake that host, bus and drive carry out. -/
def Handshake.fourPhase (h : Handshake) : FourPhase.State (Request sledClient) where
  phase := h.mchMp.phase
  pending := h.plant.pending
  applied := h.plant.drive.applied
  bit := h.plant.drive.bit
  reports := h.reports.map setpointAcknowledge
  asks := h.launches
  rises := h.plant.drive.rises

/-! ### Reports -/

section Reports

variable {s : Sled} {data : Vector UInt8 8}

/-- Such a report leaves the drive machine enabled. -/
lemma Positioning.not_disables (h : Positioning data) :
    ∀ event ∈ dsEvents (statusWord data), ¬ event.Disables := by
  obtain ⟨-, hstate, hvoltage⟩ := h
  have hlow : statusWord data &&& 0x4F = 0x07 := by
    have hmask : (0x6F : UInt16) &&& 0x4F = 0x4F := by decide
    rw [← hmask, ← UInt16.and_assoc, hstate]
    decide
  intro event he
  simp only [dsEvents, hlow, hstate, hvoltage] at he
  simp at he
  rcases he with rfl | rfl <;> simp [MchDsEvent.Disables]

/-- All that such a report says to the motion machine is whether the bit is set. -/
lemma tpdo_of_positioning (h : Positioning data) (hds : s.env.mchDs = .operationEnabled)
    (hmp : s.env.mchMp.Positions) :
    s.tpdo (statusWord data) (modeOfOperation data) =
      s.mpMove (if setpointAcknowledge data then .setpointAck else .setpointNack) := by
  have hreached : s.mpMove .targetReached = s :=
    mpMove_of_stay (by rcases hmp with hm | hm | hm <;> rw [hm] <;> decide)
  have hmode : s.mpMove .modePp = s :=
    mpMove_of_stay (by rcases hmp with hm | hm | hm <;> rw [hm] <;> decide)
  rw [tpdo_eq, dsMoves_of_kept hds h.not_disables, h.1]
  unfold Host.mpMoves mpEvents setpointAcknowledge
  split_ifs <;> simp_all

/-- Bit 12 while the motion machine waits for it. -/
lemma mpMove_setpointAck (h : s.env.mchMp = .ppSpNack) :
    s.mpMove .setpointAck = (s.setMpState .ppSpAck).push (controlWord 0x2F) := by
  have hnext : mchMpNextStateGivenEvent .ppSpNack .setpointAck = .ppSpAck := by decide
  unfold Host.mpMove
  simp only [h, hnext]
  rfl

/-- No bit 12 while the motion machine waits for it to be cleared. -/
lemma mpMove_setpointNack (h : s.env.mchMp = .ppSpAck) :
    s.mpMove .setpointNack = s.setMpState .ppIdle := by
  have hnext : mchMpNextStateGivenEvent .ppSpAck .setpointNack = .ppIdle := by decide
  unfold Host.mpMove
  simp only [h, hnext]
  rfl

end Reports

/-! ### Calls -/

/-- What a series of visits queues. -/
lemma visits_queue (s : Sled) (is : List (Fin MAX_PROFILES)) :
    ∃ ws, (∀ w ∈ ws, w.word? = none) ∧ (is.foldl Host.visit s).requests = s.requests ++ ws ∧
      (is.foldl Host.visit s).queuedRequests = s.queuedRequests ++ ws := by
  induction is generalizing s with
  | nil => exact ⟨[], by simp, by simp, by simp⟩
  | cons i is ih =>
    obtain ⟨ws, hws, hr, hq⟩ := ih (s.visit i)
    refine ⟨s.env.visitRequests i ++ ws, fun w hw => ?_, ?_, ?_⟩
    · rcases List.mem_append.mp hw with hw | hw
      · exact word?_visitRequests s.env i w hw
      · exact hws w hw
    · rw [List.foldl_cons, hr, Host.visit, Host.requests_withEnv, Host.requests_pushAll,
        List.append_assoc]
    · rw [List.foldl_cons, hq, Host.visit, Host.queuedRequests_withEnv,
        Host.queuedRequests_pushAll, List.append_assoc]

lemma requests_setMpState (s : Sled) (st : MchMpState) : (s.setMpState st).requests = s.requests :=
  Host.requests_log (s := s) (o := .note (SledNote.mpState s.env.mchMp st)) rfl

lemma queuedRequests_setMpState (s : Sled) (st : MchMpState) :
    (s.setMpState st).queuedRequests = s.queuedRequests :=
  Host.queuedRequests_log (s := s) (o := .note (SledNote.mpState s.env.mchMp st)) rfl

/-- What a call queues: the profiles, the motion task and the control word. -/
lemma launched_queue (s : Sled) (is : List (Fin MAX_PROFILES)) (i : Fin MAX_PROFILES) :
    (∀ w ∈ queuedSince s (is.foldl Host.visit s), w.word? = none) ∧
      ((is.foldl Host.visit s).launched i).requests =
        s.requests ++ (queuedSince s (is.foldl Host.visit s) ++
          [motionTask (s.env.profiles i).profile, controlWord 0x3F]) ∧
      queuedSince s ((is.foldl Host.visit s).launched i) =
        queuedSince s (is.foldl Host.visit s) ++
          [motionTask (s.env.profiles i).profile, controlWord 0x3F] := by
  obtain ⟨ws, hws, hr, hq⟩ := visits_queue s is
  have hsince : queuedSince s (is.foldl Host.visit s) = ws := by simp [queuedSince, hq]
  have hslot : ((is.foldl Host.visit s).env.profiles i).profile = (s.env.profiles i).profile := by
    rw [visits_env]
    exact (visits_profile s.env is i).1
  rw [hsince]
  refine ⟨hws, ?_, ?_⟩
  · simp [Host.launched, requests_setMpState, hr, hslot]
  · simp [queuedSince, Host.launched, queuedRequests_setMpState, hq, hslot]

/-! ### Steps -/

/-- What holds besides: the motion machine takes set-points, and the drive machine is enabled. -/
structure Handshake.Sound (h : Handshake) : Prop where
  sane : h.plant.Sane
  positions : h.mchMp.Positions
  enabled : h.plant.sys.host.env.mchDs = .operationEnabled
  reports : ∀ data ∈ h.reports, Positioning data

/-- A step of the handshake, or nothing. -/
def Simulates (h h' : Handshake) : Prop :=
  h'.fourPhase = h.fourPhase ∨ FourPhase.Step Request.setpoint? h.fourPhase h'.fourPhase

lemma setpoint?_of_word? {r : Request sledClient} (h : r.word? = none) : r.setpoint? = none := by
  simp [Request.setpoint?, h]

namespace Handshake

variable {h h' : Handshake} {s : Sled}

/-- A call is an ask, if it returns 0. -/
lemma Sound.execute (hs : h.Sound) {profile : ℤ}
    (hr : handshakeStep h (.execute profile) = .ok h') :
    h'.Sound ∧ Simulates h h' := by
  obtain ⟨r, hex, hr⟩ := bind_eq_ok.mp hr
  cases hr
  obtain rfl | ⟨i, is, -, -, hidle, -, rfl⟩ := sledProfileExecute_ok hex
  · exact ⟨hs, .inl rfl⟩
  obtain ⟨hws, hreq, hsince⟩ := launched_queue h.plant.sys.host is i
  simp only [started_eq is i hidle, if_true, hsince]
  have henv : ((is.foldl Host.visit h.plant.sys.host).launched i).env.mchDs =
      .operationEnabled := by
    rw [launched_env]
    exact ((Acts.visits (.refl h.plant.sys.host) is).env_rel SledEnv.SameModes.refl
      fun _ _ _ => .trans).ds.trans hs.enabled
  have hmp : ((is.foldl Host.visit h.plant.sys.host).launched i).env.mchMp = .ppSpNack := by
    rw [launched_env]
  have hpending := Plant.pending_of_requests hs.sane hreq
  generalize (is.foldl Host.visit h.plant.sys.host).launched i = t at *
  generalize queuedSince h.plant.sys.host (is.foldl Host.visit h.plant.sys.host) = ws at *
  generalize (h.plant.sys.host.env.profiles i).profile = n at *
  refine ⟨⟨hs.sane.withHost (K := fun _ => True) ⟨_, hreq, by simp⟩, .inr (.inl hmp), henv,
    hs.reports⟩, .inr ?_⟩
  have hask : ∀ w ∈ ws ++ [motionTask n], w.setpoint? = none := by
    intro w hw
    rcases List.mem_append.mp hw with hw | hw
    · exact setpoint?_of_word? (hws w hw)
    · rw [List.mem_singleton.mp hw]
      exact setpoint?_of_word? (word?_motionTask n)
  have hphase : h.fourPhase.phase = .idle := congrArg MchMpState.phase hidle
  have hstep := FourPhase.Step.ask hphase hask
    (show (controlWord 0x3F).setpoint? = some true by rfl)
  simp only [List.append_assoc, List.singleton_append] at hstep
  simp only [fourPhase, mchMp] at hstep ⊢
  rw [show (h.plant.withHost t).sys.host = t from rfl, hmp, hpending]
  exact hstep

/-- A request reaches the drive. -/
lemma Sound.receive (hs : h.Sound) (hr : handshakeStep h .receive = .ok h') :
    h'.Sound ∧ Simulates h h' := by
  obtain ⟨plant, hplant, hr⟩ := bind_eq_ok.mp hr
  cases hr
  cases plantStep_effect hs.sane hplant with
  | idle => exact ⟨hs, .inl rfl⟩
  | @receive r rest hd =>
    refine ⟨⟨hs.sane.received hd, hs.positions, hs.enabled, hs.reports⟩, .inr ?_⟩
    exact .take (Plant.pending_eq_cons SetpointDrive.apply hd)

/-- A confirmation reaches the host, which has no part in the handshake. -/
lemma Sound.deliver (hs : h.Sound) {now : ℚ} (hr : handshakeStep h (.deliver now) = .ok h') :
    h'.Sound ∧ Simulates h h' := by
  obtain ⟨plant, hplant, hr⟩ := bind_eq_ok.mp hr
  cases hr
  cases plantStep_effect hs.sane hplant with
  | idle => exact ⟨hs, .inl rfl⟩
  | @deliver msg rest t now hm hc =>
    have hmp : t.env.mchMp = h.mchMp := by rw [hc.env]; rfl
    have hds : t.env.mchDs = .operationEnabled := by rw [hc.env]; exact hs.enabled
    refine ⟨⟨hs.sane.deliver hm hc, ?_, hds, hs.reports⟩, .inl ?_⟩
    · show t.env.mchMp.Positions
      rw [hmp]
      exact hs.positions
    · show Handshake.fourPhase { h with plant := _ } = _
      simp only [fourPhase, mchMp] at hmp ⊢
      rw [hmp]
      simp [Plant.pending, hc.requests]

/-- The drive makes a report. -/
lemma Sound.emit (hs : h.Sound) {data : Vector UInt8 8}
    (hr : handshakeStep h (.emit data) = .ok h') : h'.Sound ∧ Simulates h h' := by
  simp only [handshakeStep] at hr
  split at hr
  case isFalse =>
    cases hr
    exact ⟨hs, .inl rfl⟩
  case isTrue hdata =>
    cases hr
    refine ⟨⟨hs.sane, hs.positions, hs.enabled, fun d hd => ?_⟩, .inr ?_⟩
    · rcases List.mem_append.mp hd with hd | hd
      · exact hs.reports d hd
      · rw [List.mem_singleton.mp hd]
        exact hdata.1
    · have hreports : (h.reports ++ [data]).map setpointAcknowledge =
          h.reports.map setpointAcknowledge ++ [h.plant.drive.bit] := by simp [hdata.2]
      have hstep : FourPhase.Step Request.setpoint? h.fourPhase _ := .report
      rwa [show h.fourPhase.reports ++ [h.fourPhase.bit] = _ from hreports.symm] at hstep

/-- The host moves on, and the next report leaves the queue. -/
lemma Sound.next (hs : h.Sound) {data : Vector UInt8 8} {rest : List (Vector UInt8 8)}
    (hreports : h.reports = data :: rest) {t : Sled} {rs : List (Request sledClient)}
    (hreq : t.requests = h.plant.sys.host.requests ++ rs) (hmp : t.env.mchMp.Positions)
    (hds : t.env.mchDs = .operationEnabled) :
    Sound { h with plant := h.plant.withHost t, reports := rest } ∧
      Handshake.fourPhase { h with plant := h.plant.withHost t, reports := rest } =
        { h.fourPhase with
          phase := t.env.mchMp.phase
          pending := h.fourPhase.pending ++ rs
          reports := rest.map setpointAcknowledge } := by
  refine ⟨⟨hs.sane.withHost (K := fun _ => True) ⟨rs, hreq, by simp⟩, hmp, hds, fun d hd => ?_⟩,
    ?_⟩
  · exact hs.reports d (by rw [hreports]; exact List.mem_cons_of_mem _ hd)
  · simp only [fourPhase, Plant.pending_of_requests hs.sane hreq]
    rfl

/-- A report that the motion machine does not wait for. -/
lemma Sound.drop (hs : h.Sound) {data : Vector UInt8 8} {rest : List (Vector UInt8 8)}
    (hreports : h.reports = data :: rest) :
    Sound { h with reports := rest } ∧ Simulates h { h with reports := rest } := by
  obtain ⟨hsound, -⟩ := hs.next hreports (List.append_nil _).symm hs.positions hs.enabled
  refine ⟨hsound, .inr (.drop (b := setpointAcknowledge data) ?_)⟩
  simp [fourPhase, hreports]

/-- The motion machine takes a report. -/
lemma Sound.hear (hs : h.Sound) {data : Vector UInt8 8} {rest : List (Vector UInt8 8)}
    (hreports : h.reports = data :: rest) {t : Sled}
    (ht : t = h.plant.sys.host.mpMove
      (if setpointAcknowledge data then .setpointAck else .setpointNack)) :
    Sound { h with plant := h.plant.withHost t, reports := rest } ∧
      Simulates h { h with plant := h.plant.withHost t, reports := rest } := by
  have hstay : ∀ event, mchMpNextStateGivenEvent h.mchMp event = h.mchMp →
      h.plant.withHost (h.plant.sys.host.mpMove event) = h.plant := by
    intro event hnext
    rw [mpMove_of_stay hnext]
    rfl
  have hqueue : h.fourPhase.reports = setpointAcknowledge data :: rest.map setpointAcknowledge := by
    simp [fourPhase, hreports]
  cases hack : setpointAcknowledge data with
  | true =>
    rw [hack] at ht hqueue
    subst ht
    rcases hs.positions with hm | hm | hm
    · rw [if_pos rfl, hstay _ (by rw [hm]; decide)]
      exact hs.drop hreports
    · -- The bit has been set: it is cleared.
      rw [if_pos rfl, mpMove_setpointAck hm]
      obtain ⟨hsound, heq⟩ := hs.next hreports
        (t := (h.plant.sys.host.setMpState .ppSpAck).push (controlWord 0x2F))
        (by rw [Host.requests_push, requests_setMpState]) (.inr (.inr (by simp [Host.setMpState])))
        (by simpa [Host.setMpState] using hs.enabled)
      refine ⟨hsound, .inr ?_⟩
      rw [heq]
      have hphase : h.fourPhase.phase = .raising := congrArg MchMpState.phase hm
      have hstep := FourPhase.Step.raised hphase hqueue
        (show (controlWord 0x2F).setpoint? = some false by rfl)
      simpa [Host.setMpState, MchMpState.phase] using hstep
    · rw [if_pos rfl, hstay _ (by rw [hm]; decide)]
      exact hs.drop hreports
  | false =>
    rw [hack] at ht hqueue
    subst ht
    rcases hs.positions with hm | hm | hm
    · rw [if_neg (by simp), hstay _ (by rw [hm]; decide)]
      exact hs.drop hreports
    · rw [if_neg (by simp), hstay _ (by rw [hm]; decide)]
      exact hs.drop hreports
    · -- The bit has been cleared: the motion machine is idle again.
      rw [if_neg (by simp), mpMove_setpointNack hm]
      obtain ⟨hsound, heq⟩ := hs.next hreports (t := h.plant.sys.host.setMpState .ppIdle)
        (by rw [requests_setMpState, List.append_nil]) (.inl rfl) hs.enabled
      refine ⟨hsound, .inr ?_⟩
      rw [heq]
      have hphase : h.fourPhase.phase = .lowering := congrArg MchMpState.phase hm
      have hstep : FourPhase.Step Request.setpoint? _ _ := .lowered hphase hqueue
      simpa [Host.setMpState, MchMpState.phase] using hstep

/-- A report reaches the host. -/
lemma Sound.report (hs : h.Sound) {now : ℚ} (hr : handshakeStep h (.report now) = .ok h') :
    h'.Sound ∧ Simulates h h' := by
  simp only [handshakeStep] at hr
  split at hr
  · cases hr
    exact ⟨hs, .inl rfl⟩
  next data rest hreports =>
  obtain ⟨plant, hplant, hr⟩ := bind_eq_ok.mp hr
  cases hr
  cases plantStep_effect hs.sane hplant with
  | idle => exact hs.drop hreports
  | host he ht =>
    have hdata : Positioning data := hs.reports data (by rw [hreports]; exact List.mem_cons_self)
    rw [sledStep_tpdoEvent] at ht
    split at ht
    · cases ht
      exact hs.hear hreports (tpdo_of_positioning hdata hs.enabled hs.positions)
    · cases ht
      exact hs.drop hreports

/-- Every step of host, bus and drive is a step of the handshake, or changes nothing in it. -/
theorem Sound.step (hs : h.Sound) {e : HandshakeEvent} (hr : handshakeStep h e = .ok h') :
    h'.Sound ∧ Simulates h h' := by
  cases e with
  | execute => exact hs.execute hr
  | receive => exact hs.receive hr
  | deliver => exact hs.deliver hr
  | emit => exact hs.emit hr
  | report => exact hs.report hr

lemma Ready.sound (hs : h.Ready) : h.Sound :=
  ⟨hs.sane, .inl hs.idle, hs.enabled, fun d hd => (hs.reports d hd).1⟩

lemma Ready.start (hs : h.Ready) : FourPhase.Start Request.setpoint? h.fourPhase where
  phase := congrArg MchMpState.phase hs.idle
  pending r hr := setpoint?_of_word? (hs.pending r hr)
  bit := hs.bit
  reports b hb := by
    obtain ⟨d, hd, rfl⟩ := List.mem_map.mp hb
    exact (hs.reports d hd).2
  asks := hs.launches
  rises := hs.rises

/-- Every run of host, bus and drive is a run of the handshake. -/
lemma Ready.run (hs : h.Ready) {es : List HandshakeEvent} (hr : run handshakeStep h es = .ok h') :
    h'.Sound ∧
      Relation.ReflTransGen (FourPhase.Step Request.setpoint?) h.fourPhase h'.fourPhase := by
  refine run_invariant (I := fun t => t.Sound ∧
    Relation.ReflTransGen (FourPhase.Step Request.setpoint?) h.fourPhase t.fourPhase) ?_
    ⟨hs.sound, .refl⟩ hr
  rintro t e t' ⟨hsound, hreach⟩ hstep
  obtain ⟨hsound', hsame | hsim⟩ := hsound.step hstep
  · exact ⟨hsound', by rw [hsame]; exact hreach⟩
  · exact ⟨hsound', hreach.tail hsim⟩

/-- Only a call that returns 0 is recorded, with what it queues. -/
lemma launches_step {e : HandshakeEvent} (hr : handshakeStep h e = .ok h') :
    h'.launches = h.launches ∨ ∃ profile q, e = .execute profile ∧
      h'.launches = h.launches ++ [q] ∧ IsLaunch h.plant.sys.host profile q := by
  cases e with
  | execute profile =>
    obtain ⟨r, hex, hr⟩ := bind_eq_ok.mp hr
    cases hr
    obtain rfl | ⟨i, is, hi, -, hidle, his, rfl⟩ := sledProfileExecute_ok hex
    · exact .inl rfl
    · obtain ⟨-, -, hsince⟩ := launched_queue h.plant.sys.host is i
      refine .inr ⟨profile, _, rfl, rfl, i, is.foldl Host.visit h.plant.sys.host, hi, ?_, ?_⟩
      · rw [sledProfileWritePendingChanges_eq, his]
        rfl
      · rw [started_eq is i hidle, hsince]
  | receive | deliver =>
    obtain ⟨plant, -, hr⟩ := bind_eq_ok.mp hr
    cases hr
    exact .inl rfl
  | emit data =>
    simp only [handshakeStep] at hr
    split at hr <;> cases hr <;> exact .inl rfl
  | report now =>
    simp only [handshakeStep] at hr
    split at hr
    · cases hr
      exact .inl rfl
    · obtain ⟨plant, -, hr⟩ := bind_eq_ok.mp hr
      cases hr
      exact .inl rfl

/-- The calls that are recorded are those of the run, in order. -/
lemma launches_run (hnone : h.launches = []) (es : List HandshakeEvent) :
    ∀ h', run handshakeStep h es = .ok h' → ∀ k q, h'.launches[k]? = some q →
      ∃ pre profile post g, es = pre ++ .execute profile :: post ∧
        run handshakeStep h pre = .ok g ∧ g.launches.length = k ∧
          IsLaunch g.plant.sys.host profile q := by
  induction es using List.reverseRecOn with
  | nil =>
    rintro h' ⟨⟩ k q hq
    simp [hnone] at hq
  | append_singleton es e ih =>
    intro h' hr k q hq
    obtain ⟨g, hg, hlast⟩ := run_append_ok.mp hr
    obtain ⟨g', hstep, hlast⟩ := run_cons_ok.mp hlast
    cases hlast
    have hearlier : g.launches[k]? = some q → ∃ pre profile post g,
        es ++ [e] = pre ++ .execute profile :: post ∧ run handshakeStep h pre = .ok g ∧
          g.launches.length = k ∧ IsLaunch g.plant.sys.host profile q := by
      intro hq
      obtain ⟨pre, profile, post, u, rfl, hu⟩ := ih g hg k q hq
      exact ⟨pre, profile, post ++ [e], u, by simp, hu⟩
    obtain hsame | ⟨profile, q', rfl, hmore, hlaunch⟩ := launches_step hstep
    · exact hearlier (hsame ▸ hq)
    · rw [hmore] at hq
      by_cases hk : k < g.launches.length
      · exact hearlier (by rwa [List.getElem?_append_left hk] at hq)
      · rw [List.getElem?_append_right (not_lt.mp hk), List.getElem?_singleton] at hq
        split at hq
        · cases hq
          exact ⟨es, profile, [], g, rfl, hg, by omega, hlaunch⟩
        · cases hq

end Handshake

/-- **The drive runs each motion once.**  From any state in which the motion machine is idle, the
drive machine enabled, bit 4 clear and nothing that has to do with it is on its way, and for every
interleaving of calls, requests, confirmations and reports: whenever the motion machine is idle, bit
4 is clear, no control word is queued or on its way to the drive, and the bit has risen once for
every call that returned 0; it has never risen more often; and each time all that the call had
queued had been applied: what its profile had pending, its motion task and the control word. -/
theorem setpoint_agreement {h h' : Handshake} (hs : h.Ready) {es : List HandshakeEvent}
    (hr : run handshakeStep h es = .ok h') :
    (h'.mchMp = .ppIdle → h'.plant.drive.bit = false ∧ ∀ r ∈ h'.plant.pending, r.word? = none) ∧
    h'.plant.drive.rises.length ≤ h'.launches.length ∧
    (h'.mchMp = .ppIdle → h'.plant.drive.rises.length = h'.launches.length) ∧
    ∀ (k : ℕ) (q l : List (Request sledClient)), h'.launches[k]? = some q →
      h'.plant.drive.rises[k]? = some l →
      q <:+ l ∧ ∃ pre profile post g, es = pre ++ .execute profile :: post ∧
        run handshakeStep h pre = .ok g ∧ g.launches.length = k ∧
          IsLaunch g.plant.sys.host profile q := by
  obtain ⟨-, hreach⟩ := hs.run hr
  have hagrees := hs.start.agrees hreach
  have hlaunched := Handshake.launches_run hs.launches es h' hr
  have hphase : h'.mchMp = .ppIdle → h'.fourPhase.phase = .idle := congrArg MchMpState.phase
  refine ⟨fun hidle => ?_, hagrees.rises_le, fun hidle => hagrees.rises_eq (hphase hidle),
    fun k q l hq hl => ⟨hagrees.after k q l hq hl, hlaunched k q hq⟩⟩
  obtain ⟨hbit, hpending⟩ := hagrees.quiet (hphase hidle)
  refine ⟨hbit, fun r hmem => ?_⟩
  simpa [Request.setpoint?] using hpending r hmem

/-- A host whose requests have all been applied, and whose drive has bit 4 clear. -/
def Handshake.rested (s : Sled) : Handshake :=
  ⟨⟨⟨s, s.sent.length, []⟩, ⟨false, [], []⟩⟩, [], []⟩

lemma Handshake.ready_rested {s : Sled} (hmp : s.env.mchMp = .ppIdle)
    (hds : s.env.mchDs = .operationEnabled) (hq : s.mchSdo.sdoQueue = []) : (rested s).Ready where
  sane := ⟨Host.sent_length_le, by simp [rested]⟩
  idle := hmp
  enabled := hds
  bit := rfl
  pending := by simp [rested, Plant.pending, Host.requests, Host.issued, hq, ← List.map_drop]
  reports := by simp [rested]
  rises := rfl
  launches := rfl

/-- A whole handshake: the 20 requests of the call are applied, bit 12 is reported, the bit is
cleared and reported again. -/
def wholeHandshake : List HandshakeEvent :=
  .execute 0 :: (List.replicate 20 [.receive, .deliver 0]).flatten ++
    [.emit #v[0x37, 0x10, 0x01, 0, 0, 0, 0, 0], .report 0, .receive, .deliver 0,
      .emit #v[0x37, 0x00, 0x01, 0, 0, 0, 0, 0], .report 0]

/-- One call, and one rise of the bit. -/
theorem setpoint_agreement_once :
    ∃ s h, sledRun someMemory 0 ⟨.success, true⟩ (networkUp ++ driveUp) = .ok s ∧
      (Handshake.rested s).Ready ∧ run handshakeStep (.rested s) wholeHandshake = .ok h ∧
      h.mchMp = .ppIdle ∧ h.launches.length = 1 ∧ h.plant.drive.rises.length = 1 ∧
      h.plant.drive.bit = false ∧ ∀ r ∈ h.plant.pending, r.word? = none := by
  obtain ⟨s, hs, hready⟩ := exists_of_okAnd
    (p := fun s : Sled => s.env.mchMp == .ppIdle && s.env.mchDs == .operationEnabled &&
      s.mchSdo.sdoQueue.isEmpty &&
      okAnd (fun h : Handshake => h.mchMp == .ppIdle && h.launches.length == 1)
        (run handshakeStep (.rested s) wholeHandshake))
    (x := sledRun someMemory 0 ⟨.success, true⟩ (networkUp ++ driveUp)) (by decide +kernel)
  simp only [Bool.and_eq_true, beq_iff_eq, List.isEmpty_iff] at hready
  obtain ⟨⟨⟨hmp, hds⟩, hq⟩, hrun⟩ := hready
  obtain ⟨h, hr, hend⟩ := exists_of_okAnd hrun
  simp only [Bool.and_eq_true, beq_iff_eq] at hend
  have hstart := Handshake.ready_rested hmp hds hq
  obtain ⟨hquiet, -, hrises, -⟩ := setpoint_agreement hstart hr
  exact ⟨s, h, hs, hstart, hr, hend.1, hend.2, (hrises hend.1).trans hend.2, hquiet hend.1⟩

end SledServer
