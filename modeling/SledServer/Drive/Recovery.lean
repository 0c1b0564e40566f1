import SledServer.Drive.Late
import SledServer.Sled.Inside
import SledServer.Sled.Upload

/-!
# Getting the network back

A refused request turns the SDO machine off without telling anyone, and what is queued from then on
waits for the network machine to switch it on again, which drops the queue.  `transmits_iff` says
when a call of the library is accepted in this state.

Switching the SDO machine on ends the process if the queue holds a request with an abort function
(`Host.Fatal`).  Together with `ST_NET_STOPPED`, which nothing leads out of, and with a bus that is
no longer read, this is the only way to lose the network for good: from every other state the drive
can bring it back with its reports and confirmations (`recovers_iff`).
-/

namespace SledServer

open SledServer.Core

/-! ## Accepted calls -/

/-- An SDO machine that is not off because of the network is off because of a refusal. -/
lemma enabled_iff_of_ne {st : MchSdoState} (h : st ≠ .disabled) : st.Enabled ↔ st ≠ .error := by
  cases st <;> simp_all [MchSdoState.Enabled]

/-- A call leaves the SDO machine on, or off. -/
lemma sameSdo_call {s : Sled} {c : SledCall} {r : ℤ × Sled} (h : sledCall s c = .ok r) :
    SameSdo s r.2 := .moves (moves_call h)

/-- **Accepted calls can be transmitted unless a request has been refused.**  When
`sled_profile_execute` or `sled_light_set_state` returns 0, the SDO machine is waiting or sending
afterwards exactly if it was not in `ST_SDO_ERROR` before; so every accepted call can be transmitted
in exactly those states. -/
theorem transmits_iff {mem : SledEnv} {now : ℚ} {o : CanOutcome} {es : List SledEvent} {s : Sled}
    (h : sledRun mem now o es = .ok s) :
    (∀ profile s', sledProfileExecute profile s = .ok (0, s') →
      (s'.mchSdo.state.Enabled ↔ s.mchSdo.state ≠ .error)) ∧
    (∀ state s', sledLightSetState state s = .ok (0, s') →
      (s'.mchSdo.state.Enabled ↔ s.mchSdo.state ≠ .error)) ∧
    ((∀ profile s', sledProfileExecute profile s = .ok (0, s') → s'.mchSdo.state.Enabled) ∧
      (∀ state s', sledLightSetState state s = .ok (0, s') → s'.mchSdo.state.Enabled) ↔
        s.mchSdo.state ≠ .error) := by
  have hlinked := (coupledInv_run h).linked
  have hexecute : ∀ profile s', sledProfileExecute profile s = .ok (0, s') →
      (s'.mchSdo.state.Enabled ↔ s.mchSdo.state ≠ .error) := by
    intro profile s' hs'
    obtain ⟨-, hnet⟩ := hlinked.of_idle (idle_of_execute hs')
    have hon : s.mchSdo.state ≠ .disabled := hlinked.net_sdo (.inr (.inr hnet))
    rw [← enabled_iff_of_ne hon]
    exact (sameSdo_call (c := .profileExecute profile) hs').enabled
  have hlight : ∀ state s', sledLightSetState state s = .ok (0, s') →
      (s'.mchSdo.state.Enabled ↔ s.mchSdo.state ≠ .error) := by
    intro state s' hs'
    have hon : s.mchSdo.state ≠ .disabled := by
      intro hoff
      simp [sledLightSetState, hoff] at hs'
    rw [← enabled_iff_of_ne hon]
    exact (sameSdo_call (c := .lightSetState state) hs').enabled
  refine ⟨hexecute, hlight, ?_⟩
  constructor
  · rintro ⟨-, hall⟩ herror
    have hok : sledLightSetState true s = .ok (0, s.push (plainWrite OB_O_O1 0x01 0x01 0x04)) := by
      simp [sledLightSetState, herror, plainWrite]
    exact (hlight _ _ hok).mp (hall _ _ hok) herror
  · intro hne
    exact ⟨fun profile s' hs' => (hexecute profile s' hs').mpr hne,
      fun state s' hs' => (hlight state s' hs').mpr hne⟩

/-- The light is switched on, and the drive refuses. -/
def lightRefused : List SledEvent :=
  [.call (.lightSetState true), frame (abortResponse OB_O_O1 0x01 0x08000000)]

/-- The drive has been brought up and has not refused anything. -/
theorem transmits_up :
    ∃ s, sledRun someMemory 0 ⟨.success, true⟩ (networkUp ++ driveUp) = .ok s ∧
      s.mchSdo.state ≠ .error ∧
      (∀ profile s', sledProfileExecute profile s = .ok (0, s') →
        (s'.mchSdo.state.Enabled ↔ s.mchSdo.state ≠ .error)) ∧
      (∀ state s', sledLightSetState state s = .ok (0, s') →
        (s'.mchSdo.state.Enabled ↔ s.mchSdo.state ≠ .error)) ∧
      ((∀ profile s', sledProfileExecute profile s = .ok (0, s') → s'.mchSdo.state.Enabled) ∧
        (∀ state s', sledLightSetState state s = .ok (0, s') → s'.mchSdo.state.Enabled) ↔
          s.mchSdo.state ≠ .error) := by
  obtain ⟨s, hs, hne⟩ := exists_of_okAnd (p := fun s : Sled => s.mchSdo.state != .error)
    (x := sledRun someMemory 0 ⟨.success, true⟩ (networkUp ++ driveUp)) (by decide +kernel)
  exact ⟨s, hs, by simpa using hne, transmits_iff hs⟩

/-- After a refusal a profile is executed and the light is switched, and neither can be sent. -/
theorem accepted_after_refusal :
    ∃ s s' s'',
      sledRun someMemory 0 ⟨.success, true⟩ (networkUp ++ driveUp ++ lightRefused) = .ok s ∧
      sledProfileExecute 0 s = .ok (0, s') ∧ s'.mchSdo.state = .error ∧
      sledLightSetState false s = .ok (0, s'') ∧ s''.mchSdo.state = .error := by
  obtain ⟨s, hs, h⟩ := exists_of_okAnd
    (p := fun s : Sled =>
      okAnd (fun r : ℤ × Sled => r.1 == 0 && r.2.mchSdo.state == .error)
        (sledProfileExecute 0 s) &&
      okAnd (fun r : ℤ × Sled => r.1 == 0 && r.2.mchSdo.state == .error)
        (sledLightSetState false s))
    (x := sledRun someMemory 0 ⟨.success, true⟩ (networkUp ++ driveUp ++ lightRefused))
    (by decide +kernel)
  rw [Bool.and_eq_true] at h
  obtain ⟨⟨n, s'⟩, hs', hn⟩ := exists_of_okAnd h.1
  obtain ⟨⟨m, s''⟩, hs'', hm⟩ := exists_of_okAnd h.2
  simp only [Bool.and_eq_true, beq_iff_eq] at hn hm
  obtain ⟨rfl, hst⟩ := hn
  obtain ⟨rfl, hst'⟩ := hm
  exact ⟨s, s', s'', hs, hs', hst, hs'', hst'⟩

/-! ## Hearing the drive -/

/-- `b` says whether the bus is read.  If it is, the interface has the functions of the active
request in its slots, so that a response reaches the SDO machine. -/
structure Hears (b : Bool) (s : Sled) : Prop where
  readEvent : s.intf.readEvent = b
  fd : b = true → s.intf.fd = true
  slots : b = true → ∀ r, s.mchSdo.sdoActive = some r →
    s.intf.writeCallback = r.isWrite ∧ s.intf.readCallback = !r.isWrite

namespace Hears

variable {b : Bool} {s t u : Sled}

lemma of_same (h : Hears b s) (hread : t.intf.readEvent = s.intf.readEvent)
    (hfd : t.intf.fd = s.intf.fd) (hw : t.intf.writeCallback = s.intf.writeCallback)
    (hr : t.intf.readCallback = s.intf.readCallback)
    (ha : ∀ r, t.mchSdo.sdoActive = some r → s.mchSdo.sdoActive = some r) : Hears b t := by
  refine ⟨hread.trans h.readEvent, fun hb => hfd.trans (h.fd hb), fun hb r hr' => ?_⟩
  rw [hw, hr]
  exact h.slots hb r (ha r hr')

lemma of_eq (h : Hears b s) (hi : t.intf = s.intf)
    (ha : t.mchSdo.sdoActive = s.mchSdo.sdoActive) : Hears b t :=
  h.of_same (by rw [hi]) (by rw [hi]) (by rw [hi]) (by rw [hi]) fun _ hr => ha ▸ hr

lemma resume (h : Hears b s) : Hears b s.resume := by
  cases hq : s.mchSdo.sdoQueue with
  | nil => rwa [Host.resume_nil hq]
  | cons r rs =>
    have hm := Host.resume_cons_mchSdo hq
    have hi := Host.resume_cons_intf hq
    cases hw : r.isWrite with
    | true =>
      simp only [hw, if_true] at hi
      refine ⟨by rw [hi]; exact h.readEvent, fun hb => by rw [hi]; exact h.fd hb, fun _ q hq => ?_⟩
      obtain rfl : r = q := by simpa [hm] using hq
      rw [hi, hw]
      exact ⟨rfl, rfl⟩
    | false =>
      simp only [hw, Bool.false_eq_true, if_false] at hi
      refine ⟨by rw [hi]; exact h.readEvent, fun hb => by rw [hi]; exact h.fd hb, fun _ q hq => ?_⟩
      obtain rfl : r = q := by simpa [hm] using hq
      rw [hi, hw]
      exact ⟨rfl, rfl⟩

/-- What happens inside keeps listening. -/
lemma inside (h : Hears b s) (ht : Inside s t) : Hears b t :=
  ht.invariant h
    (fun _ _ hintf _ ha ht => ht.of_same (by rw [hintf]) (by rw [hintf]) (by rw [hintf])
      (by rw [hintf]) ha)
    (fun _ _ ht => ht.of_same rfl rfl rfl rfl fun _ hr => hr) fun _ ht => ht.resume

lemma netEvent (h : Hears b s) {event : MchNetEvent} (ht : mchNetHandleEvent event s = .ok t) :
    Hears b t := h.inside ((Inside.refl s).netEvent ht)

lemma write (h : Hears b s) {index : UInt16} {subindex : UInt8}
    (hw : mchSdoWriteCallback sledCallbacks index subindex s = .ok t) : Hears b t :=
  h.inside ((Inside.refl s).write hw)

/-- A step keeps listening, or stops doing so. -/
lemma step (h : Hears b s) {e : SledEvent} (hstep : sledStep s e = .ok t) :
    Hears b t ∨ (Hears false t ∧ ∃ o, intfCloseSled o s = .ok t) := by
  cases hc : e.closing? s with
  | none => exact .inl (h.inside (sledStep_inside hc hstep))
  | some o =>
    rw [(sledStep_closing hc).1] at hstep
    refine .inr ⟨?_, o, hstep⟩
    obtain ⟨intf, rfl, hread⟩ | ⟨-, intf, hread, ht⟩ := intfCloseSled_ok hstep
    · exact ⟨hread, by simp, by simp⟩
    · refine Hears.netEvent ⟨?_, by simp, by simp⟩ ht
      exact hread

end Hears

lemma hears_sledCreate {mem : SledEnv} {now : ℚ} {o : CanOutcome} {s : Sled}
    (h : sledCreate mem now o = .ok s) : ∃ b, Hears b s := by
  have hstores : Stores (fun _ => False) (sledAlloc mem now)
      (sledCreateProfiles (sledAlloc mem now)) := Stores.createProfiles (.refl _)
  have henv := hstores.env_rel SledEnv.SameModes.refl fun _ _ _ => .trans
  obtain ⟨hm, hi⟩ := hstores.silent
  obtain ⟨intf, hfd, hend⟩ := sledCreate_ok h henv.intf hi
  generalize sledCreateProfiles (sledAlloc mem now) = t at hm hend
  have hidle : t.mchSdo.sdoActive = none := by simp [hm, sledAlloc, mchSdoCreate]
  have hopen : Hears intf.readEvent ((t.setIntfState .opening).withIntf intf) := by
    refine ⟨rfl, hfd, fun _ r hr => ?_⟩
    have hactive : t.mchSdo.sdoActive = some r := hr
    rw [hidle] at hactive
    cases hactive
  refine ⟨intf.readEvent, ?_⟩
  obtain rfl | hnet := hend
  · exact hopen
  · refine Hears.netEvent ?_ hnet
    exact hopen.of_eq rfl rfl

lemma hears_run {mem : SledEnv} {now : ℚ} {o : CanOutcome} {es : List SledEvent} {s : Sled}
    (h : sledRun mem now o es = .ok s) : ∃ b, Hears b s := by
  obtain ⟨s₀, hcreate, hrun⟩ := sledRun_ok.mp h
  refine run_invariant (I := fun s => ∃ b, Hears b s) (fun s e t hs hstep => ?_)
    (hears_sledCreate hcreate) hrun
  obtain ⟨b, hb⟩ := hs
  obtain ht | ⟨ht, -⟩ := hb.step hstep
  · exact ⟨b, ht⟩
  · exact ⟨false, ht⟩

/-! ## Lost for good -/

/-- Switching the SDO machine on stays fatal while it is off. -/
lemma Host.Fatal.of_isPrefix {s t : Sled} (h : s.Fatal)
    (hst : t.mchSdo.state.Enabled ↔ s.mchSdo.state.Enabled)
    (hq : s.mchSdo.sdoQueue <+: t.mchSdo.sdoQueue) : t.Fatal := by
  obtain ⟨hoff, r, hr, hne⟩ := h
  exact ⟨mt hst.mp hoff, r, hq.subset hr, hne⟩

lemma Host.Fatal.push {s : Sled} (h : s.Fatal) (r : Request sledClient) : (s.push r).Fatal := by
  have hne : s.mchSdo.state ≠ .waiting := fun hw => h.1 (.inl hw)
  have hm := Host.push_mchSdo_of_ne hne r
  refine h.of_isPrefix (by rw [hm]) ?_
  rw [hm]
  exact List.prefix_append _ _

lemma Host.Fatal.moves {K : Request sledClient → Prop} {R : SledEnv → SledEnv → Prop} {s t : Sled}
    (h : s.Fatal) (hm : Moves K R s t) : t.Fatal :=
  hm.invariant h (fun _ r _ ht => ht.push r) (fun _ _ _ ht => ht) fun _ _ _ ht => ht

/-- The network machine is not operational, and nothing can make it so: the bus is not read any
more, the node has reported that it is stopped, or the SDO machine cannot be switched on. -/
structure Lost (s : Sled) : Prop where
  down : s.env.mchNet ≠ .operational
  cut : s.intf.readEvent = false ∨ s.env.mchNet = .stopped ∨
    (s.Fatal ∧ (s.env.mchNet = .unknown ∨ s.env.mchNet = .enterpreoperational ∨
      s.env.mchNet = .startremotenode))

namespace Lost

variable {s t : Sled}

/-- Reports of the drive and calls leave the network machine alone. -/
lemma moves {K : Request sledClient → Prop} {R : SledEnv → SledEnv → Prop} (h : Lost s)
    (hm : Moves K R s t) (hread : t.intf.readEvent = s.intf.readEvent)
    (hnet : t.env.mchNet = s.env.mchNet) : Lost t := by
  refine ⟨hnet ▸ h.down, ?_⟩
  rw [hread, hnet]
  exact h.cut.imp_right fun hcut => hcut.imp_right fun hcut => ⟨hcut.1.moves hm, hcut.2⟩

/-- Reports of the network do not help. -/
lemma netEvent (h : Lost s) (hl : Linked s) {event : MchNetEvent} (he : event.External)
    (hheard : event ≠ .watchdogFailed → s.intf.readEvent = true)
    (hread : t.intf.readEvent = s.intf.readEvent) (ht : mchNetHandleEvent event s = .ok t) :
    Lost t := by
  have hfatal : ¬ (s.env.mchNet.SwitchesOn event ∧ s.Fatal) := by
    intro hon
    rw [mchNetHandleEvent_error.mpr ⟨rfl, hon⟩] at ht
    cases ht
  obtain ⟨hnet, -⟩ := mchNetHandleEvent_env ht hl
  obtain ⟨-, rfl⟩ | ⟨hne, henter⟩ := mchNetHandleEvent_ok ht
  · exact h
  have hleave : s.netLeave = s := by simp [Host.netLeave, h.down]
  obtain hdeaf | hstopped | ⟨hf, hst⟩ := h.cut
  · -- Nothing but the watchdog raises an event on a bus that is not read.
    have hwatchdog : event = .watchdogFailed := by
      by_contra hevent
      rw [hheard hevent] at hdeaf
      cases hdeaf
    refine ⟨?_, .inl (hread.trans hdeaf)⟩
    have hdown := h.down
    rw [hnet, hwatchdog]
    revert hdown
    cases s.env.mchNet <;> decide
  · refine absurd ?_ hne
    rw [hstopped]
    obtain rfl | rfl | rfl | rfl := he <;> rfl
  · have hmoves : s.env.mchNet = .unknown ∧ (event = .stopped ∨ event = .operational) := by
      have hon : ¬ s.env.mchNet.SwitchesOn event := fun hon => hfatal ⟨hon, hf⟩
      revert hne hon
      unfold MchNetState.SwitchesOn
      obtain hst | hst | hst := hst <;> rw [hst] <;>
        obtain rfl | rfl | rfl | rfl := he <;> simp [mchNetNextStateGivenEvent]
    obtain ⟨hst, rfl | rfl⟩ := hmoves
    · have hstop : t.env.mchNet = .stopped := by rw [hnet, hst]; rfl
      exact ⟨by simp [hstop], .inr (.inl hstop)⟩
    · have henterpre : t.env.mchNet = .enterpreoperational := by rw [hnet, hst]; rfl
      refine ⟨by simp [henterpre], .inr (.inr ⟨?_, .inr (.inl henterpre)⟩)⟩
      rw [hleave, hst] at henter
      cases henter with
      | enterpreoperational => exact hf
      | disabled hn | unknown hn | stopped hn | startremotenode hn | uploadconfig hn
      | operational hn | preoperational hn => cases hn

/-- A response does not help: it changes nothing but the active request. -/
lemma response (h : Lost s) (hread : t.intf.readEvent = s.intf.readEvent)
    (hnet : t.env.mchNet = s.env.mchNet ∨
      (s.env.mchNet = .preoperational ∧ t.env.mchNet = .startremotenode))
    (hsdo : ¬ s.mchSdo.state.Enabled →
      t.mchSdo.state = s.mchSdo.state ∧ t.mchSdo.sdoQueue = s.mchSdo.sdoQueue) : Lost t := by
  obtain hnet | ⟨hpre, hstart⟩ := hnet
  · refine ⟨hnet ▸ h.down, ?_⟩
    rw [hread, hnet]
    refine h.cut.imp_right fun hcut => hcut.imp_right fun hcut => ⟨?_, hcut.2⟩
    obtain ⟨hstate, hqueue⟩ := hsdo hcut.1.1
    exact hcut.1.of_isPrefix (by rw [hstate]) (by rw [hqueue])
  · refine ⟨by simp [hstart], .inl ?_⟩
    rw [hread]
    obtain hdeaf | hst | ⟨-, hst⟩ := h.cut
    · exact hdeaf
    · rw [hpre] at hst
      cases hst
    · simp [hpre] at hst

lemma proceed_of_off (h : ¬ s.mchSdo.state.Enabled) : s.proceed = s :=
  if_neg fun hs => h (.inr hs)

lemma fail_of_off (h : ¬ s.mchSdo.state.Enabled) : s.fail = s := if_neg fun hs => h (.inr hs)

/-- The function for success leaves the SDO machine alone. -/
lemma write_mchSdo {u v : Sled} {sdo : Sdo sledClient}
    (hv : v = s.log (.answered sdo .write) ∨
      ∃ call, v = (s.log (.answered sdo .write)).log (.called sdo.addr call))
    (hu : WriteEffect v sdo u) : u.mchSdo = s.mchSdo := by
  obtain ⟨hm, -⟩ := ConfigInv.writeLog hv
  cases hu with
  | silent | lateUpload | field | upload => exact hm

/-- What a positive write response does to the network machine, and to an SDO machine that is
off. -/
lemma write_effect {u v : Sled} {sdo : Sdo sledClient} (hup : s.env.mchNet ≠ .uploadconfig)
    (hv : v = s.log (.answered sdo .write) ∨
      ∃ call, v = (s.log (.answered sdo .write)).log (.called sdo.addr call))
    (hu : WriteEffect v sdo u) :
    (u.clearActive.proceed.env.mchNet = s.env.mchNet ∨ (s.env.mchNet = .preoperational ∧
      u.clearActive.proceed.env.mchNet = .startremotenode)) ∧
    (¬ s.mchSdo.state.Enabled → u.clearActive.proceed.mchSdo.state = s.mchSdo.state ∧
      u.clearActive.proceed.mchSdo.sdoQueue = s.mchSdo.sdoQueue) := by
  obtain ⟨-, henv, -⟩ := ConfigInv.writeLog hv
  have hm := write_mchSdo hv hu
  have hnet : u.env.mchNet = s.env.mchNet ∨
      (s.env.mchNet = .preoperational ∧ u.env.mchNet = .startremotenode) := by
    cases hu with
    | silent | lateUpload => exact .inl (by rw [henv])
    | field => exact .inl (by rw [← henv]; rfl)
    | upload _ hn =>
      rw [henv] at hn
      exact .inr ⟨hn.resolve_right hup, rfl⟩
  refine ⟨by simpa using hnet, fun hoff => ?_⟩
  have hoff' : ¬ u.clearActive.mchSdo.state.Enabled := by
    rw [Host.clearActive_state, hm]
    exact hoff
  rw [proceed_of_off hoff', Host.clearActive_state, Host.clearActive_sdoQueue, hm]
  exact ⟨rfl, rfl⟩

/-- Nothing that happens gets a lost network back. -/
lemma step (h : Lost s) (hc : CoupledInv s) {e : SledEvent} (hstep : sledStep s e = .ok t) :
    Lost t := by
  have hsame : ∀ {v : Sled}, Inside s v → v.intf.readEvent = s.intf.readEvent :=
    fun hv => hv.sameDevice.readEvent
  have hself := Inside.refl s
  cases sledStep_effect hstep with
  | skip => exact h
  | report _ ht =>
    have hmoves := moves_tpdo ht
    exact h.moves hmoves (hsame (hself.moves hmoves fun _ _ he => he.intf))
      (hmoves.env_rel SledEnv.SameProfiles.refl fun _ _ _ => .trans).net
  | watchdog ht =>
    exact h.netEvent hc.linked (.inr (.inr (.inr rfl))) (fun hno => absurd rfl hno)
      (hsame (hself.netEvent ht)) ht
  | @nmt v state now he ht =>
    have hheard : s.intf.readEvent = true := by
      unfold SledEvent.nmtState? at he
      split at he
      · split at he
        · next hmsg => simp_all
        · cases he
      · cases he
    have hv : Lost v := by
      obtain rfl | ⟨event, -, hext, ht⟩ := raiseNmt_ok ht
      · exact h
      · exact h.netEvent hc.linked hext (fun _ => hheard) (hsame (hself.netEvent ht)) ht
    exact ⟨hv.down, hv.cut⟩
  | close hclose =>
    obtain ⟨intf, rfl, hread⟩ | ⟨-, intf, hread, ht⟩ := intfCloseSled_ok hclose
    · exact ⟨h.down, .inl hread⟩
    · have hlinked : Linked (((s.setIntfState .closing).withIntf intf).setIntfState .closed) :=
        ⟨hc.linked.sdo_net, hc.linked.net_sdo, hc.linked.ds_net, hc.linked.mp_ds,
          hc.linked.no_uploadconfig⟩
      obtain ⟨hnet, -⟩ := mchNetHandleEvent_env ht hlinked
      have hdeaf := ((Inside.refl _).netEvent ht).sameDevice.readEvent
      refine ⟨?_, .inl (hdeaf.trans hread)⟩
      rw [hnet]
      generalize (Host.setIntfState _ _).env.mchNet = n
      cases n <;> decide
  | write _ hw =>
    obtain ⟨sdo, v, u, -, -, -, -, hv, hu, rfl⟩ := mchSdoWriteCallback_sled hw
    obtain ⟨hnet, hsdo⟩ := write_effect hc.linked.no_uploadconfig hv hu
    exact h.response (hsame (hself.write hw)) hnet hsdo
  | read _ hr =>
    obtain ⟨sdo, -, -, -, -, rfl⟩ := mchSdoReadCallback_sled hr
    refine h.response (hsame (hself.log _).clearActive.proceed) (.inl (by simp)) fun hoff => ?_
    rw [proceed_of_off (by simpa using hoff)]
    exact ⟨rfl, rfl⟩
  | abort _ ha =>
    obtain ⟨sdo, -, -, -, -, rfl⟩ := mchSdoAbortCallback_sled ha
    refine h.response (hsame (hself.log _).clearActive.fail) (.inl (by simp)) fun hoff => ?_
    rw [fail_of_off (by simpa using hoff)]
    exact ⟨rfl, rfl⟩
  | call _ hcall =>
    have hmoves := moves_call hcall
    exact h.moves hmoves (hsame (hself.moves hmoves fun _ _ he => he.intf))
      (hmoves.env_rel SledEnv.SameModes.refl fun _ _ _ => .trans).net

end Lost

/-! ## The way back -/

/-- What the drive can do for the network: report its state, confirm the outstanding request, or
stay silent until the watchdog expires. -/
inductive Helps (s : Sled) : SledEvent → Prop
  | report (o : CanOutcome) (now : ℚ) (status : ℤ) {state : UInt8}
      (h : state = 0x04 ∨ state = 0x05 ∨ state = 0x7F) :
      Helps s (.read o now (.message (nmtReport state) status))
  | confirm (o : CanOutcome) (now : ℚ) (status : ℤ) {r : Sdo sledClient}
      (h : s.mchSdo.sdoActive = some r) (unused : Fin 4) (value : UInt32) :
      Helps s (.read o now (.message (r.response (.accept unused value)) status))
  | watchdog (now : ℚ) : Helps s (.watchdog now)

/-- The drive can bring the network machine to `ST_NET_OPERATIONAL`, and the process survives it. -/
def Recovers (s : Sled) : Prop :=
  ∃ es t, Guarded sledStep Helps s es ∧ run sledStep s es = .ok t ∧ t.env.mchNet = .operational

lemma Recovers.of_step {s t : Sled} {e : SledEvent} (he : Helps s e) (hstep : sledStep s e = .ok t)
    (h : Recovers t) : Recovers s := by
  obtain ⟨es, u, hes, hrun, hu⟩ := h
  refine ⟨e :: es, u, ⟨he, fun v hv => ?_⟩, run_cons_ok.mpr ⟨t, hstep, hrun⟩, hu⟩
  rw [hstep] at hv
  cases hv
  exact hes

/-- What is known of a state that the sled can reach and in which the bus is read. -/
structure Online (s : Sled) : Prop where
  coupled : CoupledInv s
  config : ConfigInv s
  hears : Hears true s

namespace Online

variable {s : Sled}

/-- A report of the network that does not end the process. -/
lemma report (h : Online s) {state : UInt8} {event : MchNetEvent}
    (hstate : state = 0x04 ∨ state = 0x05 ∨ state = 0x7F) (hevent : nmtEvent? state = some event)
    (hok : ¬ (s.env.mchNet.SwitchesOn event ∧ s.Fatal)) :
    ∃ t, sledStep s (frame (nmtReport state)) = .ok t ∧ Online t ∧
      t.env.mchNet = mchNetNextStateGivenEvent s.env.mchNet event := by
  have hreport : (frame (nmtReport state)).nmtState? s = some state := by
    have hmask : state &&& 0x7F = state := by
      obtain rfl | rfl | rfl := hstate <;> decide
    simp [frame, SledEvent.nmtState?, h.hears.readEvent, h.hears.fd, nmtReport, hmask]
  obtain ⟨now, hstep⟩ := sledStep_of_nmt hreport
  rw [intfOnNmt, raiseNmt, hevent] at hstep
  cases hv : mchNetHandleEvent event s with
  | error d =>
    obtain ⟨-, hbad⟩ := mchNetHandleEvent_error.mp hv
    exact absurd hbad hok
  | ok v =>
    simp only [hv, ok_bind] at hstep
    refine ⟨_, hstep, ⟨h.coupled.step hstep, h.config.step h.coupled.linked hstep, ?_⟩, ?_⟩
    · exact (h.hears.netEvent hv).of_eq rfl rfl
    · exact (mchNetHandleEvent_env hv h.coupled.linked).1

/-- The confirmation of a request of the configuration is taken without an assertion failing. -/
lemma sledStep_confirm (h : Online s) {done rest : List (Sdo sledClient)} {cur : Sdo sledClient}
    (hup : Upload s done cur rest) :
    ∃ t, sledStep s (frame (cur.response (.accept 0 0))) = .ok t ∧
      mchSdoWriteCallback sledCallbacks cur.index cur.subindex s = .ok t := by
  have hreq := hup.requests
  rw [List.map_append, List.map_cons] at hreq
  obtain ⟨hw, -, hlast, hmore⟩ := Upload.requests_spec hreq
  have hslot : s.intf.writeCallback = true := (h.hears.slots rfl cur hup.active).1.trans hw
  have hstep : sledStep s (frame (cur.response (.accept 0 0))) =
      mchSdoWriteCallback sledCallbacks cur.index cur.subindex s := by
    rw [frame, sledStep_response h.hears.readEvent (h.hears.fd rfl), Sdo.response, if_pos hw,
      intfDispatchMsg_writeResponse, if_pos hslot]
  rw [hstep]
  cases ht : mchSdoWriteCallback sledCallbacks cur.index cur.subindex s with
  | ok t => exact ⟨t, rfl, rfl⟩
  | error d =>
    refine absurd ht ?_
    unfold mchSdoWriteCallback
    simp only [hup.active, hw, beq_self_eq_true, assert_true, ok_bind,
      mchSdoHandleEvent_writeResponse]
    refine bind_ne_error ?_ (by simp)
    unfold Callbacks.write
    cases rest with
    | nil =>
      rw [hlast rfl]
      exact mchNetHandleEvent_ne_error (by simp) (by simp) _ _
    | cons r rest => simp [hmore]

/-- The confirmation of a request of the configuration: the upload goes on, or it is complete. -/
lemma confirm (h : Online s) {done rest : List (Sdo sledClient)} {cur : Sdo sledClient}
    (hup : Upload s done cur rest) (hpre : s.env.mchNet = .preoperational) :
    ∃ t, sledStep s (frame (cur.response (.accept 0 0))) = .ok t ∧ Online t ∧
      ((∃ r rest', rest = r :: rest' ∧ t.env.mchNet = .preoperational ∧
        Upload t (done ++ [cur]) r rest') ∨
      (t.env.mchNet = .startremotenode ∧ ¬ t.Fatal)) := by
  obtain ⟨t, hstep, hwrite⟩ := h.sledStep_confirm hup
  refine ⟨t, hstep, ⟨h.coupled.step hstep, h.config.step h.coupled.linked hstep,
    h.hears.write hwrite⟩, ?_⟩
  obtain hnext | ⟨-, hstart, -⟩ := ConfigInv.confirm hup hpre hwrite
  · exact .inl hnext
  · refine .inr ⟨hstart, fun hf => hf.1 ?_⟩
    obtain ⟨sdo, v, u, -, -, -, -, hv, hu, rfl⟩ := mchSdoWriteCallback_sled hwrite
    have hsame : SameSdo s u.clearActive := .of_eq (by
      rw [Host.clearActive_state, Lost.write_mchSdo hv hu])
    exact hsame.proceed.enabled.mpr (.inr hup.state)

/-- A network machine that has started the node only waits for its report. -/
lemma recovers_of_startremotenode (h : Online s) (hn : s.env.mchNet = .startremotenode)
    (hf : ¬ s.Fatal) : Recovers s := by
  obtain ⟨t, hstep, -, hnet⟩ := h.report (.inr (.inl rfl)) rfl fun hbad => hf hbad.2
  rw [hn] at hnet
  exact .of_step (.report _ _ _ (.inr (.inl rfl))) hstep ⟨[], t, trivial, rfl, hnet⟩

/-- An upload can be completed, one confirmation after the other. -/
lemma recovers_of_upload {rest : List (Sdo sledClient)} :
    ∀ {s : Sled} {done : List (Sdo sledClient)} {cur : Sdo sledClient}, Online s →
      Upload s done cur rest → s.env.mchNet = .preoperational → Recovers s := by
  induction rest with
  | nil =>
    intro s done cur h hup hpre
    obtain ⟨t, hstep, ht, ⟨r, rest', hbad, -⟩ | ⟨hn, hf⟩⟩ := h.confirm hup hpre
    · cases hbad
    · exact .of_step (.confirm _ _ _ hup.active _ _) hstep (ht.recovers_of_startremotenode hn hf)
  | cons r rest ih =>
    intro s done cur h hup hpre
    obtain ⟨t, hstep, ht, hnext⟩ := h.confirm hup hpre
    refine .of_step (.confirm _ _ _ hup.active _ _) hstep ?_
    obtain ⟨q, rest', heq, hpre', hup'⟩ | ⟨hn, hf⟩ := hnext
    · cases heq
      exact ih ht hup' hpre'
    · exact ht.recovers_of_startremotenode hn hf

/-- A network machine that waits for the pre-operational state starts the upload when it comes. -/
lemma recovers_of_waiting (h : Online s)
    (hn : s.env.mchNet = .unknown ∨ s.env.mchNet = .enterpreoperational) (hf : ¬ s.Fatal) :
    Recovers s := by
  obtain ⟨t, hstep, ht, hnet⟩ := h.report (.inr (.inr rfl)) rfl fun hbad => hf hbad.2
  have hpre : t.env.mchNet = .preoperational := by
    rw [hnet]
    obtain hn | hn := hn <;> rw [hn] <;> rfl
  obtain ⟨done, cur, rest, hup⟩ := ht.config.uploading hpre
  exact .of_step (.report _ _ _ (.inr (.inr rfl))) hstep (recovers_of_upload ht hup hpre)

end Online

lemma not_recovers_of_lost {s : Sled} (h : Lost s) (hc : CoupledInv s) : ¬ Recovers s := by
  rintro ⟨es, t, -, hrun, hnet⟩
  have hinv : CoupledInv t ∧ Lost t :=
    run_invariant (I := fun t => CoupledInv t ∧ Lost t)
      (fun _ _ _ hs hstep => ⟨hs.1.step hstep, hs.2.step hs.1 hstep⟩) ⟨hc, h⟩ hrun
  exact hinv.2.down hnet

lemma not_fatal_iff (s : Sled) :
    ¬ s.Fatal ↔ s.mchSdo.state.Enabled ∨ ∀ r ∈ s.mchSdo.sdoQueue, r.abortCallback = none := by
  unfold Host.Fatal
  push Not
  exact ⟨fun h => or_iff_not_imp_left.mpr h, fun h hoff => h.resolve_left hoff⟩

/-- **When the network can recover.**  From a reachable state with the interface machine open, the
drive can bring the network machine to `ST_NET_OPERATIONAL` with its reports and confirmations
exactly if it is there already, or the bus is read, the network machine is not in
`ST_NET_STOPPED`, and the SDO machine is on or can be switched on without ending the process. -/
theorem recovers_iff {mem : SledEnv} {now : ℚ} {o : CanOutcome} {es : List SledEvent} {s : Sled}
    (h : sledRun mem now o es = .ok s) (hopen : s.env.mchIntf = .opened) :
    Recovers s ↔ s.env.mchNet = .operational ∨
      (s.intf.readEvent = true ∧ s.env.mchNet ≠ .stopped ∧
        (s.mchSdo.state.Enabled ∨ ∀ r ∈ s.mchSdo.sdoQueue, r.abortCallback = none)) := by
  have hc := coupledInv_run h
  have hconfig := configInv_run h
  obtain ⟨b, hb⟩ := hears_run h
  have hup : s.env.mchNet ≠ .disabled := hc.net_intf.mpr hopen
  have hfatal : s.env.mchNet = .preoperational → ¬ s.Fatal := by
    intro hpre hf
    obtain ⟨done, cur, rest, hup⟩ := hconfig.uploading hpre
    exact hf.1 (.inr hup.state)
  rw [← not_fatal_iff]
  constructor
  · intro hrec
    by_contra hno
    push Not at hno
    obtain ⟨hdown, hlost⟩ := hno
    refine not_recovers_of_lost ⟨hdown, ?_⟩ hc hrec
    by_cases hread : s.intf.readEvent = true
    · by_cases hstopped : s.env.mchNet = .stopped
      · exact .inr (.inl hstopped)
      · have hf := hlost hread hstopped
        refine .inr (.inr ⟨hf, ?_⟩)
        have hpre : s.env.mchNet ≠ .preoperational := fun hpre => hfatal hpre hf
        have hconf := hc.linked.no_uploadconfig
        cases hn : s.env.mchNet <;> simp_all
    · exact .inl (by simpa using hread)
  · rintro (hop | ⟨hread, hstopped, hf⟩)
    · exact ⟨[], s, trivial, rfl, hop⟩
    · have hon : Online s := ⟨hc, hconfig, hread ▸ hb.readEvent ▸ hb⟩
      cases hn : s.env.mchNet with
      | disabled => exact absurd hn hup
      | unknown => exact hon.recovers_of_waiting (.inl hn) hf
      | stopped => exact absurd hn hstopped
      | preoperational =>
        obtain ⟨done, cur, rest, hupload⟩ := hconfig.uploading hn
        exact Online.recovers_of_upload hon hupload hn
      | operational => exact ⟨[], s, trivial, rfl, hn⟩
      | enterpreoperational => exact hon.recovers_of_waiting (.inr hn) hf
      | uploadconfig => exact absurd hn hc.linked.no_uploadconfig
      | startremotenode => exact hon.recovers_of_startremotenode hn hf

/-- The network and the drive come up, and then nothing is heard of the drive for ten seconds. -/
def networkLost : List SledEvent := networkUp ++ driveUp ++ [.watchdog 10]

lemma networkLost_run : ∃ s, sledRun someMemory 0 ⟨.success, true⟩ networkLost = .ok s ∧
    s.env.mchIntf = .opened ∧ s.env.mchNet = .unknown ∧ s.intf.readEvent = true ∧
    s.mchSdo.sdoQueue = [] := by
  obtain ⟨s, hs, h⟩ := exists_of_okAnd
    (p := fun s : Sled => s.env.mchIntf == .opened && s.env.mchNet == .unknown &&
      s.intf.readEvent && s.mchSdo.sdoQueue.isEmpty)
    (x := sledRun someMemory 0 ⟨.success, true⟩ networkLost) (by decide +kernel)
  simp only [Bool.and_eq_true, beq_iff_eq, List.isEmpty_iff] at h
  obtain ⟨⟨⟨hopen, hnet⟩, hread⟩, hqueue⟩ := h
  exact ⟨s, hs, hopen, hnet, hread, hqueue⟩

/-- The network can be brought back. -/
theorem recovers_after_loss :
    ∃ s, sledRun someMemory 0 ⟨.success, true⟩ networkLost = .ok s ∧ s.env.mchIntf = .opened ∧
      s.env.mchNet = .unknown ∧ Recovers s := by
  obtain ⟨s, hs, hopen, hnet, hread, hqueue⟩ := networkLost_run
  refine ⟨s, hs, hopen, hnet, (recovers_iff hs hopen).mpr (.inr ⟨hread, by simp [hnet], .inr ?_⟩)⟩
  simp [hqueue]

/-- The drive reports that it is stopped.  The network machine answers with the command to start,
and takes no notice of the reports that follow. -/
theorem stopped_for_good :
    ∃ s, sledRun someMemory 0 ⟨.success, true⟩ [frame (nmtReport 0x04)] = .ok s ∧
      s.env.mchIntf = .opened ∧ ¬ Recovers s := by
  obtain ⟨s, hs, h⟩ := exists_of_okAnd
    (p := fun s : Sled => s.env.mchIntf == .opened && s.env.mchNet == .stopped)
    (x := sledRun someMemory 0 ⟨.success, true⟩ [frame (nmtReport 0x04)]) (by decide +kernel)
  simp only [Bool.and_eq_true, beq_iff_eq] at h
  exact ⟨s, hs, h.1, not_recovers_of_lost ⟨by simp [h.2], .inr (.inl h.2)⟩ (coupledInv_run hs)⟩

end SledServer
