import Mathlib.Algebra.Order.Field.Rat
import Mathlib.Tactic.Linarith
import SledServer.Drive.Frames
import SledServer.Sled.Contents
import SledServer.Sled.Coupling
import SledServer.Sled.Halts
import SledServer.Sled.Inside

/-!
# Contact with the drive

The drive repeats the state of its network node, and a watchdog takes the network machine out of
`ST_NET_OPERATIONAL` when it has not been heard for too long.  As long as the watchdog expires in
time, the sled is therefore only operational while the drive has been heard lately
(`heard_lately`).

The interface is opened once, in `sled_create`.  After that it can only be closed, and then the
process has lost the drive for good: it is quiet, and refuses whatever takes a drive
(`quiet_for_good`).
-/

namespace SledServer

open SledServer.Core

/-! ## The last message -/

namespace SledEvent

/-- When the event brings a message of the network, the time of the message. -/
def heardAt? (s : Sled) (e : SledEvent) : Option ℚ :=
  match e with
  | .read _ now _ => (e.nmtState? s).map fun _ => now
  | _ => none

end SledEvent

/-- The states that the watchdog ends. -/
def MchNetState.Watched (n : MchNetState) : Prop := n = .operational ∨ n = .preoperational

section Events

variable {s s' : Sled} {e : SledEvent}

/-- The time of the last message is as before. -/
def SameContact (s s' : Sled) : Prop := s'.env.timeLastNmtMsg = s.env.timeLastNmtMsg

lemma contact_dsMove (s : Sled) (event : MchDsEvent) : SameContact s (s.dsMove event) := by
  by_cases h : mchDsNextStateGivenEvent s.env.mchDs event = s.env.mchDs
  · rw [dsMove_of_stay h]
    rfl
  · rw [SameContact, dsMove_env_of_ne s event h]

lemma contact_tpdo {now : ℚ} {pdo : ℕ} {data : Vector UInt8 8}
    (h : intfOnTpdo now pdo data s = .ok s') : SameContact s s' := by
  by_cases hpdo : pdo = 1
  · subst hpdo
    rw [intfOnTpdo_one] at h
    cases h
    have hds :
        SameContact s ((dsEvents (statusWord data)).foldl (fun s event => s.dsMove event) s) :=
      foldl_keeps (P := SameContact s) rfl fun t event _ ht => (contact_dsMove t event).trans ht
    refine foldl_keeps (P := SameContact s) hds fun t event _ ht => ?_
    rwa [SameContact, mpMove_env]
  · unfold intfOnTpdo at h
    rw [if_neg hpdo] at h
    split at h <;> cases h <;> rfl

lemma contact_netEnter (h : NetEnter s s') : SameContact s s' := by
  cases h with
  | disabled | unknown | stopped => simp [SameContact, Host.sendNmt]
  | startremotenode | enterpreoperational => rfl
  | uploadconfig => simp [SameContact]
  | @operational t _ ht =>
    have hreset : SameContact t t.resetProfiles := rfl
    exact (contact_dsMove _ _).trans (hreset.trans (congrArg SledEnv.timeLastNmtMsg ht.env))
  | preoperational _ ht => simp [SameContact, ht.env]

lemma contact_netEvent {event : MchNetEvent} (h : mchNetHandleEvent event s = .ok s') :
    SameContact s s' := by
  obtain ⟨-, rfl⟩ | ⟨-, henter⟩ := mchNetHandleEvent_ok h
  · rfl
  · refine (contact_netEnter henter).trans ?_
    change s.netLeave.env.timeLastNmtMsg = _
    unfold Host.netLeave
    split
    · exact contact_dsMove s _
    · rfl

lemma contact_write {index : UInt16} {subindex : UInt8}
    (h : mchSdoWriteCallback sledCallbacks index subindex s = .ok s') : SameContact s s' := by
  obtain ⟨sdo, t, u, -, -, -, -, ht, hu, rfl⟩ := mchSdoWriteCallback_sled h
  have henv : t.env = s.env := by
    obtain rfl | ⟨call, rfl⟩ := ht <;> rfl
  rw [SameContact, Host.proceed_env, Host.clearActive_env, ← henv]
  cases hu <;> rfl

lemma keptByCalls_contact (x : ℚ) : KeptByCalls fun s => s.env.timeLastNmtMsg = x where
  edit _ _ _ hs := hs
  visit _ _ hs := hs
  launch _ _ _ hs := by rwa [launched_env]
  light _ _ hs := by rwa [Host.push_env]

/-- A message of the network is dispatched. -/
lemma sledStep_heardAt {now : ℚ} (he : e.heardAt? s = some now) :
    ∃ state, sledStep s e = intfOnNmt now state s := by
  cases e with
  | watchdog | call => simp [SledEvent.heardAt?] at he
  | read o t r =>
    simp only [SledEvent.heardAt?, Option.map_eq_some_iff] at he
    obtain ⟨state, hstate, rfl⟩ := he
    cases r with
    | empty | error => simp [SledEvent.nmtState?] at hstate
    | message msg status =>
      simp only [SledEvent.nmtState?] at hstate
      split at hstate
      case isFalse => cases hstate
      case isTrue h =>
        simp only [Bool.and_eq_true, beq_iff_eq] at h
        obtain ⟨⟨⟨hread, hfd⟩, htype⟩, hfunction⟩ := h
        refine ⟨firstByte msg.data &&& 0x7F, ?_⟩
        simp [sledStep, intfOnRead, intfDispatchMsg, hread, hfd, htype, hfunction]

/-- Only a message of the network changes the time of the last one, or makes the network machine
one that the watchdog looks after. -/
lemma contact_step (he : e.heardAt? s = none) (h : sledStep s e = .ok s') (hc : Linked s) :
    SameContact s s' ∧ (s'.env.mchNet.Watched → s.env.mchNet.Watched) := by
  cases sledStep_effect h with
  | skip => exact ⟨rfl, id⟩
  | report _ ht =>
    have hnet := ((moves_tpdo ht).env_rel SledEnv.SameProfiles.refl fun _ _ _ => .trans).net
    exact ⟨contact_tpdo ht, hnet ▸ id⟩
  | watchdog ht =>
    refine ⟨contact_netEvent ht, ?_⟩
    rw [(mchNetHandleEvent_env ht hc).1]
    unfold MchNetState.Watched
    cases s.env.mchNet <;> decide
  | @nmt v state now hstate ht =>
    cases e with
    | watchdog | call => simp [SledEvent.nmtState?] at hstate
    | read o t r => simp [SledEvent.heardAt?, hstate] at he
  | close hclose =>
    obtain ⟨intf, rfl, -⟩ | ⟨-, intf, -, ht⟩ := intfCloseSled_ok hclose
    · exact ⟨rfl, id⟩
    · have hlinked : Linked (((s.setIntfState .closing).withIntf intf).setIntfState .closed) :=
        ⟨hc.sdo_net, hc.net_sdo, hc.ds_net, hc.mp_ds, hc.no_uploadconfig⟩
      have hsame :
          SameContact (((s.setIntfState .closing).withIntf intf).setIntfState .closed) s' :=
        contact_netEvent ht
      refine ⟨hsame, ?_⟩
      rw [(mchNetHandleEvent_env ht hlinked).1, mchNet_intfClosed]
      rintro (h | h) <;> cases h
  | write _ hw =>
    refine ⟨contact_write hw, ?_⟩
    obtain ⟨sdo, v, u, -, -, -, -, hv, hu, rfl⟩ := mchSdoWriteCallback_sled hw
    have henv : v.env = s.env := by
      obtain rfl | ⟨call, rfl⟩ := hv <;> rfl
    rw [Host.proceed_env, Host.clearActive_env]
    cases hu with
    | silent | lateUpload => exact henv ▸ id
    | field => exact fun h => henv ▸ h
    | upload =>
      rintro (h | h) <;> cases h
  | read _ hr =>
    obtain ⟨sdo, -, -, -, -, rfl⟩ := mchSdoReadCallback_sled hr
    simp [SameContact]
  | abort _ ha =>
    obtain ⟨sdo, -, -, -, -, rfl⟩ := mchSdoAbortCallback_sled ha
    simp [SameContact]
  | call _ hcall =>
    have hnet := ((moves_call hcall).env_rel SledEnv.SameModes.refl fun _ _ _ => .trans).net
    exact ⟨(keptByCalls_contact _).call rfl hcall, hnet ▸ id⟩

end Events

/-! ## The watchdog -/

/-- The times of the last event and of the last expiry of the watchdog. -/
structure Clock where
  latest : ℚ
  checked : ℚ

/-- The clock after an event; calls take no time. -/
def Clock.tick (c : Clock) : SledEvent → Clock
  | .read _ now _ => ⟨now, c.checked⟩
  | .watchdog now => ⟨now, now⟩
  | .call _ => c

/-- Time does not run backwards, and the watchdog does not let more than `period` pass between its
expiries. -/
def Clock.Allows (period : ℚ) (c : Clock) : SledEvent → Prop
  | .read _ now _ | .watchdog now => c.latest ≤ now ∧ now ≤ c.checked + period
  | .call _ => True

/-- The clock after some events. -/
def Clock.after (c : Clock) (es : List SledEvent) : Clock := es.foldl Clock.tick c

/-- The watchdog expires in time. -/
def Punctual (period : ℚ) : Clock → List SledEvent → Prop
  | _, [] => True
  | c, e :: es => c.Allows period e ∧ Punctual period (c.tick e) es

instance (period : ℚ) (c : Clock) (e : SledEvent) : Decidable (c.Allows period e) := by
  unfold Clock.Allows
  split <;> infer_instance

instance Punctual.decidable (period : ℚ) :
    ∀ (c : Clock) (es : List SledEvent), Decidable (Punctual period c es)
  | _, [] => isTrue trivial
  | c, e :: es =>
    haveI := Punctual.decidable period (c.tick e) es
    inferInstanceAs (Decidable (_ ∧ _))

lemma punctual_append {period : ℚ} {es fs : List SledEvent} : ∀ {c : Clock},
    Punctual period c (es ++ fs) ↔ Punctual period c es ∧ Punctual period (c.after es) fs := by
  induction es with
  | nil => simp [Punctual, Clock.after]
  | cons e es ih =>
    intro c
    simp only [List.cons_append, Punctual, ih, and_assoc]
    rfl

/-- The times at which the network was heard, oldest first. -/
def heard (s : Sled) (es : List SledEvent) : List ℚ :=
  observed sledStep (fun s e => e.heardAt? s) s es

/-- What is known of the last message when the watchdog is heeded. -/
structure Lately (period : ℚ) (c : Clock) (times : List ℚ) (s : Sled) : Prop where
  last : times.getLast? = some s.env.timeLastNmtMsg
  checked : c.checked ≤ s.env.timeLastNmtMsg + 2
  latest : c.latest ≤ c.checked + period

/-- What is known of the clock and of the last message in the course of a run. -/
structure InContact (period : ℚ) (c : Clock) (times : List ℚ) (s : Sled) : Prop where
  coupled : CoupledInv s
  order : c.checked ≤ c.latest
  lately : s.env.mchNet.Watched → Lately period c times s

/-- The watchdog finds that the drive has been heard, or ends the state. -/
lemma watchdog_watched {s s' : Sled} {now : ℚ} (hc : Linked s)
    (h : sledStep s (.watchdog now) = .ok s') (hw : s'.env.mchNet.Watched) :
    now ≤ s.env.timeLastNmtMsg + 2 := by
  by_contra hlate
  simp only [sledStep, nmtWatchdog] at h
  rw [if_pos (by linarith)] at h
  rw [(mchNetHandleEvent_env h hc).1] at hw
  unfold MchNetState.Watched at hw
  revert hw
  cases s.env.mchNet <;> decide

lemma InContact.step {period : ℚ} {c : Clock} {times : List ℚ} {s s' : Sled} {e : SledEvent}
    (h : InContact period c times s) (he : c.Allows period e) (hstep : sledStep s e = .ok s') :
    InContact period (c.tick e) (times ++ (e.heardAt? s).toList) s' := by
  refine ⟨h.coupled.step hstep, ?_, fun hw => ?_⟩
  · cases e with
    | read o now r => exact h.order.trans he.1
    | watchdog now => exact le_rfl
    | call c => exact h.order
  · cases hheard : e.heardAt? s with
    | some now =>
      -- A message has just been read, so it is the last one.
      obtain ⟨state, hnmt⟩ := sledStep_heardAt hheard
      rw [hnmt] at hstep
      obtain ⟨t, -, hstep⟩ := bind_eq_ok.mp hstep
      cases hstep
      have hread : ∃ o r, e = .read o now r := by
        cases e with
        | watchdog | call => simp [SledEvent.heardAt?] at hheard
        | read o t r =>
          simp only [SledEvent.heardAt?, Option.map_eq_some_iff] at hheard
          obtain ⟨-, -, rfl⟩ := hheard
          exact ⟨o, r, rfl⟩
      obtain ⟨o, r, rfl⟩ := hread
      have horder := h.order
      have hnow : c.latest ≤ now := he.1
      refine ⟨by simp, ?_, he.2⟩
      change c.checked ≤ now + 2
      linarith
    | none =>
      obtain ⟨hsame, hwatched⟩ := contact_step hheard hstep h.coupled.linked
      obtain ⟨hlast, hchecked, hlatest⟩ := h.lately (hwatched hw)
      have htime : s'.env.timeLastNmtMsg = s.env.timeLastNmtMsg := hsame
      refine ⟨by simpa [htime] using hlast, ?_, ?_⟩
      · rw [htime]
        cases e with
        | read | call => exact hchecked
        | watchdog now => exact watchdog_watched h.coupled.linked hstep hw
      · cases e with
        | read o now r => exact he.2
        | watchdog now =>
          have hnow : c.latest ≤ now ∧ now ≤ c.checked + period := he
          have horder := h.order
          change now ≤ now + period
          linarith
        | call c => exact hlatest

/-- Nothing has been heard at the start. -/
lemma inContact_sledCreate {mem : SledEnv} {now period : ℚ} {o : CanOutcome} {s : Sled}
    (h : sledCreate mem now o = .ok s) : InContact period ⟨now, now⟩ [] s := by
  refine ⟨coupledInv_sledCreate h, le_rfl, fun hw => ?_⟩
  obtain ⟨-, ⟨hnet, -⟩ | ⟨hnet, -⟩⟩ := sledCreate_linked h <;>
    obtain hw | hw := hw <;> rw [hnet] at hw <;> cases hw

/-- **The sled is operational only while the drive has been heard lately.**  If the watchdog expires
at least every `period` seconds (every three, by `sled_create`), then in every state of a run in
which the network machine is in `ST_NET_OPERATIONAL` or `ST_NET_PREOPERATIONAL` there has been a
message of the network, not more than two seconds before the last expiry of the watchdog, and so
not more than `2 + period` seconds ago. -/
theorem heard_lately {mem : SledEnv} {now period : ℚ} {o : CanOutcome} {es : List SledEvent}
    {s₀ s : Sled} (hstart : sledCreate mem now o = .ok s₀) (hrun : run sledStep s₀ es = .ok s)
    (hpunctual : Punctual period ⟨now, now⟩ es) (hnet : s.env.mchNet.Watched) :
    ∃ t ∈ (heard s₀ es).getLast?, (Clock.after ⟨now, now⟩ es).checked ≤ t + 2 ∧
      (Clock.after ⟨now, now⟩ es).latest ≤ t + (2 + period) := by
  have hcontact : InContact period (Clock.after ⟨now, now⟩ es) (heard s₀ es) s := by
    clear hnet
    induction es using List.reverseRecOn generalizing s with
    | nil =>
      cases hrun
      exact inContact_sledCreate hstart
    | append_singleton es e ih =>
      obtain ⟨t, ht, hlast⟩ := run_append_ok.mp hrun
      obtain ⟨u, hu, hs⟩ := run_cons_ok.mp hlast
      cases hs
      obtain ⟨hpre, hallows, -⟩ := punctual_append.mp hpunctual
      rw [heard, observed_concat ht, Clock.after, List.foldl_append]
      exact (ih ht hpre).step hallows hu
  obtain ⟨hlast, hchecked, hlatest⟩ := hcontact.lately hnet
  exact ⟨_, hlast, hchecked, by linarith⟩

/-- The network has come up, and the drive repeats that it is operational.  The watchdog expires
every three seconds. -/
def repeating : List SledEvent :=
  networkUp ++ [.read ⟨.success, true⟩ 2 (.message (nmtReport 0x05) 0), .watchdog 3,
    .read ⟨.success, true⟩ 4 (.message (nmtReport 0x05) 0), .watchdog (11 / 2)]

theorem heard_lately_repeating :
    ∃ s₀ s, sledCreate someMemory 0 ⟨.success, true⟩ = .ok s₀ ∧ run sledStep s₀ repeating = .ok s ∧
      s.env.mchNet.Watched ∧
      ∃ t ∈ (heard s₀ repeating).getLast?, (Clock.after ⟨0, 0⟩ repeating).checked ≤ t + 2 ∧
        (Clock.after ⟨0, 0⟩ repeating).latest ≤ t + (2 + 3) := by
  obtain ⟨s, hs, hop⟩ := exists_of_okAnd (p := fun s : Sled => s.env.mchNet == .operational)
    (x := sledRun someMemory 0 ⟨.success, true⟩ repeating) (by decide +kernel)
  obtain ⟨s₀, hs₀, hrun⟩ := sledRun_ok.mp hs
  have hnet : s.env.mchNet.Watched := .inl (by simpa using hop)
  exact ⟨s₀, s, hs₀, hrun, hnet, heard_lately hs₀ hrun (by decide +kernel) hnet⟩

/-! ## A closed interface -/

/-- The machines are off. -/
structure Off (s : Sled) : Prop where
  net : s.env.mchNet = .disabled
  ds : s.env.mchDs = .disabled
  mp : s.env.mchMp = .disabled
  sdo : ¬ s.mchSdo.state.Enabled

lemma CoupledInv.off {s : Sled} (h : CoupledInv s) (hintf : s.env.mchIntf ≠ .opened) : Off s := by
  have hnet : s.env.mchNet = .disabled := by
    by_contra hnet
    exact hintf (h.net_intf.mp hnet)
  have hds : s.env.mchDs = .disabled := by
    by_contra hds
    rw [h.linked.ds_net.mp hds] at hnet
    cases hnet
  have hmp : s.env.mchMp = .disabled := by
    by_contra hmp
    rw [h.linked.mp_ds.mp hmp] at hds
    cases hds
  refine ⟨hnet, hds, hmp, fun hsdo => ?_⟩
  have htalks := h.linked.sdo_net hsdo
  rw [hnet] at htalks
  obtain h | h | h := htalks <;> cases h

/-- An interface that could not be opened is not read. -/
lemma Intf.tryOpen_deaf {o : CanOutcome} (h : (intfCreate.tryOpen o).1 ≠ 0) :
    (intfCreate.tryOpen o).2.readEvent = false := by
  obtain ⟨outcome, closeOk⟩ := o
  cases outcome with
  | noDevice | openFails => rfl
  | initFails => exact Intf.tryClose_readEvent _ _
  | success => exact absurd rfl h

/-- The interface machine is open, or the bus is not read. -/
def Opened (s : Sled) : Prop := s.env.mchIntf = .opened ∨ s.intf.readEvent = false

lemma opened_sledCreate {mem : SledEnv} {now : ℚ} {o : CanOutcome} {s : Sled}
    (h : sledCreate mem now o = .ok s) : Opened s := by
  have hstores : Stores (fun _ => False) (sledAlloc mem now)
      (sledCreateProfiles (sledAlloc mem now)) := Stores.createProfiles (.refl _)
  have henv := hstores.env_rel SledEnv.SameModes.refl fun _ _ _ => .trans
  rw [sledCreate, mchIntfHandleEvent_open henv.intf, hstores.silent.2] at h
  generalize sledCreateProfiles (sledAlloc mem now) = t at h
  split at h
  · next hfailed =>
    rw [← Except.ok.inj h]
    exact .inr (Intf.tryOpen_deaf hfailed)
  · exact .inl ((Inside.refl _).netEvent h).sameDevice.mchIntf

lemma Opened.step {s s' : Sled} {e : SledEvent} (h : Opened s) (hstep : sledStep s e = .ok s') :
    Opened s' := by
  cases hc : e.closing? s with
  | none =>
    have hsame := (sledStep_inside hc hstep).sameDevice
    rwa [Opened, hsame.mchIntf, hsame.readEvent]
  | some o =>
    rw [(sledStep_closing hc).1] at hstep
    obtain ⟨intf, rfl, hread⟩ | ⟨-, intf, hread, ht⟩ := intfCloseSled_ok hstep
    · exact .inr hread
    · exact .inr (((Inside.refl _).netEvent ht).sameDevice.readEvent.trans hread)

lemma opened_run {mem : SledEnv} {now : ℚ} {o : CanOutcome} {es : List SledEvent} {s : Sled}
    (h : sledRun mem now o es = .ok s) : Opened s := by
  obtain ⟨s₀, hcreate, hrun⟩ := sledRun_ok.mp h
  exact run_invariant (fun _ _ _ hs hstep => hs.step hstep) (opened_sledCreate hcreate) hrun

/-- A shut sled whose machines are coupled. -/
structure Shut (s : Sled) : Prop where
  coupled : CoupledInv s
  intf : s.env.mchIntf ≠ .opened
  deaf : s.intf.readEvent = false

section Shut

variable {s s' : Sled} {e : SledEvent}

/-- A call sends nothing while the SDO machine is off. -/
lemma intf_call {c : SledCall} {r : ℤ × Sled} (h : ¬ s.mchSdo.state.Enabled)
    (hr : sledCall s c = .ok r) : r.2.intf = s.intf := by
  have hsame : r.2.intf = s.intf ∧ r.2.mchSdo.state = s.mchSdo.state := by
    refine (moves_call hr).invariant (I := fun t => t.intf = s.intf ∧
      t.mchSdo.state = s.mchSdo.state) ⟨rfl, rfl⟩ (fun t r _ ht => ?_) (fun _ _ _ ht => ht)
      fun _ _ _ ht => ht
    have hwaiting : t.mchSdo.state ≠ .waiting := fun hw => h (.inl (ht.2 ▸ hw))
    rw [Host.push, if_neg hwaiting]
    exact ht
  exact hsame.1

lemma Shut.off (h : Shut s) : Off s := h.coupled.off h.intf

/-- The watchdog finds nothing to end. -/
lemma Shut.watchdog (h : Shut s) (now : ℚ) : sledStep s (.watchdog now) = .ok s := by
  have hstay : mchNetHandleEvent .watchdogFailed s = .ok s := by
    rw [mchNetHandleEvent_eq, if_pos (by rw [h.off.net]; rfl)]
  simp only [sledStep, nmtWatchdog, hstay, ite_self]

lemma Shut.read (h : Shut s) (o : CanOutcome) (now : ℚ) (r : ReadResult) :
    sledStep s (.read o now r) = .ok s := by
  simp [sledStep, h.deaf]

/-- Only calls do anything, and what they do does not reach the interface. -/
lemma Shut.step (h : Shut s) (hstep : sledStep s e = .ok s') :
    Shut s' ∧ s'.env.mchIntf = s.env.mchIntf ∧ s'.intf = s.intf := by
  have hcoupled := h.coupled.step hstep
  obtain ⟨hmch, hintf⟩ : s'.env.mchIntf = s.env.mchIntf ∧ s'.intf = s.intf := by
    cases e with
    | read o now r =>
      rw [h.read] at hstep
      cases hstep
      exact ⟨rfl, rfl⟩
    | watchdog now =>
      rw [h.watchdog] at hstep
      cases hstep
      exact ⟨rfl, rfl⟩
    | call c =>
      obtain ⟨r, hr, hstep⟩ := bind_eq_ok.mp hstep
      cases hstep
      have henv := (moves_call hr).env_rel SledEnv.SameModes.refl fun _ _ _ => .trans
      exact ⟨henv.intf, intf_call h.off.sdo hr⟩
  refine ⟨⟨hcoupled, ?_, ?_⟩, hmch, hintf⟩
  · rw [hmch]
    exact h.intf
  · rw [hintf]
    exact h.deaf

lemma Shut.step_ne_error (h : Shut s) {d : Halt} (hd : d.Deliberate) :
    sledStep s e ≠ .error d := by
  cases e with
  | read o now r => simp [h.read]
  | watchdog now => simp [h.watchdog]
  | call c => exact bind_ne_error (sledCall_ne_error hd s c) (by simp)

lemma Off.execute (h : Off s) {profile : ℤ} {r : ℤ × Sled}
    (hr : sledProfileExecute profile s = .ok r) : r = (-1, s) := by
  obtain hr | ⟨i, is, -, -, hidle, -, -⟩ := sledProfileExecute_ok hr
  · exact hr
  · rw [h.mp] at hidle
    cases hidle

end Shut

/-- **A sled whose interface is not open stays quiet for good.**  Whatever happens from a reachable
state in which the interface machine is not in `ST_INTF_OPENED`, the process does not end by its own
decision, the interface machine stays as it is, no frame is written, the other machines stay off,
and motions and requests for the position are refused. -/
theorem quiet_for_good {mem : SledEnv} {now : ℚ} {o : CanOutcome} {es : List SledEvent} {s : Sled}
    (h : sledRun mem now o es = .ok s) (hintf : s.env.mchIntf ≠ .opened) (es' : List SledEvent) :
    (∀ d, d.Deliberate → run sledStep s es' ≠ .error d) ∧
    ∀ t, run sledStep s es' = .ok t →
      t.env.mchIntf = s.env.mchIntf ∧ t.intf.written = s.intf.written ∧ Off t ∧
      (∀ profile r, sledProfileExecute profile t = .ok r → r = (-1, t)) ∧
      sledRtGetPosition t = (-1, none) := by
  have hshut : Shut s := ⟨coupledInv_run h, hintf, (opened_run h).resolve_left hintf⟩
  constructor
  · intro d hd
    have hguard : Guarded sledStep (fun _ _ => True) s es' :=
      guarded_of_forall (fun _ _ => trivial) _ _
    exact hguard.ne_error (I := Shut) (fun _ _ _ hs _ hstep => (hs.step hstep).1)
      (fun _ _ hs _ => hs.step_ne_error hd) hshut
  · intro t ht
    have hinv : Shut t ∧ t.env.mchIntf = s.env.mchIntf ∧ t.intf = s.intf := by
      refine run_invariant (I := fun t => Shut t ∧ t.env.mchIntf = s.env.mchIntf ∧
        t.intf = s.intf) (fun t e u hs hstep => ?_) ⟨hshut, rfl, rfl⟩ ht
      obtain ⟨hu, hmch, hintf⟩ := hs.1.step hstep
      exact ⟨hu, hmch.trans hs.2.1, hintf.trans hs.2.2⟩
    obtain ⟨hend, hmch, hsame⟩ := hinv
    refine ⟨hmch, by rw [hsame], hend.off, fun profile r hr => hend.off.execute hr, ?_⟩
    simp [sledRtGetPosition, hend.off.net]

/-- The device fails while the network is operational, and is not heard any more. -/
theorem quiet_after_failure :
    ∃ s, sledRun someMemory 0 ⟨.success, true⟩
        (networkUp ++ [.read ⟨.success, true⟩ 1 .error]) = .ok s ∧ s.env.mchIntf ≠ .opened ∧
      (∀ d, d.Deliberate →
        run sledStep s [frame (nmtReport 0x7F), .call (.lightSetState true)] ≠ .error d) ∧
      ∀ t, run sledStep s [frame (nmtReport 0x7F), .call (.lightSetState true)] = .ok t →
        t.env.mchIntf = s.env.mchIntf ∧ t.intf.written = s.intf.written ∧ Off t ∧
        (∀ profile r, sledProfileExecute profile t = .ok r → r = (-1, t)) ∧
        sledRtGetPosition t = (-1, none) := by
  obtain ⟨s, hs, hst⟩ := exists_of_okAnd (p := fun s : Sled => s.env.mchIntf != .opened)
    (x := sledRun someMemory 0 ⟨.success, true⟩
      (networkUp ++ [.read ⟨.success, true⟩ 1 .error])) (by decide +kernel)
  have hintf : s.env.mchIntf ≠ .opened := by simpa using hst
  exact ⟨s, hs, hintf, quiet_for_good hs hintf _⟩

end SledServer
