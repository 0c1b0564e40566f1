import SledServer.Drive.Frames
import SledServer.Sled.Steps

/-!
# How the five machines are coupled

The machines start and stop each other: the interface machine the network machine, the network
machine the SDO machine and the drive machine, the drive machine the motion machine.  They do so
in the middle of their own transitions, so the couplings are broken again and again within a step;
`Coupled` holds whenever no handler is running.

The proof follows the order of the machines.  A report of the drive or a call moves the motion
and drive machines only, a report of the network moves the network machine and with it everything
below, and only the interface machine can take the network machine out of `ST_NET_DISABLED`.
-/

namespace SledServer

open SledServer.Core

/-- The states of the network machine in which SDOs can be exchanged. -/
def MchNetState.Talks (n : MchNetState) : Prop :=
  n = .preoperational ∨ n = .startremotenode ∨ n = .operational

/-- The couplings between the five machines. -/
structure Coupled (s : Sled) : Prop where
  net_intf : s.env.mchNet ≠ .disabled ↔ s.env.mchIntf = .opened
  sdo_net : s.mchSdo.state = .waiting ∨ s.mchSdo.state = .sending → s.env.mchNet.Talks
  net_sdo : s.env.mchNet.Talks → s.mchSdo.state ≠ .disabled
  ds_net : s.env.mchDs ≠ .disabled ↔ s.env.mchNet = .operational
  mp_ds : s.env.mchMp ≠ .disabled ↔ s.env.mchDs = .operationEnabled

/-! ## The SDO machine -/

/-- The SDO machine is on, or off, as it was. -/
structure SameSdo (s t : Sled) : Prop where
  enabled : t.mchSdo.state.Enabled ↔ s.mchSdo.state.Enabled
  disabled : t.mchSdo.state = .disabled ↔ s.mchSdo.state = .disabled

namespace SameSdo

variable {s t u : Sled}

lemma refl (s : Sled) : SameSdo s s := ⟨.rfl, .rfl⟩

lemma trans (h : SameSdo s t) (h' : SameSdo t u) : SameSdo s u :=
  ⟨h'.enabled.trans h.enabled, h'.disabled.trans h.disabled⟩

lemma of_eq (h : t.mchSdo.state = s.mchSdo.state) : SameSdo s t := ⟨by rw [h], by rw [h]⟩

lemma resume (h : SameSdo s t) (hw : t.mchSdo.state = .waiting) : SameSdo s t.resume := by
  have hon : t.resume.mchSdo.state.Enabled ∧ t.resume.mchSdo.state ≠ .disabled := by
    cases hq : t.mchSdo.sdoQueue with
    | nil => simp [Host.resume_nil hq, hw, MchSdoState.Enabled]
    | cons r rs => simp [Host.resume_cons_mchSdo hq, MchSdoState.Enabled]
  refine ⟨?_, ?_⟩
  · rw [← h.enabled, hw]
    exact iff_of_true hon.1 (.inl rfl)
  · rw [← h.disabled, hw]
    simp [hon.2]

lemma push (h : SameSdo s t) (r : Request sledClient) : SameSdo s (t.push r) := by
  unfold Host.push
  split
  case isTrue hw =>
    refine SameSdo.resume ?_ hw
    exact h.trans (of_eq rfl)
  case isFalse => exact h.trans (of_eq rfl)

lemma moves {K : Request sledClient → Prop} {R : SledEnv → SledEnv → Prop}
    (h : Moves K R s t) : SameSdo s t :=
  h.invariant (.refl s) (fun _ r _ ht => ht.push r) (fun _ _ _ ht => ht.trans (of_eq rfl))
    fun _ _ _ ht => ht.trans (of_eq rfl)

lemma pushAll (h : SameSdo s t) (rs : List (Request sledClient)) : SameSdo s (t.pushAll rs) :=
  h.trans (moves (K := fun _ => True) (R := fun _ _ => True)
    ((Moves.refl t).pushAll fun _ _ => trivial))

/-- A positive response leaves the SDO machine on, or off. -/
lemma proceed (h : SameSdo s t) : SameSdo s t.proceed := by
  unfold Host.proceed
  split
  case isTrue hs =>
    refine SameSdo.resume ?_ rfl
    refine h.trans ⟨?_, ?_⟩ <;> simp [hs, MchSdoState.Enabled]
  case isFalse => exact h

end SameSdo

/-! ## The motion and drive machines -/

section Motion

variable (s : Sled)

@[simp] lemma mpMove_env (event : MchMpEvent) :
    (s.mpMove event).env =
      { s.env with mchMp := mchMpNextStateGivenEvent s.env.mchMp event } := by
  unfold Host.mpMove
  dsimp only
  split
  case isTrue h => rw [← h]
  case isFalse => simp [Host.setMpState]

/-- The state of the motion machine after a transition of the drive machine. -/
def mpAfter (d d' : MchDsState) (m : MchMpState) : MchMpState :=
  let m := if d = .operationEnabled then mchMpNextStateGivenEvent m .dsInoperational else m
  if d' = .operationEnabled then mchMpNextStateGivenEvent m .dsOperational else m

variable {s} in
lemma mpMove_of_stay {event : MchMpEvent}
    (h : mchMpNextStateGivenEvent s.env.mchMp event = s.env.mchMp) : s.mpMove event = s := by
  simp [Host.mpMove, h]

variable {s} in
lemma dsMove_of_stay {event : MchDsEvent}
    (h : mchDsNextStateGivenEvent s.env.mchDs event = s.env.mchDs) : s.dsMove event = s := by
  simp [Host.dsMove, h]

lemma dsMove_env_of_ne (event : MchDsEvent)
    (h : mchDsNextStateGivenEvent s.env.mchDs event ≠ s.env.mchDs) :
    (s.dsMove event).env =
      { s.env with
        mchDs := mchDsNextStateGivenEvent s.env.mchDs event
        mchMp := mpAfter s.env.mchDs (mchDsNextStateGivenEvent s.env.mchDs event)
          s.env.mchMp } := by
  unfold Host.dsMove
  dsimp only
  rw [if_neg (Ne.symm h)]
  unfold Host.dsArrive Host.dsLeave mpAfter
  by_cases hd : s.env.mchDs = .operationEnabled <;>
    by_cases hd' : mchDsNextStateGivenEvent s.env.mchDs event = .operationEnabled <;>
    simp [hd, hd', Host.setDsState]
  all_goals rw [hd] at hd'; simp [hd']

end Motion

/-- The drive machine is started. -/
lemma dsMove_netOperational {s : Sled} (h : s.env.mchDs = .disabled) :
    s.dsMove .netOperational = (s.setDsState .unknown).pushAll [controlWord 0x06] := by
  unfold Host.dsMove Host.dsLeave Host.dsArrive
  simp [h, mchDsNextStateGivenEvent, MchDsState.entry, Host.setDsState]

/-- The couplings below the interface machine, and one state that is never entered. -/
structure Linked (s : Sled) : Prop where
  sdo_net : s.mchSdo.state.Enabled → s.env.mchNet.Talks
  net_sdo : s.env.mchNet.Talks → s.mchSdo.state ≠ .disabled
  ds_net : s.env.mchDs ≠ .disabled ↔ s.env.mchNet = .operational
  mp_ds : s.env.mchMp ≠ .disabled ↔ s.env.mchDs = .operationEnabled
  no_uploadconfig : s.env.mchNet ≠ .uploadconfig

lemma mchMp_dsInoperational (m : MchMpState) :
    mchMpNextStateGivenEvent m .dsInoperational = .disabled := by cases m <;> decide

/-- The motion machine stays coupled to the drive machine across every transition. -/
lemma mpAfter_coupled {d d' : MchDsState} {m : MchMpState} (hne : d' ≠ d)
    (h : m ≠ .disabled ↔ d = .operationEnabled) :
    mpAfter d d' m ≠ .disabled ↔ d' = .operationEnabled := by
  unfold mpAfter
  by_cases hd : d = .operationEnabled
  · have hd' : d' ≠ .operationEnabled := fun h => hne (h.trans hd.symm)
    simp [hd, hd', mchMp_dsInoperational]
  · have hm : m = .disabled := by
      by_contra hm
      exact hd (h.mp hm)
    have hstart : mchMpNextStateGivenEvent .disabled .dsOperational ≠ .disabled := by decide
    by_cases hd' : d' = .operationEnabled <;> simp [hd, hd', hm, hstart]

namespace Linked

variable {s t : Sled}

/-- The couplings survive whatever moves the motion machine without starting or stopping it. -/
lemma of_same (h : Linked s) (hsdo : SameSdo s t) (henv : s.env.SameModes t.env) : Linked t where
  sdo_net ht := by
    rw [henv.net]
    exact h.sdo_net (hsdo.enabled.mp ht)
  net_sdo ht := by
    rw [Ne, hsdo.disabled]
    exact h.net_sdo (henv.net ▸ ht)
  ds_net := by rw [henv.ds, henv.net, h.ds_net]
  mp_ds := by rw [Ne, henv.mp, ← Ne, h.mp_ds, henv.ds]
  no_uploadconfig := by
    rw [henv.net]
    exact h.no_uploadconfig

lemma dsMove (h : Linked s) {event : MchDsEvent} (hop : event ≠ .netOperational)
    (hin : event ≠ .netInoperational) : Linked (s.dsMove event) := by
  by_cases hst : mchDsNextStateGivenEvent s.env.mchDs event = s.env.mchDs
  · rwa [dsMove_of_stay hst]
  have hreact := Reacts.dsMove (.refl s) event
  have hsdo := SameSdo.moves hreact
  have hnet := (hreact.env_rel SledEnv.SameProfiles.refl fun _ _ _ => .trans).net
  have hds : mchDsNextStateGivenEvent s.env.mchDs event = .disabled ↔ s.env.mchDs = .disabled := by
    cases hd : s.env.mchDs <;> cases event <;> simp_all [mchDsNextStateGivenEvent]
  refine ⟨fun ht => ?_, fun ht => ?_, ?_, ?_, ?_⟩
  · rw [hnet]
    exact h.sdo_net (hsdo.enabled.mp ht)
  · rw [Ne, hsdo.disabled]
    exact h.net_sdo (hnet ▸ ht)
  · rw [hnet, ← h.ds_net, dsMove_env_of_ne s _ hst, Ne, hds]
  · rw [dsMove_env_of_ne s _ hst]
    exact mpAfter_coupled hst h.mp_ds
  · rw [hnet]
    exact h.no_uploadconfig

lemma mpMove (h : Linked s) {event : MchMpEvent} (hop : event ≠ .dsOperational)
    (hin : event ≠ .dsInoperational) : Linked (s.mpMove event) := by
  have hmp : mchMpNextStateGivenEvent s.env.mchMp event = .disabled ↔ s.env.mchMp = .disabled := by
    cases hm : s.env.mchMp <;> cases event <;> simp_all [mchMpNextStateGivenEvent]
  refine h.of_same (SameSdo.moves (Reacts.mpMove (.refl s) event)) ?_
  rw [mpMove_env]
  exact ⟨⟨rfl, rfl⟩, rfl, hmp⟩

end Linked

lemma dsEvents_external (status : UInt16) {event : MchDsEvent} (h : event ∈ dsEvents status) :
    event ≠ .netOperational ∧ event ≠ .netInoperational := by
  unfold dsEvents at h
  constructor <;> rintro rfl <;> simp at h <;> split_ifs at h

lemma mpEvents_external (status : UInt16) (mode : UInt8) {event : MchMpEvent}
    (h : event ∈ mpEvents status mode) :
    event ≠ .dsOperational ∧ event ≠ .dsInoperational := by
  unfold mpEvents at h
  constructor <;> rintro rfl <;> split_ifs at h <;> simp at h

lemma Linked.tpdo {s : Sled} (h : Linked s) (status : UInt16) (mode : UInt8) :
    Linked (s.tpdo status mode) := by
  refine foldl_keeps (foldl_keeps h ?_) ?_
  · intro t event he ht
    exact ht.dsMove (dsEvents_external status he).1 (dsEvents_external status he).2
  · intro t event he ht
    exact ht.mpMove (mpEvents_external status mode he).1 (mpEvents_external status mode he).2

/-! ## The network machine -/

section Network

variable {s s' t : Sled}

lemma not_enabled_disable (s : Sled) : ¬ s.disable.mchSdo.state.Enabled := by
  unfold Host.disable
  split
  · simp [MchSdoState.Enabled]
  · assumption

lemma SdoOn.enabled (h : SdoOn s t) : t.mchSdo.state.Enabled := by
  cases h with
  | already h => exact h
  | opened => exact .inl rfl

lemma SdoOn.env (h : SdoOn s t) : t.env = s.env := by
  cases h <;> rfl

lemma not_disabled_of_enabled {st : MchSdoState} (h : st.Enabled) : st ≠ .disabled := by
  rintro rfl
  rcases h with h | h <;> cases h

/-- Leaving a state of the network machine stops the machines below. -/
lemma Linked.netLeave (h : Linked s) :
    s.netLeave.env.mchDs = .disabled ∧ s.netLeave.env.mchMp = .disabled ∧
      s.env.SameProfiles s.netLeave.env ∧ SameSdo s s.netLeave := by
  unfold Host.netLeave
  split
  case isFalse hn =>
    have hds : s.env.mchDs = .disabled := by
      by_contra hd
      exact hn (h.ds_net.mp hd)
    have hmp : s.env.mchMp = .disabled := by
      by_contra hm
      have := h.mp_ds.mp hm
      simp [hds] at this
    exact ⟨hds, hmp, .refl _, .refl s⟩
  case isTrue hn =>
    have hd : s.env.mchDs ≠ .disabled := h.ds_net.mpr hn
    have hnext : mchDsNextStateGivenEvent s.env.mchDs .netInoperational = .disabled := by
      simp [mchDsNextStateGivenEvent, hd]
    have hst : mchDsNextStateGivenEvent s.env.mchDs .netInoperational ≠ s.env.mchDs := by
      rw [hnext]
      exact Ne.symm hd
    have hreact := Reacts.dsMove (.refl s) .netInoperational
    have hmp := mpAfter_coupled hst h.mp_ds
    refine ⟨?_, ?_, hreact.env_rel SledEnv.SameProfiles.refl fun _ _ _ => .trans, .moves hreact⟩
    · rw [dsMove_env_of_ne s _ hst, hnext]
    · rw [dsMove_env_of_ne s _ hst]
      by_contra hm
      have := hmp.mp hm
      simp [hnext] at this

/-- The network machine goes where its table says, and leaves the interface machine alone. -/
lemma NetEnter.env_net (h : NetEnter s s') :
    s'.env.mchNet = s.env.mchNet ∧ s'.env.mchIntf = s.env.mchIntf := by
  cases h with
  | @operational t h ht =>
    have hreact := (Reacts.dsMove (.refl t.resetProfiles) .netOperational).env_rel
      SledEnv.SameProfiles.refl fun _ _ _ => .trans
    rw [hreact.net, hreact.intf, ← ht.env]
    exact ⟨rfl, rfl⟩
  | preoperational h ht => simp [ht.env]
  | _ => simp [Host.sendNmt]

/-- Entering a state of the network machine while the machines below are stopped. -/
lemma NetEnter.linked (h : NetEnter s s') (hds : s.env.mchDs = .disabled)
    (hmp : s.env.mchMp = .disabled) (hup : s.env.mchNet ≠ .uploadconfig)
    (hstart : s.env.mchNet = .startremotenode → s.mchSdo.state ≠ .disabled)
    (hpre : s.env.mchNet = .enterpreoperational → ¬ s.mchSdo.state.Enabled) : Linked s' := by
  cases h with
  | disabled hn | unknown hn | stopped hn =>
    refine ⟨fun he => absurd he ?_, ?_, ?_, ?_, ?_⟩
    · exact not_enabled_disable s
    all_goals simp [hn, hds, hmp, Host.sendNmt, MchNetState.Talks]
  | startremotenode hn =>
    refine ⟨?_, fun _ => hstart hn, ?_, ?_, ?_⟩
    all_goals simp [hn, hds, hmp, Host.sendNmt, MchNetState.Talks]
  | enterpreoperational hn =>
    refine ⟨fun he => absurd he (hpre hn), ?_, ?_, ?_, ?_⟩
    all_goals simp [hn, hds, hmp, Host.sendNmt, MchNetState.Talks]
  | uploadconfig hn => exact absurd hn hup
  | preoperational hn ht =>
    have hon : (Host.pushAll netRequests _).mchSdo.state.Enabled :=
      ((SameSdo.refl _).pushAll netRequests).enabled.mpr ht.enabled
    refine ⟨?_, fun _ => not_disabled_of_enabled hon, ?_, ?_, ?_⟩
    all_goals simp [hn, hds, hmp, ht.env, MchNetState.Talks]
  | @operational t hn ht =>
    have hsdo := SameSdo.moves (Reacts.dsMove (.refl t.resetProfiles) .netOperational)
    have hon : (t.resetProfiles.dsMove .netOperational).mchSdo.state.Enabled :=
      hsdo.enabled.mpr ht.enabled
    have henv : t.resetProfiles.env.mchNet = .operational ∧
        t.resetProfiles.env.mchDs = .disabled ∧ t.resetProfiles.env.mchMp = .disabled := by
      refine ⟨?_, ?_, ?_⟩ <;> simp [Host.resetProfiles, sledProfilesReset, Host.setProfiles, ht.env,
        hn, hds, hmp]
    have hnext : mchDsNextStateGivenEvent t.resetProfiles.env.mchDs .netOperational = .unknown := by
      rw [henv.2.1]
      decide
    have hds' := dsMove_env_of_ne t.resetProfiles .netOperational
      (by rw [hnext, henv.2.1]; decide)
    rw [hnext, henv.2.1, henv.2.2] at hds'
    refine ⟨fun _ => ?_, fun _ => not_disabled_of_enabled hon, ?_, ?_, ?_⟩
    all_goals rw [hds']
    all_goals simp [henv.1, mpAfter, MchNetState.Talks]

/-- The node is started from a state in which SDOs can be exchanged. -/
lemma talks_of_startremotenode {n : MchNetState} {event : MchNetEvent}
    (h : mchNetNextStateGivenEvent n event = .startremotenode) (hup : n ≠ .uploadconfig) :
    n.Talks := by
  cases n <;> cases event <;> simp_all [mchNetNextStateGivenEvent, MchNetState.Talks]

/-- Every event of the network machine keeps the couplings. -/
lemma Linked.netEvent (h : Linked s) {event : MchNetEvent}
    (hr : mchNetHandleEvent event s = .ok s') : Linked s' := by
  rcases mchNetHandleEvent_ok hr with ⟨-, rfl⟩ | ⟨hne, henter⟩
  · exact h
  obtain ⟨hds, hmp, henv, hsdo⟩ := h.netLeave
  have hup := h.no_uploadconfig
  refine henter.linked hds hmp ?_ ?_ ?_
  · show mchNetNextStateGivenEvent s.env.mchNet event ≠ .uploadconfig
    cases hn : s.env.mchNet <;> cases event <;> simp_all [mchNetNextStateGivenEvent]
  · show mchNetNextStateGivenEvent s.env.mchNet event = .startremotenode → _
    intro hnext
    exact fun hd => h.net_sdo (talks_of_startremotenode hnext hup) (hsdo.disabled.mp hd)
  · show mchNetNextStateGivenEvent s.env.mchNet event = .enterpreoperational → _
    intro hnext he
    have htalks := h.sdo_net (hsdo.enabled.mp he)
    cases hn : s.env.mchNet <;> cases event <;>
      simp_all [mchNetNextStateGivenEvent, MchNetState.Talks]

end Network

/-! ## Runs -/

section Runs

variable {s s' : Sled}

lemma Coupled.of_linked (h : Linked s) (hi : s.env.mchNet ≠ .disabled ↔ s.env.mchIntf = .opened) :
    Coupled s := ⟨hi, h.sdo_net, h.net_sdo, h.ds_net, h.mp_ds⟩

/-- The invariant of the whole sled. -/
structure CoupledInv (s : Sled) : Prop where
  linked : Linked s
  net_intf : s.env.mchNet ≠ .disabled ↔ s.env.mchIntf = .opened

lemma mchNetHandleEvent_env {event : MchNetEvent} (h : mchNetHandleEvent event s = .ok s')
    (hs : Linked s) :
    s'.env.mchNet = mchNetNextStateGivenEvent s.env.mchNet event ∧
      s'.env.mchIntf = s.env.mchIntf := by
  rcases mchNetHandleEvent_ok h with ⟨hst, rfl⟩ | ⟨-, henter⟩
  · exact ⟨hst.symm, rfl⟩
  · obtain ⟨hn, hi⟩ := henter.env_net
    exact ⟨hn, hi.trans hs.netLeave.2.2.1.intf⟩

/-- Only the interface machine starts and stops the network machine. -/
lemma MchNetEvent.External.disabled_iff {event : MchNetEvent} (h : event.External)
    (n : MchNetState) : mchNetNextStateGivenEvent n event = .disabled ↔ n = .disabled := by
  rcases h with rfl | rfl | rfl | rfl <;> cases n <;> simp [mchNetNextStateGivenEvent]

lemma CoupledInv.netEvent (hs : CoupledInv s) {event : MchNetEvent} (he : event.External)
    (h : mchNetHandleEvent event s = .ok s') : CoupledInv s' := by
  refine ⟨hs.linked.netEvent h, ?_⟩
  obtain ⟨hn, hi⟩ := mchNetHandleEvent_env h hs.linked
  rw [hn, hi, Ne, he.disabled_iff, ← Ne, hs.net_intf]

lemma CoupledInv.of_same (hs : CoupledInv s) (hsdo : SameSdo s s')
    (henv : s.env.SameModes s'.env) : CoupledInv s' :=
  ⟨hs.linked.of_same hsdo henv, by rw [henv.net, henv.intf, hs.net_intf]⟩

lemma CoupledInv.report (hs : CoupledInv s) {now : ℚ} {pdo : ℕ} {data : Vector UInt8 8}
    (h : intfOnTpdo now pdo data s = .ok s') : CoupledInv s' := by
  by_cases hp : pdo = 1
  · have henv := (moves_tpdo h).env_rel SledEnv.SameProfiles.refl fun _ _ _ => .trans
    subst hp
    rw [intfOnTpdo_one] at h
    cases h
    exact ⟨hs.linked.tpdo _ _, by rw [henv.net, henv.intf, hs.net_intf]⟩
  · unfold intfOnTpdo at h
    rw [if_neg hp] at h
    split at h <;> cases h
    · exact hs.of_same (.of_eq rfl) ⟨⟨rfl, rfl⟩, rfl, .rfl⟩
    · exact hs

lemma CoupledInv.close (hs : CoupledInv s) {o : CanOutcome} (h : intfCloseSled o s = .ok s') :
    CoupledInv s' := by
  rcases intfCloseSled_ok h with ⟨intf, rfl, -⟩ | ⟨hopen, intf, -, hnet⟩
  · exact hs.of_same (.of_eq rfl) ⟨⟨rfl, rfl⟩, rfl, .rfl⟩
  · -- The interface machine is in `ST_INTF_CLOSED` when it tells the network machine.
    have hl : Linked (((s.setIntfState .closing).withIntf intf).setIntfState .closed) :=
      ⟨hs.linked.sdo_net, hs.linked.net_sdo, hs.linked.ds_net, hs.linked.mp_ds,
        hs.linked.no_uploadconfig⟩
    obtain ⟨hn, hi⟩ := mchNetHandleEvent_env hnet hl
    refine ⟨hl.netEvent hnet, ?_⟩
    rw [hn, hi, mchNet_intfClosed]
    simp [Host.setIntfState]

/-- What a write response does before the next request is sent. -/
lemma CoupledInv.writeEffect {u : Sled} {sdo : Sdo sledClient} (hs : CoupledInv s)
    (h : WriteEffect s sdo u) : CoupledInv u := by
  cases h with
  | silent | lateUpload => exact hs
  | field => exact hs.of_same (.of_eq rfl) ⟨⟨rfl, rfl⟩, rfl, .rfl⟩
  | upload _ hn =>
    have hpre : s.env.mchNet = .preoperational := hn.resolve_right hs.linked.no_uploadconfig
    have hd := hs.linked.ds_net
    have hi := hs.net_intf
    refine ⟨⟨fun _ => .inr (.inl rfl), fun _ => hs.linked.net_sdo (.inl hpre), ?_,
      hs.linked.mp_ds, ?_⟩, ?_⟩
    · simpa [hpre, Host.setNetState, Host.sendNmt] using hd
    · simp [Host.setNetState, Host.sendNmt]
    · simpa [hpre, Host.setNetState, Host.sendNmt] using hi

lemma CoupledInv.proceed (hs : CoupledInv s) : CoupledInv s.clearActive.proceed := by
  have hsdo : SameSdo s s.clearActive := .of_eq rfl
  exact hs.of_same hsdo.proceed (by simpa using SledEnv.SameModes.refl s.env)

/-- A request that is refused turns the SDO machine off, which no coupling forbids. -/
lemma CoupledInv.fail (hs : CoupledInv s) : CoupledInv s.clearActive.fail := by
  unfold Host.fail
  split
  · refine ⟨⟨?_, ?_, hs.linked.ds_net, hs.linked.mp_ds, hs.linked.no_uploadconfig⟩, hs.net_intf⟩
    all_goals simp [MchSdoState.Enabled]
  · exact hs.of_same (.of_eq rfl) (.refl _)

lemma CoupledInv.log (hs : CoupledInv s) (o : Obs sledClient) : CoupledInv (s.log o) :=
  hs.of_same (.of_eq rfl) (.refl _)

/-- Every step keeps the couplings. -/
lemma CoupledInv.step (hs : CoupledInv s) {e : SledEvent} (h : sledStep s e = .ok s') :
    CoupledInv s' := by
  cases sledStep_effect h with
  | skip => exact hs
  | report _ ht => exact hs.report ht
  | watchdog ht => exact hs.netEvent (.inr (.inr (.inr rfl))) ht
  | @nmt t state now _ ht =>
    have hst : CoupledInv t := by
      rcases raiseNmt_ok ht with rfl | ⟨event, -, he, ht⟩
      · exact hs
      · exact hs.netEvent he ht
    exact hst.of_same (.of_eq rfl) ⟨⟨rfl, rfl⟩, rfl, .rfl⟩
  | close hc => exact hs.close hc
  | write _ hw =>
    obtain ⟨sdo, t, u, -, -, -, -, ht, hu, rfl⟩ := mchSdoWriteCallback_sled hw
    have hst : CoupledInv t := by
      rcases ht with rfl | ⟨call, rfl⟩
      · exact hs.log _
      · exact (hs.log _).log _
    exact (hst.writeEffect hu).proceed
  | read _ hr =>
    obtain ⟨sdo, -, -, -, -, rfl⟩ := mchSdoReadCallback_sled hr
    exact (hs.log _).proceed
  | abort _ ha =>
    obtain ⟨sdo, -, -, -, -, rfl⟩ := mchSdoAbortCallback_sled ha
    exact (hs.log _).fail
  | call _ hc =>
    have hacts := moves_call hc
    exact hs.of_same (.moves hacts) (hacts.env_rel SledEnv.SameModes.refl fun _ _ _ => .trans)

/-- When `sled_create` returns, the machines are linked, and the interface machine is open and has
told the network machine, or is stuck. -/
lemma sledCreate_linked {mem : SledEnv} {now : ℚ} {o : CanOutcome}
    (h : sledCreate mem now o = .ok s) :
    Linked s ∧ (s.env.mchNet = .disabled ∧ s.env.mchIntf = .opening ∨
      s.env.mchNet = .unknown ∧ s.env.mchIntf = .opened) := by
  have hstores : Stores (fun _ => False) (sledAlloc mem now)
      (sledCreateProfiles (sledAlloc mem now)) := Stores.createProfiles (.refl _)
  have henv := hstores.env_rel SledEnv.SameModes.refl fun _ _ _ => .trans
  have hsdo := SameSdo.moves hstores
  have hl : Linked (sledCreateProfiles (sledAlloc mem now)) := by
    refine Linked.of_same ⟨?_, ?_, ?_, ?_, ?_⟩ hsdo henv
    all_goals simp [sledAlloc, mchSdoCreate, MchSdoState.Enabled, MchNetState.Talks]
  have hnet : (sledCreateProfiles (sledAlloc mem now)).env.mchNet = .disabled := henv.net
  obtain ⟨intf, -, hs⟩ := sledCreate_ok h henv.intf hstores.silent.2
  -- What the profiles look like does not matter from here on.
  generalize sledCreateProfiles (sledAlloc mem now) = t at hl hnet hs
  rcases hs with rfl | hopen
  · refine ⟨⟨hl.sdo_net, hl.net_sdo, hl.ds_net, hl.mp_ds, hl.no_uploadconfig⟩, .inl ⟨hnet, rfl⟩⟩
  · have hl' : Linked (((t.setIntfState .opening).withIntf intf).setIntfState .opened) :=
      ⟨hl.sdo_net, hl.net_sdo, hl.ds_net, hl.mp_ds, hl.no_uploadconfig⟩
    obtain ⟨hn, hi⟩ := mchNetHandleEvent_env hopen hl'
    refine ⟨hl'.netEvent hopen, .inr ⟨?_, hi⟩⟩
    rw [hn]
    simp [Host.withIntf, Host.setIntfState, hnet, mchNetNextStateGivenEvent]

lemma coupledInv_sledCreate {mem : SledEnv} {now : ℚ} {o : CanOutcome}
    (h : sledCreate mem now o = .ok s) : CoupledInv s := by
  obtain ⟨hl, ⟨hn, hi⟩ | ⟨hn, hi⟩⟩ := sledCreate_linked h
  · exact ⟨hl, by simp [hn, hi]⟩
  · exact ⟨hl, by simp [hn, hi]⟩

lemma coupledInv_run {mem : SledEnv} {now : ℚ} {o : CanOutcome} {es : List SledEvent}
    (h : sledRun mem now o es = .ok s) : CoupledInv s := by
  obtain ⟨s₀, hcreate, hrun⟩ := sledRun_ok.mp h
  exact run_invariant (fun _ _ _ hs hstep => hs.step hstep) (coupledInv_sledCreate hcreate) hrun

end Runs

/-- A profile is only executed by an idle motion machine. -/
lemma idle_of_execute {s s' : Sled} {profile : ℤ} (h : sledProfileExecute profile s = .ok (0, s')) :
    s.env.mchMp = .ppIdle := by
  obtain hbad | ⟨i, is, -, -, hidle, -, -⟩ := sledProfileExecute_ok h
  · simp at hbad
  · exact hidle

/-- The motion machine is only idle with the drive enabled and the network operational. -/
lemma Linked.of_idle {s : Sled} (h : Linked s) (hidle : s.env.mchMp = .ppIdle) :
    s.env.mchDs = .operationEnabled ∧ s.env.mchNet = .operational := by
  have hds : s.env.mchDs = .operationEnabled := h.mp_ds.mp (by simp [hidle])
  exact ⟨hds, h.ds_net.mp (by simp [hds])⟩

/-- **The five machines stay coupled.**  After `sled_create` and any events, with any outcomes of
the calls into the device, the couplings hold; hence a profile is only executed with the interface
open, the network operational and the drive enabled. -/
theorem machines_coupled {mem : SledEnv} {now : ℚ} {o : CanOutcome} {es : List SledEvent}
    {s : Sled} (h : sledRun mem now o es = .ok s) :
    Coupled s ∧ ∀ profile s', sledProfileExecute profile s = .ok (0, s') →
      s.env.mchIntf = .opened ∧ s.env.mchNet = .operational ∧
        s.env.mchDs = .operationEnabled := by
  have hinv := coupledInv_run h
  have hc := Coupled.of_linked hinv.linked hinv.net_intf
  refine ⟨hc, fun profile s' hex => ?_⟩
  obtain ⟨hds, hnet⟩ := hinv.linked.of_idle (idle_of_execute hex)
  exact ⟨hc.net_intf.mp (by simp [hnet]), hnet, hds⟩

/-- The couplings with everything up and the motion machine idle. -/
theorem machines_coupled_up :
    ∃ s, sledRun someMemory 0 ⟨.success, true⟩ (networkUp ++ driveUp) = .ok s ∧
      s.env.mchMp = .ppIdle ∧ Coupled s := by
  obtain ⟨s, hs, hmp⟩ := exists_of_okAnd (p := fun s : Sled => s.env.mchMp == .ppIdle)
    (x := sledRun someMemory 0 ⟨.success, true⟩ (networkUp ++ driveUp)) (by decide +kernel)
  exact ⟨s, hs, by simpa using hmp, (machines_coupled hs).1⟩

end SledServer
