import SledServer.Drive.Bus
import SledServer.Sled.Halts

/-!
# Late responses

A response is matched with the request in `sdo_active`.  As long as the host has at most one request
outstanding, that is the request the drive has answered: `Matched` says that the requests and
responses on the bus are those of the active request.

The host breaks this when it enables the SDO machine while an old request is still active.  That
happens when the network drops with a request on its way and comes back before the response; the
new request then takes the place of the old one, whose response is still to come.  `Settled` leaves
out just that step.
-/

namespace SledServer

open SledServer.Core

/-! ## At most one request is outstanding -/

/-- What is on the bus belongs to the active request: it is on its way to the drive, or its
response is on its way to the host. -/
inductive Outstanding : Option (Sdo sledClient) → List (Sdo sledClient) → List CanMessage → Prop
  | idle : Outstanding none [] []
  | asked (r : Sdo sledClient) : Outstanding (some r) [r] []
  | answered (r : Sdo sledClient) (a : Answer) : Outstanding (some r) [] [r.response a]

/-- What holds of a host that reads the bus, when `n` of its requests have reached the drive and
the responses `ms` are on their way. -/
structure Listening (n : ℕ) (ms : List CanMessage) (s : Sled) : Prop where
  fd : s.intf.fd = true
  slots : ∀ r, s.mchSdo.sdoActive = some r → s.intf.writeCallback = r.isWrite ∧
    s.intf.readCallback = !r.isWrite ∧ s.intf.abortCallback = true
  outstanding : Outstanding s.mchSdo.sdoActive (s.sent.drop n) ms

/-- A request whose confirmation goes to a profile names the profile. -/
def Request.Owned (r : Request sledClient) : Prop :=
  r.writeCallback = some .onSuccessCallback → ∃ i, r.data = some (.profile i)

/-- The invariant of host and bus. -/
structure Matched (n : ℕ) (ms : List CanMessage) (s : Sled) : Prop where
  received_le : n ≤ s.sent.length
  waiting : s.mchSdo.state = .waiting → s.mchSdo.sdoActive = none
  error : s.mchSdo.state = .error → s.mchSdo.sdoActive = none
  queued_owned : ∀ r ∈ s.mchSdo.sdoQueue, r.Owned
  active_owned : ∀ r, s.mchSdo.sdoActive = some r → r.Owned
  listening : s.intf.readEvent = true → Listening n ms s

namespace Matched

variable {n : ℕ} {ms : List CanMessage} {s t : Sled}

/-- The invariant looks at the SDO machine, what has been sent and the interface only. -/
lemma of_eq (h : Matched n ms s) (hm : t.mchSdo = s.mchSdo) (hs : t.sent = s.sent)
    (hi : t.intf = s.intf) : Matched n ms t := by
  refine ⟨by rw [hs]; exact h.received_le, by rw [hm]; exact h.waiting, by rw [hm]; exact h.error,
    by rw [hm]; exact h.queued_owned, by rw [hm]; exact h.active_owned, fun hr => ?_⟩
  obtain ⟨hfd, hslots, hout⟩ := h.listening (hi ▸ hr)
  exact ⟨hi ▸ hfd, by rw [hm, hi]; exact hslots, by rw [hm, hs]; exact hout⟩

/-- A machine without an active request takes the next one from the queue. -/
lemma resume (h : Matched n ms s) (ha : s.mchSdo.sdoActive = none) : Matched n ms s.resume := by
  cases hq : s.mchSdo.sdoQueue with
  | nil => rwa [Host.resume_nil hq]
  | cons r rs =>
    have hm := Host.resume_cons_mchSdo hq
    have hs := Host.sent_resume_cons hq
    have hi := Host.resume_cons_intf hq
    have hle := h.received_le
    refine ⟨by rw [hs, List.length_append]; omega, by simp [hm], by simp [hm], ?_, ?_, ?_⟩
    · rw [hm]
      exact fun q hmem => h.queued_owned q (by rw [hq]; exact List.mem_cons_of_mem _ hmem)
    · rw [hm]
      rintro q ⟨⟩
      exact h.queued_owned r (by rw [hq]; exact List.mem_cons_self)
    · intro hread
      have hread' : s.intf.readEvent = true := by
        rw [hi] at hread
        split at hread <;> exact hread
      obtain ⟨hfd, -, hout⟩ := h.listening hread'
      rw [ha] at hout
      obtain ⟨hdrop, rfl⟩ : s.sent.drop n = [] ∧ ms = [] := by
        generalize s.sent.drop n = d at hout
        cases hout
        exact ⟨rfl, rfl⟩
      refine ⟨?_, ?_, ?_⟩
      · rw [hi]
        split <;> exact hfd
      · rw [hm, hi]
        rintro q ⟨⟩
        cases hw : r.isWrite <;> simp [intfSendWriteReq, intfSendReadReq, intfWrite]
      · rw [hm, hs, List.drop_append_of_le_length hle, hdrop]
        exact .asked r

lemma push {r : Request sledClient} (h : Matched n ms s) (hr : r.Owned) :
    Matched n ms (s.push r) := by
  have henq : Matched n ms (s.enqueue r) := by
    refine ⟨by simpa using h.received_le, h.waiting, h.error, ?_, h.active_owned, fun hread => ?_⟩
    · intro q hq
      rcases List.mem_append.mp hq with hq | hq
      · exact h.queued_owned q hq
      · rw [List.mem_singleton.mp hq]
        exact hr
    · obtain ⟨hfd, hslots, hout⟩ := h.listening hread
      exact ⟨hfd, hslots, by rw [Host.sent_enqueue]; exact hout⟩
  unfold Host.push
  split
  case isTrue hw => exact henq.resume (h.waiting hw)
  case isFalse => exact henq

lemma moves {K : Request sledClient → Prop} {R : SledEnv → SledEnv → Prop} (h : Matched n ms s)
    (hK : ∀ r, K r → r.Owned) (hm : Moves K R s t) : Matched n ms t := by
  refine hm.invariant (I := Matched n ms) h (fun s r hr hs => hs.push (hK r hr)) ?_ ?_
  · exact fun s e _ hs => hs.of_eq rfl rfl rfl
  · exact fun s note _ hs => hs.of_eq rfl (Host.sent_log rfl) rfl

lemma owned_of_plain {r : Request sledClient} (h : r.Plain) : r.Owned := by
  intro hw
  simp [h.write] at hw

lemma owned_of_fromCall {r : Request sledClient} (h : r.FromCall) : r.Owned := by
  cases h with
  | plain h => exact owned_of_plain h
  | field i f v => exact fun _ => ⟨i, rfl⟩

lemma owned_of_netRequests : ∀ r ∈ netRequests, r.Owned := by
  intro r hr hw
  obtain ⟨x, -, rfl⟩ := List.mem_map.mp hr
  simp only [Setup.request, writeRequest] at hw
  split at hw <;> simp at hw

/-- A state without an active request may be any state. -/
lemma setSdoState {st : MchSdoState} (h : Matched n ms s)
    (ha : st = .waiting ∨ st = .error → s.mchSdo.sdoActive = none) :
    Matched n ms (s.setSdoState st) := by
  refine ⟨by simpa using h.received_le, fun hst => ha (.inl hst), fun hst => ha (.inr hst),
    h.queued_owned, h.active_owned, fun hread => ?_⟩
  obtain ⟨hfd, hslots, hout⟩ := h.listening hread
  exact ⟨hfd, hslots, by rw [Host.sent_setSdoState]; exact hout⟩

lemma disable (h : Matched n ms s) : Matched n ms s.disable := by
  unfold Host.disable
  split
  · exact h.setSdoState (by simp)
  · exact h

lemma sendNmt (h : Matched n ms s) (command : UInt8) : Matched n ms (s.sendNmt command) := by
  refine ⟨h.received_le, h.waiting, h.error, h.queued_owned, h.active_owned, fun hread => ?_⟩
  obtain ⟨hfd, hslots, hout⟩ := h.listening hread
  exact ⟨hfd, hslots, hout⟩

lemma setNetState (h : Matched n ms s) (st : MchNetState) : Matched n ms (s.setNetState st) :=
  h.of_eq rfl (by simp [Host.sent_of_trace (s := s) (t := s.setNetState st) rfl, Obs.sent?]) rfl

/-- Enabling the SDO machine is safe once the last request has been answered. -/
lemma sdoOn (h : Matched n ms s) (ht : SdoOn s t)
    (ha : ¬ s.mchSdo.state.Enabled → s.mchSdo.sdoActive = none) : Matched n ms t := by
  cases ht with
  | already => exact h
  | opened hoff =>
    have hclear : Matched n ms { s with mchSdo := { s.mchSdo with sdoQueue := [] } } := by
      refine ⟨h.received_le, h.waiting, h.error, by simp, h.active_owned, fun hread => ?_⟩
      obtain ⟨hfd, hslots, hout⟩ := h.listening hread
      exact ⟨hfd, hslots, hout⟩
    exact hclear.setSdoState fun _ => ha hoff

/-- An event of the network machine that does not enable the SDO machine too early. -/
lemma netEvent {event : MchNetEvent} (h : Matched n ms s)
    (ha : mchNetNextStateGivenEvent s.env.mchNet event ≠ s.env.mchNet →
      mchNetNextStateGivenEvent s.env.mchNet event = .preoperational ∨
        mchNetNextStateGivenEvent s.env.mchNet event = .operational →
      s.netLeave = s ∧ (¬ s.mchSdo.state.Enabled → s.mchSdo.sdoActive = none))
    (hr : mchNetHandleEvent event s = .ok t) : Matched n ms t := by
  rcases mchNetHandleEvent_ok hr with ⟨-, rfl⟩ | ⟨hne, henter⟩
  · exact h
  have hset := (h.moves (fun _ hr => owned_of_plain hr.toPlain) (Reacts.netLeave s)).setNetState
    (mchNetNextStateGivenEvent s.env.mchNet event)
  cases henter with
  | disabled => exact hset.disable
  | unknown | stopped => exact hset.disable.sendNmt _
  | startremotenode | enterpreoperational => exact hset.sendNmt _
  | uploadconfig =>
    exact hset.moves (K := Request.Owned) (R := fun _ _ => True) (fun _ => id)
      ((Moves.refl _).pushAll owned_of_netRequests)
  | preoperational hn ht =>
    obtain ⟨hleave, hactive⟩ := ha hne (.inl hn)
    rw [hleave] at hset ht
    exact (hset.sdoOn ht hactive).moves (K := Request.Owned) (R := fun _ _ => True) (fun _ => id)
      ((Moves.refl _).pushAll owned_of_netRequests)
  | @operational u hn ht =>
    obtain ⟨hleave, hactive⟩ := ha hne (.inr hn)
    rw [hleave] at hset ht
    have hreset : Matched n ms u.resetProfiles := (hset.sdoOn ht hactive).of_eq rfl rfl rfl
    exact hreset.moves (fun _ hr => owned_of_plain hr.toPlain) (Reacts.dsMove (.refl _) _)

/-- A host that has stopped reading. -/
lemma withIntf (h : Matched n ms s) {intf : Intf} (hi : intf.readEvent = false) :
    Matched n ms (s.withIntf intf) :=
  ⟨h.received_le, h.waiting, h.error, h.queued_owned, h.active_owned, fun hread => by
    have : intf.readEvent = true := hread
    simp [hi] at this⟩

lemma close (h : Matched n ms s) {o : CanOutcome} (hr : intfCloseSled o s = .ok t) :
    Matched n ms t := by
  rcases intfCloseSled_ok hr with ⟨intf, rfl, hi⟩ | ⟨-, intf, hi, hnet⟩
  · exact h.withIntf hi
  · have hset : ∀ (u : Sled) (st : MchIntfState),
      Matched n ms u → Matched n ms (u.setIntfState st) :=
      fun u st hu => hu.of_eq rfl
        (by simp [Host.sent_of_trace (s := u) (t := u.setIntfState st) rfl, Obs.sent?]) rfl
    refine (hset _ _ ((hset s _ h).withIntf hi)).netEvent (fun _ hn => ?_) hnet
    rw [mchNet_intfClosed] at hn
    simp at hn

/-- The active request is gone, and with it everything on the bus. -/
lemma clearActive {ms' : List CanMessage} (h : Matched n ms' s) (hfd : s.intf.fd = true)
    (hdrop : s.sent.drop n = []) (hm : t.mchSdo = s.mchSdo) (hs : t.sent = s.sent)
    (hi : t.intf.fd = s.intf.fd) : Matched n [] t.clearActive := by
  refine ⟨by rw [Host.sent_clearActive, hs]; exact h.received_le, fun _ => rfl, fun _ => rfl,
    ?_, by simp, fun _ => ⟨hi.trans hfd, by simp, ?_⟩⟩
  · rw [Host.clearActive_sdoQueue, hm]
    exact h.queued_owned
  · rw [Host.clearActive_sdoActive, Host.sent_clearActive, hs, hdrop]
    exact .idle

lemma proceed (h : Matched n ms s) (ha : s.mchSdo.sdoActive = none) : Matched n ms s.proceed := by
  unfold Host.proceed
  split
  · exact (h.setSdoState fun _ => ha).resume ha
  · exact h

lemma fail (h : Matched n ms s) (ha : s.mchSdo.sdoActive = none) : Matched n ms s.fail := by
  unfold Host.fail
  split
  · exact h.setSdoState fun _ => ha
  · exact h

end Matched

/-! ## Responses -/

section Responses

variable {n : ℕ} {ms : List CanMessage} {s t : Sled} {r : Sdo sledClient}

/-- What a registered function for success may do. -/
lemma WriteEffect.frame {u : Sled} (h : WriteEffect t r u) :
    u.mchSdo = t.mchSdo ∧ u.sent = t.sent ∧ u.intf.fd = t.intf.fd := by
  cases h with
  | silent | lateUpload | field => exact ⟨rfl, rfl, rfl⟩
  | upload =>
    have ht : ((t.setNetState .startremotenode).sendNmt NMT_STARTREMOTENODE).trace =
      t.trace ++ [.note (.netState t.env.mchNet .startremotenode)] := rfl
    exact ⟨rfl, by simp [Host.sent_of_trace ht, Obs.sent?], rfl⟩

/-- The confirmation of the active request passes the assertions. -/
lemma mchSdoWriteCallback_ne_assertFailed (ha : s.mchSdo.sdoActive = some r)
    (hw : r.isWrite = true) (ho : r.Owned) :
    mchSdoWriteCallback sledCallbacks r.index r.subindex s ≠ .error .assertFailed := by
  unfold mchSdoWriteCallback
  simp only [ha, hw, beq_self_eq_true, assert_true, ok_bind, mchSdoHandleEvent_writeResponse]
  refine bind_ne_error ?_ (by simp)
  unfold Callbacks.write
  cases hf : r.writeCallback with
  | none => simp
  | some f =>
    cases f with
    | mchNetSdoWriteCallback => exact mchNetHandleEvent_ne_error (by simp) (by simp) _ _
    | onSuccessCallback =>
      obtain ⟨i, hi⟩ := ho hf
      simp [sledCallbacks, sledOnWrite, onSuccessCallback, hi]

lemma mchSdoReadCallback_ne_assertFailed (ha : s.mchSdo.sdoActive = some r)
    (hw : r.isWrite = false) (value : UInt32) :
    mchSdoReadCallback sledCallbacks r.index r.subindex value s ≠ .error .assertFailed := by
  unfold mchSdoReadCallback
  simp only [ha, hw, Bool.not_false, beq_self_eq_true, assert_true, ok_bind,
    mchSdoHandleEvent_readResponse]
  refine bind_ne_error ?_ (by simp)
  unfold Callbacks.read
  cases hf : r.readCallback with
  | none => simp
  | some f => exact f.elim

lemma mchSdoAbortCallback_ne_assertFailed (ha : s.mchSdo.sdoActive = some r) (code : UInt32) :
    mchSdoAbortCallback sledCallbacks r.index r.subindex code s ≠ .error .assertFailed := by
  unfold mchSdoAbortCallback
  simp only [ha, beq_self_eq_true, assert_true, ok_bind, mchSdoHandleEvent_abortResponse]
  refine bind_ne_error ?_ (by simp)
  unfold Callbacks.abort callAbort
  cases hf : r.abortCallback with
  | none => simp
  | some f => cases f <;> simp [sledCallbacks, sledAbort]

lemma sledStep_response (hread : s.intf.readEvent = true) (hfd : s.intf.fd = true)
    (o : CanOutcome) (now : ℚ) (a : Answer) :
    sledStep s (.read o now (.message (r.response a) 0)) =
      intfDispatchMsg now (r.response a) s := by
  have htype : (r.response a).type = 0 := by
    cases a with
    | accept unused value =>
      simp only [Sdo.response]
      split <;> rfl
    | refuse code => rfl
  simp [sledStep, intfOnRead, hread, hfd, htype]

/-- The response to the active request is taken by the function for its kind. -/
lemma dispatch_response (hl : Listening n ms s) (ha : s.mchSdo.sdoActive = some r) (now : ℚ)
    (a : Answer) :
    (r.isWrite = true ∧ intfDispatchMsg now (r.response a) s =
      mchSdoWriteCallback sledCallbacks r.index r.subindex s) ∨
    (r.isWrite = false ∧ ∃ v, intfDispatchMsg now (r.response a) s =
      mchSdoReadCallback sledCallbacks r.index r.subindex v s) ∨
    (∃ code, intfDispatchMsg now (r.response a) s =
      mchSdoAbortCallback sledCallbacks r.index r.subindex code s) := by
  obtain ⟨hwrite, hread, habort⟩ := hl.slots r ha
  cases a with
  | refuse code =>
    right; right
    obtain ⟨v, hv⟩ := intfDispatchMsg_abortResponse now r.index r.subindex code s
    exact ⟨v, by rw [Sdo.response, hv, if_pos habort]⟩
  | accept unused value =>
    cases hw : r.isWrite with
    | true =>
      left
      refine ⟨rfl, ?_⟩
      rw [Sdo.response, if_pos hw, intfDispatchMsg_writeResponse, if_pos (by rw [hwrite, hw])]
    | false =>
      right; left
      obtain ⟨v, hv⟩ := intfDispatchMsg_readResponse now r.index r.subindex value s unused
      refine ⟨rfl, v, ?_⟩
      rw [Sdo.response, if_neg (by simp [hw]), hv, if_pos (by rw [hread, hw]; rfl)]

/-- A response on its way to the host passes the assertions, and the invariant holds after it. -/
lemma Matched.deliver {msg : CanMessage} (h : Matched n (msg :: ms) s) (o : CanOutcome) (now : ℚ) :
    sledStep s (.read o now (.message msg 0)) ≠ .error .assertFailed ∧
      ∀ t, sledStep s (.read o now (.message msg 0)) = .ok t → Matched n ms t := by
  by_cases hread : s.intf.readEvent = true
  swap
  · -- Nobody reads the bus any more.
    have hskip : sledStep s (.read o now (.message msg 0)) = .ok s := by simp [sledStep, hread]
    rw [hskip]
    refine ⟨by simp, ?_⟩
    rintro t ⟨⟩
    exact ⟨h.received_le, h.waiting, h.error, h.queued_owned, h.active_owned,
      fun hr => absurd hr hread⟩
  have hl := h.listening hread
  obtain ⟨r, a, ha, hdrop, rfl, rfl⟩ : ∃ r a, s.mchSdo.sdoActive = some r ∧
      s.sent.drop n = [] ∧ msg = r.response a ∧ ms = [] := by
    have hout := hl.outstanding
    generalize s.mchSdo.sdoActive = active at hout
    generalize s.sent.drop n = d at hout
    cases hout with
    | answered r a => exact ⟨r, a, rfl, rfl, rfl, rfl⟩
  rw [sledStep_response hread hl.fd]
  have hlog : ∀ o : Obs sledClient, o.sent? = none → (s.log o).sent = s.sent :=
    fun o ho => Host.sent_log ho
  rcases dispatch_response hl ha now a with ⟨hw, hd⟩ | ⟨hw, v, hd⟩ | ⟨code, hd⟩
  · rw [hd]
    refine ⟨mchSdoWriteCallback_ne_assertFailed ha hw (h.active_owned r ha), fun t ht => ?_⟩
    obtain ⟨sdo, t', u, -, -, -, -, ht', hu, rfl⟩ := mchSdoWriteCallback_sled ht
    obtain ⟨hm, hs, hi⟩ : t'.mchSdo = s.mchSdo ∧ t'.sent = s.sent ∧ t'.intf.fd = s.intf.fd := by
      rcases ht' with rfl | ⟨call, rfl⟩
      · exact ⟨rfl, hlog _ rfl, rfl⟩
      · exact ⟨rfl, (Host.sent_log rfl).trans (hlog _ rfl), rfl⟩
    obtain ⟨hm', hs', hi'⟩ := hu.frame
    exact (h.clearActive hl.fd hdrop (hm'.trans hm) (hs'.trans hs) (hi'.trans hi)).proceed rfl
  · rw [hd]
    refine ⟨mchSdoReadCallback_ne_assertFailed ha hw v, fun t ht => ?_⟩
    obtain ⟨sdo, -, -, -, -, rfl⟩ := mchSdoReadCallback_sled ht
    exact (h.clearActive (t := s.log (.answered sdo (.read v))) hl.fd hdrop rfl (hlog _ rfl)
      rfl).proceed rfl
  · rw [hd]
    refine ⟨mchSdoAbortCallback_ne_assertFailed ha code, fun t ht => ?_⟩
    obtain ⟨sdo, -, -, -, -, rfl⟩ := mchSdoAbortCallback_sled ht
    exact (h.clearActive (t := s.log (.answered sdo (.abort code))) hl.fd hdrop rfl (hlog _ rfl)
      rfl).fail rfl

end Responses

/-! ## Runs -/

/-- The network is not declared pre-operational again while a request is still unanswered. -/
def Settled (s : System) : BusEvent → Prop
  | .host e => e.nmtState? s.host = some 0x7F →
      s.host.env.mchNet = .unknown ∨ s.host.env.mchNet = .enterpreoperational →
        s.host.mchSdo.sdoActive = none
  | _ => True

namespace Matched

variable {n : ℕ} {ms : List CanMessage} {s t : Sled}

/-- A report of the network keeps the invariant, provided it is not a pre-operational one that
comes too early. -/
lemma external {event : MchNetEvent} (h : Matched n ms s) (hl : Linked s) (he : event.External)
    (hpre : event = .preoperational → s.env.mchNet = .unknown ∨
      s.env.mchNet = .enterpreoperational → s.mchSdo.sdoActive = none)
    (hr : mchNetHandleEvent event s = .ok t) : Matched n ms t := by
  refine h.netEvent (fun hne hnext => ?_) hr
  rcases hnext with hnext | hnext
  · have hfrom : event = .preoperational ∧
        (s.env.mchNet = .unknown ∨ s.env.mchNet = .enterpreoperational) := by
      cases hs : s.env.mchNet <;> cases event <;> simp_all [mchNetNextStateGivenEvent]
    refine ⟨?_, fun _ => hpre hfrom.1 hfrom.2⟩
    rcases hfrom.2 with hs | hs <;> simp [Host.netLeave, hs]
  · have hfrom : s.env.mchNet = .startremotenode := by
      cases hs : s.env.mchNet <;> cases event <;> simp_all [mchNetNextStateGivenEvent]
    refine ⟨by simp [Host.netLeave, hfrom], fun hoff => h.error ?_⟩
    have hon := hl.net_sdo (.inr (.inl hfrom))
    cases hs : s.mchSdo.state <;> simp_all [MchSdoState.Enabled]

lemma step {e : SledEvent} (h : Matched n ms s) (hl : Linked s) (he : e.isSdo = false)
    (hok : e.nmtState? s = some 0x7F → s.env.mchNet = .unknown ∨
      s.env.mchNet = .enterpreoperational → s.mchSdo.sdoActive = none)
    (hr : sledStep s e = .ok t) : Matched n ms t := by
  cases sledStep_effect hr with
  | skip => exact h
  | report _ ht => exact h.moves (fun _ hr => owned_of_plain hr.toPlain) (moves_tpdo ht)
  | watchdog ht => exact h.external hl (.inr (.inr (.inr rfl))) (by simp) ht
  | @nmt u state now hstate ht =>
    have hu : Matched n ms u := by
      rcases raiseNmt_ok ht with rfl | ⟨event, hevent, hext, ht⟩
      · exact h
      · refine h.external hl hext (fun hev => ?_) ht
        subst hev
        have hval : state = 0x7F := by
          unfold nmtEvent? at hevent
          split_ifs at hevent <;> simp_all
        exact hok (hval ▸ hstate)
    exact hu.of_eq rfl rfl rfl
  | close hc => exact h.close hc
  | write hsdo | read hsdo => simp [he] at hsdo
  | abort habort =>
    rw [SledEvent.isSdo_of_isAbort habort] at he
    cases he
  | call _ hc => exact h.moves (fun _ => owned_of_fromCall) (moves_call hc)

end Matched

/-- The invariant of the system. -/
structure BusInv (s : System) : Prop where
  coupled : CoupledInv s.host
  matched : Matched s.received s.toHost s.host

namespace BusInv

variable {s s' : System} {e : BusEvent}

lemma step_ne_assertFailed (h : BusInv s) : busStep s e ≠ .error .assertFailed := by
  cases e with
  | host e =>
    simp only [busStep]
    split
    case isTrue => simp
    case isFalse he =>
      exact bind_ne_error (sledStep_ne_assertFailed (by simpa using he) _) (by simp)
  | receive a =>
    simp only [busStep]
    split <;> simp
  | deliver now =>
    simp only [busStep]
    split
    · simp
    · next msg rest hmsg =>
      have hm := h.matched
      rw [hmsg] at hm
      exact bind_ne_error (hm.deliver _ now).1 (by simp)

lemma step (h : BusInv s) (hok : Settled s e) (hr : busStep s e = .ok s') : BusInv s' := by
  cases e with
  | host e =>
    simp only [busStep] at hr
    split at hr
    case isTrue => cases hr; exact h
    case isFalse he =>
      obtain ⟨t, ht, hr⟩ := bind_eq_ok.mp hr
      cases hr
      exact ⟨h.coupled.step ht, h.matched.step h.coupled.linked (by simpa using he) hok ht⟩
  | receive a =>
    simp only [busStep] at hr
    split at hr
    · cases hr; exact h
    · next r rs hdrive =>
      cases hr
      refine ⟨h.coupled, ?_⟩
      obtain ⟨hle, hw, herr, hq, hact, hlisten⟩ := h.matched
      have hlt : s.received < s.host.sent.length := by
        by_contra hge
        have hempty : s.toDrive = [] := List.drop_of_length_le (by omega)
        simp [hempty] at hdrive
      refine ⟨hlt, hw, herr, hq, hact, fun hread => ?_⟩
      obtain ⟨hfd, hslots, hout⟩ := hlisten hread
      refine ⟨hfd, hslots, ?_⟩
      -- The request that reaches the drive is the active one.
      rw [toDrive_cons hdrive]
      rw [show s.host.sent.drop s.received = r :: rs from hdrive] at hout
      generalize s.host.mchSdo.sdoActive = active at hout
      generalize s.toHost = ms at hout
      cases hout with
      | asked r => exact .answered r a
  | deliver now =>
    simp only [busStep] at hr
    split at hr
    · cases hr; exact h
    · next msg rest hmsg =>
      obtain ⟨t, ht, hr⟩ := bind_eq_ok.mp hr
      cases hr
      have hm := h.matched
      rw [hmsg] at hm
      exact ⟨h.coupled.step ht, (hm.deliver _ now).2 t ht⟩

end BusInv

lemma matched_sledCreate {mem : SledEnv} {now : ℚ} {o : CanOutcome} {s : Sled}
    (h : sledCreate mem now o = .ok s) : Matched 0 [] s := by
  have hstores : Stores (fun _ => False) (sledAlloc mem now)
      (sledCreateProfiles (sledAlloc mem now)) := Stores.createProfiles (.refl _)
  have henv := hstores.env_rel SledEnv.SameModes.refl fun _ _ _ => .trans
  obtain ⟨hm, hi⟩ := hstores.silent
  have hs := hstores.silent_sent
  have hnet : (sledCreateProfiles (sledAlloc mem now)).env.mchNet = .disabled := henv.net
  obtain ⟨intf, hfd, hend⟩ := sledCreate_ok h henv.intf hi
  generalize sledCreateProfiles (sledAlloc mem now) = t at hm hs hnet hend
  have hsent : ((t.setIntfState .opening).withIntf intf).sent = [] := by
    have ht : ((t.setIntfState .opening).withIntf intf).trace =
      t.trace ++ [.note (.intfState t.env.mchIntf .opening)] := rfl
    rw [Host.sent_of_trace ht, hs]
    rfl
  have hopen : Matched 0 [] ((t.setIntfState .opening).withIntf intf) := by
    have hm' : ((t.setIntfState .opening).withIntf intf).mchSdo =
      (sledAlloc mem now).mchSdo := hm
    refine ⟨Nat.zero_le _, ?_, ?_, ?_, ?_, fun hread => ⟨hfd hread, ?_, ?_⟩⟩
    · simp [hm', sledAlloc, mchSdoCreate]
    · simp [hm', sledAlloc, mchSdoCreate]
    · simp [hm', sledAlloc, mchSdoCreate]
    · simp [hm', sledAlloc, mchSdoCreate]
    · simp [hm', sledAlloc, mchSdoCreate]
    · rw [hm', hsent]
      exact .idle
  rcases hend with rfl | hnetEvent
  · exact hopen
  · have hset : Matched 0 []
        (((t.setIntfState .opening).withIntf intf).setIntfState .opened) := by
      refine hopen.of_eq rfl ?_ rfl
      simp [Host.sent_of_trace (s := (t.setIntfState .opening).withIntf intf)
        (t := ((t.setIntfState .opening).withIntf intf).setIntfState .opened) rfl, Obs.sent?]
    refine hset.netEvent (fun _ hnext => ?_) hnetEvent
    have hfrom : (((t.setIntfState .opening).withIntf intf).setIntfState .opened).env.mchNet =
      .disabled := hnet
    rw [hfrom] at hnext
    simp [mchNetNextStateGivenEvent] at hnext

/-- **Late responses do not crash the server**, as long as no pre-operational report makes the
host start over while a request is still unanswered: in every run of host and drive from
`sled_create` in which the drive answers each request once, in order and after any delay, no
assertion fails. -/
theorem late_responses_accepted {mem : SledEnv} {now : ℚ} {o : CanOutcome} {s : Sled}
    (hcreate : sledCreate mem now o = .ok s) {es : List BusEvent}
    (h : Guarded busStep Settled (.init s) es) :
    run busStep (.init s) es ≠ .error .assertFailed := by
  have hinit : BusInv (.init s) := ⟨coupledInv_sledCreate hcreate, matched_sledCreate hcreate⟩
  exact Guarded.ne_error (fun _ _ _ hs hok hstep => hs.step hok hstep)
    (fun _ _ hs _ => hs.step_ne_assertFailed) hinit h

instance : ∀ (s : System) (e : BusEvent), Decidable (Settled s e)
  | _, .host _ => inferInstanceAs (Decidable (_ → _ → _))
  | _, .receive _ => inferInstanceAs (Decidable True)
  | _, .deliver _ => inferInstanceAs (Decidable True)

/-- The next request is confirmed, and the confirmation reaches the host. -/
def exchanged : List BusEvent := [.receive .confirm, .deliver 0]

/-- The drive reports an NMT state. -/
def reported (state : UInt8) : BusEvent := .host (frame (nmtReport state))

/-- The upload of the configuration, up to its last request, which is sent. -/
def lastRequestSent : List BusEvent :=
  reported 0x7F :: (List.replicate 23 exchanged).flatten

/-- The network drops with the last request on its way, and comes back after the response. -/
theorem late_responses_accepted_recovery :
    ∃ s, sledCreate someMemory 0 ⟨.success, true⟩ = .ok s ∧
      Guarded busStep Settled (.init s)
        (lastRequestSent ++ reported 0x04 :: exchanged ++ [reported 0x7F]) ∧
      run busStep (.init s) (lastRequestSent ++ reported 0x04 :: exchanged ++ [reported 0x7F]) ≠
        .error .assertFailed := by
  obtain ⟨s, hs, hg⟩ := exists_of_okAnd (x := sledCreate someMemory 0 ⟨.success, true⟩)
    (p := fun s => decide (Guarded busStep Settled (.init s)
      (lastRequestSent ++ reported 0x04 :: exchanged ++ [reported 0x7F]))) (by decide +kernel)
  have hguarded := of_decide_eq_true hg
  exact ⟨s, hs, hguarded, late_responses_accepted hs hguarded⟩

/-- The network drops with the last request of the configuration on its way and comes back before
the response.  By the time the response comes, the first request of a new upload is active. -/
theorem late_response_crashes :
    ∃ s₀ s, sledCreate someMemory 0 ⟨.success, true⟩ = .ok s₀ ∧
      run busStep (.init s₀) (lastRequestSent ++ [reported 0x04, reported 0x7F,
        .receive (.accept 0 0)]) = .ok s ∧
      (s.host.mchSdo.sdoActive.map fun r => (r.index, r.subindex)) = some (0x1A00, 0x00) ∧
      s.toHost = [writeResponse 0x1803 0x01] ∧ busStep s (.deliver 0) = .error .assertFailed := by
  obtain ⟨s₀, hs₀, h⟩ := exists_of_okAnd (x := sledCreate someMemory 0 ⟨.success, true⟩)
    (p := fun s₀ => okAnd (fun s : System =>
        ((s.host.mchSdo.sdoActive.map fun r => (r.index, r.subindex)) == some (0x1A00, 0x00)) &&
          (s.toHost == [writeResponse 0x1803 0x01]) &&
          haltsWith .assertFailed (busStep s (.deliver 0)))
      (run busStep (.init s₀) (lastRequestSent ++ [reported 0x04, reported 0x7F,
        .receive (.accept 0 0)]))) (by decide +kernel)
  obtain ⟨s, hs, h⟩ := exists_of_okAnd h
  simp only [Bool.and_eq_true, beq_iff_eq] at h
  exact ⟨s₀, s, hs₀, hs, h.1.1, h.1.2, eq_error_of_haltsWith h.2⟩

end SledServer
