import SledServer.Drive.Bus

/-!
# A drive that carries out its requests

`Plant` adds the state of a drive to host and bus, for a drive that applies every request in the
order in which it receives them and confirms each.  What the state is and what a request does to it
is left open: the development uses a table of motion tasks, and a control word.

The drive lags behind the host.  `Plant.settled` is the state it will be in once everything the
host has issued has been applied, and is what the host can be compared with at any time: neither
the arrival of a request nor that of a confirmation changes it, and queueing a request applies it
(`settled_of_requests`, `settled_receive`).
-/

namespace SledServer

open SledServer.Core

variable {c : Client} {σ δ : Type}

namespace Host

/-- What has been issued, without addresses. -/
def requests (s : Host c σ) : List (Request c) := s.issued.map Sdo.toRequest

variable {s t : Host c σ}

lemma requests_of_issued (h : t.issued = s.issued) : t.requests = s.requests := by
  rw [requests, h, requests]

@[simp] lemma requests_push (r : Request c) : (s.push r).requests = s.requests ++ [r] := by
  rw [requests, issued_push, List.map_append, List.map_singleton]
  rfl

@[simp] lemma requests_pushAll (rs : List (Request c)) :
    (s.pushAll rs).requests = s.requests ++ rs := by
  induction rs generalizing s with
  | nil => simp
  | cons r rs ih =>
    rw [pushAll_cons, ih, requests_push, List.append_assoc, List.singleton_append]

@[simp] lemma requests_withEnv (e : σ) : (s.withEnv e).requests = s.requests := rfl

@[simp] lemma requests_clearActive : s.clearActive.requests = s.requests := rfl

@[simp] lemma requests_proceed : s.proceed.requests = s.requests :=
  requests_of_issued issued_proceed

lemma requests_log {o : Obs c} (h : o.sent? = none) : (s.log o).requests = s.requests :=
  requests_of_issued (issued_log h)

lemma sent_length_le : s.sent.length ≤ s.requests.length := by
  simp [requests, issued]

end Host

/-- The host has issued more requests, all of the kind `K`. -/
def Issues (K : Request sledClient → Prop) (s t : Sled) : Prop :=
  ∃ rs, t.requests = s.requests ++ rs ∧ ∀ r ∈ rs, K r

namespace Issues

variable {K : Request sledClient → Prop} {s t u : Sled}

lemma of_eq (h : t.requests = s.requests) : Issues K s t := ⟨[], by simp [h], by simp⟩

lemma trans (h : Issues K s t) (h' : Issues K t u) : Issues K s u := by
  obtain ⟨rs, hrs, hK⟩ := h
  obtain ⟨qs, hqs, hK'⟩ := h'
  refine ⟨rs ++ qs, by rw [hqs, hrs, List.append_assoc], fun r hr => ?_⟩
  rcases List.mem_append.mp hr with hr | hr
  · exact hK r hr
  · exact hK' r hr

lemma pushAll (s : Sled) {rs : List (Request sledClient)} (h : ∀ r ∈ rs, K r) :
    Issues K s (s.pushAll rs) := ⟨rs, by simp, h⟩

lemma moves {R : SledEnv → SledEnv → Prop} (h : Moves K R s t) : Issues K s t := by
  refine h.invariant (I := Issues K s) (of_eq rfl) ?_ ?_ ?_
  · intro t r hr ht
    exact ht.trans ⟨[r], by simp, by simpa using hr⟩
  · exact fun t e _ ht => ht.trans (of_eq rfl)
  · exact fun t n _ ht => ht.trans (of_eq (Host.requests_log rfl))

end Issues

/-! ## Requests that await their response -/

namespace Awaits

/-- A series of moves that queues requests of the kind `Q` only. -/
lemma moves {K Q : Request sledClient → Prop} {R : SledEnv → SledEnv → Prop} {s t : Sled}
    (h : Awaits Q s) (hK : ∀ r, K r → Q r) (hm : Moves K R s t) : Awaits Q t :=
  hm.invariant (I := Awaits Q) h (fun _ r hr hs => hs.push (hK r hr))
    (fun _ _ _ hs => hs.of_same rfl rfl) fun _ _ _ hs => hs.of_same rfl rfl

/-- A series of visits queues plain requests, and fields of the visited profiles. -/
lemma visits {Q : Request sledClient → Prop} {s : Sled} {is : List (Fin MAX_PROFILES)}
    (h : Awaits Q s) (hplain : ∀ r : Request sledClient, r.Plain → Q r)
    (hfield : ∀ i ∈ is, ∀ f v, Q (fieldWrite i f v)) : Awaits Q (is.foldl Host.visit s) := by
  induction is generalizing s with
  | nil => exact h
  | cons i is ih =>
    have hvisit : Awaits Q (s.visit i) := by
      refine Awaits.of_same (s := s.pushAll (s.env.visitRequests i))
        (h.pushAll fun r hr => ?_) rfl rfl
      rcases mem_visitRequests hr with ⟨src, dst, rfl⟩ | ⟨f, v, rfl⟩
      · exact hplain _ (plain_plainWrite _ _ _ _)
      · exact hfield i List.mem_cons_self f v
    exact ih hvisit fun j hj => hfield j (List.mem_cons_of_mem _ hj)

end Awaits

/-! ## The plant -/

/-- Host, bus and drive. -/
structure Plant (δ : Type) where
  sys : System
  drive : δ

/-- What can happen to host, bus and drive. -/
inductive PlantEvent
  /-- Anything that happens to the host but the arrival of an SDO response. -/
  | host (e : SledEvent)
  /-- The next request reaches the drive, which applies and confirms it. -/
  | receive
  /-- The next confirmation reaches the host. -/
  | deliver (now : ℚ)

/-- The confirmation of a request. -/
def Sdo.confirmation (r : Sdo c) : CanMessage := r.response .confirm

/-- One step; `apply` is what the drive does with a request. -/
def plantStep (apply : δ → Request sledClient → δ) (p : Plant δ) :
    PlantEvent → Except Halt (Plant δ)
  | .host e => do
    let sys ← busStep p.sys (.host e)
    .ok { p with sys := sys }
  | .receive =>
    match p.sys.toDrive with
    | [] => .ok p
    | r :: _ => do
      let sys ← busStep p.sys (.receive .confirm)
      .ok ⟨sys, apply p.drive r.toRequest⟩
  | .deliver now => do
    let sys ← busStep p.sys (.deliver now)
    .ok { p with sys := sys }

namespace Plant

/-- The same plant with another host. -/
def withHost (p : Plant δ) (s : Sled) : Plant δ := { p with sys := { p.sys with host := s } }

/-- The requests that the drive is still to apply. -/
def pending (p : Plant δ) : List (Request sledClient) :=
  p.sys.host.requests.drop p.sys.received

/-- The drive once it has applied everything that has been issued. -/
def settled (apply : δ → Request sledClient → δ) (p : Plant δ) : δ :=
  p.pending.foldl apply p.drive

/-- Everything has been applied and confirmed. -/
def drained (p : Plant δ) : Bool :=
  p.sys.host.mchSdo.sdoQueue.isEmpty && p.sys.host.mchSdo.sdoActive.isNone &&
    p.sys.toDrive.isEmpty && p.sys.toHost.isEmpty

/-- What holds of every plant. -/
structure Sane (p : Plant δ) : Prop where
  received_le : p.sys.received ≤ p.sys.host.requests.length
  confirmations : ∀ m ∈ p.sys.toHost, ∃ r : Sdo sledClient, m = r.confirmation

variable {apply : δ → Request sledClient → δ} {p : Plant δ}

/-- A drained plant has nothing left to apply. -/
lemma settled_of_drained (h : p.drained = true) : p.settled apply = p.drive := by
  simp only [drained, Bool.and_eq_true, List.isEmpty_iff] at h
  obtain ⟨⟨⟨hq, -⟩, hd⟩, -⟩ := h
  have hpending : p.pending = [] := by
    rw [pending, Host.requests, Host.issued, hq, List.append_nil, ← List.map_drop]
    exact List.map_eq_nil_iff.mpr hd
  simp [settled, hpending]

lemma pending_of_requests (h : p.Sane) {t : Sled} {rs : List (Request sledClient)}
    (ht : t.requests = p.sys.host.requests ++ rs) :
    (p.withHost t).pending = p.pending ++ rs := by
  show t.requests.drop p.sys.received = p.sys.host.requests.drop p.sys.received ++ rs
  rw [ht, List.drop_append_of_le_length h.received_le]

/-- Queueing a request applies it to the settled drive. -/
lemma settled_of_requests (h : p.Sane) {t : Sled} {rs : List (Request sledClient)}
    (ht : t.requests = p.sys.host.requests ++ rs) :
    (p.withHost t).settled apply = rs.foldl apply (p.settled apply) := by
  rw [settled, pending_of_requests h ht, List.foldl_append]
  rfl

lemma Sane.withHost (h : p.Sane) {t : Sled} {K : Request sledClient → Prop}
    (ht : Issues K p.sys.host t) : (p.withHost t).Sane := by
  obtain ⟨rs, hrs, -⟩ := ht
  refine ⟨?_, h.confirmations⟩
  have hle := h.received_le
  show p.sys.received ≤ t.requests.length
  rw [hrs, List.length_append]
  omega

/-- Requests that the drive does not act on leave the settled drive as it is. -/
lemma settled_of_issues (h : p.Sane) {t : Sled} {K : Request sledClient → Prop}
    (hK : ∀ d r, K r → apply d r = d) (ht : Issues K p.sys.host t) :
    (p.withHost t).settled apply = p.settled apply := by
  obtain ⟨rs, hrs, hall⟩ := ht
  rw [settled_of_requests h hrs]
  generalize p.settled apply = d
  clear hrs
  induction rs generalizing d with
  | nil => rfl
  | cons r rs ih =>
    rw [List.foldl_cons, hK d r (hall r List.mem_cons_self)]
    exact ih (fun q hq => hall q (List.mem_cons_of_mem _ hq)) d

/-- The plant after the request `r` has reached the drive. -/
def received (apply : δ → Request sledClient → δ) (p : Plant δ) (r : Sdo sledClient) : Plant δ :=
  ⟨{ p.sys with received := p.sys.received + 1, toHost := p.sys.toHost ++ [r.confirmation] },
    apply p.drive r.toRequest⟩

variable {r : Sdo sledClient} {rest : List (Sdo sledClient)}

lemma pending_eq_cons (apply : δ → Request sledClient → δ) (h : p.sys.toDrive = r :: rest) :
    p.pending = r.toRequest :: (p.received apply r).pending := by
  have hlt : p.sys.received ≤ p.sys.host.sent.length := by
    by_contra hge
    have hempty : p.sys.toDrive = [] := List.drop_of_length_le (by omega)
    simp [hempty] at h
  have hdrop : p.sys.host.issued.drop p.sys.received =
      r :: (rest ++ p.sys.host.mchSdo.sdoQueue) := by
    rw [Host.issued, List.drop_append_of_le_length hlt, show p.sys.host.sent.drop _ = _ from h]
    rfl
  have htail : (p.received apply r).pending =
      (rest ++ p.sys.host.mchSdo.sdoQueue).map Sdo.toRequest := by
    show p.sys.host.requests.drop (p.sys.received + 1) = _
    rw [Host.requests, ← List.map_drop, ← List.tail_drop, hdrop, List.tail_cons]
  rw [htail, pending, Host.requests, ← List.map_drop, hdrop, List.map_cons]

/-- The arrival of a request does not change the settled drive. -/
lemma settled_receive (h : p.sys.toDrive = r :: rest) :
    (p.received apply r).settled apply = p.settled apply := by
  unfold settled
  rw [pending_eq_cons apply h, List.foldl_cons]
  rfl

lemma Sane.received (hs : p.Sane) (h : p.sys.toDrive = r :: rest) :
    (p.received apply r).Sane := by
  refine ⟨?_, ?_⟩
  · have hlen := congrArg List.length (pending_eq_cons apply h)
    simp only [pending, List.length_drop, List.length_cons] at hlen
    show p.sys.received + 1 ≤ p.sys.host.requests.length
    omega
  · intro m hm
    rcases List.mem_append.mp hm with hm | hm
    · exact hs.confirmations m hm
    · exact ⟨r, List.mem_singleton.mp hm⟩

end Plant

/-! ## What one step can do -/

/-- What the arrival of a confirmation can do to the host. -/
inductive Confirmed (s : Sled) : Sled → Prop
  | dropped : Confirmed s s
  | write {t : Sled} {index : UInt16} {subindex : UInt8}
      (h : mchSdoWriteCallback sledCallbacks index subindex s = .ok t) : Confirmed s t
  | read {t : Sled} {index : UInt16} {subindex : UInt8} {value : UInt32}
      (h : mchSdoReadCallback sledCallbacks index subindex value s = .ok t) : Confirmed s t

lemma confirmed_of_ok {s t : Sled} {r : Sdo sledClient} {o : CanOutcome} {now : ℚ}
    (h : sledStep s (.read o now (.message r.confirmation 0)) = .ok t) : Confirmed s t := by
  have htype : r.confirmation.type &&& 1 = 0 := by
    have h0 : r.confirmation.type = 0 := by
      simp only [Sdo.confirmation, Sdo.response]
      split <;> rfl
    rw [h0]
    decide
  simp only [sledStep, intfOnRead, htype, ne_eq, not_true_eq_false, if_false] at h
  split_ifs at h
  · cases h
    exact .dropped
  · unfold Sdo.confirmation Sdo.response at h
    by_cases hw : r.isWrite = true
    · simp only [hw, if_true, intfDispatchMsg_writeResponse] at h
      split at h
      · exact .write h
      · cases h
        exact .dropped
    · simp only [hw, Bool.false_eq_true, if_false] at h
      obtain ⟨v, hv⟩ := intfDispatchMsg_readResponse now r.index r.subindex 0 s 0
      rw [hv] at h
      split at h
      · exact .read h
      · cases h
        exact .dropped
  · cases h
    exact .dropped

/-- Everything one step of the plant can do. -/
inductive PlantEffect (apply : δ → Request sledClient → δ) (p : Plant δ) :
    PlantEvent → Plant δ → Prop
  | idle {e : PlantEvent} : PlantEffect apply p e p
  | host {e : SledEvent} {t : Sled} (he : e.isSdo = false) (h : sledStep p.sys.host e = .ok t) :
      PlantEffect apply p (.host e) (p.withHost t)
  | receive {r : Sdo sledClient} {rest : List (Sdo sledClient)} (h : p.sys.toDrive = r :: rest) :
      PlantEffect apply p .receive (p.received apply r)
  | deliver {msg : CanMessage} {rest : List CanMessage} {t : Sled} {now : ℚ}
      (hm : p.sys.toHost = msg :: rest) (h : Confirmed p.sys.host t) :
      PlantEffect apply p (.deliver now)
        { p with sys := { p.sys with host := t, toHost := rest } }

/-- Every step is one of the listed effects. -/
theorem plantStep_effect {apply : δ → Request sledClient → δ} {p p' : Plant δ} {e : PlantEvent}
    (hs : p.Sane) (h : plantStep apply p e = .ok p') : PlantEffect apply p e p' := by
  cases e with
  | host e =>
    obtain ⟨sys, hsys, h⟩ := bind_eq_ok.mp h
    cases h
    simp only [busStep] at hsys
    split at hsys
    case isTrue =>
      cases hsys
      exact .idle
    case isFalse he =>
      obtain ⟨t, ht, hsys⟩ := bind_eq_ok.mp hsys
      cases hsys
      exact .host (by simpa using he) ht
  | receive =>
    simp only [plantStep] at h
    split at h
    · cases h
      exact .idle
    · next r rest hd =>
      obtain ⟨sys, hsys, h⟩ := bind_eq_ok.mp h
      cases h
      simp only [busStep, hd, Except.ok.injEq] at hsys
      subst hsys
      exact .receive hd
  | deliver now =>
    obtain ⟨sys, hsys, h⟩ := bind_eq_ok.mp h
    cases h
    simp only [busStep] at hsys
    split at hsys
    · cases hsys
      exact .idle
    · next msg rest hm =>
      obtain ⟨t, ht, hsys⟩ := bind_eq_ok.mp hsys
      cases hsys
      obtain ⟨r, rfl⟩ := hs.confirmations msg (by rw [hm]; exact List.mem_cons_self)
      exact .deliver hm (confirmed_of_ok ht)

/-! ## Confirmations -/

/-- A confirmation issues nothing: it takes the next request from the queue at most. -/
lemma Confirmed.requests {s t : Sled} (h : Confirmed s t) : t.requests = s.requests := by
  cases h with
  | dropped => rfl
  | write h =>
    obtain ⟨sdo, t', u, -, -, -, -, ht, hu, rfl⟩ := mchSdoWriteCallback_sled h
    have hlog : t'.requests = s.requests := by
      rcases ht with rfl | ⟨call, rfl⟩
      · exact Host.requests_log rfl
      · exact (Host.requests_log rfl).trans (Host.requests_log rfl)
    have heff : u.requests = t'.requests := by
      cases hu with
      | silent | lateUpload | field => rfl
      | upload =>
        have hnote : ((t'.setNetState .startremotenode).sendNmt NMT_STARTREMOTENODE).requests =
          (t'.log (.note (SledNote.netState t'.env.mchNet .startremotenode))).requests := rfl
        rw [hnote, Host.requests_log rfl]
    rw [Host.requests_proceed, Host.requests_clearActive, heff, hlog]
  | read h =>
    obtain ⟨sdo, -, -, -, -, rfl⟩ := mchSdoReadCallback_sled h
    rw [Host.requests_proceed, Host.requests_clearActive, Host.requests_log rfl]

lemma Confirmed.awaits {Q : Request sledClient → Prop} {s t : Sled} (h : Confirmed s t)
    (hs : Awaits Q s) : Awaits Q t := by
  cases h with
  | dropped => exact hs
  | read h =>
    obtain ⟨sdo, -, -, -, -, rfl⟩ := mchSdoReadCallback_sled h
    exact Awaits.proceed (Awaits.of_same (s := s) hs rfl rfl)
  | write h =>
    obtain ⟨sdo, u, v, -, -, -, -, hu, hv, rfl⟩ := mchSdoWriteCallback_sled h
    have hawaits : Awaits Q u := by
      rcases hu with rfl | ⟨call, rfl⟩ <;> exact Awaits.of_same (s := s) hs rfl rfl
    refine Awaits.proceed ?_
    cases hv with
    | silent | lateUpload => exact hawaits
    | upload | field => exact Awaits.of_same (s := u) hawaits rfl rfl

/-- A confirmation may change the profiles and the state of the network machine, nothing else. -/
lemma Confirmed.env {s t : Sled} (h : Confirmed s t) :
    t.env = { s.env with profiles := t.env.profiles, mchNet := t.env.mchNet } := by
  cases h with
  | dropped => rfl
  | read h =>
    obtain ⟨sdo, -, -, -, -, rfl⟩ := mchSdoReadCallback_sled h
    simp
  | write h =>
    obtain ⟨sdo, u, v, -, -, -, -, hu, hv, rfl⟩ := mchSdoWriteCallback_sled h
    have henv : u.env = s.env := by
      rcases hu with rfl | ⟨call, rfl⟩ <;> rfl
    cases hv with
    | silent | lateUpload => simp [henv]
    | upload => simp [Host.setNetState, Host.sendNmt, henv]
    | field => simp [Host.modifyProfile_eq, henv]

/-- A confirmation marks a field of a profile as written, or leaves the profiles as they are. -/
lemma Confirmed.effect {s t : Sled} (h : Confirmed s t) :
    t.env.profiles = s.env.profiles ∨
    ∃ r i, s.mchSdo.sdoActive = some r ∧ r.writeCallback = some .onSuccessCallback ∧
      r.data = some (.profile i) ∧ t.env.profiles = Function.update s.env.profiles i
        (sledProfileSetFieldState r.index .written (s.env.profiles i)) := by
  cases h with
  | dropped => exact .inl rfl
  | read h =>
    obtain ⟨sdo, -, -, -, -, rfl⟩ := mchSdoReadCallback_sled h
    exact .inl (by simp)
  | write h =>
    obtain ⟨sdo, u, v, hactive, -, -, -, hu, hv, rfl⟩ := mchSdoWriteCallback_sled h
    have henv : u.env = s.env := by
      rcases hu with rfl | ⟨call, rfl⟩ <;> rfl
    cases hv with
    | silent | lateUpload => exact .inl (by simp [henv])
    | upload => exact .inl (by simp [Host.setNetState, Host.sendNmt, henv])
    | @field i hf hd =>
      refine .inr ⟨sdo, i, hactive, hf, hd, ?_⟩
      simp [Host.modifyProfile_eq, henv]

lemma Confirmed.contents {s t : Sled} (h : Confirmed s t) (i : Fin MAX_PROFILES) :
    (t.env.profiles i).profile = (s.env.profiles i).profile ∧
      (t.env.profiles i).inUse = (s.env.profiles i).inUse ∧
      (t.env.profiles i).neverSent = (s.env.profiles i).neverSent ∧
      (t.env.profiles i).nextProfile = (s.env.profiles i).nextProfile := by
  rcases h.effect with hsame | ⟨r, j, -, -, -, hset⟩
  · rw [hsame]
    exact ⟨rfl, rfl, rfl, rfl⟩
  · rw [hset]
    by_cases hi : i = j
    · subst hi
      obtain ⟨hp, huse, hn, hnext, -⟩ := setFieldState_contents r.index .written (s.env.profiles i)
      rw [Function.update_self]
      exact ⟨hp, huse, hn, hnext⟩
    · rw [Function.update_of_ne hi]
      exact ⟨rfl, rfl, rfl, rfl⟩

lemma Plant.Sane.deliver {p : Plant δ} {msg : CanMessage} {rest : List CanMessage} {t : Sled}
    (hs : p.Sane) (hm : p.sys.toHost = msg :: rest) (h : Confirmed p.sys.host t) :
    ({ p with sys := { p.sys with host := t, toHost := rest } } : Plant δ).Sane := by
  refine ⟨?_, fun m hmem => hs.confirmations m ?_⟩
  · show p.sys.received ≤ t.requests.length
    rw [h.requests]
    exact hs.received_le
  · rw [hm]
    exact List.mem_cons_of_mem _ hmem

lemma Plant.settled_deliver {apply : δ → Request sledClient → δ} {p : Plant δ}
    {rest : List CanMessage} {t : Sled} (h : Confirmed p.sys.host t) :
    ({ p with sys := { p.sys with host := t, toHost := rest } } : Plant δ).settled apply =
      p.settled apply := by
  show (t.requests.drop p.sys.received).foldl apply p.drive = _
  rw [h.requests]
  rfl

/-! ## Reports -/

/-- TPDO1 arrives, with any data. -/
def tpdoEvent (now : ℚ) (data : Vector UInt8 8) : SledEvent :=
  .read ⟨.success, true⟩ now (.message ⟨0x181, 0, 3, data⟩ 0)

/-- The host takes a report while it reads the bus. -/
lemma sledStep_tpdoEvent (now : ℚ) (data : Vector UInt8 8) (s : Sled) :
    sledStep s (tpdoEvent now data) =
      if s.intf.readEvent && s.intf.fd then
        .ok (s.tpdo (statusWord data) (modeOfOperation data)) else .ok s := by
  have hdispatch : intfDispatchMsg now ⟨0x181, 0, 3, data⟩ s =
      .ok (s.tpdo (statusWord data) (modeOfOperation data)) := by
    rw [intfDispatchMsg]
    simp [intfOnTpdo_one]
  simp only [tpdoEvent, sledStep, intfOnRead, hdispatch]
  cases s.intf.readEvent <;> cases s.intf.fd <;> rfl

end SledServer
