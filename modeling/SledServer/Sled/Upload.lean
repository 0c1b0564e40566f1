import SledServer.Sdo.Queue
import SledServer.Sled.Coupling

/-!
# No operational state without the full configuration

The network machine leaves `ST_NET_PREOPERATIONAL` for `ST_NET_STARTREMOTENODE` when the function
that goes with the last of the 24 configuration writes is called.  That the other 23 have been
written by then rests on the queue of the SDO machine: while the upload lasts, the active request
and the front of the queue are what is left of the configuration (`Upload`), and a drop of the
network ends the upload for good, since the queue is cleared before the next one.
-/

namespace SledServer

open SledServer.Core

/-- The network machine entered `ST_NET_PREOPERATIONAL`. -/
def Obs.IsEntry (o : Obs sledClient) : Prop := ∃ n, o = .note (.netState n .preoperational)

/-- Since the network machine last entered `ST_NET_PREOPERATIONAL`, the events `os` have taken
place, in this order. -/
def SinceEntry (trace os : List (Obs sledClient)) : Prop :=
  ∃ pre n post, trace = pre ++ .note (.netState n .preoperational) :: post ∧
    (∀ o ∈ post, ¬ o.IsEntry) ∧ List.Sublist os post

/-- A request that is sent and then confirmed by a positive write response. -/
def exchange (r : Sdo sledClient) : List (Obs sledClient) := [.sent r, .answered r .write]

/-- Since the network machine last entered `ST_NET_PREOPERATIONAL`, the requests of the
configuration have been sent and confirmed, one after the other and in the listed order. -/
def Configured (trace : List (Obs sledClient)) : Prop :=
  ∃ cs : List (Sdo sledClient), cs.map Sdo.toRequest = netRequests ∧
    SinceEntry trace (cs.flatMap exchange)

/-! ## Stretches of the trace without an entry -/

/-- The trace has grown without an entry into `ST_NET_PREOPERATIONAL`. -/
def Extends (s t : Sled) : Prop :=
  ∃ os, t.trace = s.trace ++ os ∧ ∀ o ∈ os, ¬ o.IsEntry

namespace Extends

variable {s t u : Sled}

lemma of_eq (h : t.trace = s.trace) : Extends s t := ⟨[], by simp [h], by simp⟩

lemma refl (s : Sled) : Extends s s := of_eq rfl

lemma trans (h : Extends s t) (h' : Extends t u) : Extends s u := by
  obtain ⟨os, hos, hno⟩ := h
  obtain ⟨ps, hps, hno'⟩ := h'
  refine ⟨os ++ ps, by rw [hps, hos, List.append_assoc], fun o ho => ?_⟩
  rcases List.mem_append.mp ho with ho | ho
  · exact hno o ho
  · exact hno' o ho

lemma of_trace {os : List (Obs sledClient)} (h : t.trace = s.trace ++ os)
    (hno : ∀ o ∈ os, ¬ o.IsEntry) : Extends s t := ⟨os, h, hno⟩

lemma resume (s : Sled) : Extends s s.resume := by
  cases hq : s.mchSdo.sdoQueue with
  | nil => exact of_eq (by rw [Host.resume_nil hq])
  | cons r rs => exact of_trace (Host.resume_cons_trace hq) (by simp [Obs.IsEntry])

lemma push (s : Sled) (r : Request sledClient) : Extends s (s.push r) := by
  have henq : Extends s (s.enqueue r) := ⟨[_], rfl, by simp [Obs.IsEntry]⟩
  unfold Host.push
  split
  · exact henq.trans (resume _)
  · exact henq

lemma setSdoState (s : Sled) (st : MchSdoState) : Extends s (s.setSdoState st) :=
  ⟨[_], rfl, by simp [Obs.IsEntry]⟩

lemma moves {K : Request sledClient → Prop} {R : SledEnv → SledEnv → Prop}
    (h : Moves K R s t) : Extends s t := by
  refine h.invariant (refl s) (fun t r _ ht => ht.trans (push t r))
    (fun t e _ ht => ht.trans (of_eq rfl)) fun t n hn ht => ht.trans ⟨[_], rfl, ?_⟩
  intro o ho
  rw [List.mem_singleton.mp ho]
  rintro ⟨n', hn'⟩
  cases hn'
  exact hn

lemma proceed (s : Sled) : Extends s s.proceed := by
  unfold Host.proceed
  split
  · exact (setSdoState s _).trans (resume _)
  · exact refl s

lemma fail (s : Sled) : Extends s s.fail := by
  unfold Host.fail
  split
  · exact setSdoState s _
  · exact refl s

lemma sdoOn (h : SdoOn s t) : Extends s t := by
  cases h with
  | already => exact refl s
  | opened => exact setSdoState _ _

end Extends

namespace SinceEntry

variable {s t : Sled} {os ps : List (Obs sledClient)}

/-- What has happened stays so, and what happens now is added. -/
lemma append {trace : List (Obs sledClient)} (h : SinceEntry trace os)
    (ps : List (Obs sledClient)) (hno : ∀ o ∈ ps, ¬ o.IsEntry) :
    SinceEntry (trace ++ ps) (os ++ ps) := by
  obtain ⟨pre, n, post, rfl, hpost, hsub⟩ := h
  refine ⟨pre, n, post ++ ps, by simp, fun o ho => ?_, hsub.append (.refl ps)⟩
  rcases List.mem_append.mp ho with ho | ho
  · exact hpost o ho
  · exact hno o ho

lemma sublist {trace : List (Obs sledClient)} (h : SinceEntry trace os)
    (hps : List.Sublist ps os) : SinceEntry trace ps := by
  obtain ⟨pre, n, post, rfl, hpost, hsub⟩ := h
  exact ⟨pre, n, post, rfl, hpost, hps.trans hsub⟩

lemma extend (h : SinceEntry s.trace os) (ht : Extends s t) : SinceEntry t.trace os := by
  obtain ⟨qs, hqs, hno⟩ := ht
  rw [hqs]
  exact (h.append qs hno).sublist (List.sublist_append_left _ _)

end SinceEntry

lemma Configured.extend {s t : Sled} (h : Configured s.trace) (ht : Extends s t) :
    Configured t.trace := by
  obtain ⟨cs, hcs, hsince⟩ := h
  exact ⟨cs, hcs, hsince.extend ht⟩

/-! ## The upload -/

/-- The upload of the configuration is under way: `done` has been confirmed, `cur` is on its way,
and `rest` is at the front of the queue. -/
structure Upload (s : Sled) (done : List (Sdo sledClient)) (cur : Sdo sledClient)
    (rest : List (Sdo sledClient)) : Prop where
  requests : (done ++ cur :: rest).map Sdo.toRequest = netRequests
  state : s.mchSdo.state = .sending
  active : s.mchSdo.sdoActive = some cur
  queue : rest <+: s.mchSdo.sdoQueue
  since : SinceEntry s.trace (done.flatMap exchange ++ [.sent cur])

/-- The invariant: while the network machine is pre-operational the upload is under way, and after
that the drive is configured. -/
structure ConfigInv (s : Sled) : Prop where
  uploading : s.env.mchNet = .preoperational → ∃ done cur rest, Upload s done cur rest
  configured : s.env.mchNet = .startremotenode ∨ s.env.mchNet = .operational →
    Configured s.trace

namespace Upload

variable {s t : Sled} {done rest : List (Sdo sledClient)} {cur : Sdo sledClient}

lemma push (h : Upload s done cur rest) (r : Request sledClient) :
    Upload (s.push r) done cur rest := by
  have hne : s.mchSdo.state ≠ .waiting := by simp [h.state]
  have hm := Host.push_mchSdo_of_ne hne r
  refine ⟨h.requests, by rw [hm]; exact h.state, by rw [hm]; exact h.active, ?_,
    h.since.extend (.push s r)⟩
  rw [hm]
  exact h.queue.trans (List.prefix_append _ _)

lemma moves {K : Request sledClient → Prop} {R : SledEnv → SledEnv → Prop}
    (h : Upload s done cur rest) (hm : Moves K R s t) : Upload t done cur rest := by
  refine hm.invariant (I := fun s => Upload s done cur rest) h (fun s r _ hs => hs.push r) ?_ ?_
  · exact fun s e _ hs => ⟨hs.requests, hs.state, hs.active, hs.queue, hs.since⟩
  · intro s n hn hs
    have hext : Extends s (s.log (.note n)) :=
      .moves (K := fun _ => True) (R := fun _ _ => True) (.note (.refl s) hn)
    exact ⟨hs.requests, hs.state, hs.active, hs.queue, hs.since.extend hext⟩

/-- Every request of the configuration but the last goes without a function for success, and all
of them with one for failure. -/
lemma requests_spec {done rest : List (Request sledClient)} {cur : Request sledClient}
    (h : done ++ cur :: rest = netRequests) :
    cur.isWrite = true ∧ cur.abortCallback = some .mchNetSdoAbortCallback ∧
      (rest = [] → cur.writeCallback = some .mchNetSdoWriteCallback) ∧
      (rest ≠ [] → cur.writeCallback = none) := by
  have hspec : ∀ i : Fin 24, ∀ r ∈ netRequests[(i : ℕ)]?, r.isWrite = true ∧
      r.abortCallback = some .mchNetSdoAbortCallback ∧
      r.writeCallback = if (i : ℕ) = 23 then some .mchNetSdoWriteCallback else none := by
    decide
  have hlen : done.length + rest.length + 1 = 24 := by
    have : (done ++ cur :: rest).length = 24 := by rw [h]; rfl
    simpa [add_assoc] using this
  have hcur : netRequests[done.length]? = some cur := by simp [← h]
  obtain ⟨hw, ha, hcb⟩ := hspec ⟨done.length, by omega⟩ cur hcur
  refine ⟨hw, ha, fun hr => ?_, fun hr => ?_⟩
  · rw [hcb, if_pos]
    simp only [hr, List.length_nil] at hlen
    simp only
    omega
  · rw [hcb, if_neg]
    have := List.length_pos_of_ne_nil hr
    simp only
    omega

/-- The upload goes on when a request other than the last is confirmed. -/
lemma next {r : Sdo sledClient} (h : Upload s done cur (r :: rest))
    (hm : t.mchSdo = s.mchSdo) {os : List (Obs sledClient)}
    (ht : t.trace = s.trace ++ .answered cur .write :: os) (hno : ∀ o ∈ os, ¬ o.IsEntry) :
    Upload t.clearActive.proceed (done ++ [cur]) r rest := by
  obtain ⟨q, hq⟩ := h.queue
  have hst : t.clearActive.mchSdo.state = .sending := by rw [Host.clearActive_state, hm, h.state]
  have hqueue : t.clearActive.mchSdo.sdoQueue = r :: (rest ++ q) := by
    rw [Host.clearActive_sdoQueue, hm, ← hq, List.cons_append]
  obtain ⟨hmch, htrace⟩ := Host.proceed_cons hst hqueue
  refine ⟨by simpa using h.requests, by rw [hmch], by rw [hmch], by rw [hmch]; simp, ?_⟩
  rw [htrace, Host.clearActive_trace, ht]
  have hsince := h.since.append (.answered cur .write ::
    (os ++ [.sdoState .sending .waiting, .sdoState .waiting .sending, .sent r])) ?_
  · simp only [List.append_assoc, List.cons_append] at hsince ⊢
    refine hsince.sublist ?_
    simp only [List.flatMap_append, List.flatMap_cons, List.flatMap_nil, exchange,
      List.append_assoc, List.cons_append, List.nil_append, List.append_nil]
    refine (List.Sublist.refl _).append (.cons_cons _ (.cons_cons _ ?_))
    have hlast : List.Sublist [Obs.sent r] [.sdoState .sending .waiting,
        .sdoState .waiting .sending, .sent r] := .cons _ (.cons _ (.refl _))
    exact hlast.trans (List.sublist_append_right os _)
  · intro o ho
    simp only [List.mem_cons, List.mem_append, List.not_mem_nil, or_false] at ho
    rcases ho with rfl | ho | rfl | rfl | rfl
    · simp [Obs.IsEntry]
    · exact hno o ho
    all_goals simp [Obs.IsEntry]

/-- The drive is configured when the last request is confirmed. -/
lemma finish (h : Upload s done cur []) {os : List (Obs sledClient)}
    (ht : t.trace = s.trace ++ .answered cur .write :: os) (hno : ∀ o ∈ os, ¬ o.IsEntry) :
    Configured t.trace := by
  refine ⟨done ++ [cur], h.requests, ?_⟩
  have hsince := h.since.append (.answered cur .write :: os) ?_
  · rw [ht]
    refine hsince.sublist ?_
    simp only [List.flatMap_append, List.flatMap_cons, List.flatMap_nil, exchange,
      List.append_assoc, List.cons_append, List.nil_append, List.append_nil]
    exact (List.Sublist.refl _).append (.cons_cons _ (.cons_cons _ (List.nil_sublist os)))
  · intro o ho
    rcases List.mem_cons.mp ho with rfl | ho
    · simp [Obs.IsEntry]
    · exact hno o ho

/-- The upload starts when the network machine enters `ST_NET_PREOPERATIONAL` with the SDO machine
off. -/
lemma start (n : MchNetState) (pre os : List (Obs sledClient))
    (ht : t.mchSdo.state = .waiting) (hq : t.mchSdo.sdoQueue = [])
    (htrace : t.trace = pre ++ .note (.netState n .preoperational) :: os)
    (hno : ∀ o ∈ os, ¬ o.IsEntry) :
    ∃ cur rest, Upload (t.pushAll netRequests) [] cur rest := by
  obtain ⟨r, rs, hrs⟩ : ∃ r rs, netRequests = r :: rs := ⟨_, _, rfl⟩
  obtain ⟨q, qs, hq', hqs, hst, ha, hqueue, htr⟩ := Host.pushAll_of_waiting ht hq r rs
  rw [← hrs] at hst ha hqueue htr
  refine ⟨q, qs, by simp [hrs, hq', hqs], hst, ha, by rw [hqueue], ?_⟩
  refine ⟨pre, n, os ++ ([.queued q, .sdoState .waiting .sending, .sent q] ++ qs.map .queued), ?_,
    ?_, ?_⟩
  · rw [htr, htrace]
    simp
  · intro o ho
    simp only [List.mem_append, List.mem_cons, List.mem_map, List.not_mem_nil, or_false] at ho
    rcases ho with ho | (rfl | rfl | rfl) | ⟨q, -, rfl⟩
    · exact hno o ho
    all_goals simp [Obs.IsEntry]
  · simp

end Upload

/-! ## Steps -/

namespace ConfigInv

variable {s s' t u : Sled}

/-- Outside the three states nothing is claimed. -/
lemma of_not_talks (h : ¬ s.env.mchNet.Talks) : ConfigInv s := by
  refine ⟨fun hn => absurd (.inl hn) h, fun hn => ?_⟩
  rcases hn with hn | hn
  · exact absurd (.inr (.inl hn)) h
  · exact absurd (.inr (.inr hn)) h

lemma moves {K : Request sledClient → Prop} {R : SledEnv → SledEnv → Prop} (hs : ConfigInv s)
    (h : Moves K R s t) (hnet : t.env.mchNet = s.env.mchNet) : ConfigInv t := by
  refine ⟨fun hn => ?_, fun hn => (hs.configured (hnet ▸ hn)).extend (.moves h)⟩
  obtain ⟨done, cur, rest, hup⟩ := hs.uploading (hnet ▸ hn)
  exact ⟨done, cur, rest, hup.moves h⟩

/-- Once the upload is over, only the next entry matters. -/
lemma extend (hs : ConfigInv s) (hne : s.env.mchNet ≠ .preoperational)
    (hnet : t.env.mchNet = s.env.mchNet) (h : Extends s t) : ConfigInv t :=
  ⟨fun hn => absurd (hnet.symm.trans hn) hne, fun hn => (hs.configured (hnet ▸ hn)).extend h⟩

/-- The network machine enters `ST_NET_PREOPERATIONAL` with the SDO machine off, so the upload
starts with an empty queue. -/
lemma enter_preoperational {event : MchNetEvent} (hl : Linked s)
    (hn : mchNetNextStateGivenEvent s.env.mchNet event = .preoperational)
    (hne : mchNetNextStateGivenEvent s.env.mchNet event ≠ s.env.mchNet)
    (ht : SdoOn (s.netLeave.setNetState .preoperational) t) :
    ∃ cur rest, Upload (t.pushAll netRequests) [] cur rest := by
  have hfrom : s.env.mchNet = .unknown ∨ s.env.mchNet = .enterpreoperational := by
    cases hs : s.env.mchNet <;> cases event <;> simp_all [mchNetNextStateGivenEvent]
  have hoff : ¬ s.mchSdo.state.Enabled := by
    intro he
    have := hl.sdo_net he
    rcases hfrom with hs | hs <;> simp [hs, MchNetState.Talks] at this
  have hleave : s.netLeave = s := by
    rcases hfrom with hs | hs <;> simp [Host.netLeave, hs]
  rw [hleave] at ht
  cases ht with
  | already he => exact absurd he hoff
  | opened =>
    refine Upload.start s.env.mchNet s.trace [.sdoState s.mchSdo.state .waiting] rfl rfl ?_
      (by simp [Obs.IsEntry])
    simp [Host.opened, Host.setNetState]

/-- Every event of the network machine from outside keeps the invariant. -/
lemma netEvent (hs : ConfigInv s) (hl : Linked s) {event : MchNetEvent} (he : event.External)
    (h : mchNetHandleEvent event s = .ok s') : ConfigInv s' := by
  rcases mchNetHandleEvent_ok h with ⟨-, rfl⟩ | ⟨hne, henter⟩
  · exact hs
  obtain ⟨hnet, -⟩ := mchNetHandleEvent_env h hl
  have hstart : mchNetNextStateGivenEvent s.env.mchNet event ≠ .startremotenode := by
    intro hn
    rcases he with rfl | rfl | rfl | rfl <;> cases hs : s.env.mchNet <;>
      simp_all [mchNetNextStateGivenEvent]
  generalize hnext : mchNetNextStateGivenEvent s.env.mchNet event = next at *
  cases henter with
  | startremotenode hn => exact absurd hn hstart
  | preoperational hn ht =>
    have hn' : next = .preoperational := hn
    subst hn'
    obtain ⟨cur, rest, hup⟩ := enter_preoperational hl hnext (hnext ▸ hne) ht
    exact ⟨fun _ => ⟨[], cur, rest, hup⟩, fun h => by rw [hnet] at h; simp at h⟩
  | @operational t hn ht =>
    -- The network machine comes from `ST_NET_STARTREMOTENODE`.
    have hn' : next = .operational := hn
    have hfrom : s.env.mchNet = .startremotenode := by
      cases hs : s.env.mchNet <;> cases event <;> simp_all [mchNetNextStateGivenEvent]
    have hleave : s.netLeave = s := by simp [Host.netLeave, hfrom]
    rw [hleave] at ht
    have hext : Extends s (t.resetProfiles.dsMove .netOperational) := by
      have hset : Extends s (s.setNetState next) := ⟨[_], rfl, by simp [Obs.IsEntry, hn']⟩
      have hreset : Extends t t.resetProfiles := .of_eq rfl
      exact ((hset.trans (.sdoOn ht)).trans hreset).trans (.moves (Reacts.dsMove (.refl _) _))
    refine ⟨fun h => ?_, fun _ => (hs.configured (.inl hfrom)).extend hext⟩
    rw [hnet, hn'] at h
    cases h
  | disabled hn | unknown hn | stopped hn | enterpreoperational hn | uploadconfig hn =>
    have hn' : next = _ := hn
    exact of_not_talks (by rw [hnet, hn']; simp [MchNetState.Talks])

/-- The registered function leaves the SDO machine and the network machine alone, unless the
upload is complete. -/
lemma writeEffect {sdo : Sdo sledClient} (h : WriteEffect t sdo u)
    (hne : t.env.mchNet ≠ .preoperational ∧ t.env.mchNet ≠ .uploadconfig) :
    u.env.mchNet = t.env.mchNet ∧ Extends t u := by
  cases h with
  | silent | lateUpload => exact ⟨rfl, .refl _⟩
  | field => exact ⟨rfl, .of_eq rfl⟩
  | upload _ hn => exact absurd hn (by simp [hne])

/-- What the log of a positive write response adds to the state. -/
lemma writeLog {sdo : Sdo sledClient} (ht : t = s.log (.answered sdo .write) ∨
      ∃ call, t = (s.log (.answered sdo .write)).log (.called sdo.addr call)) :
    t.mchSdo = s.mchSdo ∧ t.env = s.env ∧
      ∃ os, t.trace = s.trace ++ .answered sdo .write :: os ∧ ∀ o ∈ os, ¬ o.IsEntry := by
  rcases ht with rfl | ⟨call, rfl⟩
  · exact ⟨rfl, rfl, [], rfl, by simp⟩
  · exact ⟨rfl, rfl, [.called sdo.addr call], by simp, by simp [Obs.IsEntry]⟩

/-- A request of the configuration is confirmed: the upload goes on, or it is complete. -/
lemma confirm {done rest : List (Sdo sledClient)} {cur : Sdo sledClient} {index : UInt16}
    {subindex : UInt8} (hup : Upload s done cur rest) (hpre : s.env.mchNet = .preoperational)
    (h : mchSdoWriteCallback sledCallbacks index subindex s = .ok s') :
    (∃ r rest', rest = r :: rest' ∧ s'.env.mchNet = .preoperational ∧
      Upload s' (done ++ [cur]) r rest') ∨
    (rest = [] ∧ s'.env.mchNet = .startremotenode ∧ Configured s'.trace) := by
  obtain ⟨sdo, t, u, ha, -, -, -, ht, hu, rfl⟩ := mchSdoWriteCallback_sled h
  obtain ⟨hm, henv, os, htrace, hno⟩ := writeLog ht
  obtain rfl : cur = sdo := by
    have := hup.active.symm.trans ha
    simpa using this
  have hreq := hup.requests
  rw [List.map_append, List.map_cons] at hreq
  obtain ⟨-, -, hlast, hmore⟩ := Upload.requests_spec hreq
  cases rest with
  | cons r rest =>
    have hsilent : u = t := by
      cases hu with
      | silent => rfl
      | upload hf | lateUpload hf | field hf => simp [hmore] at hf
    subst hsilent
    exact .inl ⟨r, rest, rfl, by simp [henv, hpre], hup.next hm htrace hno⟩
  | nil =>
    have hupload : u = (t.setNetState .startremotenode).sendNmt NMT_STARTREMOTENODE := by
      cases hu with
      | upload => rfl
      | lateUpload _ hn => simp [henv, hpre] at hn
      | silent hf | field hf => simp [hlast] at hf
    have hconf : Configured t.trace := hup.finish htrace hno
    have hset : Extends t u.clearActive.proceed := by
      have hnote : Extends t u.clearActive :=
        ⟨[.note (.netState t.env.mchNet .startremotenode)], by rw [hupload]; rfl,
          by simp [Obs.IsEntry]⟩
      exact hnote.trans (.proceed _)
    refine .inr ⟨rfl, ?_, hconf.extend hset⟩
    simp [hupload, Host.sendNmt, Host.setNetState]

/-- A positive write response keeps the invariant. -/
lemma write (hs : ConfigInv s) (hl : Linked s) {index : UInt16} {subindex : UInt8}
    (h : mchSdoWriteCallback sledCallbacks index subindex s = .ok s') : ConfigInv s' := by
  by_cases hpre : s.env.mchNet = .preoperational
  · obtain ⟨done, cur, rest, hup⟩ := hs.uploading hpre
    obtain ⟨r, rest', -, hn', hup'⟩ | ⟨-, hn', hconf⟩ := confirm hup hpre h
    · exact ⟨fun _ => ⟨_, _, _, hup'⟩, fun hn => by simp [hn'] at hn⟩
    · exact ⟨fun hn => by simp [hn'] at hn, fun _ => hconf⟩
  · obtain ⟨sdo, t, u, -, -, -, -, ht, hu, rfl⟩ := mchSdoWriteCallback_sled h
    obtain ⟨-, henv, os, htrace, hno⟩ := writeLog ht
    obtain ⟨hnet, hext⟩ := writeEffect hu (by rw [henv]; exact ⟨hpre, hl.no_uploadconfig⟩)
    have hlog : Extends s t := ⟨_ :: os, htrace, by simpa [Obs.IsEntry] using hno⟩
    have hclear : Extends u u.clearActive := .of_eq rfl
    refine hs.extend hpre (by simp [hnet, henv]) ?_
    exact ((hlog.trans hext).trans hclear).trans (.proceed _)

/-- While the upload is under way, the drive does not answer with anything but confirmations: a
read response fails an assertion and an abort response ends the process. -/
lemma answered_ne {sdo : Sdo sledClient} (hs : ConfigInv s) (ha : s.mchSdo.sdoActive = some sdo)
    (hsdo : sdo.isWrite = false ∨ sdo.abortCallback = none) :
    s.env.mchNet ≠ .preoperational := by
  intro hpre
  obtain ⟨done, cur, rest, hup⟩ := hs.uploading hpre
  obtain rfl : cur = sdo := by
    have := hup.active.symm.trans ha
    simpa using this
  have hreq := hup.requests
  rw [List.map_append, List.map_cons] at hreq
  obtain ⟨hw, hab, -, -⟩ := Upload.requests_spec hreq
  rcases hsdo with h | h
  · rw [hw] at h; cases h
  · rw [hab] at h; cases h

lemma answered {sdo : Sdo sledClient} {resp : Response} (hs : ConfigInv s)
    (ha : s.mchSdo.sdoActive = some sdo) (hsdo : sdo.isWrite = false ∨ sdo.abortCallback = none)
    (hnet : t.env.mchNet = s.env.mchNet)
    (h : Extends (s.log (.answered sdo resp)).clearActive t) : ConfigInv t := by
  have hlog : Extends s (s.log (.answered sdo resp)).clearActive :=
    ⟨[_], rfl, by simp [Obs.IsEntry]⟩
  exact hs.extend (hs.answered_ne ha hsdo) hnet (hlog.trans h)

lemma close (hs : ConfigInv s) (hl : Linked s) {o : CanOutcome}
    (h : intfCloseSled o s = .ok s') : ConfigInv s' := by
  rcases intfCloseSled_ok h with ⟨intf, rfl, -⟩ | ⟨-, intf, -, hnet⟩
  · refine ⟨fun hn => ?_, hs.configured⟩
    obtain ⟨done, cur, rest, hup⟩ := hs.uploading hn
    exact ⟨done, cur, rest, hup.requests, hup.state, hup.active, hup.queue, hup.since⟩
  · have hl' : Linked (((s.setIntfState .closing).withIntf intf).setIntfState .closed) :=
      ⟨hl.sdo_net, hl.net_sdo, hl.ds_net, hl.mp_ds, hl.no_uploadconfig⟩
    obtain ⟨hn, -⟩ := mchNetHandleEvent_env hnet hl'
    exact of_not_talks (by rw [hn, mchNet_intfClosed]; simp [MchNetState.Talks])

/-- Every step keeps the invariant. -/
lemma step (hs : ConfigInv s) (hl : Linked s) {e : SledEvent} (h : sledStep s e = .ok s') :
    ConfigInv s' := by
  cases sledStep_effect h with
  | skip => exact hs
  | report _ ht =>
    have hmoves := moves_tpdo ht
    exact hs.moves hmoves (hmoves.env_rel SledEnv.SameProfiles.refl fun _ _ _ => .trans).net
  | watchdog ht => exact hs.netEvent hl (.inr (.inr (.inr rfl))) ht
  | @nmt t state now _ ht =>
    have hst : ConfigInv t := by
      rcases raiseNmt_ok ht with rfl | ⟨event, -, he, ht⟩
      · exact hs
      · exact hs.netEvent hl he ht
    have hmoves : Moves (fun _ => True) (fun _ _ => True) t
        (t.withEnv { t.env with timeLastNmtMsg := now }) := .env (.refl t) trivial
    exact hst.moves hmoves rfl
  | close hc => exact hs.close hl hc
  | write _ hw => exact hs.write hl hw
  | read _ hr =>
    obtain ⟨sdo, ha, hw, -, -, rfl⟩ := mchSdoReadCallback_sled hr
    exact hs.answered ha (.inl hw) (by simp) (.proceed _)
  | abort _ hr =>
    obtain ⟨sdo, ha, hab, -, -, rfl⟩ := mchSdoAbortCallback_sled hr
    exact hs.answered ha (.inr hab) (by simp) (.fail _)
  | call _ hc =>
    have hmoves := moves_call hc
    exact hs.moves hmoves (hmoves.env_rel SledEnv.SameModes.refl fun _ _ _ => .trans).net

end ConfigInv

lemma configInv_sledCreate {mem : SledEnv} {now : ℚ} {o : CanOutcome} {s : Sled}
    (h : sledCreate mem now o = .ok s) : ConfigInv s := by
  obtain ⟨-, ⟨hn, -⟩ | ⟨hn, -⟩⟩ := sledCreate_linked h
  · exact .of_not_talks (by simp [hn, MchNetState.Talks])
  · exact .of_not_talks (by simp [hn, MchNetState.Talks])

lemma configInv_run {mem : SledEnv} {now : ℚ} {o : CanOutcome} {es : List SledEvent} {s : Sled}
    (h : sledRun mem now o es = .ok s) : ConfigInv s := by
  obtain ⟨s₀, hcreate, hrun⟩ := sledRun_ok.mp h
  have hinv := run_invariant (I := fun s => CoupledInv s ∧ ConfigInv s)
    (fun _ _ _ hs hstep => ⟨hs.1.step hstep, hs.2.step hs.1.linked hstep⟩)
    ⟨coupledInv_sledCreate hcreate, configInv_sledCreate hcreate⟩ hrun
  exact hinv.2

/-- **No operational state without the full configuration.**  After `sled_create` and any events,
with any outcomes of the calls into the device, a network machine that starts the node or is
operational has seen the 24 writes of the configuration go out in the listed order, each confirmed
after it was sent and before the next one, since it last entered `ST_NET_PREOPERATIONAL`. -/
theorem operational_only_configured {mem : SledEnv} {now : ℚ} {o : CanOutcome}
    {es : List SledEvent} {s : Sled} (h : sledRun mem now o es = .ok s)
    (hn : s.env.mchNet = .startremotenode ∨ s.env.mchNet = .operational) :
    Configured s.trace :=
  (configInv_run h).configured hn

/-- The network comes up once. -/
theorem operational_only_configured_up :
    ∃ s, sledRun someMemory 0 ⟨.success, true⟩ networkUp = .ok s ∧
      s.env.mchNet = .operational ∧ Configured s.trace := by
  obtain ⟨s, hs, hn⟩ := exists_of_okAnd (p := fun s : Sled => s.env.mchNet == .operational)
    (x := sledRun someMemory 0 ⟨.success, true⟩ networkUp) (by decide +kernel)
  have hop : s.env.mchNet = .operational := by simpa using hn
  exact ⟨s, hs, hop, operational_only_configured hs (.inr hop)⟩

end SledServer
