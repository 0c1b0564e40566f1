import SledServer.Sdo.Runs

/-!
# Requests go out in order, one at a time, and never stale

A session of the SDO machine lasts from a transition out of `disabled` or `error` into
`waiting` until the machine next leaves `waiting` and `sending`.  Read through `Obs.link`, the
trace of the machine is a run of the abstract first-in first-out link of
`SledServer.Core.Link`: that is the simulation `LinkInv`, preserved by every effect of
`SdoEffect`.  The order of requests (`sdo_requests_in_order`) is then read off the abstract link.
-/

namespace SledServer

open SledServer.Core

variable {c : Client} {σ : Type}

/-- The event of the request link that an entry of the trace stands for. -/
def Obs.link : Obs c → LinkEvent (Sdo c)
  | .sdoState .disabled .waiting => .opened
  | .sdoState .error .waiting => .opened
  | .sdoState .waiting .disabled => .closed
  | .sdoState .waiting .error => .closed
  | .sdoState .sending .disabled => .closed
  | .sdoState .sending .error => .closed
  | .queued r => .queued r
  | .sent r => .sent r
  | .answered r _ => .answered r
  | _ => .internal

/-- The trace as seen by an observer of the request link. -/
def Host.linkTrace (s : Host c σ) : List (LinkEvent (Sdo c)) := s.trace.map Obs.link

/-- What the request link looks like in a given state of the machine. -/
inductive LinkState : MchSdo c → Link (Sdo c) → Prop
  | disabled {m} (h : m.state = .disabled) : LinkState m .closed
  | error {m} (h : m.state = .error) : LinkState m .closed
  | waiting {m} (h : m.state = .waiting) (hq : m.sdoQueue = []) : LinkState m (.opened [] none)
  | sending {m r} (h : m.state = .sending) (ha : m.sdoActive = some r) :
      LinkState m (.opened m.sdoQueue (some r))

/-- The simulation: the trace is a run of the abstract link, which ends in the link state of
the machine, and every request has been queued under its own address. -/
structure LinkInv (s : Host c σ) : Prop where
  steps : ∃ l, Link.Steps .closed s.linkTrace l ∧ LinkState s.mchSdo l
  addrs : (queuedIn s.linkTrace).map (·.addr) = List.range s.mchSdo.allocated

lemma LinkState.of_waiting {m : MchSdo c} {l : Link (Sdo c)} (h : LinkState m l)
    (hw : m.state = .waiting) : l = .opened [] none ∧ m.sdoQueue = [] := by
  cases h <;> simp_all

lemma LinkState.of_sending {m : MchSdo c} {l : Link (Sdo c)} (h : LinkState m l)
    (hs : m.state = .sending) : ∃ r, l = .opened m.sdoQueue (some r) ∧ m.sdoActive = some r := by
  cases h <;> simp_all

lemma LinkState.of_off {m : MchSdo c} {l : Link (Sdo c)} (h : LinkState m l)
    (hs : m.state = .disabled ∨ m.state = .error) : l = .closed := by
  cases h <;> simp_all

/-! ## The simulation is preserved -/

section Preservation

variable {s t : Host c σ}

lemma steps_quiet {l : Link (Sdo c)} {os : List (Obs c)} (h : ∀ o ∈ os, o.Quiet) :
    Link.Steps l (os.map Obs.link) l := by
  induction os with
  | nil => exact .nil
  | cons o os ih =>
    have ho : o.link = .internal := by
      have hq := h o List.mem_cons_self
      cases o <;> first | rfl | exact absurd hq id
    rw [List.map_cons, ho]
    exact .cons .internal (ih fun o' ho' => h o' (List.mem_cons_of_mem _ ho'))

lemma queuedIn_quiet {os : List (Obs c)} (h : ∀ o ∈ os, o.Quiet) :
    queuedIn (os.map Obs.link) = [] := by
  induction os with
  | nil => rfl
  | cons o os ih =>
    rw [List.map_cons, queuedIn_cons, ih fun o' ho' => h o' (List.mem_cons_of_mem _ ho')]
    have hq := h o List.mem_cons_self
    cases o <;> first | rfl | exact absurd hq id

/-- A stretch of the trace during which the abstract link moves from the state of `s` to the
state of `t`. -/
lemma LinkInv.extend (hs : LinkInv s) (os : List (Obs c)) (ht : t.trace = s.trace ++ os)
    (hl : ∀ l, LinkState s.mchSdo l →
      ∃ l', Link.Steps l (os.map Obs.link) l' ∧ LinkState t.mchSdo l')
    (ha : List.range t.mchSdo.allocated =
      List.range s.mchSdo.allocated ++ (queuedIn (os.map Obs.link)).map (·.addr)) :
    LinkInv t := by
  have hlink : t.linkTrace = s.linkTrace ++ os.map Obs.link := by simp [Host.linkTrace, ht]
  obtain ⟨l, hl₁, hl₂⟩ := hs.steps
  obtain ⟨l', hstep, hl'⟩ := hl l hl₂
  refine ⟨⟨l', hlink ▸ hl₁.append hstep, hl'⟩, ?_⟩
  rw [hlink, queuedIn_append, List.map_append, hs.addrs, ha]

/-- Queueing a request. -/
lemma LinkInv.push (hs : LinkInv s) (r : Request c) : LinkInv (s.push r) := by
  by_cases hw : s.mchSdo.state = .waiting
  · -- The queue is empty, so the new request is sent at once.
    have hq : s.mchSdo.sdoQueue = [] := by
      obtain ⟨_, -, hl⟩ := hs.steps
      exact (hl.of_waiting hw).2
    have hq' : (s.enqueue r).mchSdo.sdoQueue = [r.new s] := by simp [Host.enqueue, hq]
    have hpush : s.push r = (s.enqueue r).resume := by simp [Host.push, hw]
    have hm := Host.resume_cons_mchSdo hq'
    have ht := Host.resume_cons_trace hq'
    rw [← hpush] at hm ht
    refine hs.extend [.queued (r.new s), .sdoState .waiting .sending, .sent (r.new s)]
      ?_ ?_ ?_
    · rw [ht]
      simp [Host.enqueue, hw]
    · intro l hl
      obtain ⟨rfl, -⟩ := hl.of_waiting hw
      refine ⟨.opened [] (some (r.new s)),
        .cons .queued (.cons .internal (.cons .sent .nil)), ?_⟩
      rw [hm]
      exact .sending rfl rfl
    · rw [hm]
      exact List.range_succ
  · have hpush : s.push r = s.enqueue r := by simp [Host.push, hw]
    rw [hpush]
    refine hs.extend [.queued (r.new s)] rfl ?_ List.range_succ
    intro l hl
    cases hl with
    | disabled h => exact ⟨_, .cons .refused .nil, .disabled h⟩
    | error h => exact ⟨_, .cons .refused .nil, .error h⟩
    | waiting h => exact absurd h hw
    | sending h ha => exact ⟨_, .cons .queued .nil, .sending h ha⟩

/-- Disabling the machine closes the link. -/
lemma LinkInv.disable (hs : LinkInv s) : LinkInv s.disable := by
  unfold Host.disable
  split
  case isTrue hst =>
    refine hs.extend [.sdoState s.mchSdo.state .disabled] rfl ?_ (by
      rcases hst with h | h <;> simp [h, Obs.link, queuedIn, LinkEvent.queued?])
    intro l hl
    rcases hst with h | h
    · obtain ⟨rfl, -⟩ := hl.of_waiting h
      exact ⟨.closed, .cons (by rw [h]; exact .closed) .nil, .disabled rfl⟩
    · obtain ⟨r, rfl, -⟩ := hl.of_sending h
      exact ⟨.closed, .cons (by rw [h]; exact .closed) .nil, .disabled rfl⟩
  case isFalse => exact hs

/-- Clearing the queue and enabling the machine opens a new session. -/
lemma LinkInv.enable {as : List ℕ} (hs : LinkInv s)
    (h : s.mchSdo.state = .disabled ∨ s.mchSdo.state = .error)
    (hm : t.mchSdo = { s.mchSdo with sdoQueue := [] }) (ht : TraceGrows as s.trace t.trace) :
    LinkInv (t.setSdoState .waiting) := by
  obtain ⟨os, hos, hquiet, -⟩ := ht
  have hopen : (Obs.sdoState t.mchSdo.state .waiting : Obs c).link = .opened := by
    rcases h with h | h <;> simp [hm, h, Obs.link]
  refine hs.extend (os ++ [.sdoState t.mchSdo.state .waiting]) (by simp [hos]) ?_ ?_
  · intro l hl
    obtain rfl := hl.of_off h
    refine ⟨.opened [] none, ?_, .waiting rfl (by simp [hm])⟩
    rw [List.map_append]
    exact (steps_quiet hquiet).append (.cons (by rw [hopen]; exact .opened) .nil)
  · rw [List.map_append, queuedIn_append, queuedIn_quiet hquiet, List.map_singleton, hopen]
    simp [hm, queuedIn_cons, LinkEvent.queued?]

/-- A response to the active request of a machine that is not sending. -/
lemma LinkInv.lateAnswer {as : List ℕ} {sdo : Sdo c} {resp : Response} (hs : LinkInv s)
    (hst : s.mchSdo.state ≠ .sending) (hm : t.mchSdo = { s.mchSdo with sdoActive := none })
    (ht : TraceGrows as (s.trace ++ [.answered sdo resp]) t.trace) : LinkInv t := by
  obtain ⟨os, hos, hquiet, -⟩ := ht
  refine hs.extend (.answered sdo resp :: os) (by simp [hos]) ?_ ?_
  · intro l hl
    cases hl with
    | disabled h =>
      exact ⟨_, .cons .lateClosed (steps_quiet hquiet), .disabled (by simp [hm, h])⟩
    | error h => exact ⟨_, .cons .lateClosed (steps_quiet hquiet), .error (by simp [hm, h])⟩
    | waiting h hq =>
      exact ⟨_, .cons .late (steps_quiet hquiet), .waiting (by simp [hm, h]) (by simp [hm, hq])⟩
    | sending h => exact absurd h hst
  · rw [List.map_cons, queuedIn_cons, queuedIn_quiet hquiet]
    simp [hm, Obs.link, LinkEvent.queued?]

/-- A positive response: the next request, if there is one, is sent. -/
lemma LinkInv.answer {as : List ℕ} {sdo : Sdo c} {resp : Response} (hs : LinkInv s)
    (ha : s.mchSdo.sdoActive = some sdo) (hm : t.mchSdo = s.mchSdo)
    (ht : TraceGrows as (s.trace ++ [.answered sdo resp]) t.trace) :
    LinkInv t.clearActive.proceed := by
  by_cases hst : s.mchSdo.state = .sending
  swap
  · have hstay : t.clearActive.proceed = t.clearActive := by simp [Host.proceed, hm, hst]
    rw [hstay]
    exact hs.lateAnswer hst (by simp [Host.clearActive, hm]) ht
  obtain ⟨os, hos, hquiet, -⟩ := ht
  set u := t.clearActive.setSdoState .waiting with hu
  have hprc : t.clearActive.proceed = u.resume := by simp [Host.proceed, hm, hst, hu]
  have hqu : u.mchSdo.sdoQueue = s.mchSdo.sdoQueue := by simp [hu, hm]
  set ans : List (Obs c) := .answered sdo resp :: os ++ [.sdoState .sending .waiting] with hans
  have htu : u.trace = s.trace ++ ans := by simp [hu, hans, hos, hm, hst]
  rw [hprc]
  -- The answer frees the link; what follows depends on whether a request is waiting.
  have hfree : ∀ l, LinkState s.mchSdo l →
      Link.Steps l (ans.map Obs.link) (.opened s.mchSdo.sdoQueue none) := by
    intro l hl
    obtain ⟨r, rfl, har⟩ := hl.of_sending hst
    obtain rfl : r = sdo := by rw [ha] at har; exact (Option.some.inj har).symm
    rw [hans, List.map_append]
    exact Link.Steps.append (.cons .answered (steps_quiet hquiet)) (.cons .internal .nil)
  have hnone : queuedIn (ans.map Obs.link) = [] := by
    rw [hans, List.map_append, queuedIn_append, List.map_cons, queuedIn_cons, queuedIn_quiet hquiet]
    simp [Obs.link, queuedIn_cons, LinkEvent.queued?]
  cases hq : s.mchSdo.sdoQueue with
  | nil =>
    rw [Host.resume_nil (hqu.trans hq)]
    refine hs.extend _ htu (fun l hl => ⟨_, hfree l hl, ?_⟩) (by simp [hnone, hu, hm])
    rw [hq]
    exact .waiting rfl (hqu.trans hq)
  | cons r rest =>
    have hmr := Host.resume_cons_mchSdo (hqu.trans hq)
    have htr := Host.resume_cons_trace (hqu.trans hq)
    refine hs.extend (ans ++ [.sdoState .waiting .sending, .sent r]) ?_
      (fun l hl => ⟨.opened rest (some r), ?_, ?_⟩) ?_
    · rw [htr, htu, List.append_assoc]
      rfl
    · rw [List.map_append]
      have hl' := hfree l hl
      rw [hq] at hl'
      exact hl'.append (.cons .internal (.cons .sent .nil))
    · rw [hmr]
      exact .sending rfl rfl
    · rw [List.map_append, queuedIn_append, hnone, hmr]
      simp [Obs.link, queuedIn_cons, LinkEvent.queued?, hu, hm]

/-- An abort response closes the link. -/
lemma LinkInv.abort {as : List ℕ} {sdo : Sdo c} {resp : Response} (hs : LinkInv s)
    (ha : s.mchSdo.sdoActive = some sdo) (hm : t.mchSdo = s.mchSdo)
    (ht : TraceGrows as (s.trace ++ [.answered sdo resp]) t.trace) :
    LinkInv t.clearActive.fail := by
  by_cases hst : s.mchSdo.state = .sending
  swap
  · have hstay : t.clearActive.fail = t.clearActive := by simp [Host.fail, hm, hst]
    rw [hstay]
    exact hs.lateAnswer hst (by simp [Host.clearActive, hm]) ht
  obtain ⟨os, hos, hquiet, -⟩ := ht
  have hfail : t.clearActive.fail = t.clearActive.setSdoState .error := by
    simp [Host.fail, hm, hst]
  rw [hfail]
  refine hs.extend (.answered sdo resp :: os ++ [.sdoState .sending .error])
    (by simp [hos, hm, hst]) (fun l hl => ⟨.closed, ?_, .error rfl⟩) ?_
  · obtain ⟨r, rfl, har⟩ := hl.of_sending hst
    obtain rfl : r = sdo := by rw [ha] at har; exact (Option.some.inj har).symm
    rw [List.map_append]
    exact Link.Steps.append (.cons .answered (steps_quiet hquiet)) (.cons .closed .nil)
  · rw [List.map_append, queuedIn_append, List.map_cons, queuedIn_cons, queuedIn_quiet hquiet]
    simp [Obs.link, queuedIn_cons, LinkEvent.queued?, hm]

end Preservation

/-- Every step of the machine is simulated by the abstract link. -/
lemma LinkInv.effect {s s' : Host c σ} {op : SdoOp c} (hs : LinkInv s) (h : SdoEffect s op s') :
    LinkInv s' := by
  cases h with
  | push => exact hs.push _
  | disable => exact hs.disable
  | enabled => exact hs
  | enable h hm ht => exact hs.enable h hm ht
  | answer _ ha hm ht => exact hs.answer ha hm ht
  | abort _ ha hm ht => exact hs.abort ha hm ht

lemma linkInv_mchSdoCreate (intf : Intf) (env : σ) :
    LinkInv (mchSdoCreate intf env : Host c σ) :=
  ⟨⟨.closed, .nil, .disabled rfl⟩, rfl⟩

/-- The simulation holds along every run of the machine. -/
lemma linkInv_run (cb : Callbacks c σ) {intf : Intf} {env : σ} {ops : List (SdoOp c)}
    {s : Host c σ} (h : run (sdoStep cb) (mchSdoCreate intf env) ops = .ok s) : LinkInv s :=
  run_invariant (fun _ _ _ hs hstep => hs.effect (sdoStep_effect cb hstep))
    (linkInv_mchSdoCreate intf env) h

/-! ## The order of requests -/

/-- The order in which a process has sent its SDO requests, and what that means for the state
of the machine.  A session is a stretch of the trace after an `opened` and without a boundary. -/
structure RequestsInOrder (s : Host c σ) : Prop where
  /-- What is sent in a session is a prefix of what is queued in it. -/
  isPrefix : ∀ u e v, s.linkTrace = u ++ .opened :: (e ++ v) → WithinSession e →
    sentIn e <+: queuedIn e
  /-- No request is sent twice. -/
  nodup : ∀ u e v, s.linkTrace = u ++ .opened :: (e ++ v) → WithinSession e → (sentIn e).Nodup
  /-- A request is sent only after a response was processed while the previous one was
  active. -/
  oneAtATime : ∀ u r e r' v, s.linkTrace = u ++ .sent r :: (e ++ .sent r' :: v) →
    WithinSession e → sentIn e = [] → .answered r ∈ e
  /-- Requests are sent in sessions only. -/
  inSession : ∀ u r v, s.linkTrace = u ++ .sent r :: v →
    ∃ u' e, u = u' ++ .opened :: e ∧ WithinSession e
  /-- What was queued before a session began is not sent in it or later. -/
  neverStale : ∀ u v r, s.linkTrace = u ++ .opened :: v → .queued r ∈ u → .sent r ∉ v
  waiting : s.mchSdo.state = .waiting → s.mchSdo.sdoQueue = []
  sending : s.mchSdo.state = .sending → ∃ r u v, s.mchSdo.sdoActive = some r ∧
    s.linkTrace = u ++ .sent r :: v ∧ sentIn v = []

namespace LinkInv

variable {s : Host c σ}

lemma nodup_queuedIn (hs : LinkInv s) : (queuedIn s.linkTrace).Nodup :=
  .of_map (·.addr) (hs.addrs ▸ List.nodup_range)

lemma isPrefix (hs : LinkInv s) {u e v : List (LinkEvent (Sdo c))}
    (h : s.linkTrace = u ++ .opened :: (e ++ v)) (hin : WithinSession e) :
    sentIn e <+: queuedIn e := by
  obtain ⟨l, hl, -⟩ := hs.steps
  rw [h, ← List.cons_append] at hl
  obtain ⟨_, -, hm⟩ := hl.split
  obtain ⟨_, hm, -⟩ := hm.split
  exact hm.session hin

lemma neverStale (hs : LinkInv s) {u v : List (LinkEvent (Sdo c))} {r : Sdo c}
    (h : s.linkTrace = u ++ .opened :: v) (hq : .queued r ∈ u) : .sent r ∉ v := by
  intro hsent
  obtain ⟨v₁, v₂, rfl⟩ := List.append_of_mem hsent
  obtain ⟨l, hl, -⟩ := hs.steps
  have hsplit : s.linkTrace = (u ++ .opened :: v₁) ++ .sent r :: v₂ := by simp [h]
  obtain ⟨u', e, hu', hin⟩ := Link.Steps.session_of_sent (hsplit ▸ hl)
  -- The request is sent in the session that begins after `u'`, so it was queued there too.
  have hin' : WithinSession (e ++ [.sent r]) := by
    intro f hf
    rcases List.mem_append.mp hf with hf | hf
    · exact hin f hf
    · rw [List.mem_singleton.mp hf]
      exact id
  have htr : s.linkTrace = u' ++ .opened :: ((e ++ [.sent r]) ++ v₂) := by
    rw [hsplit, hu']
    simp
  have hqe : r ∈ queuedIn e := by
    have hmem : r ∈ sentIn (e ++ [.sent r]) := by simp [sentIn_cons, LinkEvent.sent?]
    simpa [queuedIn_cons, LinkEvent.queued?] using (hs.isPrefix htr hin').subset hmem
  have hqu : r ∈ queuedIn u' :=
    mem_queuedIn.mpr ((prefix_of_session hu' hin).subset hq)
  -- But every request is queued only once.
  have hnd := hs.nodup_queuedIn
  rw [htr, queuedIn_append, List.nodup_append] at hnd
  exact hnd.2.2 r hqu r (by simp [queuedIn_cons, hqe]) rfl

end LinkInv

/-- In every run of the SDO machine, from any program state and with any registered functions
that leave the machine alone, requests go out in order, one at a time, and never stale. -/
theorem sdo_requests_in_order (cb : Callbacks c σ) (intf : Intf) (env : σ)
    (ops : List (SdoOp c)) (s : Host c σ)
    (hrun : run (sdoStep cb) (mchSdoCreate intf env) ops = .ok s) : RequestsInOrder s := by
  have hs := linkInv_run cb hrun
  obtain ⟨l, hl, hst⟩ := hs.steps
  constructor
  · exact fun u e v h hin => hs.isPrefix h hin
  · intro u e v h hin
    have hnd := hs.nodup_queuedIn
    rw [h, queuedIn_append, queuedIn_cons, queuedIn_append] at hnd
    have hne : (queuedIn e).Nodup := hnd.of_append_right.of_append_right.of_append_left
    exact hne.sublist (hs.isPrefix h hin).sublist
  · intro u r e r' v h hin hnone
    exact Link.Steps.answered_between (h ▸ hl) hin hnone
  · exact fun u r v h => Link.Steps.session_of_sent (h ▸ hl)
  · exact fun u v r h hq => hs.neverStale h hq
  · exact fun hw => (hst.of_waiting hw).2
  · intro hsnd
    obtain ⟨r, rfl, ha⟩ := hst.of_sending hsnd
    obtain ⟨u, v, huv, hv⟩ := Link.Steps.last_sent hl
    exact ⟨r, u, v, ha, huv, hv⟩

/-- A run with a reconnect in it. -/
def reconnectOps : List (SdoOp ⟨Unit, Unit, Unit, Unit, Unit⟩) :=
  [.enable, .queueWrite OB_CONTROL_WORD 0 0x06 2 none none none,
    .queueWrite OB_MOTION_TASK 0 201 2 none none none, .disable,
    .writeResponse OB_CONTROL_WORD 0, .enable,
    .queueWrite OB_CONTROL_WORD 0 0x07 2 none none none,
    .queueRead 0x3518 1 none none none, .writeResponse OB_CONTROL_WORD 0]

/-- The motion task queued before the network was lost is not sent; the two requests queued
afterwards go out one after the other. -/
theorem sdo_requests_in_order_reconnect :
    ∃ s, run (sdoStep (.inert _ Unit)) (mchSdoCreate intfCreate ()) reconnectOps = .ok s ∧
      s.mchSdo.state = .sending ∧ RequestsInOrder s :=
  ⟨_, rfl, rfl, sdo_requests_in_order (.inert _ Unit) intfCreate () reconnectOps _ rfl⟩

end SledServer
