import SledServer.Machines.Motion

/-!
# Queueing at a machine that waits, and at one that does not

The state and the trace after requests have been queued, in the two cases that occur: a machine
that waits with an empty queue takes the first request at once, and a machine that does not wait
only gets a longer queue.  `Awaits` says what kind of requests wait or await their response.
-/

namespace SledServer

namespace Host

variable {c : Client} {σ : Type} {s : Host c σ}

lemma push_mchSdo_of_ne (h : s.mchSdo.state ≠ .waiting) (r : Request c) :
    (s.push r).mchSdo =
      { s.mchSdo with
        sdoQueue := s.mchSdo.sdoQueue ++ [r.new s], allocated := s.mchSdo.allocated + 1 } := by
  rw [push, if_neg h]
  rfl

lemma push_trace_of_ne (h : s.mchSdo.state ≠ .waiting) (r : Request c) :
    (s.push r).trace = s.trace ++ [.queued (r.new s)] := by
  rw [push, if_neg h]
  rfl

lemma push_mchSdo_of_waiting (h : s.mchSdo.state = .waiting) (hq : s.mchSdo.sdoQueue = [])
    (r : Request c) :
    (s.push r).mchSdo =
      { state := .sending, sdoQueue := [], sdoActive := some (r.new s),
        allocated := s.mchSdo.allocated + 1 } := by
  have hq' : (s.enqueue r).mchSdo.sdoQueue = [r.new s] := by simp [enqueue, hq]
  rw [push, if_pos h, resume_cons_mchSdo hq']
  rfl

lemma push_trace_of_waiting (h : s.mchSdo.state = .waiting) (hq : s.mchSdo.sdoQueue = [])
    (r : Request c) :
    (s.push r).trace =
      s.trace ++ [.queued (r.new s), .sdoState .waiting .sending, .sent (r.new s)] := by
  have hq' : (s.enqueue r).mchSdo.sdoQueue = [r.new s] := by simp [enqueue, hq]
  rw [push, if_pos h, resume_cons_trace hq']
  simp [enqueue, h]

/-- A machine that does not wait only gets a longer queue. -/
lemma pushAll_of_ne (h : s.mchSdo.state ≠ .waiting) (rs : List (Request c)) :
    ∃ qs : List (Sdo c), qs.map Sdo.toRequest = rs ∧
      (s.pushAll rs).mchSdo.state = s.mchSdo.state ∧
      (s.pushAll rs).mchSdo.sdoActive = s.mchSdo.sdoActive ∧
      (s.pushAll rs).mchSdo.sdoQueue = s.mchSdo.sdoQueue ++ qs ∧
      (s.pushAll rs).trace = s.trace ++ qs.map .queued := by
  induction rs generalizing s with
  | nil => exact ⟨[], rfl, rfl, rfl, by simp, by simp⟩
  | cons r rs ih =>
    have hm := push_mchSdo_of_ne h r
    obtain ⟨qs, hqs, hst, ha, hq, ht⟩ := ih (s := s.push r) (by rwa [hm])
    refine ⟨r.new s :: qs, by simp [hqs, Request.new], ?_, ?_, ?_, ?_⟩
    · rw [pushAll_cons, hst, hm]
    · rw [pushAll_cons, ha, hm]
    · rw [pushAll_cons, hq, hm]
      simp
    · rw [pushAll_cons, ht, push_trace_of_ne h]
      simp

/-- A machine that waits with an empty queue takes the first request at once. -/
lemma pushAll_of_waiting (h : s.mchSdo.state = .waiting) (hq : s.mchSdo.sdoQueue = [])
    (r : Request c) (rs : List (Request c)) :
    ∃ (q : Sdo c) (qs : List (Sdo c)), q.toRequest = r ∧ qs.map Sdo.toRequest = rs ∧
      (s.pushAll (r :: rs)).mchSdo.state = .sending ∧
      (s.pushAll (r :: rs)).mchSdo.sdoActive = some q ∧
      (s.pushAll (r :: rs)).mchSdo.sdoQueue = qs ∧
      (s.pushAll (r :: rs)).trace =
        s.trace ++ [.queued q, .sdoState .waiting .sending, .sent q] ++ qs.map .queued := by
  have hm := push_mchSdo_of_waiting h hq r
  obtain ⟨qs, hqs, hst, ha, hqs', ht⟩ := pushAll_of_ne (s := s.push r) (by simp [hm]) rs
  refine ⟨r.new s, qs, rfl, hqs, ?_, ?_, ?_, ?_⟩
  · rw [pushAll_cons, hst, hm]
  · rw [pushAll_cons, ha, hm]
  · rw [pushAll_cons, hqs', hm]
    simp
  · rw [pushAll_cons, ht, push_trace_of_waiting h hq]

/-- A positive response while the machine sends and more requests wait. -/
lemma proceed_cons {r : Sdo c} {rs : List (Sdo c)} (h : s.mchSdo.state = .sending)
    (hq : s.mchSdo.sdoQueue = r :: rs) :
    s.proceed.mchSdo =
        { state := .sending, sdoQueue := rs, sdoActive := some r,
          allocated := s.mchSdo.allocated } ∧
      s.proceed.trace = s.trace ++
        [.sdoState .sending .waiting, .sdoState .waiting .sending, .sent r] := by
  rw [proceed, if_pos h]
  have hq' : (s.setSdoState .waiting).mchSdo.sdoQueue = r :: rs := hq
  refine ⟨resume_cons_mchSdo hq', ?_⟩
  rw [resume_cons_trace hq']
  simp [h]

end Host

/-! ## Requests that await their response -/

/-- Every request that waits in the queue or awaits its response is of the kind `Q`. -/
structure Awaits {c : Client} {σ : Type} (Q : Request c → Prop) (s : Host c σ) : Prop where
  queued : ∀ r ∈ s.mchSdo.sdoQueue, Q r.toRequest
  active : ∀ r, s.mchSdo.sdoActive = some r → Q r.toRequest

namespace Awaits

variable {c : Client} {σ : Type} {Q Q' : Request c → Prop} {s t : Host c σ} {r : Request c}

lemma of_same (h : Awaits Q s) (hq : t.mchSdo.sdoQueue = s.mchSdo.sdoQueue)
    (ha : t.mchSdo.sdoActive = s.mchSdo.sdoActive) : Awaits Q t :=
  ⟨by rw [hq]; exact h.queued, by rw [ha]; exact h.active⟩

lemma of_idle (hq : s.mchSdo.sdoQueue = []) (ha : s.mchSdo.sdoActive = none) : Awaits Q s :=
  ⟨by simp [hq], by simp [ha]⟩

lemma mono (h : Awaits Q s) (hQ : ∀ r, Q r → Q' r) : Awaits Q' s :=
  ⟨fun r hr => hQ _ (h.queued r hr), fun r hr => hQ _ (h.active r hr)⟩

lemma resume (h : Awaits Q s) : Awaits Q s.resume := by
  cases hq : s.mchSdo.sdoQueue with
  | nil => rwa [Host.resume_nil hq]
  | cons r rs =>
    have hqueued := h.queued
    rw [hq] at hqueued
    refine ⟨?_, ?_⟩
    · rw [Host.resume_cons_mchSdo hq]
      exact fun q hmem => hqueued q (List.mem_cons_of_mem _ hmem)
    · rw [Host.resume_cons_mchSdo hq]
      rintro q ⟨⟩
      exact hqueued r List.mem_cons_self

lemma push (h : Awaits Q s) (hr : Q r) : Awaits Q (s.push r) := by
  have henq : Awaits Q (s.enqueue r) := by
    refine ⟨fun q hq => ?_, h.active⟩
    rcases List.mem_append.mp hq with hq | hq
    · exact h.queued q hq
    · rw [List.mem_singleton.mp hq]
      exact hr
  unfold Host.push
  split
  · exact henq.resume
  · exact henq

lemma pushAll {rs : List (Request c)} (h : Awaits Q s) (hr : ∀ r ∈ rs, Q r) :
    Awaits Q (s.pushAll rs) := by
  induction rs generalizing s with
  | nil => exact h
  | cons r rs ih =>
    exact ih (h.push (hr r List.mem_cons_self)) fun q hq => hr q (List.mem_cons_of_mem _ hq)

lemma proceed (h : Awaits Q s) : Awaits Q s.clearActive.proceed := by
  have hclear : Awaits Q s.clearActive := ⟨h.queued, by simp⟩
  unfold Host.proceed
  split
  · have hwait : Awaits Q (s.clearActive.setSdoState .waiting) := hclear.of_same rfl rfl
    exact hwait.resume
  · exact hclear

end Awaits

end SledServer
