import SledServer.Sdo.Order

/-!
# Every request is reported once

A request queued with a function for success and a function for failure should see exactly one
of them called, exactly once, before the machine forgets it.  The machine forgets requests in
five ways; four of them report.  The fifth does not: after a disable in mid-flight the old
request stays in `sdo_active`, and the first request queued after the machine is enabled again
overwrites it.

`Accounted` is the invariant that keeps the books between the trace and the requests the machine
still holds.  It survives every step except the overwriting one, and no run that overwrites can
be right afterwards, so `requests_reported_once_iff` gives the exact condition.
-/

namespace SledServer

open SledServer.Core

variable {c : Client} {σ : Type}

/-- The request was queued with functions for both outcomes. -/
def Sdo.hasCallbacks (r : Sdo c) : Bool := r.hasSuccess && r.abortCallback.isSome

/-- Every request with functions for both outcomes has had at most one call, and exactly one
if the machine does not hold it any more. -/
def ReportedOnce (s : Host c σ) : Prop :=
  ∀ r, .queued r ∈ s.trace → r.hasCallbacks →
    (calledIn s.trace).count r.addr ≤ 1 ∧
    (r ∉ s.mchSdo.sdoQueue → s.mchSdo.sdoActive ≠ some r →
      (calledIn s.trace).count r.addr = 1)

/-- The operation does not queue a request while the machine waits with an unanswered request,
registered with functions, left in `sdo_active`. -/
def NotOverwriting (s : Host c σ) (op : SdoOp c) : Prop :=
  ∀ r, op.request? = some r → s.mchSdo.state = .waiting →
    ∀ a, s.mchSdo.sdoActive = some a → ¬ a.hasCallbacks

/-! ## The books -/

/-- The requests the machine holds. -/
def MchSdo.live (m : MchSdo c) : List (Sdo c) := m.sdoActive.toList ++ m.sdoQueue

/-- The books: what is held is distinct and has not been reported, what is no longer held has. -/
structure Accounted (s : Host c σ) : Prop where
  link : LinkInv s
  live_queued : ∀ r ∈ s.mchSdo.live, .queued r ∈ s.trace
  nodup : (s.mchSdo.live.map (·.addr)).Nodup
  called_lt : ∀ a ∈ calledIn s.trace, a < s.mchSdo.allocated
  live_count : ∀ r ∈ s.mchSdo.live, r.addr ∉ calledIn s.trace
  done_count : ∀ r, .queued r ∈ s.trace → r.hasCallbacks → r ∉ s.mchSdo.live →
    (calledIn s.trace).count r.addr = 1

lemma mem_queuedIn_linkTrace {s : Host c σ} {r : Sdo c} :
    r ∈ queuedIn s.linkTrace ↔ .queued r ∈ s.trace := by
  rw [mem_queuedIn, Host.linkTrace, List.mem_map]
  constructor
  · rintro ⟨o, ho, hl⟩
    cases o with
    | queued r' => cases hl; exact ho
    | sdoState old new => cases old <;> cases new <;> simp [Obs.link] at hl
    | sent | answered | called | note => simp [Obs.link] at hl
  · exact fun h => ⟨_, h, rfl⟩

namespace LinkInv

variable {s : Host c σ} {r r' : Sdo c}

lemma addr_lt (hs : LinkInv s) (h : .queued r ∈ s.trace) : r.addr < s.mchSdo.allocated := by
  have hmem := List.mem_map_of_mem (f := (·.addr)) (mem_queuedIn_linkTrace.mpr h)
  rw [hs.addrs] at hmem
  exact List.mem_range.mp hmem

lemma eq_of_addr (hs : LinkInv s) (h : .queued r ∈ s.trace) (h' : .queued r' ∈ s.trace)
    (ha : r.addr = r'.addr) : r = r' :=
  List.inj_on_of_nodup_map (hs.addrs ▸ List.nodup_range) (mem_queuedIn_linkTrace.mpr h)
    (mem_queuedIn_linkTrace.mpr h') ha

end LinkInv

lemma Accounted.reportedOnce {s : Host c σ} (hs : Accounted s) : ReportedOnce s := by
  intro r hr hcb
  by_cases hl : r ∈ s.mchSdo.live
  · have h0 := List.count_eq_zero.mpr (hs.live_count r hl)
    refine ⟨by omega, fun hq ha => ?_⟩
    simp only [MchSdo.live, List.mem_append, Option.mem_toList] at hl
    exact absurd hl (by simp [hq, ha])
  · have h1 := hs.done_count r hr hcb hl
    exact ⟨h1.le, fun _ _ => h1⟩

/-! ## The books are kept -/

section Preservation

variable {s t : Host c σ} {os : List (Obs c)}

/-- A step after which some of the held requests are gone, each with its report. -/
lemma Accounted.shrink (hs : Accounted s) (hlink : LinkInv t) (htr : t.trace = s.trace ++ os)
    (hnew : ∀ r, .queued r ∉ os) (hall : t.mchSdo.allocated = s.mchSdo.allocated)
    (hsub : List.Sublist t.mchSdo.live s.mchSdo.live)
    (hgone : ∀ r ∈ s.mchSdo.live, r ∉ t.mchSdo.live → r.hasCallbacks →
      (calledIn os).count r.addr = 1)
    (hcalled : ∀ a ∈ calledIn os, ∃ r ∈ s.mchSdo.live, r ∉ t.mchSdo.live ∧ r.addr = a) :
    Accounted t := by
  have hcount : calledIn t.trace = calledIn s.trace ++ calledIn os := by simp [htr]
  have hq : ∀ r, .queued r ∈ t.trace → .queued r ∈ s.trace := by
    intro r hr
    rw [htr] at hr
    exact (List.mem_append.mp hr).resolve_right (hnew r)
  have hq' : ∀ r, .queued r ∈ s.trace → .queued r ∈ t.trace := fun r hr =>
    htr ▸ List.mem_append_left _ hr
  refine ⟨hlink, fun r hr => hq' r (hs.live_queued r (hsub.subset hr)),
    hs.nodup.sublist (hsub.map _), ?_, ?_, ?_⟩
  · intro a ha
    rw [hall]
    rcases List.mem_append.mp (hcount ▸ ha) with ha | ha
    · exact hs.called_lt a ha
    · obtain ⟨r, hr, -, rfl⟩ := hcalled a ha
      exact hs.link.addr_lt (hs.live_queued r hr)
  · intro r hr hmem
    rcases List.mem_append.mp (hcount ▸ hmem) with hmem | hmem
    · exact hs.live_count r (hsub.subset hr) hmem
    · obtain ⟨r', hr', hgone', ha⟩ := hcalled _ hmem
      have heq : r' = r := hs.link.eq_of_addr (hs.live_queued r' hr')
        (hs.live_queued r (hsub.subset hr)) ha
      exact hgone' (heq ▸ hr)
  · intro r hr hcb hdead
    rw [hcount, List.count_append]
    by_cases hl : r ∈ s.mchSdo.live
    · have h0 := List.count_eq_zero.mpr (hs.live_count r hl)
      have h1 := hgone r hl hdead hcb
      omega
    · have h1 := hs.done_count r (hq r hr) hcb hl
      have h0 : (calledIn os).count r.addr = 0 := by
        rw [List.count_eq_zero]
        intro hmem
        obtain ⟨r', hr', -, ha⟩ := hcalled _ hmem
        exact hl (hs.link.eq_of_addr (hs.live_queued r' hr') (hq r hr) ha ▸ hr')
      omega

/-- The requests held after a push: those in the queue, the new one, and the active one unless
the machine was waiting. -/
lemma live_push (s : Host c σ) (r : Request c) :
    (s.push r).mchSdo.live =
      (if s.mchSdo.state = .waiting then [] else s.mchSdo.sdoActive.toList) ++
        (s.mchSdo.sdoQueue ++ [r.new s]) := by
  unfold Host.push
  split
  · obtain ⟨x, xs, hx⟩ := List.exists_cons_of_ne_nil
      (show s.mchSdo.sdoQueue ++ [r.new s] ≠ [] by simp)
    have hm := Host.resume_cons_mchSdo (s := s.enqueue r) hx
    simp [MchSdo.live, hm, hx]
  · rfl

lemma trace_push (s : Host c σ) (r : Request c) :
    ∃ os, (s.push r).trace = s.trace ++ os ∧ calledIn os = [] ∧
      ∀ r', .queued r' ∈ os ↔ r' = r.new s := by
  unfold Host.push
  split
  · obtain ⟨x, xs, hx⟩ := List.exists_cons_of_ne_nil
      (show s.mchSdo.sdoQueue ++ [r.new s] ≠ [] by simp)
    have ht := Host.resume_cons_trace (s := s.enqueue r) hx
    refine ⟨[.queued (r.new s), .sdoState s.mchSdo.state .sending, .sent x], ?_, rfl, by simp⟩
    rw [ht]
    simp [Host.enqueue]
  · exact ⟨[.queued (r.new s)], rfl, rfl, by simp⟩

lemma allocated_push (s : Host c σ) (r : Request c) :
    (s.push r).mchSdo.allocated = s.mchSdo.allocated + 1 := by
  unfold Host.push
  split
  · rw [Host.resume_allocated]
    rfl
  · rfl

/-- Queueing keeps the books unless it overwrites a request with functions. -/
lemma Accounted.push (hs : Accounted s) {r : Request c}
    (hok : s.mchSdo.state = .waiting → ∀ a, s.mchSdo.sdoActive = some a → ¬ a.hasCallbacks) :
    Accounted (s.push r) := by
  obtain ⟨os, htr, hnc, hnew⟩ := trace_push s r
  have hcalled : calledIn (s.push r).trace = calledIn s.trace := by simp [htr, hnc]
  have hlive := live_push s r
  have hold : ∀ r' ∈ (s.push r).mchSdo.live, r' ≠ r.new s → r' ∈ s.mchSdo.live := by
    intro r' hr' hne
    rw [hlive] at hr'
    simp only [MchSdo.live, List.mem_append, List.mem_singleton] at hr' ⊢
    rcases hr' with hr' | hr' | hr'
    · split at hr'
      · simp at hr'
      · exact .inl hr'
    · exact .inr hr'
    · exact absurd hr' hne
  have hfresh : s.mchSdo.allocated ∉ calledIn s.trace := fun h =>
    absurd (hs.called_lt _ h) (lt_irrefl _)
  refine ⟨hs.link.push r, ?_, ?_, ?_, ?_, ?_⟩
  · intro r' hr'
    rw [htr]
    by_cases hne : r' = r.new s
    · exact List.mem_append_right _ ((hnew r').mpr hne)
    · exact List.mem_append_left _ (hs.live_queued r' (hold r' hr' hne))
  · have hsub : List.Sublist (s.push r).mchSdo.live (s.mchSdo.live ++ [r.new s]) := by
      rw [hlive, MchSdo.live, List.append_assoc]
      refine List.Sublist.append_right ?_ _
      split <;> simp
    refine List.Nodup.sublist (hsub.map (·.addr)) ?_
    rw [List.map_append, List.map_singleton, List.nodup_append]
    refine ⟨hs.nodup, List.nodup_singleton _, ?_⟩
    intro a ha b hb
    obtain ⟨r', hr', rfl⟩ := List.mem_map.mp ha
    rw [List.mem_singleton.mp hb]
    exact (hs.link.addr_lt (hs.live_queued r' hr')).ne
  · intro a ha
    rw [hcalled] at ha
    rw [allocated_push]
    exact Nat.lt_succ_of_lt (hs.called_lt a ha)
  · intro r' hr'
    rw [hcalled]
    by_cases hne : r' = r.new s
    · rw [hne]
      exact hfresh
    · exact hs.live_count r' (hold r' hr' hne)
  · intro r' hr' hcb hdead
    rw [hcalled]
    have hnl : r' ≠ r.new s := by
      rintro rfl
      exact hdead (by simp [hlive])
    rw [htr] at hr'
    have hq := (List.mem_append.mp hr').resolve_right fun h => hnl ((hnew r').mp h)
    refine hs.done_count r' hq hcb fun hl => hdead ?_
    rw [hlive]
    simp only [MchSdo.live, List.mem_append, Option.mem_toList] at hl ⊢
    rcases hl with ha | hq'
    · -- The active request is lost exactly when the machine waits.
      left
      split
      case isTrue hw => exact absurd hcb (hok hw r' ha)
      case isFalse => exact Option.mem_toList.mpr ha
    · exact .inr (.inl hq')

lemma calledIn_answered (sdo : Sdo c) (resp : Response) (os : List (Obs c)) :
    calledIn (.answered sdo resp :: os) = calledIn os := by
  rw [← List.singleton_append, calledIn_append]
  rfl

lemma live_resume (s : Host c σ) (h : s.mchSdo.sdoActive = none) :
    s.resume.mchSdo.live = s.mchSdo.live := by
  cases hq : s.mchSdo.sdoQueue with
  | nil => rw [Host.resume_nil hq]
  | cons x xs => simp [MchSdo.live, Host.resume_cons_mchSdo hq, h, hq]

lemma live_clearActive_proceed (s : Host c σ) :
    s.clearActive.proceed.mchSdo.live = s.mchSdo.sdoQueue := by
  unfold Host.proceed
  split
  · rw [live_resume _ (by simp)]
    simp [MchSdo.live]
  · simp [MchSdo.live]

lemma live_clearActive_fail (s : Host c σ) :
    s.clearActive.fail.mchSdo.live = s.mchSdo.sdoQueue := by
  unfold Host.fail
  split <;> simp [MchSdo.live]

/-- The books after the active request has left with its report. -/
lemma Accounted.answered {sdo : Sdo c} {resp : Response} {as : List ℕ} (hs : Accounted s)
    (hlink : LinkInv t)
    (ha : s.mchSdo.sdoActive = some sdo) (hlive : t.mchSdo.live = s.mchSdo.sdoQueue)
    (hall : t.mchSdo.allocated = s.mchSdo.allocated)
    (htr : t.trace = s.trace ++ (.answered sdo resp :: os)) (hnew : ∀ r, .queued r ∉ os)
    (hcalled : calledIn os = as) (has : sdo.hasCallbacks → as = [sdo.addr])
    (has' : ∀ a ∈ as, a = sdo.addr) : Accounted t := by
  have hsplit : s.mchSdo.live = sdo :: s.mchSdo.sdoQueue := by simp [MchSdo.live, ha]
  have hnd := hs.nodup
  rw [hsplit, List.map_cons, List.nodup_cons] at hnd
  have hgone : sdo ∉ t.mchSdo.live := fun h =>
    hnd.1 (List.mem_map_of_mem (hlive ▸ h))
  refine hs.shrink hlink htr (by simpa using hnew) hall ?_ ?_ ?_
  · rw [hlive, hsplit]
    exact List.sublist_cons_self _ _
  · intro r hr hdead hcb
    rw [hsplit, List.mem_cons, ← hlive] at hr
    obtain rfl := hr.resolve_right hdead
    rw [calledIn_answered, hcalled, has hcb]
    simp
  · intro a ha'
    rw [calledIn_answered, hcalled] at ha'
    exact ⟨sdo, by simp [hsplit], hgone, (has' a ha').symm⟩

/-- A stretch of the trace in which nothing is queued and no function is called. -/
def Silent (os : List (Obs c)) : Prop := calledIn os = [] ∧ ∀ r, .queued r ∉ os

lemma trace_resume (s : Host c σ) : ∃ os, s.resume.trace = s.trace ++ os ∧ Silent os := by
  cases hq : s.mchSdo.sdoQueue with
  | nil => exact ⟨[], by simp [Host.resume_nil hq], rfl, by simp⟩
  | cons x xs => exact ⟨_, Host.resume_cons_trace hq, rfl, by simp⟩

lemma trace_proceed (s : Host c σ) : ∃ os, s.proceed.trace = s.trace ++ os ∧ Silent os := by
  unfold Host.proceed
  split
  · obtain ⟨os, hos, hc, hq⟩ := trace_resume (s.setSdoState .waiting)
    refine ⟨.sdoState s.mchSdo.state .waiting :: os, by simp [hos], ?_, by simpa using hq⟩
    simpa [calledIn, List.filterMap_cons, Obs.calledAddr?] using hc
  · exact ⟨[], by simp, rfl, by simp⟩

lemma trace_fail (s : Host c σ) : ∃ os, s.fail.trace = s.trace ++ os ∧ Silent os := by
  unfold Host.fail
  split
  · exact ⟨[_], rfl, rfl, by simp⟩
  · exact ⟨[], by simp, rfl, by simp⟩

lemma allocated_proceed (s : Host c σ) :
    s.proceed.mchSdo.allocated = s.mchSdo.allocated := by
  unfold Host.proceed; split <;> simp

lemma allocated_fail (s : Host c σ) : s.fail.mchSdo.allocated = s.mchSdo.allocated := by
  unfold Host.fail; split <;> simp

lemma not_queued_of_quiet {r : Sdo c} (h : ∀ o ∈ os, o.Quiet) : .queued r ∉ os :=
  fun hr => h _ hr

lemma abortable_singleton (sdo : Sdo c) :
    abortable [sdo] = if sdo.abortCallback.isSome then [sdo.addr] else [] := by
  cases h : sdo.abortCallback <;> simp [abortable, h]

/-- The trace of a response: the answer, the call and what the machine does next. -/
lemma TraceGrows.then_silent {as : List ℕ} {u v w : List (Obs c)} (h : TraceGrows as u v)
    (hw : ∃ ps, w = v ++ ps ∧ Silent ps) :
    ∃ os, w = u ++ os ∧ calledIn os = as ∧ ∀ r, .queued r ∉ os := by
  obtain ⟨os, rfl, hquiet, rfl⟩ := h
  obtain ⟨ps, rfl, hc, hq⟩ := hw
  refine ⟨os ++ ps, by simp, by simp [hc], fun r hr => ?_⟩
  rcases List.mem_append.mp hr with hr | hr
  · exact not_queued_of_quiet hquiet hr
  · exact hq r hr

lemma Accounted.answer {sdo : Sdo c} {resp : Response} (hs : Accounted s)
    (ha : s.mchSdo.sdoActive = some sdo)
    (hm : t.mchSdo = s.mchSdo)
    (ht : TraceGrows (if sdo.hasSuccess then [sdo.addr] else [])
      (s.trace ++ [.answered sdo resp]) t.trace) :
    Accounted t.clearActive.proceed := by
  obtain ⟨os, htr, hc, hq⟩ := ht.then_silent (trace_proceed t.clearActive)
  refine hs.answered (hs.link.answer ha hm ht) ha ?_ ?_ (by simpa using htr) hq hc ?_ ?_
  · rw [live_clearActive_proceed, hm]
  · rw [allocated_proceed]
    simp [hm]
  · intro hcb
    simp only [Sdo.hasCallbacks, Bool.and_eq_true] at hcb
    simp [hcb.1]
  · intro a ha'
    split at ha' <;> simp_all

lemma Accounted.abort {sdo : Sdo c} {resp : Response} (hs : Accounted s)
    (ha : s.mchSdo.sdoActive = some sdo)
    (hm : t.mchSdo = s.mchSdo)
    (ht : TraceGrows (abortable [sdo]) (s.trace ++ [.answered sdo resp]) t.trace) :
    Accounted t.clearActive.fail := by
  obtain ⟨os, htr, hc, hq⟩ := ht.then_silent (trace_fail t.clearActive)
  refine hs.answered (hs.link.abort ha hm ht) ha ?_ ?_ (by simpa using htr) hq hc ?_ ?_
  · rw [live_clearActive_fail, hm]
  · rw [allocated_fail]
    simp [hm]
  · intro hcb
    simp only [Sdo.hasCallbacks, Bool.and_eq_true] at hcb
    simp [abortable_singleton, hcb.2]
  · intro a ha'
    rw [abortable_singleton] at ha'
    split at ha' <;> simp_all

/-- Enabling the machine reports every request in the queue. -/
lemma Accounted.enable (hs : Accounted s)
    (h : s.mchSdo.state = .disabled ∨ s.mchSdo.state = .error)
    (hm : t.mchSdo = { s.mchSdo with sdoQueue := [] })
    (ht : TraceGrows (abortable s.mchSdo.sdoQueue) s.trace t.trace) :
    Accounted (t.setSdoState .waiting) := by
  obtain ⟨os, htr, hc, hq⟩ :=
    ht.then_silent (w := (t.setSdoState .waiting).trace) ⟨[_], rfl, rfl, by simp⟩
  have hlive : (t.setSdoState .waiting).mchSdo.live = s.mchSdo.sdoActive.toList := by
    simp [MchSdo.live, hm]
  have hnd := hs.nodup
  rw [MchSdo.live, List.map_append, List.nodup_append] at hnd
  have hdead : ∀ r ∈ s.mchSdo.sdoQueue, r ∉ (t.setSdoState .waiting).mchSdo.live := by
    intro r hr hl
    rw [hlive] at hl
    exact hnd.2.2 _ (List.mem_map_of_mem hl) _ (List.mem_map_of_mem hr) rfl
  refine hs.shrink (hs.link.enable h hm ht) htr hq (by simp [hm]) ?_ ?_ ?_
  · rw [hlive, MchSdo.live]
    exact List.sublist_append_left _ _
  · intro r hr hgone hcb
    rw [hlive] at hgone
    have hrq : r ∈ s.mchSdo.sdoQueue := (List.mem_append.mp hr).resolve_left hgone
    simp only [Sdo.hasCallbacks, Bool.and_eq_true] at hcb
    rw [hc]
    refine List.count_eq_one_of_mem (hnd.2.1.sublist (List.filter_sublist.map _)) ?_
    exact List.mem_map_of_mem (List.mem_filter.mpr ⟨hrq, hcb.2⟩)
  · intro a ha
    rw [hc, abortable] at ha
    obtain ⟨r, hr, rfl⟩ := List.mem_map.mp ha
    have hrq := (List.mem_filter.mp hr).1
    exact ⟨r, List.mem_append_right _ hrq, hdead r hrq, rfl⟩

lemma Accounted.disable (hs : Accounted s) : Accounted s.disable := by
  have hlink := hs.link.disable
  unfold Host.disable at hlink ⊢
  split
  case isFalse => exact hs
  case isTrue h =>
    rw [if_pos h] at hlink
    refine hs.shrink hlink rfl (by simp) rfl (List.Sublist.refl _) ?_ ?_
    · exact fun r hr hgone => absurd hr hgone
    · intro a ha
      exact absurd ha (by simp [calledIn, Obs.calledAddr?])

end Preservation

/-- Every step that does not overwrite keeps the books. -/
lemma Accounted.step (cb : Callbacks c σ) (s : Host c σ) (op : SdoOp c) (s' : Host c σ)
    (hs : Accounted s) (hok : NotOverwriting s op) (h : sdoStep cb s op = .ok s') :
    Accounted s' := by
  cases sdoStep_effect cb h with
  | push hop => exact hs.push (hok _ hop)
  | disable => exact hs.disable
  | enabled => exact hs
  | enable hoff hm ht => exact hs.enable hoff hm ht
  | answer _ ha hm ht => exact hs.answer ha hm ht
  | abort _ ha hm ht => exact hs.abort ha hm ht

lemma accounted_mchSdoCreate (intf : Intf) (env : σ) :
    Accounted (mchSdoCreate intf env : Host c σ) where
  link := linkInv_mchSdoCreate intf env
  live_queued := by simp [MchSdo.live, mchSdoCreate]
  nodup := by simp [MchSdo.live, mchSdoCreate]
  called_lt := by simp [mchSdoCreate]
  live_count := by simp [MchSdo.live, mchSdoCreate]
  done_count := by simp [mchSdoCreate]

lemma sdoStep_of_request (cb : Callbacks c σ) (s : Host c σ) {op : SdoOp c} {r : Request c}
    (h : op.request? = some r) : sdoStep cb s op = .ok (s.push r) := by
  cases op <;> simp_all [SdoOp.request?, sdoStep]

/-- A step that overwrites a request loses it: nothing was called for it, and the machine does
not hold it any more. -/
lemma Accounted.lost (cb : Callbacks c σ) (s : Host c σ) (op : SdoOp c) (hs : Accounted s)
    (hbad : ¬ NotOverwriting s op) : ∃ s', sdoStep cb s op = .ok s' ∧ ¬ ReportedOnce s' := by
  simp only [NotOverwriting, not_forall, not_not] at hbad
  obtain ⟨r, hop, hw, a, ha, hcb⟩ := hbad
  refine ⟨_, sdoStep_of_request cb s hop, fun hrep => ?_⟩
  obtain ⟨os, htr, hnc, -⟩ := trace_push s r
  have hal : a ∈ s.mchSdo.live := by simp [MchSdo.live, ha]
  have hcount : (calledIn (s.push r).trace).count a.addr = 0 := by
    rw [htr, calledIn_append, hnc, List.append_nil, List.count_eq_zero]
    exact hs.live_count a hal
  have hdead : a ∉ (s.push r).mchSdo.live := by
    rw [live_push, if_pos hw]
    have hnd := hs.nodup
    rw [MchSdo.live, List.map_append, List.nodup_append] at hnd
    intro hmem
    simp only [List.nil_append, List.mem_append] at hmem
    rcases hmem with hq | hnew
    · exact hnd.2.2 _ (List.mem_map_of_mem (by simp [ha])) _ (List.mem_map_of_mem hq) rfl
    · have hlt := hs.link.addr_lt (hs.live_queued a hal)
      rw [List.mem_singleton.mp hnew] at hlt
      exact absurd hlt (lt_irrefl _)
  have hq : .queued a ∈ (s.push r).trace := htr ▸ List.mem_append_left _ (hs.live_queued a hal)
  have h1 := (hrep a hq hcb).2 (fun h => hdead (List.mem_append_right _ h))
    (fun h => hdead (List.mem_append_left _ (by simp [h])))
  omega

/-- Requests are reported exactly once in every state a run reaches if and only if no step of
the run queues a request while the machine waits with an unanswered request, registered with
functions, left in `sdo_active`. -/
theorem requests_reported_once_iff (cb : Callbacks c σ) (intf : Intf) (env : σ)
    (ops : List (SdoOp c)) :
    (∀ pre, pre <+: ops → ∀ s, run (sdoStep cb) (mchSdoCreate intf env) pre = .ok s →
      ReportedOnce s) ↔
    Guarded (sdoStep cb) NotOverwriting (mchSdoCreate intf env) ops := by
  constructor
  · exact guarded_of_forall_reached (Accounted.step cb) (Accounted.lost cb)
      (accounted_mchSdoCreate intf env)
  · intro hg pre hpre s hrun
    exact (Guarded.invariant (Accounted.step cb) (accounted_mchSdoCreate intf env)
      (hg.of_isPrefix hpre) hrun).reportedOnce

/-- The network is lost while the first write is on its way; after the reconnect a second write
takes its place, and the first is never reported. -/
theorem request_lost_on_reconnect :
    ∃ s, run (sdoStep (.inert ⟨Unit, Unit, Unit, Unit, Unit⟩ Unit)) (mchSdoCreate intfCreate ())
        [.enable, .queueWrite OB_O_P 1 1000 4 (some ()) (some ()) (some ()), .disable, .enable,
          .queueWrite OB_O_V 1 0 4 (some ()) (some ()) (some ())] = .ok s ∧
      ¬ ReportedOnce s := by
  refine ⟨_, rfl, fun h => ?_⟩
  have hlost := (h { writeRequest OB_O_P 1 1000 4 (some ()) (some ()) (some ()) with addr := 0 }
    (List.mem_iff_getElem?.mpr ⟨1, rfl⟩) rfl).2
  exact absurd (hlost (List.not_mem_nil) (by rintro ⟨⟩)) (by decide)

end SledServer
