import SledServer.Core.Link
import SledServer.Machines.Sdo

/-!
# Runs of the SDO machine

The SDO machine on its own, driven in any order by what the rest of the program can do to it:
queue a request, enable or disable it, and deliver a response (`SdoOp`).  `sdoStep_effect` says
once what each of these can do, guards included; the theorems about runs of the machine are
derived from it.
-/

namespace SledServer

open SledServer.Core

variable {c : Client} {σ : Type}

/-- What can be done to the SDO machine from outside. -/
inductive SdoOp (c : Client)
  | queueWrite (index : UInt16) (subindex : UInt8) (value : UInt32) (size : UInt8)
      (writeCallback : Option c.WriteFn) (abortCallback : Option c.AbortFn)
      (data : Option c.Data)
  | queueRead (index : UInt16) (subindex : UInt8) (readCallback : Option c.ReadFn)
      (abortCallback : Option c.AbortFn) (data : Option c.Data)
  | enable
  | disable
  | writeResponse (index : UInt16) (subindex : UInt8)
  | readResponse (index : UInt16) (subindex : UInt8) (value : UInt32)
  | abortResponse (index : UInt16) (subindex : UInt8) (code : UInt32)

/-- One step of a run of the SDO machine. -/
def sdoStep (cb : Callbacks c σ) (s : Host c σ) : SdoOp c → Except Halt (Host c σ)
  | .queueWrite index subindex value size w a d =>
    mchSdoQueueWriteWithCb cb.onAbort index subindex value size w a d s
  | .queueRead index subindex r a d => mchSdoQueueReadWithCb cb.onAbort index subindex r a d s
  | .enable => mchSdoHandleEvent cb.onAbort .netSdoEnabled s
  | .disable => mchSdoHandleEvent cb.onAbort .netSdoDisabled s
  | .writeResponse index subindex => mchSdoWriteCallback cb index subindex s
  | .readResponse index subindex value => mchSdoReadCallback cb index subindex value s
  | .abortResponse index subindex code => mchSdoAbortCallback cb index subindex code s

/-- The request an operation queues. -/
def SdoOp.request? : SdoOp c → Option (Request c)
  | .queueWrite index subindex value size w a d =>
    some (writeRequest index subindex value size w a d)
  | .queueRead index subindex r a d => some (readRequest index subindex r a d)
  | _ => none

/-! ## Quiet stretches of the trace -/

namespace Obs

/-- Entries that are no event of the request link. -/
def Quiet : Obs c → Prop
  | called _ _ | note _ => True
  | _ => False

/-- The request whose function is called. -/
def calledAddr? : Obs c → Option ℕ
  | called addr _ => some addr
  | _ => none

end Obs

/-- The requests whose functions were called, in order. -/
def calledIn (os : List (Obs c)) : List ℕ := os.filterMap Obs.calledAddr?

@[simp] lemma calledIn_nil : calledIn ([] : List (Obs c)) = [] := rfl

@[simp] lemma calledIn_append (os ps : List (Obs c)) :
    calledIn (os ++ ps) = calledIn os ++ calledIn ps := by simp [calledIn]

@[simp] lemma calledIn_map_note (ns : List c.Note) : calledIn (ns.map Obs.note) = [] := by
  simp [calledIn, Obs.calledAddr?]

/-- The trace grows by quiet entries that call the functions of the requests `addrs`. -/
def TraceGrows (addrs : List ℕ) (t t' : List (Obs c)) : Prop :=
  ∃ os, t' = t ++ os ∧ (∀ o ∈ os, o.Quiet) ∧ calledIn os = addrs

lemma TraceGrows.refl (t : List (Obs c)) : TraceGrows [] t t :=
  ⟨[], by simp, by simp, rfl⟩

lemma TraceGrows.trans {as bs : List ℕ} {t t' t'' : List (Obs c)} (h : TraceGrows as t t')
    (h' : TraceGrows bs t' t'') : TraceGrows (as ++ bs) t t'' := by
  obtain ⟨os, rfl, hos, rfl⟩ := h
  obtain ⟨ps, rfl, hps, rfl⟩ := h'
  refine ⟨os ++ ps, by simp, fun o ho => ?_, by simp⟩
  rcases List.mem_append.mp ho with ho | ho
  · exact hos o ho
  · exact hps o ho

/-- A registered function is logged and then adds notes only. -/
lemma TraceGrows.call {f : Host c σ → Except Halt (Host c σ)} (hf : LeavesSdo f) {s s' : Host c σ}
    {addr : ℕ} {call : Call c} (h : f (s.log (.called addr call)) = .ok s') :
    s'.mchSdo = s.mchSdo ∧ TraceGrows [addr] s.trace s'.trace := by
  obtain ⟨hm, ns, ht⟩ := hf _ _ h
  refine ⟨hm, .called addr call :: ns.map .note, by simpa using ht, ?_, ?_⟩
  · intro o ho
    rcases List.mem_cons.mp ho with rfl | ho
    · trivial
    · obtain ⟨n, -, rfl⟩ := List.mem_map.mp ho
      trivial
  · change addr :: calledIn (ns.map Obs.note) = [addr]
    rw [calledIn_map_note]

/-- The request has a function for a positive response. -/
def Sdo.hasSuccess (r : Sdo c) : Bool :=
  if r.isWrite then r.writeCallback.isSome else r.readCallback.isSome

lemma Callbacks.write_spec (cb : Callbacks c σ) {sdo : Sdo c} {index : UInt16} {subindex : UInt8}
    {s t : Host c σ} (h : cb.write sdo index subindex s = .ok t) :
    t.mchSdo = s.mchSdo ∧
      TraceGrows (if sdo.writeCallback.isSome then [sdo.addr] else []) s.trace t.trace := by
  unfold Callbacks.write at h
  cases hf : sdo.writeCallback with
  | none =>
    rw [hf] at h
    cases h
    exact ⟨rfl, .refl _⟩
  | some f =>
    rw [hf] at h
    exact TraceGrows.call (cb.onWrite_leaves f sdo.data index subindex) h

lemma Callbacks.read_spec (cb : Callbacks c σ) {sdo : Sdo c} {index : UInt16} {subindex : UInt8}
    {value : UInt32} {s t : Host c σ} (h : cb.read sdo index subindex value s = .ok t) :
    t.mchSdo = s.mchSdo ∧
      TraceGrows (if sdo.readCallback.isSome then [sdo.addr] else []) s.trace t.trace := by
  unfold Callbacks.read at h
  cases hf : sdo.readCallback with
  | none =>
    rw [hf] at h
    cases h
    exact ⟨rfl, .refl _⟩
  | some f =>
    rw [hf] at h
    exact TraceGrows.call (cb.onRead_leaves f sdo.data index subindex value) h

/-- The requests among these whose abort function is set. -/
def abortable (q : List (Sdo c)) : List ℕ := (q.filter (·.abortCallback.isSome)).map (·.addr)

lemma callAbort_spec (cb : Callbacks c σ) {sdo : Sdo c} {index : UInt16} {subindex : UInt8}
    {code : UInt32} {s t : Host c σ} (h : callAbort cb.onAbort sdo index subindex code s = .ok t) :
    t.mchSdo = s.mchSdo ∧ TraceGrows (abortable [sdo]) s.trace t.trace := by
  unfold callAbort at h
  cases hf : sdo.abortCallback with
  | none =>
    rw [hf] at h
    cases h
    have habs : abortable [sdo] = [] := by simp [abortable, hf]
    exact ⟨rfl, habs ▸ .refl _⟩
  | some f =>
    rw [hf] at h
    have habs : abortable [sdo] = [sdo.addr] := by simp [abortable, hf]
    exact habs ▸ TraceGrows.call (cb.onAbort_leaves f sdo.data index subindex code) h

/-- Clearing the queue calls the abort function of every request in it, in order. -/
lemma clearQueueLoop_spec (cb : Callbacks c σ) : ∀ (q : List (Sdo c)) {s t : Host c σ},
    s.mchSdo.sdoQueue = q → clearQueueLoop cb.onAbort q s = .ok t →
      t.mchSdo = { s.mchSdo with sdoQueue := [] } ∧ TraceGrows (abortable q) s.trace t.trace
  | [], s, t, hq, h => by
    cases h
    exact ⟨by rw [← hq], .refl _⟩
  | sdo :: rest, s, t, hq, h => by
    obtain ⟨u, hu, ht⟩ := bind_eq_ok.mp h
    obtain ⟨hm, hg⟩ := callAbort_spec cb hu
    obtain ⟨hm', hg'⟩ := clearQueueLoop_spec cb rest (by rw [hm]) ht
    refine ⟨by rw [hm', hm], ?_⟩
    have habs : abortable (sdo :: rest) = abortable [sdo] ++ abortable rest := by
      simp only [abortable, List.filter_cons]
      split <;> simp
    exact habs ▸ hg.trans hg'

/-! ## What one step can do -/

/-- Everything one operation can do to the process. -/
inductive SdoEffect : Host c σ → SdoOp c → Host c σ → Prop
  /-- A request is queued, and sent at once if the machine waits. -/
  | push {s : Host c σ} {op r} (hop : op.request? = some r) : SdoEffect s op (s.push r)
  | disable {s : Host c σ} : SdoEffect s .disable s.disable
  | enabled {s : Host c σ} (h : s.mchSdo.state = .waiting ∨ s.mchSdo.state = .sending) :
      SdoEffect s .enable s
  /-- The queue is cleared, with a call for every request that has an abort function. -/
  | enable {s t : Host c σ} (h : s.mchSdo.state = .disabled ∨ s.mchSdo.state = .error)
      (hm : t.mchSdo = { s.mchSdo with sdoQueue := [] })
      (ht : TraceGrows (abortable s.mchSdo.sdoQueue) s.trace t.trace) :
      SdoEffect s .enable (t.setSdoState .waiting)
  /-- A positive response to the active request. -/
  | answer {s t : Host c σ} {op sdo resp} (hop : op.request? = none)
      (ha : s.mchSdo.sdoActive = some sdo)
      (hm : t.mchSdo = s.mchSdo)
      (ht : TraceGrows (if sdo.hasSuccess then [sdo.addr] else [])
        (s.trace ++ [.answered sdo resp]) t.trace) :
      SdoEffect s op t.clearActive.proceed
  /-- An abort response to the active request. -/
  | abort {s t : Host c σ} {op sdo resp} (hop : op.request? = none)
      (ha : s.mchSdo.sdoActive = some sdo)
      (hm : t.mchSdo = s.mchSdo)
      (ht : TraceGrows (abortable [sdo]) (s.trace ++ [.answered sdo resp]) t.trace) :
      SdoEffect s op t.clearActive.fail

lemma assert_eq_ok {b : Bool} {u : Unit} : assert b = .ok u ↔ b = true := by
  cases b <;> simp

section Responses

variable {cb : Callbacks c σ} {index : UInt16} {subindex : UInt8} {s s' : Host c σ}

/-- A write response that passes the assertions. -/
lemma mchSdoWriteCallback_ok (h : mchSdoWriteCallback cb index subindex s = .ok s') :
    ∃ sdo t, s.mchSdo.sdoActive = some sdo ∧ sdo.isWrite = true ∧ sdo.index = index ∧
      sdo.subindex = subindex ∧ cb.write sdo index subindex (s.log (.answered sdo .write)) = .ok t ∧
      s' = t.clearActive.proceed := by
  unfold mchSdoWriteCallback at h
  cases ha : s.mchSdo.sdoActive with
  | none => simp [ha] at h
  | some sdo =>
    simp only [ha, bind_eq_ok, assert_eq_ok, beq_iff_eq, mchSdoHandleEvent_writeResponse] at h
    obtain ⟨-, hw, -, hi, -, hj, t, ht, hs⟩ := h
    exact ⟨sdo, t, rfl, hw, hi, hj, ht, by cases hs; rfl⟩

/-- A read response that passes the assertions. -/
lemma mchSdoReadCallback_ok {value : UInt32}
    (h : mchSdoReadCallback cb index subindex value s = .ok s') :
    ∃ sdo t, s.mchSdo.sdoActive = some sdo ∧ sdo.isWrite = false ∧ sdo.index = index ∧
      sdo.subindex = subindex ∧
      cb.read sdo index subindex value (s.log (.answered sdo (.read value))) = .ok t ∧
      s' = t.clearActive.proceed := by
  unfold mchSdoReadCallback at h
  cases ha : s.mchSdo.sdoActive with
  | none => simp [ha] at h
  | some sdo =>
    simp only [ha, bind_eq_ok, assert_eq_ok, beq_iff_eq, mchSdoHandleEvent_readResponse,
      Bool.not_eq_true'] at h
    obtain ⟨-, hw, -, hi, -, hj, t, ht, hs⟩ := h
    exact ⟨sdo, t, rfl, hw, hi, hj, ht, by cases hs; rfl⟩

/-- An abort response that passes the assertions. -/
lemma mchSdoAbortCallback_ok {code : UInt32}
    (h : mchSdoAbortCallback cb index subindex code s = .ok s') :
    ∃ sdo t, s.mchSdo.sdoActive = some sdo ∧ sdo.index = index ∧ sdo.subindex = subindex ∧
      cb.abort sdo index subindex code (s.log (.answered sdo (.abort code))) = .ok t ∧
      s' = t.clearActive.fail := by
  unfold mchSdoAbortCallback at h
  cases ha : s.mchSdo.sdoActive with
  | none => simp [ha] at h
  | some sdo =>
    simp only [ha, bind_eq_ok, assert_eq_ok, beq_iff_eq, mchSdoHandleEvent_abortResponse] at h
    obtain ⟨-, hi, -, hj, t, ht, hs⟩ := h
    exact ⟨sdo, t, rfl, hi, hj, ht, by cases hs; rfl⟩

end Responses

/-- Every step is one of the listed effects. -/
theorem sdoStep_effect (cb : Callbacks c σ) {s s' : Host c σ} {op : SdoOp c}
    (h : sdoStep cb s op = .ok s') : SdoEffect s op s' := by
  cases op with
  | queueWrite index subindex value size w a d =>
    simp only [sdoStep, mchSdoQueueWriteWithCb_eq, Except.ok.injEq] at h
    exact h ▸ .push rfl
  | queueRead index subindex r a d =>
    simp only [sdoStep, mchSdoQueueReadWithCb_eq, Except.ok.injEq] at h
    exact h ▸ .push rfl
  | disable =>
    simp only [sdoStep, mchSdoHandleEvent_netSdoDisabled, Except.ok.injEq] at h
    exact h ▸ .disable
  | enable =>
    by_cases hst : s.mchSdo.state = .waiting ∨ s.mchSdo.state = .sending
    · rw [sdoStep, mchSdoHandleEvent_netSdoEnabled_of_enabled _ hst] at h
      cases h
      exact .enabled hst
    · have hoff : s.mchSdo.state = .disabled ∨ s.mchSdo.state = .error := by
        cases hs : s.mchSdo.state <;> simp_all
      rw [sdoStep, mchSdoHandleEvent_netSdoEnabled_of_disabled _ hoff] at h
      obtain ⟨t, ht, hs⟩ := bind_eq_ok.mp h
      obtain ⟨hm, hg⟩ := clearQueueLoop_spec cb _ rfl ht
      have hq : (t.setSdoState .waiting).mchSdo.sdoQueue = [] := by simp [hm]
      rw [Host.resume_nil hq] at hs
      cases hs
      exact .enable hoff hm hg
  | writeResponse index subindex =>
    obtain ⟨sdo, t, ha, hw, -, -, ht, rfl⟩ := mchSdoWriteCallback_ok h
    obtain ⟨hm, hg⟩ := cb.write_spec ht
    exact .answer rfl ha hm (by simpa [Sdo.hasSuccess, hw] using hg)
  | readResponse index subindex value =>
    obtain ⟨sdo, t, ha, hw, -, -, ht, rfl⟩ := mchSdoReadCallback_ok h
    obtain ⟨hm, hg⟩ := cb.read_spec ht
    exact .answer rfl ha hm (by simpa [Sdo.hasSuccess, hw] using hg)
  | abortResponse index subindex code =>
    obtain ⟨sdo, t, ha, -, -, ht, rfl⟩ := mchSdoAbortCallback_ok h
    obtain ⟨hm, hg⟩ := callAbort_spec cb ht
    exact .abort rfl ha hm hg

end SledServer
