import SledServer.Sdo.Reports
import SledServer.Sled.Codec

/-!
# What a callback is given

The arguments of a callback come a long way: the data pointer, the index and the subindex are
stored in the request when it is queued, the request becomes the active one when it is sent, and the
value of a read comes out of the frame that answers it.  Here the SDO machine runs on the frames
themselves (`SdoInput`), and each function that is called is compared with what the caller of the
queueing function gave (`Call.HandsBack`).

`mch_sdo_queue_read_with_cb` stores `NULL` in place of the data pointer it is given, so a read hands
it back only if it was `NULL`, or if the request has no function to hand it to.
-/

namespace SledServer

open SledServer.Core

variable {c : Client} {σ : Type}

/-! ## The SDO machine on the bus -/

/-- What the rest of the program and the bus can do to the SDO machine. -/
inductive SdoInput (c : Client)
  | queueWrite (index : UInt16) (subindex : UInt8) (value : UInt32) (size : UInt8)
      (writeCallback : Option c.WriteFn) (abortCallback : Option c.AbortFn)
      (data : Option c.Data)
  | queueRead (index : UInt16) (subindex : UInt8) (readCallback : Option c.ReadFn)
      (abortCallback : Option c.AbortFn) (data : Option c.Data)
  | enable
  | disable
  | frame (msg : CanMessage)

/-- The functions of the SDO machine, in the slots that its last request has set. -/
def sdoHandlers (cb : Callbacks c σ) (intf : Intf) : Handlers (Host c σ) where
  tpdoHandler := none
  nmtStateHandler := none
  writeCallback := if intf.writeCallback then some (mchSdoWriteCallback cb) else none
  readCallback := if intf.readCallback then some (mchSdoReadCallback cb) else none
  abortCallback := if intf.abortCallback then some (mchSdoAbortCallback cb) else none

/-- One step of a run of the SDO machine on the bus. -/
def sdoInputStep (cb : Callbacks c σ) (s : Host c σ) : SdoInput c → Except Halt (Host c σ)
  | .queueWrite index subindex value size w a d =>
    mchSdoQueueWriteWithCb cb.onAbort index subindex value size w a d s
  | .queueRead index subindex r a d => mchSdoQueueReadWithCb cb.onAbort index subindex r a d s
  | .enable => mchSdoHandleEvent cb.onAbort .netSdoEnabled s
  | .disable => mchSdoHandleEvent cb.onAbort .netSdoDisabled s
  | .frame msg => (sdoHandlers cb s.intf).dispatchMsg msg s

/-- The frame is a read response of one to four bytes, and these are the bytes of the value. -/
def SdoInput.Carries (i : SdoInput c) (value : UInt32) : Prop :=
  ∃ msg : CanMessage, i = .frame msg ∧ ∃ size, 1 ≤ size ∧ size ≤ 4 ∧
    firstByte msg.data = Transfer.upload.command size ∧
    value.toNat = ofLittle ((valueBytes msg.data).take size)

/-- The operation on the SDO machine that an input comes to. -/
inductive SdoInput.Acts : SdoInput c → SdoOp c → Prop
  | queueWrite {index subindex value size w a d} :
      Acts (.queueWrite index subindex value size w a d)
        (.queueWrite index subindex value size w a d)
  | queueRead {index subindex r a d} :
      Acts (.queueRead index subindex r a d) (.queueRead index subindex r a d)
  | enable : Acts .enable .enable
  | disable : Acts .disable .disable
  | write {msg index subindex} : Acts (.frame msg) (.writeResponse index subindex)
  | read {msg index subindex value} (h : (SdoInput.frame msg : SdoInput c).Carries value) :
      Acts (.frame msg) (.readResponse index subindex value)
  | abort {msg index subindex code} : Acts (.frame msg) (.abortResponse index subindex code)

/-- A frame is no response, or there is no function for it, or it comes to a response. -/
lemma sdoInputStep_frame (cb : Callbacks c σ) {msg : CanMessage} {s s' : Host c σ}
    (h : (sdoHandlers cb s.intf).dispatchMsg msg s = .ok s') :
    s' = s ∨ ∃ op, SdoInput.Acts (.frame msg) op ∧ sdoStep cb s op = .ok s' := by
  unfold Handlers.dispatchMsg at h
  dsimp only [sdoHandlers] at h
  split at h
  · exact .inl (Except.ok.inj h).symm
  split at h
  · exact .inl (Except.ok.inj h).symm
  split at h
  case isFalse => exact .inl (Except.ok.inj h).symm
  unfold Handlers.dispatchSdo Handlers.call at h
  dsimp only at h
  split at h
  · cases hw : s.intf.writeCallback with
    | false => exact .inl (by simpa [hw] using h.symm)
    | true => exact .inr ⟨_, .write, by simpa [hw, sdoStep] using h⟩
  split at h
  case isTrue hread =>
    cases hr : s.intf.readCallback with
    | false => exact .inl (by simpa [hr] using h.symm)
    | true =>
      have hcommand : ∃ size, 1 ≤ size ∧ size ≤ 4 ∧ msg.data[0] = Transfer.upload.command size := by
        rcases hread with h0 | h0 | h0 | h0
        · exact ⟨4, by decide, by decide, h0⟩
        · exact ⟨3, by decide, by decide, h0⟩
        · exact ⟨2, by decide, by decide, h0⟩
        · exact ⟨1, by decide, by decide, h0⟩
      obtain ⟨size, hpos, hle, hcommand⟩ := hcommand
      have hcarries : (SdoInput.frame msg : SdoInput c).Carries (sdoValue msg.data) :=
        ⟨msg, rfl, size, hpos, hle, hcommand, toNat_sdoValue hpos hle hcommand⟩
      exact .inr ⟨_, .read hcarries, by simpa [hr, sdoStep] using h⟩
  split at h
  · cases ha : s.intf.abortCallback with
    | false => exact .inl (by simpa [ha] using h.symm)
    | true => exact .inr ⟨_, .abort, by simpa [ha, sdoStep] using h⟩
  · exact .inl (Except.ok.inj h).symm

/-- A step on the bus is a step of the machine, or a frame that does nothing. -/
lemma sdoInputStep_acts (cb : Callbacks c σ) {i : SdoInput c} {s s' : Host c σ}
    (h : sdoInputStep cb s i = .ok s') :
    (s' = s ∧ ∃ msg, i = .frame msg) ∨ ∃ op, i.Acts op ∧ sdoStep cb s op = .ok s' := by
  cases i with
  | queueWrite => exact .inr ⟨_, .queueWrite, h⟩
  | queueRead => exact .inr ⟨_, .queueRead, h⟩
  | enable => exact .inr ⟨_, .enable, h⟩
  | disable => exact .inr ⟨_, .disable, h⟩
  | frame msg =>
    rcases sdoInputStep_frame cb h with rfl | hop
    · exact .inl ⟨rfl, msg, rfl⟩
    · exact .inr hop

/-! ## What was given and what is handed back -/

/-- What the caller gives when it queues a request. -/
def SdoInput.given? : SdoInput c → Option (Request c)
  | .queueWrite index subindex value size w a d =>
    some (writeRequest index subindex value size w a d)
  | .queueRead index subindex r a d => some { readRequest index subindex r a d with data := d }
  | _ => none

/-- The function called is one of those given, with the data pointer, the index and the subindex
given. -/
def Call.HandsBack (g : Request c) : Call c → Prop
  | .write f data index subindex =>
    g.writeCallback = some f ∧ data = g.data ∧ index = g.index ∧ subindex = g.subindex
  | .read f data index subindex _ =>
    g.readCallback = some f ∧ data = g.data ∧ index = g.index ∧ subindex = g.subindex
  | .abort f data index subindex _ =>
    g.abortCallback = some f ∧ data = g.data ∧ index = g.index ∧ subindex = g.subindex

/-- The value that a read function is called with. -/
def Call.value? : Call c → Option UInt32
  | .read _ _ _ _ value => some value
  | _ => none

/-- Every function called in this stretch of the trace belongs to one of the requests given, in the
order in which they were queued, and gets back what was given with it; and the value of a read is
that of the bytes of the frame that has arrived. -/
def Delivered (given : List (Request c)) (i : SdoInput c) (os : List (Obs c)) : Prop :=
  ∀ addr call, .called addr call ∈ os →
    (∃ g, given[addr]? = some g ∧ call.HandsBack g) ∧
    ∀ value, call.value? = some value → i.Carries value

/-- The input does not queue a read with a data pointer and a function to hand it to. -/
def SdoInput.KeepsData : SdoInput c → Prop
  | .queueRead _ _ r a d => d = none ∨ r = none ∧ a = none
  | _ => True

/-! ## The calls of one step -/

/-- The trace grows, and the functions called meanwhile are all as `P` says. -/
def CallsOnly (P : ℕ → Call c → Prop) (t t' : List (Obs c)) : Prop :=
  ∃ os, t' = t ++ os ∧ ∀ addr call, .called addr call ∈ os → P addr call

namespace CallsOnly

variable {P Q : ℕ → Call c → Prop} {t t' t'' : List (Obs c)}

lemma refl (P : ℕ → Call c → Prop) (t : List (Obs c)) : CallsOnly P t t := ⟨[], by simp, by simp⟩

lemma trans (h : CallsOnly P t t') (h' : CallsOnly P t' t'') : CallsOnly P t t'' := by
  obtain ⟨os, rfl, hos⟩ := h
  obtain ⟨ps, rfl, hps⟩ := h'
  refine ⟨os ++ ps, by simp, fun addr call hmem => ?_⟩
  rcases List.mem_append.mp hmem with hmem | hmem
  · exact hos addr call hmem
  · exact hps addr call hmem

lemma mono (h : CallsOnly P t t') (hPQ : ∀ addr call, P addr call → Q addr call) :
    CallsOnly Q t t' := by
  obtain ⟨os, ht, hos⟩ := h
  exact ⟨os, ht, fun addr call hmem => hPQ addr call (hos addr call hmem)⟩

lemma of_silent (h : ∃ os, t' = t ++ os ∧ calledIn os = []) : CallsOnly P t t' := by
  obtain ⟨os, rfl, hos⟩ := h
  refine ⟨os, rfl, fun addr call hmem => ?_⟩
  have haddr : addr ∈ calledIn os := List.mem_filterMap.mpr ⟨_, hmem, rfl⟩
  rw [hos] at haddr
  exact absurd haddr List.not_mem_nil

/-- A registered function is called, and leaves notes only. -/
lemma call {f : Host c σ → Except Halt (Host c σ)} (hf : LeavesSdo f) {s s' : Host c σ} {addr : ℕ}
    {call : Call c} (h : f (s.log (.called addr call)) = .ok s') (hP : P addr call) :
    CallsOnly P s.trace s'.trace := by
  obtain ⟨-, ns, ht⟩ := hf _ _ h
  refine ⟨.called addr call :: ns.map .note, by simpa using ht, fun addr' call' hmem => ?_⟩
  rcases List.mem_cons.mp hmem with heq | hmem
  · cases heq
    exact hP
  · obtain ⟨n, -, hn⟩ := List.mem_map.mp hmem
    cases hn

end CallsOnly

/-- The call belongs to one of these requests, and hands back what is stored in it. -/
def CallOf (rs : List (Sdo c)) (addr : ℕ) (call : Call c) : Prop :=
  ∃ r ∈ rs, r.addr = addr ∧ call.HandsBack r.toRequest

section Calls

variable (cb : Callbacks c σ) {sdo : Sdo c} {s t : Host c σ}

lemma calls_write (h : cb.write sdo sdo.index sdo.subindex s = .ok t) :
    CallsOnly (fun addr call => CallOf [sdo] addr call ∧ call.value? = none) s.trace t.trace := by
  unfold Callbacks.write at h
  split at h
  case h_1 f hf =>
    exact .call (cb.onWrite_leaves f sdo.data sdo.index sdo.subindex) h
      ⟨⟨sdo, by simp, rfl, hf, rfl, rfl, rfl⟩, rfl⟩
  case h_2 =>
    cases h
    exact .refl _ _

lemma calls_read {value : UInt32} (h : cb.read sdo sdo.index sdo.subindex value s = .ok t) :
    CallsOnly (fun addr call => CallOf [sdo] addr call ∧ call.value? = some value)
      s.trace t.trace := by
  unfold Callbacks.read at h
  split at h
  case h_1 f hf =>
    exact .call (cb.onRead_leaves f sdo.data sdo.index sdo.subindex value) h
      ⟨⟨sdo, by simp, rfl, hf, rfl, rfl, rfl⟩, rfl⟩
  case h_2 =>
    cases h
    exact .refl _ _

lemma calls_abort {code : UInt32}
    (h : callAbort cb.onAbort sdo sdo.index sdo.subindex code s = .ok t) :
    CallsOnly (fun addr call => CallOf [sdo] addr call ∧ call.value? = none) s.trace t.trace := by
  unfold callAbort at h
  split at h
  case h_1 f hf =>
    exact .call (cb.onAbort_leaves f sdo.data sdo.index sdo.subindex code) h
      ⟨⟨sdo, by simp, rfl, hf, rfl, rfl, rfl⟩, rfl⟩
  case h_2 =>
    cases h
    exact .refl _ _

lemma calls_clearQueue : ∀ (q : List (Sdo c)) {s t : Host c σ},
    clearQueueLoop cb.onAbort q s = .ok t →
      CallsOnly (fun addr call => CallOf q addr call ∧ call.value? = none) s.trace t.trace
  | [], s, t, h => by
    cases h
    exact .refl _ _
  | sdo :: rest, s, t, h => by
    obtain ⟨u, hu, ht⟩ := bind_eq_ok.mp h
    refine ((calls_abort cb hu).mono ?_).trans ((calls_clearQueue rest ht).mono ?_)
    · rintro addr call ⟨⟨r, hr, hcall⟩, hvalue⟩
      exact ⟨⟨r, by simp_all, hcall⟩, hvalue⟩
    · rintro addr call ⟨⟨r, hr, hcall⟩, hvalue⟩
      exact ⟨⟨r, List.mem_cons_of_mem _ hr, hcall⟩, hvalue⟩

end Calls

/-- What an operation of the SDO machine may call: functions of the requests it holds, and a read
function with the value of the response only. -/
def MayCall (m : MchSdo c) (op : SdoOp c) (addr : ℕ) (call : Call c) : Prop :=
  CallOf m.live addr call ∧
    ∀ value, call.value? = some value →
      ∃ index subindex, op = .readResponse index subindex value

/-- The functions that one step of the machine calls. -/
lemma sdoStep_calls (cb : Callbacks c σ) {s s' : Host c σ} {op : SdoOp c}
    (h : sdoStep cb s op = .ok s') : CallsOnly (MayCall s.mchSdo op) s.trace s'.trace := by
  have hactive : ∀ {sdo}, s.mchSdo.sdoActive = some sdo → ∀ addr call, CallOf [sdo] addr call →
      CallOf s.mchSdo.live addr call := by
    rintro sdo ha addr call ⟨r, hr, hcall⟩
    rw [List.mem_singleton] at hr
    exact ⟨r, by simp [MchSdo.live, ha, hr], hcall⟩
  have hnone : ∀ {call : Call c}, call.value? = none → ∀ value, call.value? = some value →
      ∃ index subindex, op = .readResponse index subindex value := by
    intro call hn value hv
    rw [hn] at hv
    cases hv
  have hanswered : ∀ {sdo resp}, CallsOnly (MayCall s.mchSdo op) s.trace
      (s.log (.answered sdo resp)).trace := fun {sdo resp} =>
    .of_silent ⟨[.answered sdo resp], rfl, rfl⟩
  have hpush : ∀ r : Request c, CallsOnly (MayCall s.mchSdo op) s.trace (s.push r).trace := by
    intro r
    obtain ⟨os, htr, hcalled, -⟩ := trace_push s r
    exact .of_silent ⟨os, htr, hcalled⟩
  have hproceed : ∀ t : Host c σ,
      CallsOnly (MayCall s.mchSdo op) t.trace t.clearActive.proceed.trace := by
    intro t
    obtain ⟨os, htr, hcalled, -⟩ := trace_proceed t.clearActive
    exact .of_silent ⟨os, by simpa using htr, hcalled⟩
  cases op with
  | queueWrite =>
    simp only [sdoStep, mchSdoQueueWriteWithCb_eq, Except.ok.injEq] at h
    exact h ▸ hpush _
  | queueRead =>
    simp only [sdoStep, mchSdoQueueReadWithCb_eq, Except.ok.injEq] at h
    exact h ▸ hpush _
  | disable =>
    simp only [sdoStep, mchSdoHandleEvent_netSdoDisabled, Except.ok.injEq] at h
    subst h
    unfold Host.disable
    split
    · exact .of_silent ⟨[_], rfl, rfl⟩
    · exact .refl _ _
  | enable =>
    by_cases hst : s.mchSdo.state = .waiting ∨ s.mchSdo.state = .sending
    · rw [sdoStep, mchSdoHandleEvent_netSdoEnabled_of_enabled _ hst] at h
      cases h
      exact .refl _ _
    · have hoff : s.mchSdo.state = .disabled ∨ s.mchSdo.state = .error := by
        cases hs : s.mchSdo.state <;> simp_all
      rw [sdoStep, mchSdoHandleEvent_netSdoEnabled_of_disabled _ hoff] at h
      obtain ⟨t, ht, hs⟩ := bind_eq_ok.mp h
      cases hs
      obtain ⟨os, htr, hcalled, -⟩ := trace_resume (t.setSdoState .waiting)
      refine ((calls_clearQueue cb _ ht).mono ?_).trans
        (.of_silent ⟨_ :: os, by simpa using htr, ?_⟩)
      · rintro addr call ⟨⟨r, hr, hcall⟩, hvalue⟩
        exact ⟨⟨r, List.mem_append_right _ hr, hcall⟩, hnone hvalue⟩
      · simpa [calledIn, List.filterMap_cons, Obs.calledAddr?] using hcalled
  | writeResponse index subindex =>
    obtain ⟨sdo, t, ha, -, rfl, rfl, ht, rfl⟩ := mchSdoWriteCallback_ok h
    refine hanswered.trans (((calls_write cb ht).mono ?_).trans (hproceed t))
    rintro addr call ⟨hcall, hvalue⟩
    exact ⟨hactive ha addr call hcall, hnone hvalue⟩
  | readResponse index subindex value =>
    obtain ⟨sdo, t, ha, -, rfl, rfl, ht, rfl⟩ := mchSdoReadCallback_ok h
    refine hanswered.trans (((calls_read cb ht).mono ?_).trans (hproceed t))
    rintro addr call ⟨hcall, hvalue⟩
    refine ⟨hactive ha addr call hcall, fun v hv => ⟨sdo.index, sdo.subindex, ?_⟩⟩
    rw [hvalue] at hv
    cases hv
    rfl
  | abortResponse index subindex code =>
    obtain ⟨sdo, t, ha, rfl, rfl, ht, rfl⟩ := mchSdoAbortCallback_ok h
    obtain ⟨os, htr, hcalled, -⟩ := trace_fail t.clearActive
    refine hanswered.trans (((calls_abort cb ht).mono ?_).trans
      (.of_silent ⟨os, by simpa using htr, hcalled⟩))
    rintro addr call ⟨hcall, hvalue⟩
    exact ⟨hactive ha addr call hcall, hnone hvalue⟩

/-! ## The requests that the machine holds -/

/-- A step holds on to requests of before and to the one it queues. -/
lemma sdoStep_live (cb : Callbacks c σ) {s s' : Host c σ} {op : SdoOp c}
    (h : sdoStep cb s op = .ok s') :
    s'.mchSdo.allocated = s.mchSdo.allocated + op.request?.toList.length ∧
      ∀ r ∈ s'.mchSdo.live, r ∈ s.mchSdo.live ∨
        op.request? = some r.toRequest ∧ r.addr = s.mchSdo.allocated := by
  cases sdoStep_effect cb h with
  | push hop =>
    rename_i r
    rw [hop]
    refine ⟨allocated_push s r, fun r' hr' => ?_⟩
    rw [live_push] at hr'
    simp only [MchSdo.live, List.mem_append, List.mem_singleton] at hr' ⊢
    rcases hr' with hr' | hr' | rfl
    · split at hr'
      · exact absurd hr' List.not_mem_nil
      · exact .inl (.inl hr')
    · exact .inl (.inr hr')
    · exact .inr ⟨rfl, rfl⟩
  | disable =>
    unfold Host.disable
    split
    · exact ⟨rfl, fun r hr => .inl hr⟩
    · exact ⟨rfl, fun r hr => .inl hr⟩
  | enabled => exact ⟨rfl, fun r hr => .inl hr⟩
  | enable hoff hm ht =>
    refine ⟨by simp [hm, SdoOp.request?], fun r hr => .inl ?_⟩
    have hr' : r ∈ s.mchSdo.sdoActive.toList := by simpa [MchSdo.live, hm] using hr
    exact List.mem_append_left _ hr'
  | answer hop ha hm ht =>
    rw [hop]
    refine ⟨by simp [allocated_proceed, hm], fun r hr => .inl ?_⟩
    rw [live_clearActive_proceed, hm] at hr
    exact List.mem_append_right _ hr
  | abort hop ha hm ht =>
    rw [hop]
    refine ⟨by simp [allocated_fail, hm], fun r hr => .inl ?_⟩
    rw [live_clearActive_fail, hm] at hr
    exact List.mem_append_right _ hr

/-- Every request that the machine holds hands back what was given with it. -/
def Holds (given : List (Request c)) (s : Host c σ) : Prop :=
  s.mchSdo.allocated = given.length ∧
    ∀ r ∈ s.mchSdo.live, ∃ g, given[r.addr]? = some g ∧
      ∀ call : Call c, call.HandsBack r.toRequest → call.HandsBack g

/-- What the machine stores of a request that keeps its data hands back what was given. -/
lemma SdoInput.Acts.given {i : SdoInput c} {op : SdoOp c} (h : i.Acts op) (hkeeps : i.KeepsData) :
    (op.request? = none ∧ i.given? = none) ∨
      ∃ r g, op.request? = some r ∧ i.given? = some g ∧
        ∀ call : Call c, call.HandsBack r → call.HandsBack g := by
  cases h with
  | queueWrite => exact .inr ⟨_, _, rfl, rfl, fun _ hcall => hcall⟩
  | queueRead =>
    refine .inr ⟨_, _, rfl, rfl, fun call hcall => ?_⟩
    rcases hkeeps with rfl | ⟨rfl, rfl⟩
    · exact hcall
    · -- There is no function that could be called.
      cases call with
      | write | read | abort => exact absurd hcall.1 (by simp [readRequest])
  | enable | disable | write | read | abort => exact .inl ⟨rfl, rfl⟩

lemma holds_mchSdoCreate (intf : Intf) (env : σ) : Holds [] (mchSdoCreate intf env : Host c σ) :=
  ⟨rfl, by simp [MchSdo.live, mchSdoCreate]⟩

/-- One step keeps the requests held in line with those given. -/
lemma Holds.step {given : List (Request c)} (cb : Callbacks c σ) {i : SdoInput c} {s s' : Host c σ}
    (hs : Holds given s) (hkeeps : i.KeepsData) (h : sdoInputStep cb s i = .ok s') :
    Holds (given ++ i.given?.toList) s' := by
  rcases sdoInputStep_acts cb h with ⟨rfl, msg, rfl⟩ | ⟨op, hop, hstep⟩
  · simpa [SdoInput.given?] using hs
  obtain ⟨hall, hlive⟩ := sdoStep_live cb hstep
  rcases hop.given hkeeps with ⟨hr, hg⟩ | ⟨r, g, hr, hg, hback⟩
  · rw [hr] at hall hlive
    rw [hg]
    refine ⟨by simpa [hs.1] using hall, fun r hr' => ?_⟩
    simpa using hs.2 r ((hlive r hr').resolve_right (by simp))
  · rw [hr] at hall hlive
    rw [hg]
    refine ⟨by simp [hall, hs.1], fun r' hr' => ?_⟩
    rcases hlive r' hr' with hold | ⟨heq, haddr⟩
    · obtain ⟨g', hg', hback'⟩ := hs.2 r' hold
      obtain ⟨hlt, -⟩ := List.getElem?_eq_some_iff.mp hg'
      exact ⟨g', by rw [List.getElem?_append_left hlt, hg'], hback'⟩
    · cases heq
      exact ⟨g, by simp [haddr, hs.1], hback⟩

/-- Along a run, the requests held stay in line with those given. -/
lemma Holds.run (cb : Callbacks c σ) {s₀ : Host c σ} (hs₀ : Holds [] s₀) :
    ∀ (inputs : List (SdoInput c)), (∀ i ∈ inputs, i.KeepsData) → ∀ {s : Host c σ},
      Core.run (sdoInputStep cb) s₀ inputs = .ok s →
        Holds (inputs.filterMap SdoInput.given?) s := by
  intro inputs
  induction inputs using List.reverseRecOn with
  | nil =>
    intro _ s h
    cases h
    exact hs₀
  | append_singleton inputs i ih =>
    intro hkeeps s h
    obtain ⟨t, ht, hi⟩ := run_append_ok.mp h
    obtain ⟨u, hu, hrest⟩ := run_cons_ok.mp hi
    cases hrest
    have hstep := (ih (fun j hj => hkeeps j (List.mem_append_left _ hj)) ht).step cb
      (hkeeps i (by simp)) hu
    rw [List.filterMap_append]
    exact hstep

/-! ## Every run -/

/-- Each step of the run delivers what it should. -/
def Delivers (cb : Callbacks c σ) (s₀ : Host c σ) (inputs : List (SdoInput c)) : Prop :=
  ∀ pre i, pre ++ [i] <+: inputs → ∀ s s', run (sdoInputStep cb) s₀ pre = .ok s →
    sdoInputStep cb s i = .ok s' →
    ∃ os, s'.trace = s.trace ++ os ∧ Delivered (pre.filterMap SdoInput.given?) i os

/-- If no read is queued with a data pointer and a function to hand it to, every function that is
called in a run gets back the data pointer, the index and the subindex that were given when its
request was queued, and a read function gets the value of the bytes in the response. -/
theorem callbacks_hand_back (cb : Callbacks c σ) (intf : Intf) (env : σ)
    (inputs : List (SdoInput c)) (hkeeps : ∀ i ∈ inputs, i.KeepsData) :
    Delivers cb (mchSdoCreate intf env) inputs := by
  intro pre i hpre s s' hrun hstep
  have hholds : Holds (pre.filterMap SdoInput.given?) s :=
    (holds_mchSdoCreate intf env).run cb pre
      (fun j hj => hkeeps j (hpre.subset (List.mem_append_left _ hj))) hrun
  rcases sdoInputStep_acts cb hstep with ⟨rfl, -⟩ | ⟨op, hop, hstep⟩
  · exact ⟨[], by simp, by simp [Delivered]⟩
  obtain ⟨os, htr, hcalls⟩ := sdoStep_calls cb hstep
  refine ⟨os, htr, fun addr call hmem => ?_⟩
  obtain ⟨⟨r, hr, rfl, hback⟩, hvalue⟩ := hcalls addr call hmem
  obtain ⟨g, hg, hgback⟩ := hholds.2 r hr
  refine ⟨⟨g, hg, hgback call hback⟩, fun value hv => ?_⟩
  obtain ⟨index, subindex, rfl⟩ := hvalue value hv
  cases hop with
  | read hcarries => exact hcarries

/-- A read of four bytes: the response. -/
def positionRead : CanMessage := ⟨0x581, 0, 8, #v[0x43, 0xBE, 0x35, 1, 0xE8, 0x03, 0, 0]⟩

/-- A read without a data pointer, and a write with one. -/
theorem callbacks_hand_back_read : Delivers (.inert ⟨Unit, Unit, Unit, Unit, Unit⟩ Unit)
    (mchSdoCreate intfCreate ())
    [.enable, .queueRead OB_O_P 1 (some ()) (some ()) none, .frame positionRead,
      .queueWrite OB_O_V 1 1000 4 (some ()) (some ()) (some ()), .disable, .enable] :=
  callbacks_hand_back _ _ _ _ (by simp [SdoInput.KeepsData])

/-- A read is queued with a data pointer, and its function is called without one. -/
theorem read_data_lost : ¬ Delivers (.inert ⟨Unit, Unit, Unit, Unit, Unit⟩ Unit)
    (mchSdoCreate intfCreate ())
    [.enable, .queueRead OB_O_P 1 (some ()) none (some ()), .frame positionRead] := by
  intro h
  have hrun : ∃ s s' index subindex value,
      run (sdoInputStep (.inert ⟨Unit, Unit, Unit, Unit, Unit⟩ Unit)) (mchSdoCreate intfCreate ())
        [.enable, .queueRead OB_O_P 1 (some ()) none (some ())] = .ok s ∧
      sdoInputStep (.inert ⟨Unit, Unit, Unit, Unit, Unit⟩ Unit) s (.frame positionRead) = .ok s' ∧
      s.trace.length = 4 ∧
      s'.trace[5]? = some (.called 0 (.read () none index subindex value)) :=
    ⟨_, _, _, _, _, rfl, rfl, rfl, rfl⟩
  obtain ⟨s, s', index, subindex, value, hs, hs', hlen, hcalled⟩ := hrun
  obtain ⟨os, htr, hd⟩ := h _ _ (List.prefix_refl _) s s' hs hs'
  rw [htr, List.getElem?_append_right (by omega)] at hcalled
  obtain ⟨⟨g, hg, -, hdata, -⟩, -⟩ := hd _ _ (List.mem_of_getElem? hcalled)
  cases hg
  cases hdata

end SledServer
