import SledServer.Drive.Tasks
import SledServer.Sled.Codec
import SledServer.Sled.Shape
import SledServer.Sled.Sinusoid

/-!
# Everything the host ever says

The host has a small vocabulary: two commands for the network, one upload, and downloads to a fixed
list of objects, most of them with a fixed list of values.  Of the motion tasks of the drive it
writes none but task 0, where profiles are put together, and its own, 201 to 299.

`written_permitted` says so of the frames that have been handed to the device in the course of a
run, read by the rules of CANopen.  Most of it is housekeeping; what makes the sled move or shine is
said for the calls that ask for it, and for nothing else (`instructions_from_calls`).
-/

namespace SledServer

open SledServer.Core

/-! ## What may be said -/

/-- The downloads to the drive that the host may send. -/
inductive Permitted : Expedited → Prop
  /-- A line of the configuration. -/
  | setup {x : Expedited} {l : Setup} (hl : l ∈ netSetup) (hindex : x.index = l.index)
      (hsubindex : x.subindex = l.subindex) (hsize : x.size = l.size.toNat)
      (hvalue : x.value = l.value.toNat) : Permitted x
  | controlWord {x : Expedited} (hindex : x.index = OB_CONTROL_WORD) (hsubindex : x.subindex = 0)
      (hsize : x.size = 2) (hvalue : x.value ∈ [0x06, 0x07, 0x0F, 0x2F, 0x3F]) : Permitted x
  /-- Homing or positions. -/
  | mode {x : Expedited} (hindex : x.index = 0x6060) (hsubindex : x.subindex = 0)
      (hsize : x.size = 1) (hvalue : x.value ∈ [1, 6]) : Permitted x
  | light {x : Expedited} (hindex : x.index = OB_O_O1) (hsubindex : x.subindex = 1)
      (hsize : x.size = 4) (hvalue : x.value ∈ [0, 1]) : Permitted x
  /-- A motion task is executed. -/
  | task {x : Expedited} (i : Fin MAX_PROFILES) (hindex : x.index = OB_MOTION_TASK)
      (hsubindex : x.subindex = 0) (hsize : x.size = 2) (hvalue : x.value = slot i) : Permitted x
  /-- A motion task is copied to task 0. -/
  | load {x : Expedited} (i : Fin MAX_PROFILES) (hindex : x.index = OB_COPY_MOTION_TASK)
      (hsubindex : x.subindex = 0) (hsize : x.size = 4) (hvalue : x.value = slot i) : Permitted x
  /-- Task 0 is copied to a motion task. -/
  | save {x : Expedited} (i : Fin MAX_PROFILES) (hindex : x.index = OB_COPY_MOTION_TASK)
      (hsubindex : x.subindex = 0) (hsize : x.size = 4) (hvalue : x.value = slot i * 2 ^ 16) :
      Permitted x
  /-- A field of task 0. -/
  | field {x : Expedited} (f : Field) (hindex : x.index = f.index) (hsubindex : x.subindex = 1)
      (hsize : x.size = 4) : Permitted x

/-- The frames that the host may send to node 1. -/
inductive CanMessage.Permitted (msg : CanMessage) : Prop
  | nmt (hid : msg.id = 0) (hlen : msg.len = 2)
      (hdata : msg.data = #v[NMT_ENTERPREOPERATIONAL, 1, 0, 0, 0, 0, 0, 0] ∨
        msg.data = #v[NMT_STARTREMOTENODE, 1, 0, 0, 0, 0, 0, 0])
  | download (hid : msg.id = 0x601) (hlen : msg.len = 8) {x : Expedited}
      (hdata : Expedited.decode? .download msg.data = some x) (hx : SledServer.Permitted x)
  /-- The upload of the fault register. -/
  | upload (hid : msg.id = 0x601) (hlen : msg.len = 8)
      (hdata : msg.data = #v[0x40, 0x18, 0x35, 0x01, 0, 0, 0, 0])

/-- What a download tells the drive to do, if it does. -/
def Expedited.instruction? (x : Expedited) : Option Instruction :=
  if x.index = OB_MOTION_TASK then (profileIndex? (x.value - 201)).map .motion
  else if x.index = OB_O_O1 then some (.light (x.value != 0))
  else none

/-- What a frame tells the drive to do, if it does. -/
def CanMessage.instruction? (msg : CanMessage) : Option Instruction :=
  if msg.id = 0x601 then
    (Expedited.decode? .download msg.data).bind Expedited.instruction?
  else none

/-! ## What is queued -/

/-- The requests that the sled makes. -/
inductive Spoken : Request sledClient → Prop
  | setup {l : Setup} (hl : l ∈ netSetup) : Spoken l.request
  | controlWord {w : UInt16} (hw : w ∈ [0x06, 0x07, 0x0F, 0x2F, 0x3F]) : Spoken (controlWord w)
  | mode {m : UInt32} (hm : m ∈ [1, 6]) : Spoken (plainWrite 0x6060 0x00 m 0x01)
  | light (state : Bool) : Spoken (lightWrite state)
  | task (i : Fin MAX_PROFILES) : Spoken (motionTask (slot i : ℕ))
  | load (i : Fin MAX_PROFILES) : Spoken (copyTask (slot i : ℕ) 0)
  | save (i : Fin MAX_PROFILES) : Spoken (copyTask 0 (slot i : ℕ))
  | field (i : Fin MAX_PROFILES) (f : Field) (v : UInt32) : Spoken (fieldWrite i f v)
  | fault : Spoken (readRequest 0x3518 0x01 none none none)

/-- The frame that a request is sent as. -/
def Request.frame (r : Request sledClient) : CanMessage :=
  if r.isWrite then writeReqFrame r.index r.subindex r.value r.size
  else readReqFrame r.index r.subindex

/-- A write request is a download of the object that it carries. -/
lemma decode_frame {r : Request sledClient} (hr : r.isWrite = true) (x : Expedited)
    (hindex : x.index = r.index) (hsubindex : x.subindex = r.subindex)
    (hsize : UInt8.ofNat x.size = r.size) (hvalue : UInt32.ofNat x.value = r.value) :
    Expedited.decode? .download r.frame.data = some x := by
  rw [Request.frame, if_pos hr, ← hindex, ← hsubindex, ← hsize, ← hvalue, writeReqFrame_data]
  exact Expedited.decode?_encode .download _ x

/-- The request is a download, and a permitted one. -/
def Request.Downloads (r : Request sledClient) : Prop :=
  r.isWrite = true ∧ ∃ x, Expedited.decode? .download r.frame.data = some x ∧
    x.index = r.index ∧ Permitted x

lemma downloads_of {r : Request sledClient} (hr : r.isWrite = true) (x : Expedited)
    (hindex : x.index = r.index) (hsubindex : x.subindex = r.subindex)
    (hsize : UInt8.ofNat x.size = r.size) (hvalue : UInt32.ofNat x.value = r.value)
    (hx : Permitted x) : r.Downloads :=
  ⟨hr, x, decode_frame hr x hindex hsubindex hsize hvalue, hindex, hx⟩

lemma Setup.fits {l : Setup} (hl : l ∈ netSetup) :
    1 ≤ l.size.toNat ∧ l.size.toNat ≤ 4 ∧ l.value.toNat < 256 ^ l.size.toNat := by
  revert l
  decide

lemma slot_lt (i : Fin MAX_PROFILES) : slot i < 2 ^ 16 := by
  have h : (i : ℕ) < 99 := i.isLt
  unfold slot
  omega

lemma ofInt_slot (i : Fin MAX_PROFILES) : UInt32.ofInt (slot i : ℕ) = UInt32.ofNat (slot i) := by
  revert i
  decide +kernel

lemma copyValue_load (i : Fin MAX_PROFILES) : copyValue (slot i : ℕ) 0 = UInt32.ofNat (slot i) := by
  revert i
  decide +kernel

lemma copyValue_save (i : Fin MAX_PROFILES) :
    copyValue 0 (slot i : ℕ) = UInt32.ofNat (slot i * 2 ^ 16) := by
  revert i
  decide +kernel

/-- Everything but the fault register is a download. -/
lemma Spoken.downloads {r : Request sledClient} (h : Spoken r) :
    r.Downloads ∨ r = readRequest 0x3518 0x01 none none none := by
  cases h with
  | @setup l hl =>
    obtain ⟨hpos, hle, hlt⟩ := Setup.fits hl
    exact .inl <| downloads_of rfl
      ⟨l.index, l.subindex, l.size.toNat, l.value.toNat, hpos, hle, hlt⟩ rfl rfl
      UInt8.ofNat_toNat UInt32.ofNat_toNat (.setup hl rfl rfl rfl rfl)
  | @controlWord w hw =>
    simp only [List.mem_cons, List.not_mem_nil, or_false] at hw
    have hlt : w.toNat < 256 ^ 2 := w.toNat_lt
    have hvalue : UInt32.ofNat w.toNat = w.toUInt32 ∧ w.toNat ∈ [0x06, 0x07, 0x0F, 0x2F, 0x3F] := by
      obtain rfl | rfl | rfl | rfl | rfl := hw <;> decide
    exact .inl <| downloads_of rfl ⟨OB_CONTROL_WORD, 0, 2, w.toNat, by decide, by decide, hlt⟩
      rfl rfl rfl hvalue.1 (.controlWord rfl rfl rfl hvalue.2)
  | @mode m hm =>
    simp only [List.mem_cons, List.not_mem_nil, or_false] at hm
    have hvalue : m.toNat < 256 ^ 1 ∧ m.toNat ∈ [1, 6] := by
      obtain rfl | rfl := hm <;> decide
    exact .inl <| downloads_of rfl ⟨0x6060, 0, 1, m.toNat, by decide, by decide, hvalue.1⟩
      rfl rfl rfl UInt32.ofNat_toNat (.mode rfl rfl rfl hvalue.2)
  | light state =>
    cases state with
    | false =>
      exact .inl <| downloads_of rfl ⟨OB_O_O1, 1, 4, 0, by decide, by decide, by decide⟩ rfl rfl rfl
        rfl (.light rfl rfl rfl (by decide))
    | true =>
      exact .inl <| downloads_of rfl ⟨OB_O_O1, 1, 4, 1, by decide, by decide, by decide⟩ rfl rfl rfl
        rfl (.light rfl rfl rfl (by decide))
  | task i =>
    exact .inl <| downloads_of rfl ⟨OB_MOTION_TASK, 0, 2, slot i, by decide, by decide, slot_lt i⟩
      rfl rfl rfl (ofInt_slot i).symm (.task i rfl rfl rfl rfl)
  | load i =>
    have hlt : slot i < 256 ^ 4 := (slot_lt i).trans (by decide)
    exact .inl <| downloads_of rfl ⟨OB_COPY_MOTION_TASK, 0, 4, slot i, by decide, by decide, hlt⟩
      rfl rfl rfl (copyValue_load i).symm (.load i rfl rfl rfl rfl)
  | save i =>
    have hlt : slot i * 2 ^ 16 < 256 ^ 4 := by
      have h := slot_lt i
      omega
    exact .inl <| downloads_of rfl
      ⟨OB_COPY_MOTION_TASK, 0, 4, slot i * 2 ^ 16, by decide, by decide, hlt⟩
      rfl rfl rfl (copyValue_save i).symm (.save i rfl rfl rfl rfl)
  | field i f v =>
    have hlt : v.toNat < 256 ^ 4 := v.toNat_lt
    exact .inl <| downloads_of rfl ⟨f.index, 1, 4, v.toNat, by decide, by decide, hlt⟩
      rfl rfl rfl UInt32.ofNat_toNat (.field f rfl rfl rfl)
  | fault => exact .inr rfl

lemma Spoken.permitted {r : Request sledClient} (h : Spoken r) : r.frame.Permitted := by
  obtain ⟨hr, x, hdata, -, hx⟩ | rfl := h.downloads
  · refine .download ?_ ?_ hdata hx <;> rw [Request.frame, if_pos hr] <;> rfl
  · exact .upload rfl rfl (by decide)

/-! ## Instructions -/

/-- What a call is accepted for. -/
def SledEvent.instruction? (s : Sled) : SledEvent → Option Instruction
  | .call c =>
    match sledCall s c with
    | .ok r => c.accepted? s.env r.1
    | .error _ => none
  | _ => none

lemma frame_id (r : Request sledClient) : r.frame.id = 0x601 := by
  unfold Request.frame
  split <;> rfl

/-- A request that tells the drive to do nothing. -/
structure Request.Routine (r : Request sledClient) : Prop where
  spoken : Spoken r
  index : r.index ≠ OB_MOTION_TASK ∧ r.index ≠ OB_O_O1

lemma Request.Routine.instruction? {r : Request sledClient} (h : r.Routine) :
    r.frame.instruction? = none := by
  rw [CanMessage.instruction?, if_pos (frame_id r)]
  obtain ⟨-, x, hx, hindex, -⟩ | rfl := h.spoken.downloads
  · rw [hx, Option.bind_some, Expedited.instruction?, hindex, if_neg h.index.1, if_neg h.index.2]
  · rfl

lemma routine_copyTask {src dst : ℤ} (h : Spoken (copyTask src dst)) :
    (copyTask src dst).Routine :=
  ⟨h, show OB_COPY_MOTION_TASK ≠ OB_MOTION_TASK ∧ OB_COPY_MOTION_TASK ≠ OB_O_O1 by decide⟩

lemma routine_fieldWrite (i : Fin MAX_PROFILES) (f : Field) (v : UInt32) :
    (fieldWrite i f v).Routine :=
  ⟨.field i f v, show f.index ≠ OB_MOTION_TASK ∧ f.index ≠ OB_O_O1 by cases f <;> decide⟩

lemma instruction?_motionTask (i : Fin MAX_PROFILES) :
    (motionTask (slot i : ℕ)).frame.instruction? = some (.motion i) := by
  revert i
  decide +kernel

lemma instruction?_lightWrite (state : Bool) :
    (lightWrite state).frame.instruction? = some (.light state) := by
  cases state <;> rfl

/-! ## The invariant -/

lemma Intf.shut_written (intf : Intf) : intf.shut.written = intf.written := by
  unfold Intf.shut
  split <;> rfl

lemma Intf.tryClose_written (o : CanOutcome) (intf : Intf) :
    (intf.tryClose o).written = intf.written := by
  unfold Intf.tryClose
  split
  · rfl
  · exact intf.shut_written

lemma Intf.tryOpen_written (o : CanOutcome) (intf : Intf) :
    (intf.tryOpen o).2.written = intf.written := by
  unfold Intf.tryOpen
  split
  · rfl
  · split
    · rfl
    · rfl
    · exact Intf.tryClose_written _ _
    · rfl

/-- Every profile has its own motion task, what has been queued is known, the instructions `cs`
among it, and what has been written, apart from what is said to the network, is what has been sent
of it, in order. -/
structure Speaks (cs : List Instruction) (s : Sled) : Prop where
  numbered : s.env.Numbered
  spoken : ∀ r ∈ s.queuedRequests, Spoken r
  instructions : s.queuedRequests.filterMap (fun r => r.frame.instruction?) = cs
  issued : (s.issued.map Sdo.toRequest).Sublist s.queuedRequests
  written : s.intf.written.filter (fun msg => msg.id != 0) = s.sent.map (·.toRequest.frame)
  nmt : ∀ msg ∈ s.intf.written, msg.id = 0 → msg.Permitted

namespace Speaks

variable {cs : List Instruction} {s t u : Sled}

/-- Nothing is queued or written. -/
lemma quiet (h : Speaks cs s) {os : List (Obs sledClient)} (ht : t.trace = s.trace ++ os)
    (hos : ∀ o ∈ os, o.queued? = none ∧ o.sent? = none)
    (hqueue : t.mchSdo.sdoQueue.Sublist s.mchSdo.sdoQueue)
    (hwritten : t.intf.written = s.intf.written) (henv : t.env.Numbered) : Speaks cs t := by
  have hq : t.queuedRequests = s.queuedRequests := by
    rw [Host.queuedRequests_of_trace ht, List.filterMap_eq_nil_iff.mpr fun o ho => (hos o ho).1,
      List.append_nil]
  have hs : t.sent = s.sent := by
    rw [Host.sent_of_trace ht, List.filterMap_eq_nil_iff.mpr fun o ho => (hos o ho).2,
      List.append_nil]
  refine ⟨henv, hq ▸ h.spoken, hq ▸ h.instructions, ?_, ?_, hwritten ▸ h.nmt⟩
  · rw [hq, Host.issued, hs]
    exact (((List.Sublist.refl s.sent).append hqueue).map _).trans h.issued
  · rw [hwritten, hs]
    exact h.written

/-- Only the environment or the interface is stored. -/
lemma same (h : Speaks cs s) (ht : t.trace = s.trace) (hsdo : t.mchSdo.sdoQueue = s.mchSdo.sdoQueue)
    (hwritten : t.intf.written = s.intf.written) (henv : t.env.Numbered) : Speaks cs t :=
  h.quiet (ht.trans (List.append_nil _).symm) (by simp) (hsdo ▸ .refl _) hwritten henv

/-- Only a line of the log is written. -/
lemma noted (h : Speaks cs s) {n : SledNote} (ht : t.trace = s.trace ++ [.note n])
    (hsdo : t.mchSdo = s.mchSdo) (hintf : t.intf = s.intf) (henv : t.env.Numbered) : Speaks cs t :=
  h.quiet ht (by simp [Obs.queued?, Obs.sent?]) (hsdo ▸ .refl _) (hintf ▸ rfl) henv

lemma setSdoState (h : Speaks cs s) (st : MchSdoState) : Speaks cs (s.setSdoState st) :=
  h.quiet (Host.setSdoState_trace st s) (by simp [Obs.queued?, Obs.sent?]) (.refl _) rfl h.numbered

lemma sendNmt (h : Speaks cs s) {command : UInt8}
    (hc : command = NMT_ENTERPREOPERATIONAL ∨ command = NMT_STARTREMOTENODE) :
    Speaks cs (s.sendNmt command) := by
  refine ⟨h.numbered, h.spoken, h.instructions, h.issued, ?_, fun msg hmsg hid => ?_⟩
  · change (s.intf.written ++ [nmtFrame command]).filter _ = _
    rw [List.filter_append, h.written]
    exact List.append_nil _
  · obtain hmsg | hmsg := List.mem_append.mp hmsg
    · exact h.nmt msg hmsg hid
    · rw [List.mem_singleton.mp hmsg]
      obtain rfl | rfl := hc
      · exact .nmt rfl rfl (.inl rfl)
      · exact .nmt rfl rfl (.inr rfl)

/-- The head of the queue is sent. -/
lemma resume (h : Speaks cs s) : Speaks cs s.resume := by
  cases hq : s.mchSdo.sdoQueue with
  | nil => rwa [Host.resume_nil hq]
  | cons r rs =>
    have hw : s.resume.intf.written = s.intf.written ++ [r.toRequest.frame] := by
      rw [Host.resume_cons_intf hq, Request.frame]
      split <;> rfl
    refine ⟨by rw [Host.resume_env]; exact h.numbered, by simpa using h.spoken,
      by simpa using h.instructions, by simpa using h.issued, ?_, fun msg hmsg hid => ?_⟩
    · rw [hw, List.filter_append, h.written, Host.sent_resume_cons hq, List.map_append]
      simp [frame_id]
    · rw [hw] at hmsg
      obtain hmsg | hmsg := List.mem_append.mp hmsg
      · exact h.nmt msg hmsg hid
      · rw [List.mem_singleton.mp hmsg, frame_id] at hid
        cases hid

lemma push (h : Speaks cs s) {r : Request sledClient} (hr : Spoken r) :
    Speaks (cs ++ r.frame.instruction?.toList) (s.push r) := by
  have htrace : (s.enqueue r).trace = s.trace ++ [.queued (r.new s)] := rfl
  have hq : (s.enqueue r).queuedRequests = s.queuedRequests ++ [r] :=
    Host.queuedRequests_of_trace htrace
  have hs : (s.enqueue r).sent = s.sent := by simp
  have henqueue : Speaks (cs ++ r.frame.instruction?.toList) (s.enqueue r) := by
    refine ⟨h.numbered, fun q hmem => ?_, ?_, ?_, hs ▸ h.written, h.nmt⟩
    · rw [hq] at hmem
      obtain hmem | hmem := List.mem_append.mp hmem
      · exact h.spoken q hmem
      · rw [List.mem_singleton.mp hmem]
        exact hr
    · rw [hq, List.filterMap_append, h.instructions]
      cases horder : r.frame.instruction? <;> simp [horder]
    · have hi : (s.enqueue r).issued = s.issued ++ [r.new s] := by
        rw [Host.issued, hs, Host.issued, List.append_assoc]
        rfl
      rw [hq, hi, List.map_append]
      exact h.issued.append (.refl _)
  unfold Host.push
  split
  · exact henqueue.resume
  · exact henqueue

lemma routine (h : Speaks cs s) {r : Request sledClient} (hr : r.Routine) :
    Speaks cs (s.push r) := by
  have hpush := h.push hr.spoken
  rwa [hr.instruction?, Option.toList_none, List.append_nil] at hpush

lemma pushAll {rs : List (Request sledClient)} (h : Speaks cs s) (hrs : ∀ r ∈ rs, r.Routine) :
    Speaks cs (s.pushAll rs) := by
  induction rs generalizing s with
  | nil => exact h
  | cons r rs ih =>
    exact ih (h.routine (hrs r List.mem_cons_self)) fun q hq => hrs q (List.mem_cons_of_mem _ hq)

/-! ## Reports of the drive -/

lemma mpMove (h : Speaks cs s) (event : MchMpEvent) : Speaks cs (s.mpMove event) := by
  have hentry : ∀ st : MchMpState, ∀ r ∈ st.entry, r.Routine := by
    intro st r hr
    cases st <;> simp only [MchMpState.entry, List.mem_singleton, List.not_mem_nil] at hr
    all_goals subst hr
    · exact ⟨.mode (by decide), by decide⟩
    · exact ⟨.controlWord (by decide), by decide⟩
    · exact ⟨.mode (by decide), by decide⟩
    · exact ⟨.controlWord (by decide), by decide⟩
  have hexit : ∀ st : MchMpState, ∀ r ∈ st.exit, r.Routine := by
    intro st r hr
    cases st <;> simp only [MchMpState.exit, List.mem_singleton, List.not_mem_nil] at hr
    subst hr
    exact ⟨.controlWord (by decide), by decide⟩
  unfold Host.mpMove
  dsimp only
  split
  · exact h
  · have hleft : Speaks cs (s.pushAll s.env.mchMp.exit) := h.pushAll (hexit _)
    have hset : Speaks cs ((s.pushAll s.env.mchMp.exit).setMpState
        (mchMpNextStateGivenEvent s.env.mchMp event)) := hleft.noted rfl rfl rfl hleft.numbered
    exact hset.pushAll (hentry _)

lemma dsMove (h : Speaks cs s) (event : MchDsEvent) : Speaks cs (s.dsMove event) := by
  have hentry : ∀ st : MchDsState, ∀ r ∈ st.entry, r.Routine := by
    intro st r hr
    cases st <;> simp only [MchDsState.entry, List.mem_singleton, List.not_mem_nil] at hr
    all_goals subst hr
    all_goals refine ⟨?_, by decide⟩
    all_goals first | exact .fault | exact .controlWord (by decide)
  have hleave : Speaks cs s.dsLeave := by
    unfold Host.dsLeave
    split
    · exact h.mpMove _
    · exact h
  unfold Host.dsMove
  dsimp only
  split
  · exact h
  · have hset : Speaks cs (s.dsLeave.setDsState (mchDsNextStateGivenEvent s.env.mchDs event)) :=
      hleave.noted rfl rfl rfl hleave.numbered
    have hmoved := hset.pushAll (hentry (mchDsNextStateGivenEvent s.env.mchDs event))
    unfold Host.dsArrive
    split
    · exact hmoved.mpMove _
    · exact hmoved

lemma tpdo (h : Speaks cs s) {now : ℚ} {pdo : ℕ} {data : Vector UInt8 8}
    (ht : intfOnTpdo now pdo data s = .ok t) : Speaks cs t := by
  by_cases hpdo : pdo = 1
  · subst hpdo
    rw [intfOnTpdo_one] at ht
    cases ht
    exact foldl_keeps (foldl_keeps h fun t event _ ht => ht.dsMove event)
      fun t event _ ht => ht.mpMove event
  · unfold intfOnTpdo at ht
    rw [if_neg hpdo] at ht
    split at ht <;> cases ht <;> exact h.same rfl rfl rfl h.numbered

/-! ## The network machine -/

lemma disable (h : Speaks cs s) : Speaks cs s.disable := by
  unfold Host.disable
  split
  · exact h.setSdoState _
  · exact h

lemma sdoOn (h : Speaks cs s) (ht : SdoOn s t) : Speaks cs t := by
  cases ht with
  | already => exact h
  | opened =>
    have hcleared : Speaks cs { s with mchSdo := { s.mchSdo with sdoQueue := [] } } :=
      h.quiet (List.append_nil _).symm (by simp) (List.nil_sublist _) rfl h.numbered
    exact hcleared.setSdoState .waiting

lemma setup (h : Speaks cs s) : Speaks cs (s.pushAll netRequests) := by
  refine h.pushAll fun r hr => ?_
  have hindex : ∀ l ∈ netSetup, l.index ≠ OB_MOTION_TASK ∧ l.index ≠ OB_O_O1 := by decide
  obtain ⟨l, hl, rfl⟩ := List.mem_map.mp hr
  exact ⟨.setup hl, hindex l hl⟩

lemma netEvent (h : Speaks cs s) {event : MchNetEvent} (ht : mchNetHandleEvent event s = .ok t) :
    Speaks cs t := by
  obtain ⟨-, rfl⟩ | ⟨-, henter⟩ := mchNetHandleEvent_ok ht
  · exact h
  · have hleave : Speaks cs s.netLeave := by
      unfold Host.netLeave
      split
      · exact h.dsMove _
      · exact h
    have hset : Speaks cs (s.netLeave.setNetState (mchNetNextStateGivenEvent s.env.mchNet event)) :=
      hleave.noted rfl rfl rfl hleave.numbered
    cases henter with
    | disabled => exact hset.disable
    | unknown => exact hset.disable.sendNmt (.inl rfl)
    | stopped => exact hset.disable.sendNmt (.inr rfl)
    | startremotenode => exact hset.sendNmt (.inr rfl)
    | enterpreoperational => exact hset.sendNmt (.inl rfl)
    | uploadconfig => exact hset.setup
    | @operational v _ hon =>
      have hv := hset.sdoOn hon
      have hreset : Speaks cs v.resetProfiles := by
        refine hv.same rfl rfl rfl fun i => ?_
        change (if (v.env.profiles i).inUse then _ else _ : SledProfile).profile = _
        split
        · exact hv.numbered i
        · exact hv.numbered i
      exact hreset.dsMove _
    | preoperational _ hon => exact (hset.sdoOn hon).setup

/-! ## Responses -/

lemma log (h : Speaks cs s) {o : Obs sledClient} (ho : o.queued? = none ∧ o.sent? = none) :
    Speaks cs (s.log o) :=
  h.quiet (Host.log_trace o s) (by simpa using ho) (.refl _) rfl h.numbered

lemma proceed (h : Speaks cs s) : Speaks cs s.clearActive.proceed := by
  have hclear : Speaks cs s.clearActive := h.same rfl rfl rfl h.numbered
  unfold Host.proceed
  split
  · exact (hclear.setSdoState .waiting).resume
  · exact hclear

lemma fail (h : Speaks cs s) : Speaks cs s.clearActive.fail := by
  have hclear : Speaks cs s.clearActive := h.same rfl rfl rfl h.numbered
  unfold Host.fail
  split
  · exact hclear.setSdoState _
  · exact hclear

lemma write (h : Speaks cs s) {index : UInt16} {subindex : UInt8}
    (hw : mchSdoWriteCallback sledCallbacks index subindex s = .ok t) : Speaks cs t := by
  obtain ⟨sdo, v, u, -, -, -, -, hv, hu, rfl⟩ := mchSdoWriteCallback_sled hw
  have hlog : Speaks cs v := by
    obtain rfl | ⟨call, rfl⟩ := hv
    · exact h.log ⟨rfl, rfl⟩
    · exact (h.log ⟨rfl, rfl⟩).log ⟨rfl, rfl⟩
  refine Speaks.proceed ?_
  cases hu with
  | silent | lateUpload => exact hlog
  | upload =>
    have hset : Speaks cs (v.setNetState .startremotenode) := hlog.noted rfl rfl rfl hlog.numbered
    exact hset.sendNmt (.inr rfl)
  | @field i _ hd =>
    refine hlog.same rfl rfl rfl fun j => ?_
    by_cases hj : j = i
    · subst hj
      simp only [Host.modifyProfile, Host.setProfiles, Function.update_self]
      rw [(setFieldState_contents _ _ _).1]
      exact hlog.numbered j
    · simp only [Host.modifyProfile, Host.setProfiles, Function.update_of_ne hj]
      exact hlog.numbered j

/-! ## Calls -/

lemma edits (h : Speaks cs s) (ht : Edits s t) : Speaks cs t := by
  obtain ⟨f, hf, rfl⟩ := ht
  refine h.same rfl rfl rfl fun i => ?_
  obtain hp | hp := (hf i).profile
  · exact hp.trans (h.numbered i)
  · exact hp.trans (by simp [slot])

lemma visit (h : Speaks cs s) (i : Fin MAX_PROFILES) : Speaks cs (s.visit i) := by
  have hrequests : ∀ r ∈ s.env.visitRequests i, r.Routine := by
    intro r hr
    simp only [SledEnv.visitRequests, List.mem_append, List.mem_map, List.mem_singleton] at hr
    obtain (hr | ⟨f, -, rfl⟩) | rfl := hr
    · split at hr
      · rw [List.mem_singleton.mp hr, h.numbered i]
        exact routine_copyTask (.load i)
      · cases hr
    · exact routine_fieldWrite i f _
    · rw [h.numbered i]
      exact routine_copyTask (.save i)
  have hpush := h.pushAll hrequests
  refine hpush.same rfl rfl rfl fun j => ?_
  exact (visit_profile_contents s.env i j).1.trans (h.numbered j)

lemma shape (h : Speaks cs s) {is : List (Fin MAX_PROFILES)} {order : Option Instruction}
    (hs : Shape s t is order u) : Speaks (cs ++ order.toList) u := by
  have hvisits : Speaks cs (is.foldl Host.visit t) :=
    foldl_keeps (h.edits hs.edits) fun t i _ ht => ht.visit i
  have hfinish := hs.finish
  generalize is.foldl Host.visit t = v at hvisits hfinish
  cases hfinish with
  | quiet => simpa using hvisits
  | light state =>
    have hlight := hvisits.push (.light state)
    rwa [instruction?_lightWrite] at hlight
  | launched i =>
    have htask := hvisits.push (.task i)
    rw [instruction?_motionTask, ← hvisits.numbered i] at htask
    have hword := htask.routine ⟨.controlWord (w := 0x3F) (by decide), by decide⟩
    exact hword.noted rfl rfl rfl hword.numbered

/-! ## The interface -/

lemma withIntf (h : Speaks cs s) {intf : Intf} (hw : intf.written = s.intf.written) :
    Speaks cs (s.withIntf intf) :=
  h.same rfl rfl hw h.numbered

lemma setIntfState (h : Speaks cs s) (st : MchIntfState) : Speaks cs (s.setIntfState st) :=
  h.noted rfl rfl rfl h.numbered

lemma close (h : Speaks cs s) {o : CanOutcome} (ht : intfCloseSled o s = .ok t) : Speaks cs t := by
  unfold intfCloseSled at ht
  rw [intfClose_eq] at ht
  split at ht
  · cases ht
    exact h.withIntf rfl
  · obtain ⟨r, hr, ht⟩ := bind_eq_ok.mp ht
    obtain ⟨u, hu, hr⟩ := bind_eq_ok.mp hr
    cases hr
    cases ht
    have hshut : Speaks cs (s.withIntf s.intf.shut) := h.withIntf s.intf.shut_written
    have henv : (s.withIntf s.intf.shut).env = s.env := rfl
    by_cases hopen : s.env.mchIntf = .opened
    · rw [mchIntfHandleEvent_close (henv ▸ hopen)] at hu
      have hclosed := ((hshut.setIntfState .closing).withIntf
        (s.intf.shut.tryClose_written o)).setIntfState .closed
      exact hclosed.netEvent hu
    · have hstay : mchIntfNextStateGivenEvent s.env.mchIntf .close = s.env.mchIntf := by
        cases hst : s.env.mchIntf with
        | opened => exact absurd hst hopen
        | closed | opening | closing => rfl
      rw [mchIntfHandleEvent_stay (henv ▸ hstay)] at hu
      cases hu
      exact hshut

/-! ## Runs -/

/-- Whatever is not a call instructs the drive to nothing. -/
lemma uncalled (h : Speaks cs s) {e : SledEvent} (he : ∀ c, e ≠ .call c)
    (ht : sledStep s e = .ok t) : Speaks cs t := by
  cases sledStep_effect ht with
  | skip => exact h
  | report _ hr => exact h.tpdo hr
  | watchdog hr => exact h.netEvent hr
  | nmt now _ hr =>
    obtain rfl | ⟨event, -, -, hevent⟩ := raiseNmt_ok hr
    · exact h.same rfl rfl rfl h.numbered
    · have hnet := h.netEvent hevent
      exact hnet.same rfl rfl rfl hnet.numbered
  | close hr => exact h.close hr
  | write _ hr => exact h.write hr
  | read _ hr =>
    obtain ⟨sdo, -, -, -, -, rfl⟩ := mchSdoReadCallback_sled hr
    exact (h.log ⟨rfl, rfl⟩).proceed
  | abort _ hr =>
    obtain ⟨sdo, -, -, -, -, rfl⟩ := mchSdoAbortCallback_sled hr
    exact (h.log ⟨rfl, rfl⟩).fail
  | call hc => exact absurd hc (he _)

lemma step (h : Speaks cs s) {e : SledEvent} (ht : sledStep s e = .ok t) :
    Speaks (cs ++ (e.instruction? s).toList) t := by
  cases e with
  | read o now r =>
    simp only [SledEvent.instruction?, Option.toList_none, List.append_nil]
    exact h.uncalled (by simp) ht
  | watchdog now =>
    simp only [SledEvent.instruction?, Option.toList_none, List.append_nil]
    exact h.uncalled (by simp) ht
  | call c =>
    obtain ⟨r, hr, hend⟩ := bind_eq_ok.mp ht
    cases hend
    obtain ⟨u, is, hshape⟩ := sledCall_shape hr
    simp only [SledEvent.instruction?, hr]
    exact h.shape hshape

end Speaks

lemma speaks_sledCreate {mem : SledEnv} {now : ℚ} {o : CanOutcome} {s : Sled}
    (h : sledCreate mem now o = .ok s) : Speaks [] s := by
  have hstores : Stores (fun _ => False) (sledAlloc mem now)
      (sledCreateProfiles (sledAlloc mem now)) := Stores.createProfiles (.refl _)
  have henv := hstores.env_rel SledEnv.SameModes.refl fun _ _ _ => .trans
  obtain ⟨hsdo, hintf⟩ := hstores.silent
  have hsent := hstores.silent_sent
  have hqueued : (sledCreateProfiles (sledAlloc mem now)).queuedRequests = [] :=
    hstores.invariant (I := fun t => t.queuedRequests = []) rfl (fun _ _ hr => hr.elim)
      (fun _ _ _ ht => ht) fun t n _ ht => (Host.queuedRequests_log rfl).trans ht
  have hcreated := created_sledCreateProfiles (sledAlloc mem now)
  rw [sledCreate] at h
  generalize sledCreateProfiles (sledAlloc mem now) = t at henv hsdo hintf hsent hqueued hcreated h
  have hnil : t.sent = [] := hsent
  have ht : Speaks [] t := by
    refine ⟨fun i => ?_, by simp [hqueued], by simp [hqueued], ?_, by rw [hintf, hnil]; rfl, ?_⟩
    · rw [hcreated.profile i]
      simp [slot]
    · rw [Host.issued, hnil, hsdo]
      exact List.nil_sublist _
    · rw [hintf]
      exact List.forall_mem_nil _
  have hopening := (ht.setIntfState .opening).withIntf (t.intf.tryOpen_written o)
  rw [mchIntfHandleEvent_open henv.intf] at h
  split at h
  · cases h
    exact hopening
  · exact (hopening.setIntfState .opened).netEvent h

/-- The instructions of a run: what its calls have been accepted for, in order. -/
def instructed (s : Sled) (es : List SledEvent) : List Instruction :=
  observed sledStep (fun s e => e.instruction? s) s es

lemma speaks_run {mem : SledEnv} {now : ℚ} {o : CanOutcome} {es : List SledEvent} {s₀ s : Sled}
    (hstart : sledCreate mem now o = .ok s₀) (hrun : run sledStep s₀ es = .ok s) :
    Speaks (instructed s₀ es) s := by
  induction es using List.reverseRecOn generalizing s with
  | nil =>
    cases hrun
    exact speaks_sledCreate hstart
  | append_singleton es e ih =>
    obtain ⟨t, ht, hlast⟩ := run_append_ok.mp hrun
    obtain ⟨u, hu, hs⟩ := run_cons_ok.mp hlast
    cases hs
    rw [instructed, observed_concat ht]
    exact (ih ht).step hu

/-- The instructions among the frames are those among the requests that have been sent. -/
lemma Speaks.written_instructions {cs : List Instruction} {s : Sled} (h : Speaks cs s) :
    s.intf.written.filterMap CanMessage.instruction? =
      (s.sent.map Sdo.toRequest).filterMap fun r => r.frame.instruction? := by
  have hfilter : s.intf.written.filterMap CanMessage.instruction? =
      (s.intf.written.filter fun msg => msg.id != 0).filterMap CanMessage.instruction? := by
    rw [List.filterMap_filter]
    refine List.filterMap_congr fun msg _ => ?_
    by_cases hid : msg.id = 0
    · simp [CanMessage.instruction?, hid]
    · simp [hid]
  rw [hfilter, h.written, List.filterMap_map, List.filterMap_map]
  rfl

/-- The drive is told nothing else, and everything in order. -/
lemma Speaks.told {cs : List Instruction} {s : Sled} (h : Speaks cs s) :
    (s.intf.written.filterMap CanMessage.instruction?).Sublist cs := by
  rw [h.written_instructions, ← h.instructions]
  refine List.Sublist.filterMap _ (List.Sublist.trans ?_ h.issued)
  exact (List.sublist_append_left _ _).map _

/-- **The host sends nothing else.**  Whatever happens, every frame that has been handed to the
device is one of the permitted ones. -/
theorem written_permitted {mem : SledEnv} {now : ℚ} {o : CanOutcome} {es : List SledEvent}
    {s : Sled} (h : sledRun mem now o es = .ok s) : ∀ msg ∈ s.intf.written, msg.Permitted := by
  obtain ⟨s₀, hcreate, hrun⟩ := sledRun_ok.mp h
  have hspeaks := speaks_run hcreate hrun
  intro msg hmsg
  by_cases hid : msg.id = 0
  · exact hspeaks.nmt msg hmsg hid
  · have hsent : msg ∈ s.sent.map (·.toRequest.frame) := by
      rw [← hspeaks.written]
      exact List.mem_filter.mpr ⟨hmsg, by simpa using hid⟩
    obtain ⟨r, hr, rfl⟩ := List.mem_map.mp hsent
    refine (hspeaks.spoken _ (hspeaks.issued.subset ?_)).permitted
    exact List.mem_map_of_mem (List.mem_append_left _ hr)

/-- The network comes up, and the light is switched on once the drive has confirmed the first
control word. -/
def switchedOn : List SledEvent :=
  networkUp ++ [.call (.lightSetState true), controlWordConfirmed]

theorem written_permitted_light :
    ∃ s, sledRun someMemory 0 ⟨.success, true⟩ switchedOn = .ok s ∧
      writeReqFrame OB_O_O1 1 1 4 ∈ s.intf.written ∧ ∀ msg ∈ s.intf.written, msg.Permitted := by
  obtain ⟨s, hs, hlight⟩ := exists_of_okAnd
    (p := fun s : Sled => s.intf.written.contains (writeReqFrame OB_O_O1 1 1 4))
    (x := sledRun someMemory 0 ⟨.success, true⟩ switchedOn)
    (by decide +kernel)
  exact ⟨s, hs, by simpa using hlight, written_permitted hs⟩

/-- **The drive is instructed by calls only.**  Every call that is accepted to start a motion or to
switch the light queues its instruction once, in the order of the calls, and nothing else does.
What the drive is told of it keeps the order, and repeats nothing. -/
theorem instructions_from_calls {mem : SledEnv} {now : ℚ} {o : CanOutcome} {es : List SledEvent}
    {s₀ s : Sled} (hstart : sledCreate mem now o = .ok s₀) (hrun : run sledStep s₀ es = .ok s) :
    s.queuedRequests.filterMap (fun r => r.frame.instruction?) = instructed s₀ es ∧
      (s.intf.written.filterMap CanMessage.instruction?).Sublist (instructed s₀ es) := by
  have hspeaks := speaks_run hstart hrun
  exact ⟨hspeaks.instructions, hspeaks.told⟩

/-- The drive has come up.  A motion is started and the light switched on, and a second motion is
refused while the first is under way. -/
def ridden : List SledEvent :=
  networkUp ++ driveUp ++
    [.call (.profileExecute 0), .call (.lightSetState true), .call (.profileExecute 1)]

theorem instructions_from_calls_ridden :
    ∃ s₀ s, sledCreate someMemory 0 ⟨.success, true⟩ = .ok s₀ ∧ run sledStep s₀ ridden = .ok s ∧
      instructed s₀ ridden = [.motion 0, .light true] ∧
      s.queuedRequests.filterMap (fun r => r.frame.instruction?) = instructed s₀ ridden ∧
      (s.intf.written.filterMap CanMessage.instruction?).Sublist (instructed s₀ ridden) := by
  obtain ⟨s, hs, -⟩ := exists_of_okAnd (p := fun _ : Sled => true)
    (x := sledRun someMemory 0 ⟨.success, true⟩ ridden) (by decide +kernel)
  obtain ⟨s₀, hs₀, hrun⟩ := sledRun_ok.mp hs
  obtain ⟨t, ht, hinstructed⟩ := exists_of_okAnd
    (p := fun s₀ : Sled => instructed s₀ ridden == [.motion 0, .light true])
    (x := sledCreate someMemory 0 ⟨.success, true⟩) (by decide +kernel)
  cases hs₀.symm.trans ht
  exact ⟨s₀, s, hs₀, hrun, by simpa using hinstructed, instructions_from_calls hs₀ hrun⟩

end SledServer
