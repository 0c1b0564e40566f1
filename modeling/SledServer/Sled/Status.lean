import SledServer.Drive.Frames

/-!
# Which frames are data

`LINUX_CAN_Read` returns data frames and status frames, told apart by a bit of their type.
`intfOnReadBy` is `intf_on_read` over the test for a status frame and over what is done with the
frames; the test in the source, `MSGTYPE & MSGTYPE_STATUS == MSGTYPE_STATUS`, is `MSGTYPE & 1` to
the compiler.  `status_frames_iff` says which sequences of frames it gets right.
-/

namespace SledServer

open SledServer.Core

/-- `TPCANMsg`. -/
structure TPCANMsg where
  ID : UInt32
  MSGTYPE : UInt8
  LEN : UInt8
  DATA : Vector UInt8 8
  deriving DecidableEq

/-- The assignments to `msg` in `intf_on_read`. -/
def TPCANMsg.canMessage (m : TPCANMsg) : CanMessage where
  id := m.ID.toUInt16
  type := m.MSGTYPE
  len := m.LEN
  data := m.DATA

/-- What `LINUX_CAN_Read` returns, with what `CAN_Status` would return after a frame. -/
inductive CanRead
  | empty
  | error
  | message (m : TPCANMsg) (status : ℤ)

def CanRead.result : CanRead → ReadResult
  | .empty => .empty
  | .error => .error
  | .message m status => .message m.canMessage status

/-- One call of `intf_on_read`. -/
structure ReadEvent where
  o : CanOutcome
  now : ℚ
  read : CanRead

/-- What `intf_on_read` works with: `intf->fd`, `intf_close` and `intf_dispatch_msg`. -/
structure FrameReader (S : Type) where
  fd : S → Bool
  close : CanOutcome → S → Except Halt S
  dispatch : ℚ → CanMessage → S → Except Halt S

/-- `intf_on_read`, with `isStatus` as its test for a status frame. -/
def intfOnReadBy {S : Type} (isStatus : UInt8 → Bool) (reader : FrameReader S)
    (s : S) (e : ReadEvent) :
    Except Halt S :=
  if !reader.fd s then .ok s
  else
    match e.read with
    | .empty => .ok s
    | .error => reader.close e.o s
    | .message m status =>
      if isStatus m.MSGTYPE then
        if status < 0 then reader.close e.o s else .ok s
      else reader.dispatch e.now m.canMessage s

/-- `MSGTYPE & MSGTYPE_STATUS == MSGTYPE_STATUS`: the comparison binds tighter and gives 1. -/
def testedStatus (type : UInt8) : Bool := type &&& 1 ≠ 0

/-- The status bit, `MSGTYPE_STATUS`. -/
def statusBit (type : UInt8) : Bool := type &&& 0x80 ≠ 0

/-- What has to become of a frame that `step` reads.  A frame with the status bit closes the
interface, if `CAN_Status` is negative, and changes nothing otherwise; any other frame is
dispatched. -/
structure FrameReader.Treats {S : Type} (reader : FrameReader S)
    (step : S → ReadEvent → Except Halt S) (s : S) (e : ReadEvent) : Prop where
  status : ∀ m status, e.read = .message m status → m.MSGTYPE &&& 0x80 ≠ 0 →
    step s e = if reader.fd s = true ∧ status < 0 then reader.close e.o s else .ok s
  data : ∀ m status, e.read = .message m status → m.MSGTYPE &&& 0x80 = 0 →
    step s e = if reader.fd s = true then reader.dispatch e.now m.canMessage s else .ok s

/-- The sled. -/
def sledReader : FrameReader Sled where
  fd s := s.intf.fd
  close := intfCloseSled
  dispatch := intfDispatchMsg

lemma intfOnRead_eq (e : ReadEvent) (s : Sled) :
    intfOnRead e.o e.now e.read.result s = intfOnReadBy testedStatus sledReader s e := by
  obtain ⟨o, now, r⟩ := e
  cases r with
  | empty | error => rfl
  | message m status =>
    simp [intfOnRead, intfOnReadBy, CanRead.result, sledReader, testedStatus, TPCANMsg.canMessage]

/-- The frame, if one is read. -/
def ReadEvent.message? (e : ReadEvent) : Option TPCANMsg :=
  match e.read with
  | .message m _ => some m
  | _ => none

/-- The frames that are read, in order. -/
def framesIn (es : List ReadEvent) : List TPCANMsg := es.filterMap ReadEvent.message?

lemma mem_framesIn {es : List ReadEvent} {e : ReadEvent} (he : e ∈ es) {m : TPCANMsg} {status : ℤ}
    (hm : e.read = .message m status) : m ∈ framesIn es :=
  List.mem_filterMap.mpr ⟨e, he, by rw [ReadEvent.message?, hm]⟩

/-- A frame is treated right if the test for a status frame is right about it. -/
lemma FrameReader.treats {S : Type} (reader : FrameReader S) {isStatus : UInt8 → Bool}
    {e : ReadEvent} (h : ∀ m status, e.read = .message m status →
      (isStatus m.MSGTYPE = true ↔ m.MSGTYPE &&& 0x80 ≠ 0)) (s : S) :
    reader.Treats (intfOnReadBy isStatus reader) s e := by
  obtain ⟨o, now, r⟩ := e
  constructor
  · rintro m status rfl hbit
    have hstatus := (h m status rfl).mpr hbit
    cases hfd : reader.fd s <;> simp [intfOnReadBy, hfd, hstatus]
  · rintro m status rfl hbit
    have hstatus : isStatus m.MSGTYPE = false := by simpa [hbit] using h m status rfl
    cases hfd : reader.fd s <;> simp [intfOnReadBy, hfd, hstatus]

section Recorder

/-- A reader that never closes and notes what is dispatched. -/
def recorder : FrameReader (List CanMessage) where
  fd _ := true
  close _ s := .ok s
  dispatch _ m s := .ok (s ++ [m])

variable {isStatus isStatus' : UInt8 → Bool}

/-- What is dispatched: every frame that is not taken for a status frame, once and in order. -/
lemma run_recorder (es : List ReadEvent) (s : List CanMessage) :
    run (intfOnReadBy isStatus recorder) s es =
      .ok (s ++ ((framesIn es).filter fun m => !isStatus m.MSGTYPE).map TPCANMsg.canMessage) := by
  induction es generalizing s with
  | nil => simp [framesIn]
  | cons e es ih =>
    obtain ⟨o, now, r⟩ := e
    rw [run_cons]
    cases r with
    | empty | error => exact ih s
    | message m status =>
      by_cases hm : isStatus m.MSGTYPE = true
      · have hstep : intfOnReadBy isStatus recorder s ⟨o, now, .message m status⟩ = .ok s := by
          simp [intfOnReadBy, recorder, hm]
        rw [hstep, ok_bind, ih]
        simp [framesIn, ReadEvent.message?, hm]
      · have hstep : intfOnReadBy isStatus recorder s ⟨o, now, .message m status⟩ =
            .ok (s ++ [m.canMessage]) := by
          simp [intfOnReadBy, recorder, hm]
        rw [hstep, ok_bind, ih]
        simp [framesIn, ReadEvent.message?, hm]

/-- Two tests that let the same frames through agree on each of them. -/
lemma agree_of_run_recorder {es : List ReadEvent}
    (h : run (intfOnReadBy isStatus recorder) [] es = run (intfOnReadBy isStatus' recorder) [] es) :
    ∀ m ∈ framesIn es, isStatus m.MSGTYPE = isStatus' m.MSGTYPE := by
  rw [run_recorder, run_recorder, Except.ok.injEq, List.nil_append, List.nil_append] at h
  have hmem : ∀ {p q : UInt8 → Bool},
      ((framesIn es).filter fun m => !p m.MSGTYPE).map TPCANMsg.canMessage =
        ((framesIn es).filter fun m => !q m.MSGTYPE).map TPCANMsg.canMessage →
      ∀ m ∈ framesIn es, p m.MSGTYPE = false → q m.MSGTYPE = false := by
    intro p q heq m hm hp
    have hlet : m.canMessage ∈
        ((framesIn es).filter fun m => !q m.MSGTYPE).map TPCANMsg.canMessage := by
      rw [← heq]
      exact List.mem_map_of_mem (List.mem_filter.mpr ⟨hm, by simp [hp]⟩)
    obtain ⟨m', hm', hsame⟩ := List.mem_map.mp hlet
    have htype : m'.MSGTYPE = m.MSGTYPE := congrArg CanMessage.type hsame
    simpa [htype] using (List.mem_filter.mp hm').2
  intro m hm
  have hto := hmem h m hm
  have hfrom := hmem h.symm m hm
  cases hp : isStatus m.MSGTYPE <;> cases hq : isStatus' m.MSGTYPE <;> simp_all

/-- Tests that agree on the frames make no difference. -/
lemma run_congr_of_agree {S : Type} (reader : FrameReader S) {es : List ReadEvent}
    (h : ∀ m ∈ framesIn es, isStatus m.MSGTYPE = isStatus' m.MSGTYPE) (s : S) :
    run (intfOnReadBy isStatus reader) s es = run (intfOnReadBy isStatus' reader) s es := by
  induction es generalizing s with
  | nil => rfl
  | cons e es ih =>
    have hrest : ∀ m ∈ framesIn es, isStatus m.MSGTYPE = isStatus' m.MSGTYPE := by
      intro m hm
      exact h m (((List.sublist_cons_self e es).filterMap _).subset hm)
    have hstep : intfOnReadBy isStatus reader s e = intfOnReadBy isStatus' reader s e := by
      obtain ⟨o, now, r⟩ := e
      cases r with
      | empty | error => rfl
      | message m status =>
        have hm := h m (mem_framesIn List.mem_cons_self rfl)
        simp only [intfOnReadBy, hm]
    rw [run_cons, run_cons, hstep]
    cases intfOnReadBy isStatus' reader s e with
    | error d => rfl
    | ok t => exact ih hrest t

end Recorder

/-- **Which frames are data.**  `intf_on_read` hands on the id, the length and the data of a frame
as they are.  Over a sequence of reads it does with every frame what its status bit says, whatever
it works with and in whatever state it starts, exactly if each frame has the status bit where it has
the lowest bit of the type: a status frame changes nothing, unless it closes the interface, and the
others are dispatched, each once and in order. -/
theorem status_frames_iff (es : List ReadEvent) (hid : ∀ m ∈ framesIn es, m.ID.toNat < 2 ^ 16) :
    (∀ e s, intfOnRead e.o e.now e.read.result s = intfOnReadBy testedStatus sledReader s e) ∧
    (∀ m ∈ framesIn es, m.canMessage.id.toNat = m.ID.toNat ∧ m.canMessage.len = m.LEN ∧
      m.canMessage.data = m.DATA) ∧
    ((∀ (S : Type) (reader : FrameReader S) (s : S), run (intfOnReadBy testedStatus reader) s es =
        run (intfOnReadBy statusBit reader) s es) ↔
      ∀ m ∈ framesIn es, m.MSGTYPE &&& 0x80 ≠ 0 ↔ m.MSGTYPE &&& 1 ≠ 0) ∧
    ((∀ (S : Type) (reader : FrameReader S) (s : S), ∀ pre e, pre ++ [e] <+: es → ∀ t,
        run (intfOnReadBy testedStatus reader) s pre = .ok t →
          reader.Treats (intfOnReadBy testedStatus reader) t e) ∧
      run (intfOnReadBy testedStatus recorder) [] es =
        .ok (((framesIn es).filter fun m => m.MSGTYPE &&& 0x80 = 0).map TPCANMsg.canMessage) ↔
      ∀ m ∈ framesIn es, m.MSGTYPE &&& 0x80 ≠ 0 ↔ m.MSGTYPE &&& 1 ≠ 0) := by
  have hagree : (∀ m ∈ framesIn es, testedStatus m.MSGTYPE = statusBit m.MSGTYPE) ↔
      ∀ m ∈ framesIn es, m.MSGTYPE &&& 0x80 ≠ 0 ↔ m.MSGTYPE &&& 1 ≠ 0 := by
    refine forall₂_congr fun m _ => ?_
    rw [testedStatus, statusBit, decide_eq_decide]
    exact comm
  have hdata : run (intfOnReadBy statusBit recorder) [] es =
      .ok (((framesIn es).filter fun m => m.MSGTYPE &&& 0x80 = 0).map TPCANMsg.canMessage) := by
    rw [run_recorder]
    simp [statusBit]
  rw [← hagree, ← hdata]
  refine ⟨intfOnRead_eq, fun m hm => ⟨?_, rfl, rfl⟩, ⟨fun hall => ?_, fun h S reader s => ?_⟩,
    ⟨fun hall => ?_, fun h => ⟨fun S reader s pre e hpre t _ => ?_, ?_⟩⟩⟩
  · show m.ID.toUInt16.toNat = m.ID.toNat
    rw [UInt32.toNat_toUInt16, Nat.mod_eq_of_lt (hid m hm)]
  · exact agree_of_run_recorder (hall _ recorder [])
  · exact run_congr_of_agree reader h s
  · exact agree_of_run_recorder hall.2
  · have he : e ∈ es := hpre.subset (List.mem_append_right _ List.mem_cons_self)
    refine reader.treats (fun m status hm => ?_) t
    rw [h m (mem_framesIn he hm), statusBit, decide_eq_true_iff]
  · exact run_congr_of_agree recorder h []

/-- A report of the drive, and a status frame that has the lowest bit of its type set as well. -/
def someReads : List ReadEvent :=
  [⟨⟨.success, true⟩, 0, .message ⟨0x701, 0, 1, #v[5, 0, 0, 0, 0, 0, 0, 0]⟩ 0⟩,
    ⟨⟨.success, true⟩, 0, .message ⟨0x001, 0x81, 4, #v[0, 0, 0, 8, 0, 0, 0, 0]⟩ 0x20⟩]

/-- The first of them is dispatched, and the second one is not. -/
theorem status_frames_some :
    run (intfOnReadBy testedStatus recorder) [] someReads =
      .ok [⟨0x701, 0, 1, #v[5, 0, 0, 0, 0, 0, 0, 0]⟩] ∧
    ∀ (S : Type) (reader : FrameReader S) (s : S),
      run (intfOnReadBy testedStatus reader) s someReads =
        run (intfOnReadBy statusBit reader) s someReads ∧
      ∀ pre e, pre ++ [e] <+: someReads → ∀ t,
        run (intfOnReadBy testedStatus reader) s pre = .ok t →
          reader.Treats (intfOnReadBy testedStatus reader) t e := by
  obtain ⟨-, -, hsame, htreats⟩ := status_frames_iff someReads (by decide)
  obtain ⟨hall, hdispatched⟩ := htreats.mpr (by decide)
  exact ⟨hdispatched, fun S reader s => ⟨hsame.mpr (by decide) S reader s, hall S reader s⟩⟩

/-- A status frame, with the id of a report of the drive and without the lowest bit of the type. -/
def statusFrame : ReadEvent :=
  ⟨⟨.success, true⟩, 0, .message ⟨0x701, 0x80, 4, #v[4, 0, 0, 0, 0, 0, 0, 0]⟩ 0x20⟩

/-- A status frame is dispatched, and taken for a report that the drive has stopped, which ends the
network.  A data frame whose type has the lowest bit set is dropped. -/
theorem status_frame_dispatched :
    run (intfOnReadBy testedStatus recorder) [] [statusFrame] ≠
      run (intfOnReadBy statusBit recorder) [] [statusFrame] ∧
    (∃ s t, sledRun someMemory 0 ⟨.success, true⟩ networkUp = .ok s ∧
      s.env.mchNet = .operational ∧
      intfOnRead statusFrame.o statusFrame.now statusFrame.read.result s = .ok t ∧
      t.env.mchNet = .unknown) ∧
    run (intfOnReadBy testedStatus recorder) []
      [⟨⟨.success, true⟩, 0, .message ⟨0x701, 1, 1, #v[5, 0, 0, 0, 0, 0, 0, 0]⟩ 0⟩] = .ok [] := by
  refine ⟨?_, ?_, ?_⟩
  · rw [run_recorder, run_recorder, Ne, Except.ok.injEq]
    decide
  · obtain ⟨s, hs, h⟩ := exists_of_okAnd
      (p := fun s : Sled => s.env.mchNet == .operational &&
        okAnd (fun t => t.env.mchNet == .unknown)
          (intfOnRead statusFrame.o statusFrame.now statusFrame.read.result s))
      (x := sledRun someMemory 0 ⟨.success, true⟩ networkUp) (by decide +kernel)
    obtain ⟨hup, hread⟩ := Bool.and_eq_true_iff.mp h
    obtain ⟨t, ht, hdown⟩ := exists_of_okAnd hread
    exact ⟨s, t, hs, by simpa using hup, ht, by simpa using hdown⟩
  · rw [run_recorder]
    rfl

end SledServer
