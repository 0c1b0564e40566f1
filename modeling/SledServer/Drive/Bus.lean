import SledServer.Drive.Frames
import SledServer.Sdo.Queue
import SledServer.Sled.Steps

/-!
# Host and drive on the bus

The drive takes the requests that the host hands to `intf_send_write_req` and
`intf_send_read_req`, in the order in which they were sent, and answers each of them once.  Requests
and responses may stay on the bus for any time.  `System` is the host together with the bus:
how many of its requests have reached the drive, and the responses on their way back.
-/

namespace SledServer

open SledServer.Core

variable {c : Client} {σ : Type}

/-- The request that an entry of the trace hands to the interface. -/
def Obs.sent? : Obs c → Option (Sdo c)
  | .sent r => some r
  | _ => none

namespace Host

/-- The requests that have been handed to the interface, oldest first. -/
def sent (s : Host c σ) : List (Sdo c) := s.trace.filterMap Obs.sent?

/-- The requests that have been sent or wait in the queue. -/
def issued (s : Host c σ) : List (Sdo c) := s.sent ++ s.mchSdo.sdoQueue

variable {s t : Host c σ}

lemma sent_of_trace {os : List (Obs c)} (h : t.trace = s.trace ++ os) :
    t.sent = s.sent ++ os.filterMap Obs.sent? := by simp [sent, h]

@[simp] lemma sent_setSdoState (st : MchSdoState) : (s.setSdoState st).sent = s.sent := by
  simp [sent_of_trace (setSdoState_trace st s), Obs.sent?]

@[simp] lemma sent_withEnv (e : σ) : (s.withEnv e).sent = s.sent := rfl

@[simp] lemma sent_clearActive : s.clearActive.sent = s.sent := rfl

@[simp] lemma sent_enqueue (r : Request c) : (s.enqueue r).sent = s.sent := by
  have ht : (s.enqueue r).trace = s.trace ++ [.queued (r.new s)] := rfl
  simp [sent_of_trace ht, Obs.sent?]

@[simp] lemma sent_disable : s.disable.sent = s.sent := by
  unfold disable
  split <;> simp

@[simp] lemma sent_fail : s.fail.sent = s.sent := by
  unfold fail
  split <;> simp

lemma sent_log {o : Obs c} (h : o.sent? = none) : (s.log o).sent = s.sent := by
  simp [sent_of_trace (log_trace o s), h]

lemma sent_resume_cons {r : Sdo c} {rs : List (Sdo c)} (h : s.mchSdo.sdoQueue = r :: rs) :
    s.resume.sent = s.sent ++ [r] := by
  rw [sent_of_trace (resume_cons_trace h)]
  rfl

/-- Taking the next request from the queue changes nothing about what has been issued. -/
@[simp] lemma issued_resume : s.resume.issued = s.issued := by
  cases hq : s.mchSdo.sdoQueue with
  | nil => rw [resume_nil hq]
  | cons r rs => simp [issued, sent_resume_cons hq, resume_cons_mchSdo hq, hq]

@[simp] lemma issued_push (r : Request c) : (s.push r).issued = s.issued ++ [r.new s] := by
  have henq : (s.enqueue r).issued = s.issued ++ [r.new s] := by
    rw [issued, sent_enqueue, issued, List.append_assoc]
    rfl
  unfold push
  split
  · rw [issued_resume, henq]
  · exact henq

@[simp] lemma issued_proceed : s.proceed.issued = s.issued := by
  unfold proceed
  split
  · rw [issued_resume, issued, sent_setSdoState]
    rfl
  · rfl

@[simp] lemma issued_withEnv (e : σ) : (s.withEnv e).issued = s.issued := rfl

lemma issued_log {o : Obs c} (h : o.sent? = none) : (s.log o).issued = s.issued := by
  rw [issued, sent_log h]
  rfl

end Host

lemma Moves.silent_sent {R : SledEnv → SledEnv → Prop} {s t : Sled}
    (h : Moves (fun _ => False) R s t) : t.sent = s.sent :=
  h.invariant (I := fun t => t.sent = s.sent) rfl (fun _ _ hr _ => hr.elim) (fun _ _ _ ht => ht)
    fun _ _ _ ht => (Host.sent_log rfl).trans ht

/-! ## The drive -/

/-- How the drive answers a request. -/
inductive Answer
  /-- The request is carried out.  The response to a read carries `value`, in all but `unused` of
  its four data bytes. -/
  | accept (unused : Fin 4) (value : UInt32)
  | refuse (code : UInt32)

/-- The request is carried out, and no value is asked for. -/
abbrev Answer.confirm : Answer := .accept 0 0

/-- The response to a request: of the request's own kind, with its index and subindex. -/
def Sdo.response (r : Sdo c) : Answer → CanMessage
  | .accept unused value =>
    if r.isWrite then writeResponse r.index r.subindex
    else readResponse unused r.index r.subindex value
  | .refuse code => abortResponse r.index r.subindex code

/-! ## The system -/

/-- The host and the bus. -/
structure System where
  host : Sled
  /-- The number of requests of the host that have reached the drive. -/
  received : ℕ
  /-- The responses on their way to the host, oldest first. -/
  toHost : List CanMessage

/-- Host and bus after `sled_create`. -/
def System.init (s : Sled) : System := ⟨s, 0, []⟩

/-- The requests on their way to the drive, oldest first. -/
def System.toDrive (s : System) : List (Sdo sledClient) := s.host.sent.drop s.received

/-- What can happen to host and drive. -/
inductive BusEvent
  /-- Anything but the arrival of an SDO response. -/
  | host (e : SledEvent)
  /-- The next request reaches the drive, which answers it. -/
  | receive (a : Answer)
  /-- The next response reaches the host. -/
  | deliver (now : ℚ)

/-- One step of host and drive.  SDO responses come from the drive only. -/
def busStep (s : System) : BusEvent → Except Halt System
  | .host e =>
    if e.isSdo then .ok s
    else do
      let host ← sledStep s.host e
      .ok { s with host := host }
  | .receive a =>
    match s.toDrive with
    | [] => .ok s
    | r :: _ => .ok { s with received := s.received + 1, toHost := s.toHost ++ [r.response a] }
  | .deliver now =>
    match s.toHost with
    | [] => .ok s
    | msg :: rest => do
      let host ← sledStep s.host (.read ⟨.success, true⟩ now (.message msg 0))
      .ok { s with host := host, toHost := rest }

lemma toDrive_cons {s : System} {r : Sdo sledClient} {rs : List (Sdo sledClient)}
    (h : s.toDrive = r :: rs) : s.host.sent.drop (s.received + 1) = rs := by
  rw [← List.tail_drop, show s.host.sent.drop s.received = r :: rs from h, List.tail_cons]

end SledServer
