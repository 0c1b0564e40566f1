import SledServer.Drive.Late
import SledServer.Drive.Plant

/-!
# The plant in lockstep

The requests on their way to the drive are found in the trace of the host.  While at most one
request is outstanding (`BusInv`) it is the active one, and the trace need not be looked at:
`quickPlantStep` does the same as `plantStep`.  A run on given inputs is evaluated with it.
-/

namespace SledServer

open SledServer.Core

variable {δ : Type} {apply : δ → Request sledClient → δ} {s : System} {p p' : Plant δ}
  {e : PlantEvent}

/-- What is on its way to the drive, if that is the active request. -/
def System.next (s : System) : List (Sdo sledClient) :=
  if s.toHost.isEmpty then s.host.mchSdo.sdoActive.toList else []

lemma BusInv.toDrive_eq (h : BusInv s) (hread : s.host.intf.readEvent = true) :
    s.toDrive = s.next := by
  have hout := (h.matched.listening hread).outstanding
  unfold System.toDrive System.next
  generalize s.host.mchSdo.sdoActive = active at hout
  generalize s.host.sent.drop s.received = asked at hout
  generalize s.toHost = answers at hout
  cases hout <;> rfl

/-- `plantStep`, with the next request taken from the SDO machine. -/
def quickPlantStep (apply : δ → Request sledClient → δ) (p : Plant δ) :
    PlantEvent → Except Halt (Plant δ)
  | .receive =>
    match p.sys.next with
    | [] => .ok p
    | r :: _ => .ok (p.received apply r)
  | e => plantStep apply p e

namespace Plant

/-- The step leaves at most one request outstanding, and the host is listening when a request
reaches the drive. -/
def InStep (p : Plant δ) : PlantEvent → Prop
  | .host e => Settled p.sys (.host e)
  | .receive => p.sys.host.intf.readEvent = true
  | .deliver _ => True

instance : ∀ (p : Plant δ) (e : PlantEvent), Decidable (p.InStep e)
  | p, .host e => inferInstanceAs (Decidable (Settled p.sys (.host e)))
  | p, .receive => inferInstanceAs (Decidable (p.sys.host.intf.readEvent = true))
  | _, .deliver _ => isTrue trivial

/-- `drained`, without looking at the trace. -/
def resting (p : Plant δ) : Bool :=
  p.sys.host.mchSdo.sdoQueue.isEmpty && p.sys.host.mchSdo.sdoActive.isNone &&
    p.sys.toHost.isEmpty && p.sys.host.intf.readEvent

end Plant

namespace BusInv

lemma drained (h : BusInv p.sys) (hrest : p.resting = true) : p.drained = true := by
  simp only [Plant.resting, Bool.and_eq_true] at hrest
  obtain ⟨⟨⟨hqueue, hactive⟩, hanswers⟩, hread⟩ := hrest
  have hnext : p.sys.toDrive = [] := by
    rw [h.toDrive_eq hread, System.next, if_pos hanswers, Option.isNone_iff_eq_none.mp hactive]
    rfl
  rw [Plant.drained, hqueue, hactive, hanswers, hnext]
  rfl

lemma quickPlantStep_eq (h : BusInv p.sys) (hok : p.InStep e) :
    quickPlantStep apply p e = plantStep apply p e := by
  cases e with
  | host e => rfl
  | receive =>
    have hnext := h.toDrive_eq hok
    simp only [quickPlantStep, SledServer.plantStep, busStep, ← hnext]
    cases p.sys.toDrive with
    | nil => rfl
    | cons r rest => rfl
  | deliver now => rfl

lemma plantStep (h : BusInv p.sys) (hok : p.InStep e) (hstep : plantStep apply p e = .ok p') :
    BusInv p'.sys := by
  cases e with
  | host e =>
    obtain ⟨sys, hsys, hend⟩ := bind_eq_ok.mp hstep
    cases hend
    exact h.step (e := .host e) hok hsys
  | receive =>
    simp only [SledServer.plantStep] at hstep
    split at hstep
    · cases hstep
      exact h
    · obtain ⟨sys, hsys, hend⟩ := bind_eq_ok.mp hstep
      cases hend
      exact h.step (e := .receive .confirm) trivial hsys
  | deliver now =>
    obtain ⟨sys, hsys, hend⟩ := bind_eq_ok.mp hstep
    cases hend
    exact h.step (e := .deliver now) trivial hsys

/-- A call of the library. -/
lemma call (h : BusInv p.sys) {c : SledCall} {r : ℤ × Sled}
    (hr : sledCall p.sys.host c = .ok r) : BusInv (p.withHost r.2).sys := by
  have hstep : busStep p.sys (.host (.call c)) = .ok { p.sys with host := r.2 } := by
    simp [busStep, SledEvent.isSdo, sledStep, hr]
  exact h.step (by simp [Settled, SledEvent.nmtState?]) hstep

end BusInv

end SledServer
