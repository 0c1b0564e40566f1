import Mathlib.Data.List.Forall2
import Mathlib.Data.List.Infix
import Mathlib.Logic.Relation

/-!
# A four-phase handshake over two queues

A controller asks a device for something by raising a bit.  It waits until the device reports the
bit raised, lowers it, and waits until the device reports it lowered; only then can it ask again.
Commands reach the device in the order in which they were issued, reports reach the controller in
the order in which they were made, and both may be on their way for any time, so the controller
always acts on old reports.  Reports may also get lost.

`FourPhase.State` is over an arbitrary type `ι` of commands; `bit? r` is the value that the command
`r` gives to the bit, if it does.  Every ask comes with commands of its own, which are issued before
the one that raises the bit.  `Stage` lists where a handshake can stand, `Stage.step` follows it
along a step, and `Start.agrees` is the result: whatever the order of events, the device has seen
the bit rise once for each ask when the controller is idle, and never more often, and each time it
had got the commands of that ask by then.
-/

namespace SledServer.Core.FourPhase

variable {ι : Type}

/-- What the controller waits for. -/
inductive Phase
  | idle
  | raising
  | lowering
  deriving DecidableEq, Repr

/-- Controller, device and what is between them. -/
structure State (ι : Type) where
  phase : Phase
  /-- The commands that the device is still to get, oldest first. -/
  pending : List ι
  /-- The commands that the device has got, oldest first. -/
  applied : List ι
  bit : Bool
  /-- The reports on their way, oldest first. -/
  reports : List Bool
  /-- The commands of each ask, the one that raises the bit included. -/
  asks : List (List ι)
  /-- What the device had got each time the bit rose, the command that raised it included. -/
  rises : List (List ι)

/-- The device gets a command. -/
def State.take (bit? : ι → Option Bool) (s : State ι) (r : ι) (rest : List ι) : State ι :=
  { s with
    pending := rest
    applied := s.applied ++ [r]
    bit := (bit? r).getD s.bit
    rises := if (bit? r).getD s.bit && !s.bit then s.rises ++ [s.applied ++ [r]] else s.rises }

/-- One step. -/
inductive Step (bit? : ι → Option Bool) : State ι → State ι → Prop
  /-- The controller asks. -/
  | ask {s : State ι} {ws : List ι} {r : ι} (h : s.phase = .idle) (hws : ∀ w ∈ ws, bit? w = none)
      (hr : bit? r = some true) :
      Step bit? s
        { s with
          phase := .raising
          pending := s.pending ++ (ws ++ [r])
          asks := s.asks ++ [ws ++ [r]] }
  /-- The device gets the next command. -/
  | take {s : State ι} {r : ι} {rest : List ι} (h : s.pending = r :: rest) :
      Step bit? s (s.take bit? r rest)
  /-- The device makes a report. -/
  | report {s : State ι} : Step bit? s { s with reports := s.reports ++ [s.bit] }
  /-- The next report gets lost, or is not what the controller waits for. -/
  | drop {s : State ι} {b : Bool} {rest : List Bool} (h : s.reports = b :: rest) :
      Step bit? s { s with reports := rest }
  /-- The controller hears that the bit is raised, and lowers it. -/
  | raised {s : State ι} {r : ι} {rest : List Bool} (hp : s.phase = .raising)
      (h : s.reports = true :: rest) (hr : bit? r = some false) :
      Step bit? s
        { s with phase := .lowering, pending := s.pending ++ [r], reports := rest }
  /-- The controller hears that the bit is lowered. -/
  | lowered {s : State ι} {rest : List Bool} (hp : s.phase = .lowering)
      (h : s.reports = false :: rest) :
      Step bit? s { s with phase := .idle, reports := rest }

/-- A state from which the handshakes are followed: the controller is idle, and nothing that is on
its way has to do with the bit. -/
structure Start (bit? : ι → Option Bool) (s : State ι) : Prop where
  phase : s.phase = .idle
  pending : ∀ r ∈ s.pending, bit? r = none
  bit : s.bit = false
  reports : ∀ b ∈ s.reports, b = false
  asks : s.asks = []
  rises : s.rises = []

/-- Every ask is answered by a rise of the bit, after its commands. -/
abbrev Answered (asks rises : List (List ι)) : Prop := List.Forall₂ (· <:+ ·) asks rises

/-- Where a handshake can stand. -/
inductive Stage (bit? : ι → Option Bool) (s : State ι) : Prop
  | idle (hp : s.phase = .idle) (hq : ∀ r ∈ s.pending, bit? r = none) (hb : s.bit = false)
      (hr : ∀ b ∈ s.reports, b = false) (h : Answered s.asks s.rises)
  /-- The command that raises the bit is on its way, behind the other commands of the ask. -/
  | asked (hp : s.phase = .raising) {ws : List ι} {r : ι} (hq : s.pending = ws ++ [r])
      (hws : ∀ w ∈ ws, bit? w = none) (hset : bit? r = some true) (hb : s.bit = false)
      (hr : ∀ b ∈ s.reports, b = false) {asks : List (List ι)} {q : List ι}
      (hasks : s.asks = asks ++ [q]) (hlast : q <:+ s.applied ++ s.pending)
      (h : Answered asks s.rises)
  /-- The bit has risen, which the controller does not know yet. -/
  | risen (hp : s.phase = .raising) (hq : s.pending = []) (hb : s.bit = true)
      {old new : List Bool} (hr : s.reports = old ++ new) (hold : ∀ b ∈ old, b = false)
      (hnew : ∀ b ∈ new, b = true) (h : Answered s.asks s.rises)
  /-- The command that lowers the bit is on its way. -/
  | heard (hp : s.phase = .lowering) {r : ι} (hq : s.pending = [r]) (hset : bit? r = some false)
      (hb : s.bit = true) (hr : ∀ b ∈ s.reports, b = true) (h : Answered s.asks s.rises)
  /-- The bit has fallen, which the controller does not know yet. -/
  | fallen (hp : s.phase = .lowering) (hq : s.pending = []) (hb : s.bit = false)
      {old new : List Bool} (hr : s.reports = old ++ new) (hold : ∀ b ∈ old, b = true)
      (hnew : ∀ b ∈ new, b = false) (h : Answered s.asks s.rises)

variable {bit? : ι → Option Bool} {s s' : State ι}

lemma Start.stage (h : Start bit? s) : Stage bit? s :=
  .idle h.phase h.pending h.bit h.reports (by rw [h.asks, h.rises]; exact .nil)

namespace Stage

lemma forall_concat {p : Bool → Prop} {l : List Bool} {b : Bool} (h : ∀ b ∈ l, p b) (hb : p b) :
    ∀ x ∈ l ++ [b], p x := by
  intro x hx
  rcases List.mem_append.mp hx with hx | hx
  · exact h x hx
  · rwa [List.mem_singleton.mp hx]

/-- A command that does not set the bit. -/
lemma take_none {r : ι} {rest : List ι} (h : bit? r = none) :
    s.take bit? r rest = { s with pending := rest, applied := s.applied ++ [r] } := by
  simp [State.take, h]

/-- The device gets the next command. -/
lemma take (hs : Stage bit? s) {r : ι} {rest : List ι} (hq : s.pending = r :: rest) :
    Stage bit? (s.take bit? r rest) := by
  cases hs with
  | idle hp hnone hb hr h =>
    rw [hq] at hnone
    rw [take_none (hnone r List.mem_cons_self)]
    exact .idle hp (fun w hw => hnone w (List.mem_cons_of_mem _ hw)) hb hr h
  | @asked hp ws r' hq' hws hset hb hr asks q hasks hlast h =>
    rw [hq] at hq'
    cases ws with
    | nil =>
      -- The command that raises the bit: everything issued so far has arrived.
      obtain ⟨rfl, rfl⟩ := List.cons_eq_cons.mp hq'
      have hreports : (s.take bit? r []).reports = s.reports ++ [] := by simp [State.take]
      refine .risen hp rfl ?_ hreports hr (by simp) ?_
      · simp [State.take, hset]
      · have hrises : (s.take bit? r []).rises = s.rises ++ [s.applied ++ [r]] := by
          simp [State.take, hset, hb]
        rw [hrises]
        show Answered s.asks _
        rw [hasks]
        refine List.rel_append h (.cons ?_ .nil)
        rwa [← hq]
    | cons w ws =>
      obtain ⟨rfl, rfl⟩ := List.cons_eq_cons.mp hq'
      rw [take_none (hws r List.mem_cons_self)]
      refine .asked hp rfl (fun w hw => hws w (List.mem_cons_of_mem _ hw)) hset hb hr hasks ?_ h
      simpa [hq] using hlast
  | risen hp hq' => simp [hq'] at hq
  | fallen hp hq' => simp [hq'] at hq
  | @heard hp r' hq' hset hb hr h =>
    rw [hq] at hq'
    obtain ⟨rfl, rfl⟩ := List.cons_eq_cons.mp hq'
    have hreports : (s.take bit? r []).reports = s.reports ++ [] := by simp [State.take]
    refine .fallen hp rfl ?_ hreports hr (by simp) ?_
    · simp [State.take, hset]
    · simpa [State.take, hset] using h

/-- The device makes a report. -/
lemma report (hs : Stage bit? s) : Stage bit? { s with reports := s.reports ++ [s.bit] } := by
  cases hs with
  | idle hp hq hb hr h => exact .idle hp hq hb (forall_concat hr hb) h
  | asked hp hq hws hset hb hr hasks hlast h =>
    exact .asked hp hq hws hset hb (forall_concat hr hb) hasks hlast h
  | heard hp hq hset hb hr h => exact .heard hp hq hset hb (forall_concat hr hb) h
  | risen hp hq hb hr hold hnew h =>
    exact .risen hp hq hb (by simp [hr]) hold (forall_concat hnew hb) h
  | fallen hp hq hb hr hold hnew h =>
    exact .fallen hp hq hb (by simp [hr]) hold (forall_concat hnew hb) h

/-- The next report leaves the queue, and the controller does nothing. -/
lemma drop (hs : Stage bit? s) {b : Bool} {rest : List Bool} (h : s.reports = b :: rest) :
    Stage bit? { s with reports := rest } := by
  have htail : ∀ {p : Bool → Prop}, (∀ b ∈ s.reports, p b) → ∀ b ∈ rest, p b := fun hall b hb =>
    hall b (by rw [h]; exact List.mem_cons_of_mem _ hb)
  -- The first report of two lists in a row.
  have hsplit : ∀ {old new : List Bool} {p q : Bool → Prop}, s.reports = old ++ new →
      (∀ b ∈ old, p b) → (∀ b ∈ new, q b) →
      ∃ old new, rest = old ++ new ∧ (∀ b ∈ old, p b) ∧ ∀ b ∈ new, q b := by
    intro old new p q hr hold hnew
    rw [h] at hr
    cases old with
    | nil =>
      refine ⟨[], rest, rfl, by simp, fun b hb => hnew b ?_⟩
      rw [← List.nil_append new, ← hr]
      exact List.mem_cons_of_mem _ hb
    | cons x old =>
      exact ⟨old, new, (List.cons_eq_cons.mp hr).2, fun b hb => hold b (List.mem_cons_of_mem _ hb),
        hnew⟩
  cases hs with
  | idle hp hq hb hr h => exact .idle hp hq hb (htail hr) h
  | asked hp hq hws hset hb hr hasks hlast h =>
    exact .asked hp hq hws hset hb (htail hr) hasks hlast h
  | heard hp hq hset hb hr h => exact .heard hp hq hset hb (htail hr) h
  | risen hp hq hb hr hold hnew h =>
    obtain ⟨old, new, hr, hold, hnew⟩ := hsplit hr hold hnew
    exact .risen hp hq hb hr hold hnew h
  | fallen hp hq hb hr hold hnew h =>
    obtain ⟨old, new, hr, hold, hnew⟩ := hsplit hr hold hnew
    exact .fallen hp hq hb hr hold hnew h

/-- The controller asks: it is idle, so the device is at rest. -/
lemma ask (hs : Stage bit? s) {ws : List ι} {r : ι} (hidle : s.phase = .idle)
    (hws : ∀ w ∈ ws, bit? w = none) (hr : bit? r = some true) :
    Stage bit?
      { s with
        phase := .raising
        pending := s.pending ++ (ws ++ [r])
        asks := s.asks ++ [ws ++ [r]] } := by
  cases hs with
  | idle hp hq hb hreports h =>
    have hpending : s.pending ++ (ws ++ [r]) = (s.pending ++ ws) ++ [r] := by simp
    refine .asked rfl hpending (fun w hw => ?_) hr hb hreports rfl ?_ h
    · rcases List.mem_append.mp hw with hw | hw
      · exact hq w hw
      · exact hws w hw
    · show _ <:+ s.applied ++ (s.pending ++ (ws ++ [r]))
      rw [← List.append_assoc]
      exact List.suffix_append _ _
  | asked hp | risen hp | heard hp | fallen hp => simp [hp] at hidle

/-- The controller hears that the bit is raised: no older report is left, and the device has got
everything. -/
lemma raised (hs : Stage bit? s) {r : ι} {rest : List Bool} (hraising : s.phase = .raising)
    (h : s.reports = true :: rest) (hr : bit? r = some false) :
    Stage bit? { s with phase := .lowering, pending := s.pending ++ [r], reports := rest } := by
  cases hs with
  | idle hp | heard hp | fallen hp => simp [hp] at hraising
  | asked hp hq hws hset hb hreports => simpa using hreports true (by simp [h])
  | @risen hp hq hb old new hreports hold hnew hanswered =>
    rw [h] at hreports
    cases old with
    | nil =>
      refine .heard rfl (by simp [hq]) hr hb (fun b hb => hnew b ?_) hanswered
      rw [← List.nil_append new, ← hreports]
      exact List.mem_cons_of_mem _ hb
    | cons b old =>
      obtain ⟨rfl, -⟩ := List.cons_eq_cons.mp hreports
      simpa using hold true List.mem_cons_self

/-- The controller hears that the bit is lowered. -/
lemma lowered (hs : Stage bit? s) {rest : List Bool} (hlowering : s.phase = .lowering)
    (h : s.reports = false :: rest) : Stage bit? { s with phase := .idle, reports := rest } := by
  cases hs with
  | idle hp | asked hp | risen hp => simp [hp] at hlowering
  | heard hp hq hset hb hreports => simpa using hreports false (by simp [h])
  | @fallen hp hq hb old new hreports hold hnew hanswered =>
    rw [h] at hreports
    cases old with
    | nil =>
      refine .idle rfl (by simp [hq]) hb (fun b hb => hnew b ?_) hanswered
      rw [← List.nil_append new, ← hreports]
      exact List.mem_cons_of_mem _ hb
    | cons b old =>
      obtain ⟨rfl, -⟩ := List.cons_eq_cons.mp hreports
      simpa using hold false List.mem_cons_self

lemma step (hs : Stage bit? s) (h : Step bit? s s') : Stage bit? s' := by
  cases h with
  | ask hidle hws hr => exact hs.ask hidle hws hr
  | take hq => exact hs.take hq
  | report => exact hs.report
  | drop h => exact hs.drop h
  | raised hp h hr => exact hs.raised hp h hr
  | lowered hp h => exact hs.lowered hp h

/-- All asks are answered, but for the last one while the controller waits. -/
lemma answered (hs : Stage bit? s) :
    ∃ asks rest, s.asks = asks ++ rest ∧ Answered asks s.rises ∧ (s.phase = .idle → rest = []) := by
  cases hs with
  | asked hp hq hws hset hb hr hasks hlast h =>
    exact ⟨_, _, hasks, h, fun hidle => by simp [hp] at hidle⟩
  | idle _ _ _ _ h | risen _ _ _ _ _ _ h | heard _ _ _ _ _ h | fallen _ _ _ _ _ _ h =>
    exact ⟨_, [], by simp, h, fun _ => rfl⟩

end Stage

/-- Controller and device agree. -/
structure Agrees (bit? : ι → Option Bool) (s : State ι) : Prop where
  quiet : s.phase = .idle → s.bit = false ∧ ∀ r ∈ s.pending, bit? r = none
  rises_le : s.rises.length ≤ s.asks.length
  rises_eq : s.phase = .idle → s.rises.length = s.asks.length
  after : ∀ (k : ℕ) (q l : List ι), s.asks[k]? = some q → s.rises[k]? = some l → q <:+ l

lemma Answered.get {asks rises : List (List ι)} (h : Answered asks rises) {k : ℕ} {q l : List ι}
    {rest : List (List ι)} (hq : (asks ++ rest)[k]? = some q) (hl : rises[k]? = some l) :
    q <:+ l := by
  induction h generalizing k with
  | nil => simp at hl
  | cons hhead _ ih =>
    cases k with
    | zero =>
      simp only [List.cons_append, List.getElem?_cons_zero, Option.some.injEq] at hq hl
      rwa [← hq, ← hl]
    | succ k => exact ih (by simpa using hq) (by simpa using hl)

lemma Stage.agrees (hs : Stage bit? s) : Agrees bit? s := by
  obtain ⟨asks, rest, hasks, h, hrest⟩ := hs.answered
  have hlength := h.length_eq
  refine ⟨fun hidle => ?_, ?_, fun hidle => ?_, fun k q l hq hl => ?_⟩
  · cases hs with
    | idle hp hq hb => exact ⟨hb, hq⟩
    | asked hp | risen hp | heard hp | fallen hp => simp [hp] at hidle
  · rw [hasks, List.length_append]
    omega
  · rw [hasks, hrest hidle, List.append_nil, hlength]
  · rw [hasks] at hq
    exact h.get hq hl

/-- Controller and device agree, whatever the order of events. -/
theorem Start.agrees (hs : Start bit? s) (h : Relation.ReflTransGen (Step bit?) s s') :
    Agrees bit? s' := by
  have hstage : Stage bit? s' := by
    induction h with
    | refl => exact hs.stage
    | tail _ hstep ih => exact ih.step hstep
  exact hstage.agrees

end SledServer.Core.FourPhase
