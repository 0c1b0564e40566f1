import Mathlib.Data.List.Basic
import Mathlib.Order.Basic

/-!
# Fallible steps, their runs and their invariants

A stateful piece of code is a function `S → Except ε S`: it either returns the next state or
halts with a reason `ε`.  This file holds the general vocabulary the rest of the development
reasons with: pre- and postconditions of one fallible step (`Triple`), the run of a step
function over a list of events (`run`), the condition that every step of a run meets a guard
(`Guarded`), and the invariant rules that lift a one-step fact to whole runs.

Nothing here mentions a particular program.
-/

namespace SledServer.Core

universe u v

variable {ε : Type v} {S E A α β : Type u}

/-! ## Sequencing -/

/-- A sequence of two fallible computations succeeds exactly when both do. -/
lemma bind_eq_ok {x : Except ε α} {f : α → Except ε β} {b : β} :
    (x >>= f) = .ok b ↔ ∃ a, x = .ok a ∧ f a = .ok b := by
  cases x with
  | error e => simp [bind, Except.bind]
  | ok a => simp [bind, Except.bind]

@[simp] lemma ok_bind (a : α) (f : α → Except ε β) :
    ((Except.ok a : Except ε α) >>= f) = f a := rfl

@[simp] lemma error_bind (e : ε) (f : α → Except ε β) :
    ((Except.error e : Except ε α) >>= f) = .error e := rfl

lemma map_eq_ok {x : Except ε α} {f : α → β} {b : β} :
    x.map f = .ok b ↔ ∃ a, x = .ok a ∧ f a = b := by
  cases x <;> simp [Except.map]

/-- A sequence of two computations does not halt with `e` if neither does. -/
lemma bind_ne_error {x : Except ε α} {f : α → Except ε β} {e : ε} (hx : x ≠ .error e)
    (hf : ∀ a, x = .ok a → f a ≠ .error e) : (x >>= f) ≠ .error e := by
  cases x with
  | error d => simpa using hx
  | ok a => exact hf a rfl

/-- The computation succeeds, and its result passes the test. -/
def okAnd (p : α → Bool) : Except ε α → Bool
  | .ok a => p a
  | .error _ => false

lemma exists_of_okAnd {p : α → Bool} {x : Except ε α} (h : okAnd p x = true) :
    ∃ a, x = .ok a ∧ p a = true := by
  cases x with
  | error e => cases h
  | ok a => exact ⟨a, rfl, h⟩

/-- The computation halts with `e`. -/
def haltsWith [DecidableEq ε] (e : ε) : Except ε α → Bool
  | .ok _ => false
  | .error d => d == e

lemma eq_error_of_haltsWith [DecidableEq ε] {e : ε} {x : Except ε α}
    (h : haltsWith e x = true) : x = .error e := by
  cases x with
  | ok a => cases h
  | error d => rw [beq_iff_eq.mp h]

/-- What is asked of a result can be decided. -/
instance decidableForallOk {x : Except ε α} {P : α → Prop} [DecidablePred P] :
    Decidable (∀ a, x = .ok a → P a) :=
  match x with
  | .error _ => isTrue (by simp)
  | .ok a => decidable_of_iff (P a) (by simp)

/-! ## Pre- and postconditions -/

/-- Partial correctness of one fallible step: started in `P`, every normal return is in `Q`. -/
def Triple (P : S → Prop) (f : S → Except ε S) (Q : S → Prop) : Prop :=
  ∀ ⦃s s' : S⦄, P s → f s = .ok s' → Q s'

/-- A step that preserves `I`. -/
abbrev Keeps (I : S → Prop) (f : S → Except ε S) : Prop := Triple I f I

namespace Triple

/-- The loop rule: an invariant kept by the body is kept by the loop over a list. -/
lemma foldlM {body : S → A → Except ε S} {I : S → Prop} {as : List A}
    (h : ∀ a ∈ as, Keeps I fun s => body s a) : Keeps I fun s => as.foldlM body s := by
  induction as with
  | nil => exact fun s s' hs h => by cases h; exact hs
  | cons a as ih =>
    intro s s' hs hrun
    obtain ⟨t, ht, ht'⟩ := bind_eq_ok.mp (List.foldlM_cons.symm.trans hrun)
    exact ih (fun b hb => h b (List.mem_cons_of_mem _ hb)) (h a List.mem_cons_self hs ht) ht'

end Triple

/-! ## Runs -/

/-- The run of a step function over a list of events, up to the first halt. -/
def run (step : S → E → Except ε S) (s : S) (es : List E) : Except ε S := es.foldlM step s

section Runs

variable {step : S → E → Except ε S} {s s' : S} {e : E} {es fs : List E}

@[simp] lemma run_nil : run step s [] = .ok s := rfl

lemma run_cons : run step s (e :: es) = step s e >>= fun t => run step t es := by
  simp [run]

lemma run_append : run step s (es ++ fs) = run step s es >>= fun t => run step t fs := by
  simp [run]

lemma run_cons_ok : run step s (e :: es) = .ok s' ↔
    ∃ t, step s e = .ok t ∧ run step t es = .ok s' := by
  rw [run_cons, bind_eq_ok]

lemma run_append_ok : run step s (es ++ fs) = .ok s' ↔
    ∃ t, run step s es = .ok t ∧ run step t fs = .ok s' := by
  rw [run_append, bind_eq_ok]

/-- A run on states that record more is a run on what they are about. -/
lemma run_map {T : Type u} {watch : T → E → Except ε T} {f : T → S}
    (h : ∀ t e, (watch t e).map f = step (f t) e) (t : T) (es : List E) :
    (run watch t es).map f = run step (f t) es := by
  induction es generalizing t with
  | nil => rfl
  | cons e es ih =>
    rw [run_cons, run_cons, ← h]
    cases watch t e with
    | error d => rfl
    | ok t' => exact ih t'

/-- How a list of events is cut into pieces does not matter to its run. -/
lemma foldlM_run (pieces : List (List E)) (s : S) :
    pieces.foldlM (run step) s = run step s pieces.flatten := by
  induction pieces generalizing s with
  | nil => rfl
  | cons piece pieces ih =>
    rw [List.foldlM_cons, List.flatten_cons, run_append]
    congr 1
    funext t
    exact ih t

/-- Every step of the run over `es` that is reached meets the guard `ok`, which reads the state
before the step and the event. -/
def Guarded (step : S → E → Except ε S) (ok : S → E → Prop) : S → List E → Prop
  | _, [] => True
  | s, e :: es => ok s e ∧ ∀ t, step s e = .ok t → Guarded step ok t es

variable {ok : S → E → Prop} {I : S → Prop}

/-- The invariant rule for runs whose steps meet a guard. -/
lemma Guarded.invariant (hstep : ∀ s e s', I s → ok s e → step s e = .ok s' → I s') :
    ∀ {s : S} {es : List E}, I s → Guarded step ok s es → run step s es = .ok s' → I s'
  | s, [], hs, _, h => by cases h; exact hs
  | s, e :: es, hs, hg, h => by
    obtain ⟨t, ht, ht'⟩ := run_cons_ok.mp h
    exact Guarded.invariant hstep (hstep s e t hs hg.1 ht) (hg.2 t ht) ht'

/-- A guarded run does not halt with `d` if no guarded step does. -/
lemma Guarded.ne_error {d : ε} (hstep : ∀ s e s', I s → ok s e → step s e = .ok s' → I s')
    (hne : ∀ s e, I s → ok s e → step s e ≠ .error d) :
    ∀ {s : S} {es : List E}, I s → Guarded step ok s es → run step s es ≠ .error d
  | _, [], _, _ => by simp
  | s, e :: es, hs, hg => by
    rw [run_cons]
    refine bind_ne_error (hne s e hs hg.1) fun t ht => ?_
    exact Guarded.ne_error hstep hne (hstep s e t hs hg.1 ht) (hg.2 t ht)

/-- Steps that agree where the guard holds have the same guarded runs. -/
lemma Guarded.run_congr {step' : S → E → Except ε S}
    (hstep : ∀ s e s', I s → ok s e → step s e = .ok s' → I s')
    (hsame : ∀ s e, I s → ok s e → step s e = step' s e) :
    ∀ {s : S} {es : List E}, I s → Guarded step ok s es → run step s es = run step' s es
  | _, [], _, _ => rfl
  | s, e :: es, hs, hg => by
    rw [run_cons, run_cons, ← hsame s e hs hg.1]
    cases ht : step s e with
    | error d => rfl
    | ok t =>
      rw [ok_bind, ok_bind]
      exact Guarded.run_congr hstep hsame (hstep s e t hs hg.1 ht) (hg.2 t ht)

/-- Steps that agree where the guard holds also have the same runs guarded. -/
lemma Guarded.congr {step' : S → E → Except ε S}
    (hstep : ∀ s e s', I s → ok s e → step s e = .ok s' → I s')
    (hsame : ∀ s e, I s → ok s e → step s e = step' s e) :
    ∀ {s : S} {es : List E}, I s → Guarded step ok s es → Guarded step' ok s es
  | _, [], _, _ => trivial
  | s, e :: es, hs, hg => by
    refine ⟨hg.1, fun t ht => ?_⟩
    rw [← hsame s e hs hg.1] at ht
    exact Guarded.congr hstep hsame (hstep s e t hs hg.1 ht) (hg.2 t ht)

/-- A guard that always holds guards every run. -/
lemma guarded_of_forall (h : ∀ s e, ok s e) : ∀ (s : S) (es : List E), Guarded step ok s es
  | _, [] => trivial
  | s, e :: es => ⟨h s e, fun t _ => guarded_of_forall h t es⟩

/-- A run in two parts is guarded if both parts are. -/
lemma Guarded.append : ∀ {s : S} {es fs : List E}, Guarded step ok s es →
    (∀ t, run step s es = .ok t → Guarded step ok t fs) → Guarded step ok s (es ++ fs)
  | _, [], _, _, hfs => hfs _ rfl
  | s, e :: es, fs, hes, hfs => by
    refine ⟨hes.1, fun t ht => Guarded.append (hes.2 t ht) fun u hu => hfs u ?_⟩
    exact run_cons_ok.mpr ⟨t, ht, hu⟩

lemma Guarded.mono {ok' : S → E → Prop} (h : ∀ s e, ok s e → ok' s e) :
    ∀ {s : S} {es : List E}, Guarded step ok s es → Guarded step ok' s es
  | _, [], _ => trivial
  | s, e :: _, hg => ⟨h s e hg.1, fun t ht => Guarded.mono h (hg.2 t ht)⟩

/-- The invariant rule for arbitrary runs. -/
lemma run_invariant (hstep : ∀ s e s', I s → step s e = .ok s' → I s') (hs : I s)
    (h : run step s es = .ok s') : I s' := by
  have hrun : Keeps I fun s => run step s es :=
    Triple.foldlM fun e _ s s' hi h => hstep s e s' hi h
  exact hrun hs h

/-- If a property can only survive a step that meets the guard, then a run that shows the
property in every state it reaches is a guarded run: the converse of `Guarded.invariant`. -/
lemma guarded_of_forall_reached {P : S → Prop}
    (hstep : ∀ s e s', I s → ok s e → step s e = .ok s' → I s')
    (hbad : ∀ s e, I s → ¬ ok s e → ∃ s', step s e = .ok s' ∧ ¬ P s') :
    ∀ {s : S} {es : List E}, I s →
      (∀ pre, pre <+: es → ∀ t, run step s pre = .ok t → P t) → Guarded step ok s es
  | _, [], _, _ => trivial
  | s, e :: es, hs, hall => by
    have hok : ok s e := by
      by_contra hno
      obtain ⟨t, ht, hP⟩ := hbad s e hs hno
      exact hP (hall [e] ⟨es, rfl⟩ t (run_cons_ok.mpr ⟨t, ht, rfl⟩))
    refine ⟨hok, fun t ht => guarded_of_forall_reached hstep hbad (hstep s e t hs hok ht) ?_⟩
    intro pre hpre u hu
    exact hall (e :: pre) (List.cons_prefix_cons.mpr ⟨rfl, hpre⟩) u
      (run_cons_ok.mpr ⟨t, ht, hu⟩)

/-- Where the guard decides after each step whether the result is a good one, the guarded runs are
exactly those all of whose prefixes end in a good result. -/
lemma guarded_iff {P : Except ε S → Prop}
    (hstep : ∀ s e s', I s → ok s e → step s e = .ok s' → I s')
    (hgood : ∀ s e, I s → ok s e → P (step s e)) (hbad : ∀ s e, I s → ¬ ok s e → ¬ P (step s e)) :
    ∀ {s : S} {es : List E}, I s → P (.ok s) →
      ((∀ pre, pre <+: es → P (run step s pre)) ↔ Guarded step ok s es)
  | s, [], _, hP => by
    constructor
    · intro _
      trivial
    · intro _ pre hpre
      rwa [List.prefix_nil.mp hpre]
  | s, e :: es, hs, hP => by
    constructor
    · intro hall
      have hok : ok s e := by
        by_contra hno
        refine hbad s e hs hno ?_
        simpa [run] using hall [e] ⟨es, rfl⟩
      refine ⟨hok, fun t ht => ?_⟩
      have hPt : P (.ok t) := ht ▸ hgood s e hs hok
      refine (guarded_iff hstep hgood hbad (hstep s e t hs hok ht) hPt).mp fun pre hpre => ?_
      have h := hall (e :: pre) (List.cons_prefix_cons.mpr ⟨rfl, hpre⟩)
      rwa [run_cons, ht, ok_bind] at h
    · rintro ⟨hok, htail⟩ pre hpre
      cases pre with
      | nil => exact hP
      | cons f pre =>
        obtain ⟨rfl, htl⟩ := List.cons_prefix_cons.mp hpre
        have hf : P (step s f) := hgood s f hs hok
        rw [run_cons]
        cases ht : step s f with
        | error d => rwa [ht] at hf
        | ok t =>
          rw [ht] at hf
          exact (guarded_iff hstep hgood hbad (hstep s f t hs hok ht) hf).mpr (htail t ht) pre htl

/-- A run is guarded exactly when each of its steps meets the guard in the state it starts from. -/
lemma guarded_iff_forall : ∀ {s : S} {es : List E}, Guarded step ok s es ↔
    ∀ pre e, pre ++ [e] <+: es → ∀ t, run step s pre = .ok t → ok t e
  | s, [] => by simp [Guarded]
  | s, e :: es => by
    constructor
    · rintro ⟨hok, htail⟩ pre f hpre t ht
      cases pre with
      | nil =>
        obtain ⟨rfl, -⟩ := List.cons_prefix_cons.mp hpre
        cases ht
        exact hok
      | cons g pre =>
        obtain ⟨rfl, hrest⟩ := List.cons_prefix_cons.mp hpre
        obtain ⟨u, hu, ht⟩ := run_cons_ok.mp ht
        exact guarded_iff_forall.mp (htail u hu) pre f hrest t ht
    · intro hall
      refine ⟨hall [] e ⟨es, rfl⟩ s rfl, fun t ht => guarded_iff_forall.mpr ?_⟩
      intro pre f hpre u hu
      exact hall (e :: pre) f (List.cons_prefix_cons.mpr ⟨rfl, hpre⟩) u
        (run_cons_ok.mpr ⟨t, ht, hu⟩)

/-- What the steps of a run let through, in order: `obs` reads the state before a step and the
event. -/
def observed {O : Type u} (step : S → E → Except ε S) (obs : S → E → Option O) : S → List E → List O
  | _, [] => []
  | s, e :: es =>
    (obs s e).toList ++
      match step s e with
      | .ok t => observed step obs t es
      | .error _ => []

lemma observed_singleton {O : Type u} {obs : S → E → Option O} :
    observed step obs s [e] = (obs s e).toList := by
  cases hstep : step s e <;> simp [observed, hstep]

lemma observed_append {O : Type u} {obs : S → E → Option O} :
    ∀ {s : S} {es : List E}, observed step obs s (es ++ fs) = observed step obs s es ++
      match run step s es with
      | .ok t => observed step obs t fs
      | .error _ => []
  | s, [] => rfl
  | s, e :: es => by
    cases hstep : step s e with
    | ok t =>
      simp only [List.cons_append, observed, run_cons, hstep, ok_bind, List.append_assoc]
      rw [observed_append]
    | error d =>
      simp only [List.cons_append, observed, run_cons, hstep, error_bind, List.append_nil]

lemma observed_concat {O : Type u} {obs : S → E → Option O} :
    ∀ {s : S} {es : List E}, run step s es = .ok s' →
      observed step obs s (es ++ [e]) = observed step obs s es ++ (obs s' e).toList
  | s, [], h => by
    cases h
    exact observed_singleton
  | s, f :: es, h => by
    obtain ⟨t, ht, h⟩ := run_cons_ok.mp h
    simp only [List.cons_append, observed, ht, observed_concat h, List.append_assoc]

/-- Where the guard decides whether a step halts with `d`, the guarded runs are those that do
not. -/
lemma run_ne_error_iff {d : ε} {V : E → Prop}
    (hiff : ∀ s e, V e → (step s e ≠ .error d ↔ ok s e)) :
    ∀ {s : S} {es : List E}, (∀ e ∈ es, V e) → (run step s es ≠ .error d ↔ Guarded step ok s es)
  | s, [], _ => by simp [Guarded]
  | s, e :: es, hes => by
    have he := hiff s e (hes e List.mem_cons_self)
    have htail := fun t => run_ne_error_iff hiff (fun f hf => hes f (List.mem_cons_of_mem _ hf))
      (s := t)
    rw [run_cons, Guarded, ← he]
    cases hstep : step s e with
    | error c => simp
    | ok t => simpa using htail t

/-- A prefix of a guarded run is guarded. -/
lemma Guarded.of_isPrefix : ∀ {s : S} {pre es : List E}, pre <+: es → Guarded step ok s es →
    Guarded step ok s pre
  | _, [], _, _, _ => trivial
  | s, e :: pre, [], h, _ => absurd h (by simp)
  | s, e :: pre, f :: es, h, hg => by
    obtain ⟨rfl, htail⟩ := List.cons_prefix_cons.mp h
    exact ⟨hg.1, fun t ht => Guarded.of_isPrefix htail (hg.2 t ht)⟩

instance Guarded.decidable [∀ s e, Decidable (ok s e)] :
    ∀ (s : S) (es : List E), Decidable (Guarded step ok s es)
  | _, [] => isTrue trivial
  | s, e :: es =>
    match h : step s e with
    | .ok t =>
      haveI := Guarded.decidable t es
      decidable_of_iff (ok s e ∧ Guarded step ok t es) (by simp [Guarded, h])
    | .error _ => decidable_of_iff (ok s e) (by simp [Guarded, h])

end Runs

end SledServer.Core
