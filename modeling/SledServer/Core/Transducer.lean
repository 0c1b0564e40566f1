import SledServer.Core.Run

/-!
# Translated events, and machines that match

A transducer reads events of one kind and emits events of another.  A machine refines another one by
way of a transducer if each of its steps is matched by the run of the other machine over what the
transducer emits (`Matches`): both return, in related states, or both halt, for related reasons.
Whole runs then match as well (`Matches.run`).

Nothing here mentions a particular program.
-/

namespace SledServer.Core

universe u v

/-! ## Transducers -/

/-- What is made of an event: the next state, and the events that are emitted. -/
abbrev Transducer (L E O : Type u) := L → E → L × List O

namespace Transducer

variable {L E O : Type u} (f : Transducer L E O)

/-- The state after a list of events. -/
def after : L → List E → L
  | l, [] => l
  | l, e :: es => after (f l e).1 es

/-- What is emitted for a list of events. -/
def emits : L → List E → List O
  | _, [] => []
  | l, e :: es => (f l e).2 ++ emits (f l e).1 es

/-- Every event is fit for the state it is read in. -/
def Accepts (ok : L → E → Prop) : L → List E → Prop
  | _, [] => True
  | l, e :: es => ok l e ∧ Accepts ok (f l e).1 es

instance Accepts.decidable {ok : L → E → Prop} [∀ l e, Decidable (ok l e)] :
    ∀ (l : L) (es : List E), Decidable (f.Accepts ok l es)
  | _, [] => isTrue trivial
  | l, e :: es =>
    haveI : Decidable (f.Accepts ok (f l e).1 es) := Accepts.decidable _ _
    inferInstanceAs (Decidable (ok l e ∧ f.Accepts ok (f l e).1 es))

lemma accepts_of_forall {ok : L → E → Prop} (h : ∀ l e, ok l e) :
    ∀ (l : L) (es : List E), f.Accepts ok l es
  | _, [] => trivial
  | l, e :: es => ⟨h l e, accepts_of_forall h (f l e).1 es⟩

/-- What passes a filter of what is emitted, where each event says so by itself. -/
lemma filterMap_emits {P : Type u} {g : O → Option P} {h : E → Option P}
    (hstep : ∀ l e, (f l e).2.filterMap g = (h e).toList) :
    ∀ (l : L) (es : List E), (f.emits l es).filterMap g = es.filterMap h
  | _, [] => rfl
  | l, e :: es => by
    rw [emits, List.filterMap_append, hstep, filterMap_emits hstep (f l e).1 es,
      List.filterMap_cons]
    cases h e <;> rfl

end Transducer

/-! ## Matching -/

section Matching

variable {ε ε' : Type v} {α α' β β' : Type u}

/-- The two computations end in related results, or halt for the same reason, as `reason` has
it. -/
inductive Matches (reason : ε' → ε) (R : α → β → Prop) : Except ε α → Except ε' β → Prop
  | ok {a : α} {b : β} (h : R a b) : Matches reason R (.ok a) (.ok b)
  | error (e : ε') : Matches reason R (.error (reason e)) (.error e)

namespace Matches

variable {reason : ε' → ε} {R : α → β → Prop} {R' : α' → β' → Prop} {x : Except ε α}
  {y : Except ε' β}

lemma bind {f : α → Except ε α'} {g : β → Except ε' β'} (h : Matches reason R x y)
    (hfg : ∀ a b, R a b → Matches reason R' (f a) (g b)) :
    Matches reason R' (x >>= f) (y >>= g) := by
  cases h with
  | ok h => exact hfg _ _ h
  | error e => exact .error e

/-- What is done with the result afterwards. -/
lemma bind_ok {R' : α' → β → Prop} {f : α → α'} (h : Matches reason R x y)
    (hf : ∀ a b, R a b → R' (f a) b) : Matches reason R' (x >>= fun a => .ok (f a)) y := by
  cases h with
  | ok h => exact .ok (hf _ _ h)
  | error e => exact .error e

lemma exists_left {b : β} (h : Matches reason R x (.ok b)) : ∃ a, x = .ok a ∧ R a b := by
  cases h with
  | ok h => exact ⟨_, rfl, h⟩

lemma exists_right {a : α} (h : Matches reason R (.ok a) y) : ∃ b, y = .ok b ∧ R a b := by
  cases h with
  | ok h => exact ⟨_, rfl, h⟩

/-- Where the one result is a function of the other, so is the computation. -/
lemma map_eq {f : α → β} (h : Matches reason R x y) (hR : ∀ a b, R a b → f a = b) :
    x.map f = y.mapError reason := by
  cases h with
  | ok h => exact congrArg Except.ok (hR _ _ h)
  | error e => rfl

variable {S T L E O : Type u} {step : S → E → Except ε S} {step' : T → O → Except ε' T}
  {f : Transducer L E O} {Q : L → S → T → Prop} {ok : L → E → Prop}

/-- Machines whose steps match have runs that match. -/
lemma run (hstep : ∀ l s t e, Q l s t → ok l e →
      Matches reason (Q (f l e).1) (step s e) (run step' t (f l e).2)) :
    ∀ {l : L} {s : S} {t : T} {es : List E}, Q l s t → f.Accepts ok l es →
      Matches reason (Q (f.after l es)) (Core.run step s es) (Core.run step' t (f.emits l es))
  | _, _, _, [], hq, _ => .ok hq
  | l, s, t, e :: es, hq, hok => by
    rw [run_cons, Transducer.emits, run_append]
    exact (hstep l s t e hq hok.1).bind fun s' t' hq' => run hstep hq' hok.2

/-- Where the events emitted for each step meet a guard, so do those emitted for a run. -/
lemma guarded {ok' : T → O → Prop} (hstep : ∀ l s t e, Q l s t → ok l e →
      Matches reason (Q (f l e).1) (step s e) (Core.run step' t (f l e).2))
    (hguard : ∀ l s t e, Q l s t → ok l e → Guarded step' ok' t (f l e).2) :
    ∀ {l : L} {s : S} {t : T} {es : List E}, Q l s t → f.Accepts ok l es →
      Guarded step' ok' t (f.emits l es)
  | _, _, _, [], _, _ => trivial
  | l, s, t, e :: es, hq, hok => by
    refine (hguard l s t e hq hok.1).append fun t' ht' => ?_
    obtain ⟨s', -, hq'⟩ := (ht' ▸ hstep l s t e hq hok.1).exists_left
    exact guarded hstep hguard hq' hok.2

/-- Where each step lets through what the steps that match it let through, so does a run. -/
lemma observed {O' : Type u} {obs : S → E → Option O'} {obs' : T → O → Option O'}
    (hstep : ∀ l s t e, Q l s t → ok l e →
      Matches reason (Q (f l e).1) (step s e) (Core.run step' t (f l e).2))
    (hobs : ∀ l s t e, Q l s t → ok l e →
      Core.observed step' obs' t (f l e).2 = (obs s e).toList) :
    ∀ {l : L} {s : S} {t : T} {es : List E}, Q l s t → f.Accepts ok l es →
      Core.observed step' obs' t (f.emits l es) = Core.observed step obs s es
  | _, _, _, [], _, _ => rfl
  | l, s, t, e :: es, hq, hok => by
    rw [Transducer.emits, observed_append, hobs l s t e hq hok.1, Core.observed]
    congr 1
    have hmatch := hstep l s t e hq hok.1
    generalize step s e = x at hmatch
    generalize Core.run step' t (f l e).2 = y at hmatch
    cases hmatch with
    | ok hq' => exact observed hstep hobs hq' hok.2
    | error d => rfl

end Matches

end Matching

end SledServer.Core
