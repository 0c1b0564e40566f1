import SledServer.Core.Run

/-!
# Changes that a step does not see

A function of the state is blind to a change of the state if it does to the changed state what it
does to the original one, and the change stays as it is.  Where every guarded step is blind to a
change, two states that the change makes equal have runs that it makes equal (`Guarded.map_run_eq`).

Nothing here mentions a particular program.
-/

namespace SledServer.Core

universe u v

variable {ε : Type v} {S E A α β : Type u}

/-- `f` does to `m s` what it does to `s`, and the result differs by `n`. -/
def Blind (m : S → S) (n : α → α) (f : S → Except ε α) : Prop := ∀ s, f (m s) = (f s).map n

namespace Blind

variable {m : S → S} {n : α → α} {p : β → β} {f f' : S → Except ε α} {g : α → Except ε β}

lemma bind (hf : Blind m n f) (hg : Blind n p g) : Blind m p fun s => f s >>= g := by
  intro s
  show f (m s) >>= g = (f s >>= g).map p
  rw [hf s]
  cases f s with
  | error d => rfl
  | ok a => exact hg a

/-- What does not read the state may come first. -/
lemma const_bind {γ : Type u} (x : Except ε γ) {f : γ → S → Except ε α}
    (h : ∀ c, Blind m n (f c)) : Blind m n fun s => x >>= fun c => f c s := by
  intro s
  cases x with
  | error d => rfl
  | ok c => exact h c s

end Blind

/-! ## Runs -/

section Runs

variable {step : S → E → Except ε S} {ok : S → E → Prop} {m : S → S} {s s' : S} {es : List E}

section Change

variable (hok : ∀ s e, ok (m s) e ↔ ok s e)
  (hstep : ∀ s e, ok s e → step (m s) e = (step s e).map m)

include hstep

/-- A guarded run, after the change. -/
lemma Guarded.run_map : ∀ {s : S} {es : List E}, Guarded step ok s es →
    run step (m s) es = (run step s es).map m
  | _, [], _ => rfl
  | s, e :: es, hg => by
    rw [run_cons, run_cons, hstep s e hg.1]
    cases ht : step s e with
    | error d => rfl
    | ok t => exact Guarded.run_map (hg.2 t ht)

include hok

/-- The change does not matter to the guard. -/
lemma guarded_map_iff : ∀ {s : S} {es : List E},
    Guarded step ok (m s) es ↔ Guarded step ok s es
  | _, [] => Iff.rfl
  | s, e :: es => by
    have htail : ok s e → ((∀ t, step (m s) e = .ok t → Guarded step ok t es) ↔
        ∀ t, step s e = .ok t → Guarded step ok t es) := by
      intro he
      rw [hstep s e he]
      constructor
      · intro h t ht
        exact guarded_map_iff.mp (h (m t) (by rw [ht]; rfl))
      · intro h t ht
        obtain ⟨u, hu, rfl⟩ := map_eq_ok.mp ht
        exact guarded_map_iff.mpr (h u hu)
    rw [Guarded, Guarded, hok s e]
    exact and_congr_right htail

/-- Two runs from states that the change makes equal. -/
lemma Guarded.map_run_eq (hs : m s = m s') (hg : Guarded step ok s es) :
    (run step s es).map m = (run step s' es).map m := by
  have hg' : Guarded step ok s' es := by
    rw [← guarded_map_iff hok hstep, ← hs]
    exact (guarded_map_iff hok hstep).mpr hg
  rw [← Guarded.run_map hstep hg, ← Guarded.run_map hstep hg', hs]

end Change

end Runs

end SledServer.Core
