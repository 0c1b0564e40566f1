import Mathlib.Data.Set.Basic
import Mathlib.Logic.Relation

/-!
# Walks that erase marks

Every vertex of a graph has at most one successor, `next`, and some of the vertices are marked.  A
walk visits a vertex, erases its mark and goes on with the successor, until there is none or it
meets a vertex without a mark.  `Walk` is the list of vertices it visits.  Such a walk ends on a
finite graph even where the successors form a cycle; it visits what can be reached through marked
vertices (`Walk.mem_iff`), and as much as it can of the chain of successors (`Walk.chain`,
`Walk.longest`).

Nothing here mentions a particular program.
-/

namespace SledServer.Core

universe u

variable {V : Type u} (next : V → Option V)

/-- The vertices that follow `i`, starting with itself. -/
def chain (i : V) : ℕ → Option V
  | 0 => some i
  | n + 1 => (chain i n).bind next

/-- `j` follows `i`. -/
def Follows : V → V → Prop := Relation.ReflTransGen fun a b => next a = some b

/-- `j` follows `i`, with all vertices from `i` to `j` in `S`. -/
def FollowsIn (S : Set V) (i j : V) : Prop :=
  i ∈ S ∧ Relation.ReflTransGen (fun a b => next a = some b ∧ b ∈ S) i j

/-- The vertices that a walk from `i` visits, where the vertices of `S` are marked. -/
inductive Walk : Set V → V → List V → Prop
  | stop {S : Set V} {i : V} (h : i ∉ S) : Walk S i []
  | last {S : Set V} {i : V} (h : i ∈ S) (hn : next i = none) : Walk S i [i]
  | step {S : Set V} {i j : V} {vs : List V} (h : i ∈ S) (hn : next i = some j)
      (hw : Walk (S \ {i}) j vs) : Walk S i (i :: vs)

variable {next} {S T : Set V} {i j : V} {vs : List V}

lemma chain_succ (i : V) (n : ℕ) :
    chain next i (n + 1) = (next i).bind fun j => chain next j n := by
  induction n with
  | zero => cases h : next i <;> simp [chain, h]
  | succ n ih =>
    rw [chain, ih, Option.bind_assoc]
    rfl

namespace FollowsIn

lemma refl (h : i ∈ S) : FollowsIn next S i i := ⟨h, .refl⟩

lemma mono (hST : S ⊆ T) (h : FollowsIn next S i j) : FollowsIn next T i j :=
  ⟨hST h.1, Relation.ReflTransGen.mono (fun _ _ hstep => ⟨hstep.1, hST hstep.2⟩) _ _ h.2⟩

lemma head {k : V} (hi : i ∈ S) (hn : next i = some k) (h : FollowsIn next S k j) :
    FollowsIn next S i j := ⟨hi, .head ⟨hn, h.1⟩ h.2⟩

end FollowsIn

namespace Walk

lemma subset (h : Walk next S i vs) : ∀ v ∈ vs, v ∈ S := by
  induction h with
  | stop => simp
  | last hi => simpa using hi
  | step hi _ _ ih => exact List.forall_mem_cons.mpr ⟨hi, fun v hv => (ih v hv).1⟩

lemma nodup (h : Walk next S i vs) : vs.Nodup := by
  induction h with
  | stop => exact List.nodup_nil
  | last => simp
  | step _ _ hw ih => exact List.nodup_cons.mpr ⟨fun hi => (hw.subset _ hi).2 rfl, ih⟩

lemma head_mem (h : Walk next S i vs) (hi : i ∈ S) : i ∈ vs := by
  cases h with
  | stop hno => exact absurd hi hno
  | last | step => exact List.mem_cons_self

/-- A walk that visits a vertex visits the next one, unless that has no mark. -/
lemma closed (h : Walk next S i vs) {a b : V} (ha : a ∈ vs) (hn : next a = some b) (hb : b ∈ S) :
    b ∈ vs := by
  induction h with
  | stop => cases ha
  | last _ hnone =>
    rw [List.mem_singleton.mp ha, hnone] at hn
    cases hn
  | @step S i j vs _ hij hw ih =>
    by_cases hbi : b = i
    · exact hbi ▸ List.mem_cons_self
    · have hb' : b ∈ S \ {i} := ⟨hb, hbi⟩
      rcases List.mem_cons.mp ha with rfl | ha
      · obtain rfl : j = b := Option.some.inj (hij.symm.trans hn)
        exact List.mem_cons_of_mem _ (hw.head_mem hb')
      · exact List.mem_cons_of_mem _ (ih ha hb')

/-- A walk visits what can be reached through marked vertices. -/
lemma mem_iff (h : Walk next S i vs) : j ∈ vs ↔ FollowsIn next S i j := by
  constructor
  · intro hj
    induction h with
    | stop => cases hj
    | last hi =>
      rw [List.mem_singleton.mp hj]
      exact .refl hi
    | step hi hn _ ih =>
      rcases List.mem_cons.mp hj with rfl | hj
      · exact .refl hi
      · exact .head hi hn ((ih hj).mono fun _ hv => hv.1)
  · rintro ⟨hi, hpath⟩
    induction hpath with
    | refl => exact h.head_mem hi
    | tail _ hstep ih => exact h.closed ih hstep.1 hstep.2

/-- The vertices that a walk visits are those of the chain, in order. -/
lemma chain (h : Walk next S i vs) {n : ℕ} {v : V} (hv : vs[n]? = some v) :
    Core.chain next i n = some v := by
  induction h generalizing n with
  | stop => simp at hv
  | last =>
    obtain ⟨hn, rfl⟩ := List.getElem?_eq_some_iff.mp hv
    obtain rfl : n = 0 := by simpa using hn
    rfl
  | step _ hij _ ih =>
    cases n with
    | zero => simpa [Core.chain] using hv
    | succ n =>
      rw [chain_succ, hij]
      exact ih (by simpa using hv)

/-- Where a walk ends, the chain ends, or goes on with a vertex that has no mark left. -/
lemma longest (h : Walk next S i vs) {v : V} (hv : Core.chain next i vs.length = some v) :
    v ∈ S → v ∈ vs := by
  induction h with
  | stop hno =>
    cases hv
    exact fun hi => absurd hi hno
  | last _ hn => simp [Core.chain, hn] at hv
  | @step S i j vs _ hij _ ih =>
    intro hS
    by_cases hvi : v = i
    · exact hvi ▸ List.mem_cons_self
    · rw [List.length_cons, chain_succ, hij] at hv
      exact List.mem_cons_of_mem _ (ih hv ⟨hS, hvi⟩)

end Walk

end SledServer.Core
