import Mathlib.Algebra.GroupWithZero.Nat
import Mathlib.Computability.Language
import Mathlib.Data.List.Basic

/-!
# Bottom-up parsing with error recovery

The parser that Bison makes of a grammar.  A state of its automaton is a set of items, rules with a
mark in them; the parser keeps a stack of states with a symbol and a value in each, and shifts the
next token, reduces a rule at the top of the stack, or recovers from an error by way of the token
`error`.  The actions of the rules compute values and change a parameter of the parser.

In each state Bison makes one of the reductions the default, which is taken whenever the next token
cannot be shifted.  Where no state has two complete items, as is the case for the grammars of
interest here, that is the only one, and lookahead sets play no role (`Grammar.reduce?`).

`run_accept` is the soundness of the parser: what it accepts without an error is derived by the
grammar, and the parameter has been changed by the actions of the derivation, in order.
`runEffect_isSome` says how long it takes.

Nothing here mentions a particular grammar.
-/

namespace SledServer.Core.Lr

variable {T N V σ : Type}

/-! ## Grammars -/

/-- A rule, and its action: the value of its left side, and what becomes of the parameter. -/
structure Rule (T N V σ : Type) where
  lhs : N
  rhs : List (Symbol T N)
  value : List V → V
  effect : List V → σ → σ

/-- A grammar.  Bison adds the rule `$accept: start $end`. -/
structure Grammar (T N V σ : Type) where
  start : N
  rules : List (Rule T N V σ)
  /-- `$end` -/
  eof : T
  error : T

/-- What is left of a grammar without the actions. -/
structure Shape (T N : Type) where
  start : N
  rules : List (N × List (Symbol T N))
  eof : T
  error : T

def Grammar.shape (G : Grammar T N V σ) : Shape T N :=
  ⟨G.start, G.rules.map fun r => (r.lhs, r.rhs), G.eof, G.error⟩

/-- A token and its value. -/
abbrev Token (T V : Type) := T × V

/-! ## Derivations -/

mutual

/-- `Derives G X u v f`: the symbol `X` derives the tokens `u`, its value is `v`, and the actions
of the derivation, from left to right, change the parameter by `f`. -/
inductive Derives (G : Grammar T N V σ) : Symbol T N → List (Token T V) → V → (σ → σ) → Prop
  | terminal (t : T) (v : V) : Derives G (.terminal t) [(t, v)] v id
  | rule {r : Rule T N V σ} {u : List (Token T V)} {vs : List V} {f : σ → σ} (hr : r ∈ G.rules)
      (h : DerivesAll G r.rhs u vs f) :
      Derives G (.nonterminal r.lhs) u (r.value vs) (r.effect vs ∘ f)

/-- The same for a list of symbols. -/
inductive DerivesAll (G : Grammar T N V σ) :
    List (Symbol T N) → List (Token T V) → List V → (σ → σ) → Prop
  | nil : DerivesAll G [] [] [] id
  | cons {X : Symbol T N} {Xs : List (Symbol T N)} {u w : List (Token T V)} {v : V} {vs : List V}
      {f g : σ → σ} (h : Derives G X u v f) (hs : DerivesAll G Xs w vs g) :
      DerivesAll G (X :: Xs) (u ++ w) (v :: vs) (g ∘ f)

end

section DerivesAll

variable {G : Grammar T N V σ} {X : Symbol T N} {Xs Ys : List (Symbol T N)}
  {u w : List (Token T V)} {v : V} {vs ws : List V} {f g : σ → σ}

lemma derives_terminal {t : T} : Derives G (.terminal t) u v f ↔ u = [(t, v)] ∧ f = id := by
  constructor
  · rintro ⟨⟩
    exact ⟨rfl, rfl⟩
  · rintro ⟨rfl, rfl⟩
    exact .terminal t v

lemma derives_nonterminal [DecidableEq N] {n : N} : Derives G (.nonterminal n) u v f ↔
    ∃ r ∈ G.rules.filter (·.lhs = n), ∃ vs g, DerivesAll G r.rhs u vs g ∧ v = r.value vs ∧
      f = r.effect vs ∘ g := by
  constructor
  · rintro ⟨⟩
    next r vs g hr h => exact ⟨r, by simpa using hr, vs, g, h, rfl, rfl⟩
  · rintro ⟨r, hr, vs, g, h, rfl, rfl⟩
    simp only [List.mem_filter, decide_eq_true_eq] at hr
    obtain ⟨hr, rfl⟩ := hr
    exact .rule hr h

lemma derivesAll_nil : DerivesAll G [] u vs f ↔ u = [] ∧ vs = [] ∧ f = id := by
  constructor
  · rintro ⟨⟩
    exact ⟨rfl, rfl, rfl⟩
  · rintro ⟨rfl, rfl, rfl⟩
    exact .nil

lemma derivesAll_cons : DerivesAll G (X :: Xs) u vs f ↔
    ∃ u₁ u₂ v ws f₁ f₂, u = u₁ ++ u₂ ∧ vs = v :: ws ∧ f = f₂ ∘ f₁ ∧ Derives G X u₁ v f₁ ∧
      DerivesAll G Xs u₂ ws f₂ := by
  constructor
  · rintro ⟨⟩
    next h hs => exact ⟨_, _, _, _, _, _, rfl, rfl, rfl, h, hs⟩
  · rintro ⟨u₁, u₂, v, ws, f₁, f₂, rfl, rfl, rfl, h, hs⟩
    exact .cons h hs

lemma DerivesAll.length (h : DerivesAll G Xs u vs f) : vs.length = Xs.length := by
  induction Xs generalizing u vs f with
  | nil => cases h; rfl
  | cons X Xs ih =>
    cases h with
    | cons _ hs => simp [ih hs]

lemma DerivesAll.append (h : DerivesAll G Xs u vs f) (h' : DerivesAll G Ys w ws g) :
    DerivesAll G (Xs ++ Ys) (u ++ w) (vs ++ ws) (g ∘ f) := by
  induction Xs generalizing u vs f with
  | nil =>
    cases h
    exact h'
  | cons X Xs ih =>
    cases h with
    | cons hX hXs =>
      rw [List.append_assoc, ← Function.comp_assoc]
      exact .cons hX (ih hXs)

lemma DerivesAll.snoc (h : DerivesAll G Xs u vs f) (h' : Derives G X w v g) :
    DerivesAll G (Xs ++ [X]) (u ++ w) (vs ++ [v]) (g ∘ f) := by
  have hone : DerivesAll G [X] (w ++ []) [v] (id ∘ g) := .cons h' .nil
  rw [List.append_nil, Function.id_comp] at hone
  exact h.append hone

/-- What a list of symbols derives can be cut where the list is. -/
lemma DerivesAll.split (h : DerivesAll G (Xs ++ Ys) u vs f) :
    ∃ u₁ u₂ vs₁ vs₂ f₁ f₂, u = u₁ ++ u₂ ∧ vs = vs₁ ++ vs₂ ∧ f = f₂ ∘ f₁ ∧
      DerivesAll G Xs u₁ vs₁ f₁ ∧ DerivesAll G Ys u₂ vs₂ f₂ := by
  induction Xs generalizing u vs f with
  | nil => exact ⟨[], u, [], vs, id, f, rfl, rfl, rfl, .nil, h⟩
  | cons X Xs ih =>
    cases h with
    | @cons _ _ u₀ _ v₀ _ f₀ _ hX hXs =>
      obtain ⟨u₁, u₂, vs₁, vs₂, f₁, f₂, rfl, rfl, rfl, h₁, h₂⟩ := ih hXs
      exact ⟨u₀ ++ u₁, u₂, v₀ :: vs₁, vs₂, f₁ ∘ f₀, f₂, (List.append_assoc ..).symm, rfl, rfl,
        .cons hX h₁, h₂⟩

end DerivesAll

/-! ## The automaton -/

/-- A rule, by its place in the grammar, or `$accept: start $end`, with the part of its right side
that is still to come. -/
structure Item (T N : Type) where
  rule : Option ℕ
  rest : List (Symbol T N)
  deriving DecidableEq

/-- The nonterminals that the items of a state wait for. -/
def awaited (S : List (Item T N)) : List N :=
  S.filterMap fun i =>
    match i.rest with
    | .nonterminal n :: _ => some n
    | _ => none

/-- The rule that the state reduces if the next token cannot be shifted. -/
def reduce? (S : List (Item T N)) : Option ℕ :=
  S.findSome? fun i => if i.rest.isEmpty then i.rule else none

/-- An item of the state waits for `X`. -/
def expects [DecidableEq T] [DecidableEq N] (S : List (Item T N)) (X : Symbol T N) : Bool :=
  S.any fun i => i.rest.head? == some X

namespace Shape

variable (B : Shape T N)

/-- The right side of a rule. -/
def rhs : Option ℕ → List (Symbol T N)
  | none => [.nonterminal B.start, .terminal B.eof]
  | some k => (B.rules[k]?.map Prod.snd).getD []

variable [DecidableEq T] [DecidableEq N]

/-- The items at the beginning of the rules for some nonterminals. -/
def opening (ns : List N) : List (Item T N) :=
  (B.rules.zipIdx.filter fun r => ns.contains r.1.1).map fun r => ⟨some r.2, r.1.2⟩

/-- The items at the beginning of the rules for the nonterminals `ns`, and of those that they wait
for in turn; `done` has been dealt with already. -/
def openAll : ℕ → List N → List N → List (Item T N)
  | 0, _, _ => []
  | n + 1, done, ns =>
    match ns.filter fun m => !done.contains m with
    | [] => []
    | ns => B.opening ns ++ openAll n (done ++ ns) (awaited (B.opening ns))

/-- All items that follow from those of the state. -/
def closure (S : List (Item T N)) : List (Item T N) :=
  S ++ B.openAll B.rules.length [] (awaited S)

/-- The state in which the parser starts. -/
def startState : List (Item T N) := B.closure [⟨none, B.rhs none⟩]

/-- The state after `X`. -/
def goto (S : List (Item T N)) (X : Symbol T N) : List (Item T N) :=
  B.closure ((S.filter fun i => i.rest.head? == some X).map fun i => ⟨i.rule, i.rest.tail⟩)

end Shape

/-! ## The parser -/

/-- A state, the symbol that led to it and the value of the symbol. -/
structure Frame (T N V : Type) where
  state : List (Item T N)
  symbol : Symbol T N
  value : V

/-- The stack of the parser, the tokens it has not shifted yet, and `yyerrstatus`. -/
structure Config (T N V : Type) where
  stack : List (Frame T N V)
  input : List (Token T V)
  errStatus : ℕ

/-- What the parser does next; a step also changes the parameter. -/
inductive Outcome (T N V σ : Type)
  | next (c : Config T N V) (f : σ → σ)
  | accept
  | abort

section Stack

variable (B : Shape T N) [DecidableEq T] [DecidableEq N]

/-- The state at the top of the stack. -/
def top : List (Frame T N V) → List (Item T N)
  | [] => B.startState
  | frame :: _ => frame.state

/-- The stack with one more symbol. -/
def push (X : Symbol T N) (v : V) (stack : List (Frame T N V)) : List (Frame T N V) :=
  ⟨B.goto (top B stack) X, X, v⟩ :: stack

/-- The next token. -/
def lookahead : List (Token T V) → T
  | [] => B.eof
  | token :: _ => token.1

/-- The rest of the stack after everything has been taken off that does not wait for `error`. -/
def unwind : List (Frame T N V) → Option (List (Frame T N V))
  | [] => if expects B.startState (.terminal B.error) then some [] else none
  | frame :: stack =>
    if expects frame.state (.terminal B.error) then some (frame :: stack) else unwind stack

/-- The symbols on the stack, from the bottom. -/
def symbols (stack : List (Frame T N V)) : List (Symbol T N) := (stack.map Frame.symbol).reverse

/-- The values on the stack, from the bottom. -/
def values (stack : List (Frame T N V)) : List V := (stack.map Frame.value).reverse

end Stack

section Parser

variable (G : Grammar T N V σ) [DecidableEq T] [DecidableEq N] [Inhabited V]

/-- `yyerrlab1`: shift `error` in the topmost state that can. -/
def recover (stack : List (Frame T N V)) (input : List (Token T V)) : Outcome T N V σ :=
  match unwind G.shape stack with
  | none => .abort
  | some stack => .next ⟨push G.shape (.terminal G.error) default stack, input, 3⟩ id

/-- `yyerrlab`.  A token that fails again right after an error is thrown away. -/
def fail (c : Config T N V) : Outcome T N V σ :=
  if c.errStatus = 3 then
    match c.input with
    | [] => .abort
    | _ :: input => recover G c.stack input
  else recover G c.stack c.input

/-- One step of `yyparse`. -/
def step (c : Config T N V) : Outcome T N V σ :=
  if expects (top G.shape c.stack) (.terminal (lookahead G.shape c.input)) then
    match c.input with
    | [] => .accept
    | (t, v) :: input => .next ⟨push G.shape (.terminal t) v c.stack, input, c.errStatus - 1⟩ id
  else
    match (reduce? (top G.shape c.stack)).bind (G.rules[·]?) with
    | some r =>
      let vs := values (c.stack.take r.rhs.length)
      .next
        ⟨push G.shape (.nonterminal r.lhs) (r.value vs) (c.stack.drop r.rhs.length), c.input,
          c.errStatus⟩
        (r.effect vs)
    | none => fail G c

/-- The run of the parser: whether it accepts, and the parameter then. -/
def runParser : ℕ → Config T N V → σ → Option (Bool × σ)
  | 0, _, _ => none
  | n + 1, c, s =>
    match step G c with
    | .next c f => runParser n c (f s)
    | .accept => some (true, s)
    | .abort => some (false, s)

/-- The configuration in which the parser starts. -/
def begin (input : List (Token T V)) : Config T N V := ⟨[], input, 0⟩

/-- Whether the parser accepts, and what it does to the parameter, whatever that is. -/
def runEffect : ℕ → Config T N V → Option (Bool × (σ → σ))
  | 0, _ => none
  | n + 1, c =>
    match step G c with
    | .next c f => (runEffect n c).map fun r => (r.1, r.2 ∘ f)
    | .accept => some (true, id)
    | .abort => some (false, id)

variable {G}

/-- A run after its first step. -/
lemma runEffect_of_next {n : ℕ} {c c' : Config T N V} {f g : σ → σ} {b : Bool}
    (hrun : runEffect G n c = some (b, g)) (hstep : step G c = .next c' f) :
    ∃ m g', n = m + 1 ∧ runEffect G m c' = some (b, g') ∧ g = g' ∘ f := by
  cases n with
  | zero => simp [runEffect] at hrun
  | succ m =>
    simp only [runEffect, hstep, Option.map_eq_some_iff] at hrun
    obtain ⟨⟨b, g'⟩, hrun, heq⟩ := hrun
    cases heq
    exact ⟨m, g', rfl, hrun, rfl⟩

/-- What the parser does does not depend on its parameter. -/
lemma runParser_eq (n : ℕ) (c : Config T N V) (s : σ) :
    runParser G n c s = (runEffect G n c).map fun r => (r.1, r.2 s) := by
  induction n generalizing c s with
  | zero => rfl
  | succ n ih =>
    unfold runParser runEffect
    cases step G c with
    | next c f =>
      simp only [ih, Option.map_map]
      rfl
    | accept => rfl
    | abort => rfl

end Parser

/-! ## Items and the stack -/

section Items

variable {B : Shape T N} {S : List (Item T N)} {i : Item T N}

lemma rhs_of_rule {k : ℕ} {r : N × List (Symbol T N)} (h : B.rules[k]? = some r) :
    B.rhs (some k) = r.2 := by
  simp [Shape.rhs, h]

lemma exists_of_reduce? {k : ℕ} (h : reduce? S = some k) : (⟨some k, []⟩ : Item T N) ∈ S := by
  obtain ⟨i, hi, hk⟩ := List.exists_of_findSome?_eq_some h
  obtain ⟨rule, rest⟩ := i
  cases rest with
  | nil =>
    obtain rfl : rule = some k := by simpa using hk
    exact hi
  | cons X rest => simp at hk

variable [DecidableEq N]

lemma mem_opening {ns : List N} (h : i ∈ B.opening ns) :
    ∃ k r, B.rules[k]? = some r ∧ i = ⟨some k, r.2⟩ ∧ r.1 ∈ ns := by
  simp only [Shape.opening, List.mem_map, List.mem_filter, List.contains_iff_mem] at h
  obtain ⟨⟨r, k⟩, ⟨hr, hn⟩, rfl⟩ := h
  exact ⟨k, r, List.mem_zipIdx_iff_getElem?.mp hr, rfl, hn⟩

/-- What has been opened was waited for: from the beginning, or by something opened as well. -/
lemma mem_openAll {n : ℕ} {done ns : List N} (h : i ∈ B.openAll n done ns) :
    ∃ k r, B.rules[k]? = some r ∧ i = ⟨some k, r.2⟩ ∧
      (r.1 ∈ ns ∨ r.1 ∈ awaited (B.openAll n done ns)) := by
  induction n generalizing done ns with
  | zero => simp [Shape.openAll] at h
  | succ n ih =>
    unfold Shape.openAll at h ⊢
    split at h
    · simp at h
    next new hnew =>
      simp only [awaited, List.filterMap_append, List.mem_append] at h ⊢
      rcases h with h | h
      · obtain ⟨k, r, hr, rfl, hn⟩ := mem_opening h
        have hmem : r.1 ∈ ns := List.mem_of_mem_filter hn
        exact ⟨k, r, hr, rfl, .inl hmem⟩
      · obtain ⟨k, r, hr, rfl, hn⟩ := ih h
        exact ⟨k, r, hr, rfl, .inr hn⟩

/-- An item of a state is one that it has been made of, or at the beginning of a rule that the state
waits for. -/
lemma mem_closure (h : i ∈ B.closure S) : i ∈ S ∨
    ∃ k r, B.rules[k]? = some r ∧ i = ⟨some k, r.2⟩ ∧ r.1 ∈ awaited (B.closure S) := by
  simp only [Shape.closure, List.mem_append] at h
  rcases h with h | h
  · exact .inl h
  · obtain ⟨k, r, hr, rfl, hn⟩ := mem_openAll h
    refine .inr ⟨k, r, hr, rfl, ?_⟩
    simp only [Shape.closure, awaited, List.filterMap_append, List.mem_append]
    exact hn

variable [DecidableEq T]

lemma exists_of_expects {X : Symbol T N} (h : expects S X = true) :
    ∃ i ∈ S, i.rest.head? = some X := by
  simpa [expects] using h

lemma expects_of_awaited {n : N} (h : n ∈ awaited S) : expects S (.nonterminal n) = true := by
  obtain ⟨i, hi, hn⟩ := List.mem_filterMap.mp h
  obtain ⟨rule, rest⟩ := i
  simp only [expects, List.any_eq_true]
  refine ⟨_, hi, ?_⟩
  split at hn
  next m rest' hrest =>
    obtain rfl : m = n := by simpa using hn
    have hrest : rest = .nonterminal m :: rest' := hrest
    simp [hrest]
  next => cases hn

lemma mem_goto {X : Symbol T N} (h : i ∈ B.goto S X) :
    (∃ j ∈ S, j.rest = X :: i.rest ∧ j.rule = i.rule) ∨
    ∃ k r, B.rules[k]? = some r ∧ i = ⟨some k, r.2⟩ ∧ r.1 ∈ awaited (B.goto S X) := by
  rcases mem_closure h with h | h
  · simp only [List.mem_map, List.mem_filter, beq_iff_eq] at h
    obtain ⟨⟨rule, rest⟩, ⟨hj, hX⟩, rfl⟩ := h
    refine .inl ⟨_, hj, ?_, rfl⟩
    obtain ⟨rest', rfl⟩ := List.head?_eq_some_iff.mp hX
    rfl
  · exact .inr h

end Items

section Paths

variable {B : Shape T N} [DecidableEq T] [DecidableEq N] {i : Item T N}

/-- Each state of the stack is the one that comes after the state below it. -/
def Path (B : Shape T N) : List (Frame T N V) → Prop
  | [] => True
  | frame :: stack =>
    frame.state = B.goto (top B stack) frame.symbol ∧
      expects (top B stack) frame.symbol = true ∧ Path B stack

variable {stack above under : List (Frame T N V)}

lemma Path.of_append (h : Path B (above ++ under)) : Path B under := by
  induction above with
  | nil => exact h
  | cons frame above ih => exact ih h.2.2

lemma Path.push {X : Symbol T N} {v : V} (h : Path B stack) (hX : expects (top B stack) X = true) :
    Path B (push B X v stack) := ⟨rfl, hX, h⟩

/-- What is behind the mark of an item is at the top of the stack, and the item at the beginning of
its rule is in the state below. -/
lemma Path.item (h : Path B stack) (hi : i ∈ top B stack) : ∃ above below,
    stack = above ++ below ∧ B.rhs i.rule = symbols above ++ i.rest ∧
      ⟨i.rule, B.rhs i.rule⟩ ∈ top B below := by
  induction stack generalizing i with
  | nil =>
    refine ⟨[], [], rfl, ?_⟩
    rcases mem_closure hi with hi' | ⟨k, r, hr, rfl, -⟩
    · obtain rfl := List.mem_singleton.mp hi'
      exact ⟨rfl, hi⟩
    · rw [rhs_of_rule hr]
      exact ⟨rfl, hi⟩
  | cons frame stack ih =>
    have hstate : i ∈ B.goto (top B stack) frame.symbol := h.1 ▸ hi
    rcases mem_goto hstate with ⟨j, hj, hrest, hrule⟩ | ⟨k, r, hr, rfl, -⟩
    · obtain ⟨above, below, rfl, hrhs, hbelow⟩ := ih h.2.2 hj
      rw [hrule] at hrhs hbelow
      refine ⟨frame :: above, below, rfl, ?_, hbelow⟩
      rw [hrhs, hrest]
      simp [symbols]
    · refine ⟨[], frame :: stack, rfl, ?_⟩
      rw [rhs_of_rule hr]
      exact ⟨rfl, hi⟩

/-- No item has its whole right side in front of its mark, and a symbol more. -/
lemma Path.rest_ne (h : Path B stack) {j : Item T N} {X : Symbol T N} {rule : Option ℕ}
    (hj : j ∈ top B stack) (hrule : j.rule = rule) : j.rest ≠ X :: B.rhs rule := by
  intro hrest
  obtain ⟨above, -, -, hrhs, -⟩ := h.item hj
  have hlen := congrArg List.length hrhs
  rw [List.length_append, hrest, hrule, List.length_cons] at hlen
  omega

/-- The beginning of `$accept: start $end` is in the first state only. -/
lemma Path.root (h : Path B stack) (hi : ⟨none, B.rhs none⟩ ∈ top B stack) : stack = [] := by
  cases stack with
  | nil => rfl
  | cons frame stack =>
    have hstate : ⟨none, B.rhs none⟩ ∈ B.goto (top B stack) frame.symbol := h.1 ▸ hi
    rcases mem_goto hstate with ⟨j, hj, hrest, hrule⟩ | ⟨k, r, -, heq, -⟩
    · exact absurd hrest (h.2.2.rest_ne hj hrule)
    · cases heq

/-- A state has the beginning of a rule if it waits for what the rule makes. -/
lemma Path.opened {k : ℕ} {r : N × List (Symbol T N)} (h : Path B stack) (hr : B.rules[k]? = some r)
    (hi : ⟨some k, r.2⟩ ∈ top B stack) : expects (top B stack) (.nonterminal r.1) = true := by
  apply expects_of_awaited
  have hsame : ∀ {k' : ℕ} {r' : N × List (Symbol T N)}, B.rules[k']? = some r' →
      (⟨some k, r.2⟩ : Item T N) = ⟨some k', r'.2⟩ → r' = r := by
    intro k' r' hr' heq
    obtain rfl : k = k' := Option.some.inj (congrArg Item.rule heq)
    exact Option.some.inj (hr'.symm.trans hr)
  cases stack with
  | nil =>
    rcases mem_closure hi with hroot | ⟨k', r', hr', heq, hn⟩
    · cases List.mem_singleton.mp hroot
    · obtain rfl := hsame hr' heq
      exact hn
  | cons frame stack =>
    have hstate : ⟨some k, r.2⟩ ∈ B.goto (top B stack) frame.symbol := h.1 ▸ hi
    show r.1 ∈ awaited frame.state
    rw [h.1]
    rcases mem_goto hstate with ⟨j, hj, hrest, hrule⟩ | ⟨k', r', hr', heq, hn⟩
    · refine absurd (hrest.trans ?_) (h.2.2.rest_ne (X := frame.symbol) hj hrule)
      rw [rhs_of_rule hr]
    · obtain rfl := hsame hr' heq
      exact hn

/-- A symbol that a state waits for stands in a rule.  What is in front of it there is at the top of
the stack, and the state below waits for what the rule makes. -/
lemma Path.origin (h : Path B stack) {X : Symbol T N} (hX : expects (top B stack) X = true) :
    ∃ above below rest, stack = above ++ below ∧
      ((B.rhs none = symbols above ++ X :: rest ∧ below = []) ∨
        ∃ r ∈ B.rules, r.2 = symbols above ++ X :: rest ∧
          expects (top B below) (.nonterminal r.1) = true) := by
  obtain ⟨i, hi, hhead⟩ := exists_of_expects hX
  obtain ⟨rest, hrest⟩ := List.head?_eq_some_iff.mp hhead
  obtain ⟨above, below, rfl, hrhs, hbelow⟩ := h.item hi
  rw [hrest] at hrhs
  refine ⟨above, below, rest, rfl, ?_⟩
  cases hrule : i.rule with
  | none =>
    rw [hrule] at hrhs hbelow
    exact .inl ⟨hrhs, h.of_append.root hbelow⟩
  | some k =>
    rw [hrule] at hrhs hbelow
    cases hr : B.rules[k]? with
    | none => simp [Shape.rhs, hr] at hrhs
    | some r =>
      rw [rhs_of_rule hr] at hrhs hbelow
      exact .inr ⟨r, List.mem_of_getElem? hr, hrhs, h.of_append.opened hr hbelow⟩

end Paths

/-! ## Soundness -/

section Soundness

variable {G : Grammar T N V σ} {toks : List (Token T V)} {c c' : Config T N V} {f g : σ → σ}

lemma shape_rules {k : ℕ} {r : Rule T N V σ} (h : G.rules[k]? = some r) :
    G.shape.rules[k]? = some (r.lhs, r.rhs) := by
  simp [Grammar.shape, h]

lemma rule_of_shape {k : ℕ} (h : G.shape.rhs (some k) ≠ []) :
    ∃ r, G.rules[k]? = some r ∧ G.shape.rhs (some k) = r.rhs := by
  cases hr : G.rules[k]? with
  | none => simp [Shape.rhs, Grammar.shape, hr] at h
  | some r => exact ⟨r, rfl, rhs_of_rule (shape_rules hr)⟩

lemma symbols_take_append (n : ℕ) (stack : List (Frame T N V)) :
    symbols (stack.drop n) ++ symbols (stack.take n) = symbols stack := by
  rw [symbols, symbols, ← List.reverse_append, ← List.map_append, List.take_append_drop, symbols]

lemma values_take_append (n : ℕ) (stack : List (Frame T N V)) :
    values (stack.drop n) ++ values (stack.take n) = values stack := by
  rw [values, values, ← List.reverse_append, ← List.map_append, List.take_append_drop, values]

variable [DecidableEq T] [DecidableEq N]

/-- The parser has made no error so far: the symbols on its stack derive the tokens that it has
shifted. -/
structure Sound (G : Grammar T N V σ) (toks : List (Token T V)) (c : Config T N V) (f : σ → σ) :
    Prop where
  path : Path G.shape c.stack
  status : c.errStatus = 0
  derives : ∃ used, toks = used ++ c.input ∧ DerivesAll G (symbols c.stack) used (values c.stack) f

/-- The parser has come to an error. -/
def Stuck (G : Grammar T N V σ) (c : Config T N V) : Prop :=
  expects (top G.shape c.stack) (.terminal (lookahead G.shape c.input)) = false ∧
    (reduce? (top G.shape c.stack)).bind (G.rules[·]?) = none

/-- Only `$accept: start $end` has the end in it. -/
def EofLast (G : Grammar T N V σ) : Prop := ∀ r ∈ G.rules, .terminal G.eof ∉ r.rhs

/-- A rule that is reduced is at the top of the stack. -/
lemma Path.reduced {stack : List (Frame T N V)} (h : Path G.shape stack) {k : ℕ} {r : Rule T N V σ}
    (hk : reduce? (top G.shape stack) = some k) (hr : G.rules[k]? = some r) :
    symbols (stack.take r.rhs.length) = r.rhs ∧
      Path G.shape (stack.drop r.rhs.length) ∧
      expects (top G.shape (stack.drop r.rhs.length)) (.nonterminal r.lhs) = true := by
  obtain ⟨above, below, rfl, hrhs, hbelow⟩ := h.item (exists_of_reduce? hk)
  have hrule : G.shape.rhs (some k) = r.rhs := rhs_of_rule (shape_rules hr)
  rw [hrule, List.append_nil] at hrhs
  have hlen : r.rhs.length = above.length := by
    rw [hrhs]
    simp [symbols]
  rw [hlen, List.take_left, List.drop_left]
  rw [hrule] at hbelow
  exact ⟨hrhs.symm, h.of_append, h.of_append.opened (shape_rules hr) hbelow⟩

lemma Sound.shift {t : T} {v : V} {input : List (Token T V)} (h : Sound G toks c f)
    (hin : c.input = (t, v) :: input)
    (hX : expects (top G.shape c.stack) (.terminal t) = true) :
    Sound G toks ⟨push G.shape (.terminal t) v c.stack, input, c.errStatus - 1⟩ f := by
  obtain ⟨used, htoks, hderives⟩ := h.derives
  refine ⟨h.path.push hX, by simp [h.status], used ++ [(t, v)], ?_, ?_⟩
  · rw [htoks, hin]
    simp
  · simpa [symbols, values, push] using hderives.snoc (.terminal t v)

lemma Sound.reduce {k : ℕ} {r : Rule T N V σ} (h : Sound G toks c f)
    (hk : reduce? (top G.shape c.stack) = some k) (hr : G.rules[k]? = some r) :
    Sound G toks
      ⟨push G.shape (.nonterminal r.lhs) (r.value (values (c.stack.take r.rhs.length)))
        (c.stack.drop r.rhs.length), c.input, c.errStatus⟩
      (r.effect (values (c.stack.take r.rhs.length)) ∘ f) := by
  obtain ⟨hsymbols, hpath, hX⟩ := h.path.reduced hk hr
  obtain ⟨used, htoks, hderives⟩ := h.derives
  refine ⟨hpath.push hX, h.status, used, htoks, ?_⟩
  rw [← symbols_take_append r.rhs.length, hsymbols] at hderives
  obtain ⟨u₁, u₂, vs₁, vs₂, f₁, f₂, rfl, hvs, rfl, h₁, h₂⟩ := hderives.split
  have hlen : (values (c.stack.drop r.rhs.length)).length = vs₁.length := by
    rw [h₁.length]
    simp [symbols, values]
  obtain ⟨rfl, rfl⟩ := List.append_inj ((values_take_append r.rhs.length c.stack).trans hvs) hlen
  have hrule := h₁.snoc (.rule (List.mem_of_getElem? hr) h₂)
  simpa [symbols, values, push, Function.comp_assoc] using hrule

/-- When the parser accepts, the start symbol is all that is on its stack. -/
lemma Sound.accept (h : Sound G toks c f) (heof : EofLast G) (hin : c.input = [])
    (hX : expects (top G.shape c.stack) (.terminal G.eof) = true) :
    ∃ v, Derives G (.nonterminal G.start) toks v f := by
  obtain ⟨i, hi, hhead⟩ := exists_of_expects hX
  obtain ⟨rest, hrest⟩ := List.head?_eq_some_iff.mp hhead
  obtain ⟨above, below, hstack, hrhs, hbelow⟩ := h.path.item hi
  obtain ⟨used, htoks, hderives⟩ := h.derives
  rw [hrest] at hrhs
  cases hrule : i.rule with
  | some k =>
    rw [hrule] at hrhs
    obtain ⟨r, hr, hr'⟩ := rule_of_shape (k := k) (G := G) (by rw [hrhs]; simp)
    refine absurd ?_ (heof r (List.mem_of_getElem? hr))
    rw [← hr', hrhs]
    simp
  | none =>
    rw [hrule] at hrhs hbelow
    obtain rfl := (hstack ▸ h.path : Path G.shape (above ++ below)).of_append.root hbelow
    have hsymbols : symbols c.stack = [.nonterminal G.start] := by
      rw [hstack, List.append_nil]
      have hpair : [.nonterminal G.start, .terminal G.eof] =
          symbols above ++ .terminal G.eof :: rest :=
        hrhs
      cases habove : symbols above with
      | nil => simp [habove] at hpair
      | cons X Xs =>
        cases Xs with
        | nil => simp_all
        | cons Y Ys =>
          have hlen := congrArg List.length hpair
          simp [habove] at hlen
    rw [hsymbols] at hderives
    generalize hvs : values c.stack = vs at hderives
    cases hderives with
    | @cons _ _ u _ v _ _ _ hstart hnil =>
      cases hnil
      refine ⟨v, ?_⟩
      rw [htoks, hin, List.append_nil, List.append_nil]
      exact hstart

lemma Sound.begin (toks : List (Token T V)) : Sound G toks (begin toks) id :=
  ⟨trivial, rfl, [], rfl, .nil⟩

variable [Inhabited V]

/-- The first error: the parser recovers, or gives up. -/
lemma Sound.step_of_stuck (h : Sound G toks c f) (hstuck : Stuck G c) :
    step G c = recover G c.stack c.input := by
  rw [step, if_neg (by simp [hstuck.1]), hstuck.2]
  simp [fail, h.status]

/-- **Soundness of the parser.**  What it accepts is derived by the grammar, and the actions of the
derivation are what has been done to the parameter; or else the parser came to an error on its way
and recovered from it. -/
theorem run_accept (heof : EofLast G) {n : ℕ} (h : Sound G toks c f)
    (hrun : runEffect G n c = some (true, g)) :
    (∃ v, Derives G (.nonterminal G.start) toks v (g ∘ f)) ∨
      ∃ c' f' m g', Sound G toks c' f' ∧ Stuck G c' ∧ runEffect G m c' = some (true, g') ∧
        g ∘ f = g' ∘ f' := by
  induction n generalizing c f g with
  | zero => simp [runEffect] at hrun
  | succ n ih =>
    by_cases hX : expects (top G.shape c.stack) (.terminal (lookahead G.shape c.input)) = true
    · cases hin : c.input with
      | nil =>
        rw [hin] at hX
        have hstep : step G c = .accept := by simp [step, hin, hX]
        simp only [runEffect, hstep, Option.some.injEq, Prod.mk.injEq, true_and] at hrun
        subst hrun
        exact .inl (h.accept heof hin hX)
      | cons token input =>
        obtain ⟨t, v⟩ := token
        rw [hin] at hX
        have hstep : step G c =
            .next ⟨push G.shape (.terminal t) v c.stack, input, c.errStatus - 1⟩ id := by
          simp [step, hin, hX]
        obtain ⟨_, g', hm, hrun, rfl⟩ := runEffect_of_next hrun hstep
        obtain rfl := Nat.succ.inj hm
        have hrest := ih (h.shift hin hX) hrun
        exact hrest
    · have hX : expects (top G.shape c.stack) (.terminal (lookahead G.shape c.input)) = false := by
        simpa using hX
      cases hred : (reduce? (top G.shape c.stack)).bind (G.rules[·]?) with
      | none => exact .inr ⟨c, f, n + 1, g, h, ⟨hX, hred⟩, hrun, rfl⟩
      | some r =>
        obtain ⟨k, hk, hr⟩ := Option.bind_eq_some_iff.mp hred
        have hstep : step G c = .next
            ⟨push G.shape (.nonterminal r.lhs) (r.value (values (c.stack.take r.rhs.length)))
              (c.stack.drop r.rhs.length), c.input, c.errStatus⟩
            (r.effect (values (c.stack.take r.rhs.length))) := by
          simp [step, hX, hred]
        obtain ⟨_, g', hm, hrun, rfl⟩ := runEffect_of_next hrun hstep
        obtain rfl := Nat.succ.inj hm
        have hrest := ih (h.reduce hk hr) hrun
        exact hrest

end Soundness

/-! ## Termination -/

section Termination

variable {B : Shape T N} {G : Grammar T N V σ}

/-- Weights of the symbols with which every reduction makes the stack lighter. -/
structure Weighing (B : Shape T N) where
  weight : Symbol T N → ℕ
  bound : ℕ
  reduces : ∀ r ∈ B.rules, weight (.nonterminal r.1) < (r.2.map weight).sum
  terminal_le : ∀ t, weight (.terminal t) ≤ bound

variable (W : Weighing B)

/-- The weight of a stack. -/
def Weighing.total (stack : List (Frame T N V)) : ℕ := ((symbols stack).map W.weight).sum

lemma Weighing.total_append (above below : List (Frame T N V)) :
    W.total (above ++ below) = W.total below + W.total above := by
  simp [total, symbols]

/-- What the parser has left to do.  The last summand is for the one recovery that takes no token
from the input. -/
def Weighing.potential (c : Config T N V) : ℕ :=
  W.total c.stack + (2 * W.bound + 2) * c.input.length + if c.errStatus = 3 then 0 else W.bound + 1

variable [DecidableEq T] [DecidableEq N]

lemma unwind_eq_some {stack stack' : List (Frame T N V)} (h : unwind B stack = some stack') :
    (∃ above, stack = above ++ stack') ∧ expects (top B stack') (.terminal B.error) = true := by
  induction stack with
  | nil =>
    unfold unwind at h
    split at h
    next hX =>
      cases h
      exact ⟨⟨[], rfl⟩, hX⟩
    · cases h
  | cons frame stack ih =>
    unfold unwind at h
    split at h
    next hX =>
      cases h
      exact ⟨⟨[], rfl⟩, hX⟩
    · obtain ⟨⟨above, rfl⟩, hX⟩ := ih h
      exact ⟨⟨frame :: above, rfl⟩, hX⟩

lemma Weighing.total_push (X : Symbol T N) (v : V) (stack : List (Frame T N V)) :
    W.total (push B X v stack) = W.total stack + W.weight X := by
  simp [total, symbols, push]

variable [Inhabited V]

/-- A recovery leaves a stack that is heavier by `error` at most. -/
lemma Weighing.recover (W : Weighing G.shape) {stack : List (Frame T N V)}
    {input : List (Token T V)} {c' : Config T N V} {f : σ → σ} (hpath : Path G.shape stack)
    (h : recover G stack input = .next c' f) :
    Path G.shape c'.stack ∧ W.total c'.stack ≤ W.total stack + W.bound ∧ c'.input = input ∧
      c'.errStatus = 3 := by
  unfold Lr.recover at h
  cases hunwind : unwind G.shape stack with
  | none => simp [hunwind] at h
  | some stack' =>
    obtain ⟨⟨above, rfl⟩, hX⟩ := unwind_eq_some hunwind
    simp only [hunwind, Outcome.next.injEq] at h
    obtain ⟨rfl, -⟩ := h
    refine ⟨hpath.of_append.push hX, ?_, rfl, rfl⟩
    rw [W.total_push, W.total_append]
    have hle := W.terminal_le G.error
    omega

/-- Every step leaves less to do. -/
lemma Weighing.step (W : Weighing G.shape) {c c' : Config T N V} {f : σ → σ}
    (hpath : Path G.shape c.stack) (h : step G c = .next c' f) :
    Path G.shape c'.stack ∧ W.potential c' < W.potential c := by
  unfold Lr.step at h
  split at h
  next hX =>
    split at h
    · cases h
    next t v input hin =>
      obtain ⟨rfl, -⟩ := Outcome.next.inj h
      rw [hin] at hX
      refine ⟨hpath.push hX, ?_⟩
      have hle := W.terminal_le t
      simp only [potential, W.total_push, hin, List.length_cons, Nat.mul_succ]
      split <;> split <;> omega
  · split at h
    next r hred =>
      obtain ⟨k, hk, hr⟩ := Option.bind_eq_some_iff.mp hred
      obtain ⟨rfl, -⟩ := Outcome.next.inj h
      obtain ⟨hsymbols, hbelow, hX⟩ := hpath.reduced hk hr
      refine ⟨hbelow.push hX, ?_⟩
      have hlt := W.reduces _ (List.mem_of_getElem? (shape_rules hr))
      have hstack := W.total_append (c.stack.take r.rhs.length) (c.stack.drop r.rhs.length)
      rw [List.take_append_drop] at hstack
      have htop : W.total (c.stack.take r.rhs.length) = (r.rhs.map W.weight).sum := by
        rw [total, hsymbols]
      simp only [potential, W.total_push, hstack, htop]
      simp only at hlt
      omega
    · unfold fail at h
      split at h
      next hstatus =>
        split at h
        · cases h
        next token input hin =>
          obtain ⟨hpath', hle, hin', hstatus'⟩ := W.recover hpath h
          refine ⟨hpath', ?_⟩
          simp only [potential, hin, hin', hstatus, hstatus', if_true, List.length_cons,
            Nat.mul_succ]
          omega
      next hstatus =>
        obtain ⟨hpath', hle, hin', hstatus'⟩ := W.recover hpath h
        refine ⟨hpath', ?_⟩
        simp only [potential, hin', hstatus, hstatus', if_true, if_false]
        omega

/-- The parser comes to an end. -/
theorem runEffect_isSome (W : Weighing G.shape) {n : ℕ} {c : Config T N V}
    (hpath : Path G.shape c.stack) (h : W.potential c < n) : (runEffect G n c).isSome = true := by
  induction n generalizing c with
  | zero => omega
  | succ n ih =>
    unfold runEffect
    cases hstep : step G c with
    | next c' f =>
      obtain ⟨hpath', hlt⟩ := W.step hpath hstep
      simpa using ih hpath' (by omega)
    | accept => rfl
    | abort => rfl

/-- As many steps are enough. -/
def Weighing.fuel (W : Weighing B) (toks : List (Token T V)) : ℕ :=
  (2 * W.bound + 2) * toks.length + W.bound + 2

lemma runEffect_begin_isSome (W : Weighing G.shape) (toks : List (Token T V)) :
    (runEffect G (W.fuel toks) (begin toks)).isSome = true := by
  refine runEffect_isSome W trivial ?_
  simp [Weighing.potential, Weighing.fuel, Weighing.total, symbols, begin]
  omega

end Termination

/-! ## Parsing without actions -/

section Forget

/-- The grammar without its actions. -/
def Grammar.forget (G : Grammar T N V σ) : Grammar T N Unit Unit where
  start := G.start
  rules := G.rules.map fun r => ⟨r.lhs, r.rhs, fun _ => (), fun _ s => s⟩
  eof := G.eof
  error := G.error

lemma shape_forget (G : Grammar T N V σ) : G.forget.shape = G.shape := by
  simp [Grammar.forget, Grammar.shape]

def Frame.forget (frame : Frame T N V) : Frame T N Unit := ⟨frame.state, frame.symbol, ()⟩

def Config.forget (c : Config T N V) : Config T N Unit :=
  ⟨c.stack.map Frame.forget, c.input.map fun t => (t.1, ()), c.errStatus⟩

def Outcome.forget : Outcome T N V σ → Outcome T N Unit Unit
  | .next c _ => .next c.forget id
  | .accept => .accept
  | .abort => .abort

lemma lookahead_forget (B : Shape T N) (input : List (Token T V)) :
    lookahead B (input.map fun t => (t.1, ())) = lookahead B input := by
  cases input <;> rfl

variable [DecidableEq N]

lemma top_forget (B : Shape T N) (stack : List (Frame T N V)) :
    top B (stack.map Frame.forget) = top B stack := by
  cases stack <;> rfl

variable [DecidableEq T]

lemma push_forget (B : Shape T N) (X : Symbol T N) (v : V) (stack : List (Frame T N V)) :
    push B X () (stack.map Frame.forget) = (push B X v stack).map Frame.forget := by
  simp [push, top_forget, Frame.forget]

lemma unwind_forget (B : Shape T N) (stack : List (Frame T N V)) :
    unwind B (stack.map Frame.forget) = (unwind B stack).map (List.map Frame.forget) := by
  induction stack with
  | nil =>
    simp only [unwind, List.map_nil]
    split <;> rfl
  | cons frame stack ih =>
    simp only [List.map_cons, unwind, ih]
    by_cases h : expects frame.state (.terminal B.error) = true
    · simp [Frame.forget, h]
    · simp [Frame.forget, h]

variable [Inhabited V] (G : Grammar T N V σ)

lemma recover_forget (stack : List (Frame T N V)) (input : List (Token T V)) :
    recover G.forget (stack.map Frame.forget) (input.map fun t => (t.1, ())) =
      (recover G stack input).forget := by
  unfold recover
  rw [shape_forget, unwind_forget]
  cases unwind G.shape stack with
  | none => rfl
  | some stack' =>
    simp only [Option.map_some, Outcome.forget, Config.forget]
    rw [← push_forget]
    rfl

lemma fail_forget (c : Config T N V) : fail G.forget c.forget = (fail G c).forget := by
  obtain ⟨stack, input, errStatus⟩ := c
  unfold fail
  by_cases h : errStatus = 3
  · cases input with
    | nil => simp [Config.forget, h, Outcome.forget]
    | cons token input => simp [Config.forget, h, recover_forget]
  · simp [Config.forget, h, recover_forget]

/-- The parser does the same without the actions. -/
lemma step_forget (c : Config T N V) : step G.forget c.forget = (step G c).forget := by
  have hbind : ∀ k : Option ℕ, k.bind (G.forget.rules[·]?) =
      (k.bind (G.rules[·]?)).map fun r => ⟨r.lhs, r.rhs, fun _ => (), fun _ s => s⟩ := by
    intro k
    cases k <;> simp [Grammar.forget]
  unfold step
  rw [shape_forget]
  simp only [Config.forget, top_forget, lookahead_forget]
  by_cases hX : expects (top G.shape c.stack) (.terminal (lookahead G.shape c.input)) = true
  · rw [if_pos hX, if_pos hX]
    cases hin : c.input with
    | nil => rfl
    | cons token input =>
      simp only [List.map_cons, Outcome.forget, Config.forget]
      rw [← push_forget]
  · rw [if_neg hX, if_neg hX, hbind]
    cases hred : (reduce? (top G.shape c.stack)).bind (G.rules[·]?) with
    | none => exact fail_forget G c
    | some r =>
      simp only [Option.map_some, Outcome.forget, Config.forget]
      rw [← push_forget, List.map_drop]

lemma runEffect_forget (n : ℕ) (c : Config T N V) :
    (runEffect G.forget n c.forget).map Prod.fst = (runEffect G n c).map Prod.fst := by
  induction n generalizing c with
  | zero => rfl
  | succ n ih =>
    unfold runEffect
    rw [step_forget]
    cases step G c with
    | next c' f =>
      simpa [Outcome.forget, Option.map_map, Function.comp_def] using ih c'
    | accept => rfl
    | abort => rfl

end Forget

end SledServer.Core.Lr
