import Mathlib.Data.List.Basic
import Mathlib.Data.List.Infix

/-!
# First-in first-out links with sessions

An abstract request link over an arbitrary type of requests `α`.  The link is closed or open;
while it is open it carries the requests queued in this session that are still to be sent, and
the request that has been sent and not yet answered, if any.  Requests leave in the order in
which they were queued, one at a time, and closing the link forgets everything.

`Link.Steps` is the transition relation over event lists.  The lemmas below say what a list of
events accepted by the link looks like: in every session the requests sent are a prefix of the
requests queued (`Steps.session`), two consecutive requests have an answer between them
(`Steps.answered_between`), and nothing is sent outside a session
(`Steps.last_boundary_opened`).
-/

namespace SledServer.Core

universe u

/-- What an observer of a request link can see.  `internal` is anything that is not an event of
the link. -/
inductive LinkEvent (α : Type u)
  | opened
  | closed
  | queued (r : α)
  | sent (r : α)
  | answered (r : α)
  | internal
  deriving DecidableEq

namespace LinkEvent

variable {α : Type u}

/-- The events that begin or end a session. -/
def IsBoundary : LinkEvent α → Prop
  | opened | closed => True
  | _ => False

/-- The request an event queues. -/
def queued? : LinkEvent α → Option α
  | queued r => some r
  | _ => none

/-- The request an event sends. -/
def sent? : LinkEvent α → Option α
  | sent r => some r
  | _ => none

end LinkEvent

open LinkEvent

section

variable {α : Type u}

/-- The requests queued in a list of events, in order. -/
def queuedIn (es : List (LinkEvent α)) : List α := es.filterMap queued?

/-- The requests sent in a list of events, in order. -/
def sentIn (es : List (LinkEvent α)) : List α := es.filterMap sent?

/-- No session begins or ends in these events. -/
def WithinSession (es : List (LinkEvent α)) : Prop := ∀ e ∈ es, ¬ e.IsBoundary

@[simp] lemma queuedIn_append (es fs : List (LinkEvent α)) :
    queuedIn (es ++ fs) = queuedIn es ++ queuedIn fs := by simp [queuedIn]

@[simp] lemma sentIn_append (es fs : List (LinkEvent α)) :
    sentIn (es ++ fs) = sentIn es ++ sentIn fs := by simp [sentIn]

@[simp] lemma queuedIn_nil : queuedIn ([] : List (LinkEvent α)) = [] := rfl

@[simp] lemma sentIn_nil : sentIn ([] : List (LinkEvent α)) = [] := rfl

lemma queuedIn_cons (e : LinkEvent α) (es : List (LinkEvent α)) :
    queuedIn (e :: es) = e.queued?.toList ++ queuedIn es := by
  cases e <;> simp [queuedIn, queued?, List.filterMap_cons]

lemma sentIn_cons (e : LinkEvent α) (es : List (LinkEvent α)) :
    sentIn (e :: es) = e.sent?.toList ++ sentIn es := by
  cases e <;> simp [sentIn, sent?, List.filterMap_cons]

lemma mem_queuedIn {es : List (LinkEvent α)} {r : α} : r ∈ queuedIn es ↔ .queued r ∈ es := by
  simp only [queuedIn, List.mem_filterMap]
  constructor
  · rintro ⟨e, he, hr⟩
    cases e <;> simp_all [queued?]
  · exact fun h => ⟨_, h, rfl⟩

lemma WithinSession.of_cons {e : LinkEvent α} {es : List (LinkEvent α)}
    (h : WithinSession (e :: es)) : ¬ e.IsBoundary ∧ WithinSession es :=
  ⟨h e List.mem_cons_self, fun f hf => h f (List.mem_cons_of_mem _ hf)⟩

/-- A session begins at the last `opened`: every earlier one lies before it. -/
lemma prefix_of_session {u u' v e : List (LinkEvent α)}
    (h : u ++ .opened :: v = u' ++ .opened :: e) (hin : WithinSession e) : u <+: u' := by
  rcases List.append_eq_append_iff.mp h with ⟨a, hu', -⟩ | ⟨a, hu, ha⟩
  · exact ⟨a, hu'.symm⟩
  · cases a with
    | nil => exact ⟨[], by simpa using hu⟩
    | cons x a =>
      obtain ⟨-, he⟩ := List.cons_eq_cons.mp ha
      exact absurd trivial (hin .opened (by simp [he]))

/-! ## The link -/

/-- The state of a link: closed, or open with the requests still to be sent and the one that
awaits its answer. -/
inductive Link (α : Type u)
  | closed
  | opened (pending : List α) (inFlight : Option α)

namespace Link

/-- One step of a link. -/
inductive Step : Link α → LinkEvent α → Link α → Prop
  | opened : Step .closed .opened (.opened [] none)
  | closed {p f} : Step (.opened p f) .closed .closed
  | queued {p f r} : Step (.opened p f) (.queued r) (.opened (p ++ [r]) f)
  | sent {p r} : Step (.opened (r :: p) none) (.sent r) (.opened p (some r))
  | answered {p r} : Step (.opened p (some r)) (.answered r) (.opened p none)
  /-- A request queued on a closed link is not part of any session. -/
  | refused {r} : Step .closed (.queued r) .closed
  /-- An answer nobody in this session waits for changes nothing. -/
  | late {p r} : Step (.opened p none) (.answered r) (.opened p none)
  | lateClosed {r} : Step .closed (.answered r) .closed
  | internal {l} : Step l .internal l

/-- The steps of a link over a list of events. -/
inductive Steps : Link α → List (LinkEvent α) → Link α → Prop
  | nil {l} : Steps l [] l
  | cons {l l' l'' e es} : Step l e l' → Steps l' es l'' → Steps l (e :: es) l''

namespace Steps

variable {l l' l'' : Link α} {es fs : List (LinkEvent α)} {e : LinkEvent α}

lemma append (h : Steps l es l') (h' : Steps l' fs l'') : Steps l (es ++ fs) l'' := by
  induction h with
  | nil => exact h'
  | cons hstep _ ih => exact .cons hstep (ih h')

lemma snoc (h : Steps l es l') (hstep : Step l' e l'') : Steps l (es ++ [e]) l'' :=
  h.append (.cons hstep .nil)

lemma split : ∀ {es : List (LinkEvent α)} {l : Link α}, Steps l (es ++ fs) l'' →
    ∃ m, Steps l es m ∧ Steps m fs l''
  | [], l, h => ⟨l, .nil, h⟩
  | _ :: es, _, .cons hstep h =>
    let ⟨m, hm, hm'⟩ := split h
    ⟨m, .cons hstep hm, hm'⟩

/-- Inside a session the requests still pending, followed by those queued since, are the
requests sent since, followed by those pending now. -/
lemma within_session : ∀ {es : List (LinkEvent α)} {p : List α} {f : Option α} {l : Link α},
    Steps (.opened p f) es l → WithinSession es →
      ∃ p' f', l = .opened p' f' ∧ p ++ queuedIn es = sentIn es ++ p'
  | [], p, f, _, .nil, _ => ⟨p, f, rfl, by simp⟩
  | e :: es, p, f, _, .cons hstep h, hin => by
    obtain ⟨hb, htail⟩ := hin.of_cons
    cases hstep with
    | closed => exact absurd trivial hb
    | queued =>
      obtain ⟨p', f', rfl, hp⟩ := within_session h htail
      exact ⟨p', f', rfl, by simpa [queuedIn_cons, sentIn_cons, queued?, sent?] using hp⟩
    | sent =>
      obtain ⟨p', f', rfl, hp⟩ := within_session h htail
      exact ⟨p', f', rfl, by simpa [queuedIn_cons, sentIn_cons, queued?, sent?] using hp⟩
    | answered | late | internal =>
      obtain ⟨p', f', rfl, hp⟩ := within_session h htail
      exact ⟨p', f', rfl, by simpa [queuedIn_cons, sentIn_cons, queued?, sent?] using hp⟩

/-- In every session the requests sent are a prefix of the requests queued. -/
lemma session (h : Steps l (.opened :: es) l') (hin : WithinSession es) :
    sentIn es <+: queuedIn es := by
  cases h with
  | cons hstep h =>
    cases hstep
    obtain ⟨p', _, -, hp⟩ := h.within_session hin
    exact ⟨p', by simpa using hp.symm⟩

/-- A request that awaits its answer keeps the link busy until the answer comes. -/
lemma answered_of_sent_next : ∀ {es : List (LinkEvent α)} {p : List α} {r r' : α},
    Steps (.opened p (some r)) (es ++ .sent r' :: fs) l → WithinSession es → sentIn es = [] →
      .answered r ∈ es
  | [], p, r, r', .cons hstep _, _, _ => by cases hstep
  | e :: es, p, r, r', .cons hstep h, hin, hs => by
    obtain ⟨hb, htail⟩ := hin.of_cons
    cases hstep with
    | closed => exact absurd trivial hb
    | answered => exact List.mem_cons_self
    | queued | internal =>
      have hs' : sentIn es = [] := by simpa [sentIn_cons, sent?] using hs
      exact List.mem_cons_of_mem _ (answered_of_sent_next h htail hs')

/-- Between two consecutive requests of a session there is an answer to the first. -/
lemma answered_between {e₁ e₂ : List (LinkEvent α)} {r r' : α}
    (h : Steps l (e₁ ++ .sent r :: (e₂ ++ .sent r' :: fs)) l')
    (hin : WithinSession e₂) (hs : sentIn e₂ = []) : .answered r ∈ e₂ := by
  obtain ⟨m, -, hm⟩ := split h
  cases hm with
  | cons hstep hm =>
    cases hstep
    exact answered_of_sent_next hm hin hs

/-- An open link has been opened, and no boundary has been passed since. -/
lemma last_boundary_opened (h : Steps .closed es (.opened p f)) :
    ∃ u e, es = u ++ .opened :: e ∧ WithinSession e := by
  generalize hl : Link.closed = l₀ at h
  generalize hl' : Link.opened p f = l₁ at h
  -- An induction from the front loses the session the first events belong to, so the claim is
  -- strengthened to runs that start in an open link as well.
  have key : ∀ {l₀ l₁ : Link α} {es : List (LinkEvent α)}, Steps l₀ es l₁ → l₁ ≠ .closed →
      (∃ u e, es = u ++ .opened :: e ∧ WithinSession e) ∨ (l₀ ≠ .closed ∧ WithinSession es) := by
    intro l₀ l₁ es h
    induction h with
    | nil => exact fun hne => .inr ⟨hne, fun e he => absurd he List.not_mem_nil⟩
    | @cons l₀ m l₁ e es hstep _ ih =>
      intro hne
      rcases ih hne with ⟨u, e', rfl, hin⟩ | ⟨hm, hin⟩
      · exact .inl ⟨e :: u, e', rfl, hin⟩
      · have hcons : ¬ e.IsBoundary → WithinSession (e :: es) := fun hb f hf => by
          rcases List.mem_cons.mp hf with rfl | hf
          · exact hb
          · exact hin f hf
        cases hstep with
        | opened => exact .inl ⟨[], es, rfl, hin⟩
        | closed | refused | lateClosed => exact absurd rfl hm
        | queued | sent | answered | late => exact .inr ⟨by simp, hcons (by simp [IsBoundary])⟩
        | internal => exact .inr ⟨hm, hcons (by simp [IsBoundary])⟩
  subst hl hl'
  rcases key h (by simp) with hex | ⟨hne, -⟩
  · exact hex
  · exact absurd rfl hne

/-- The request that awaits its answer is the last one sent. -/
lemma last_sent (h : Steps .closed es (.opened p (some r))) :
    ∃ u v, es = u ++ .sent r :: v ∧ sentIn v = [] := by
  have key : ∀ {l₀ l₁ : Link α} {es : List (LinkEvent α)}, Steps l₀ es l₁ →
      ∀ {p : List α} {r : α}, l₁ = .opened p (some r) →
        (∃ u v, es = u ++ .sent r :: v ∧ sentIn v = []) ∨
          (sentIn es = [] ∧ ∃ p', l₀ = .opened p' (some r)) := by
    intro l₀ l₁ es h
    induction h with
    | nil => exact fun hl => .inr ⟨rfl, _, hl⟩
    | @cons l₀ m l₁ e es hstep _ ih =>
      intro p r hl
      rcases ih hl with ⟨u, v, rfl, hv⟩ | ⟨hs, p', rfl⟩
      · exact .inl ⟨e :: u, v, rfl, hv⟩
      · cases hstep with
        | sent => exact .inl ⟨[], es, rfl, hs⟩
        | queued => exact .inr ⟨by simpa [sentIn_cons, sent?] using hs, _, rfl⟩
        | internal => exact .inr ⟨by simpa [sentIn_cons, sent?] using hs, _, rfl⟩
  rcases key h rfl with hex | ⟨-, p', hp'⟩
  · exact hex
  · cases hp'

/-- Nothing is sent outside a session. -/
lemma session_of_sent {u v : List (LinkEvent α)} {r : α}
    (h : Steps .closed (u ++ .sent r :: v) l) :
    ∃ u' e, u = u' ++ .opened :: e ∧ WithinSession e := by
  obtain ⟨m, hm, hm'⟩ := split h
  cases hm' with
  | cons hstep _ =>
    cases hstep
    exact last_boundary_opened hm

end Steps

end Link

end

end SledServer.Core
