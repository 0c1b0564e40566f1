import SledServer.Sled.Calls

/-!
# What the parts of the sled leave alone

Most of what the sled does is a series of small moves: requests are queued, parts of the
environment are stored, and the motion and drive machines log a line.  `Moves K R` collects them,
with `K` the requests that may be queued and `R` the changes of the environment that may be made.
Every report of the drive and every call of the library is such a series (`moves_tpdo`,
`moves_call`), so an invariant of the rest only has to be checked on three moves.
-/

namespace SledServer

open SledServer.Core

/-- The line of the log is one of the motion machine or of the drive machine. -/
def SledNote.Local : SledNote → Prop
  | mpState _ _ | dsState _ _ => True
  | intfState _ _ | netState _ _ => False

/-- A series of small moves. -/
inductive Moves (K : Request sledClient → Prop) (R : SledEnv → SledEnv → Prop) :
    Sled → Sled → Prop
  | refl (s : Sled) : Moves K R s s
  | push {s t : Sled} {r : Request sledClient} (h : Moves K R s t) (hr : K r) :
      Moves K R s (t.push r)
  | env {s t : Sled} {e : SledEnv} (h : Moves K R s t) (he : R t.env e) :
      Moves K R s (t.withEnv e)
  | note {s t : Sled} {n : SledNote} (h : Moves K R s t) (hn : n.Local) :
      Moves K R s (t.log (.note n))

namespace Moves

variable {K K' : Request sledClient → Prop} {R R' : SledEnv → SledEnv → Prop} {s t u : Sled}

lemma trans (h : Moves K R s t) (h' : Moves K R t u) : Moves K R s u := by
  induction h' with
  | refl => exact h
  | push _ hr ih => exact .push ih hr
  | env _ he ih => exact .env ih he
  | note _ hn ih => exact .note ih hn

lemma mono (h : Moves K R s t) (hK : ∀ r, K r → K' r) (hR : ∀ e e', R e e' → R' e e') :
    Moves K' R' s t := by
  induction h with
  | refl => exact .refl _
  | push _ hr ih => exact .push ih (hK _ hr)
  | env _ he ih => exact .env ih (hR _ _ he)
  | note _ hn ih => exact .note ih hn

lemma pushAll {rs : List (Request sledClient)} (h : Moves K R s t) (hrs : ∀ r ∈ rs, K r) :
    Moves K R s (t.pushAll rs) := by
  induction rs generalizing t with
  | nil => exact h
  | cons r rs ih =>
    rw [Host.pushAll_cons]
    exact ih (.push h (hrs r List.mem_cons_self)) fun r hr => hrs r (List.mem_cons_of_mem _ hr)

/-- The invariant rule for a series of moves. -/
lemma invariant {I : Sled → Prop} (h : Moves K R s t) (hs : I s)
    (hpush : ∀ s r, K r → I s → I (s.push r))
    (henv : ∀ s e, R s.env e → I s → I (s.withEnv e))
    (hnote : ∀ s n, n.Local → I s → I (s.log (.note n))) : I t := by
  induction h with
  | refl => exact hs
  | push _ hr ih => exact hpush _ _ hr ih
  | env _ he ih => exact henv _ _ he ih
  | note _ hn ih => exact hnote _ _ hn ih

/-- What reflexive and transitive changes a series of moves makes to the environment. -/
lemma env_rel (hrefl : ∀ e, R e e) (htrans : ∀ e e' e'', R e e' → R e' e'' → R e e'')
    (h : Moves K R s t) : R s.env t.env := by
  induction h with
  | refl => exact hrefl _
  | push _ _ ih => rwa [Host.push_env]
  | env _ he ih => exact htrans _ _ _ ih he
  | note _ _ ih => exact ih

/-- A series of moves that queues nothing leaves the SDO machine and the interface alone. -/
lemma silent (h : Moves (fun _ => False) R s t) : t.mchSdo = s.mchSdo ∧ t.intf = s.intf :=
  h.invariant (I := fun t => t.mchSdo = s.mchSdo ∧ t.intf = s.intf) ⟨rfl, rfl⟩
    (fun _ _ hr _ => hr.elim) (fun _ _ _ ht => ht) fun _ _ _ ht => ht

end Moves

/-! ## Requests and changes of the environment -/

/-- A request without callbacks. -/
structure Request.Plain (r : Request sledClient) : Prop where
  data : r.data = none
  write : r.writeCallback = none
  abort : r.abortCallback = none

/-- A plain request of the motion and drive machines: the control word, the mode of operation or the
fault register. -/
structure Request.Command (r : Request sledClient) : Prop extends Request.Plain r where
  index : r.index = OB_CONTROL_WORD ∨ r.index = 0x6060 ∨ r.index = 0x3518

/-- A request that a call of the library can queue: a plain one, or a field of a profile. -/
inductive Request.FromCall : Request sledClient → Prop
  | plain {r : Request sledClient} (h : r.Plain) : FromCall r
  | field (i : Fin MAX_PROFILES) (f : Field) (v : UInt32) : FromCall (fieldWrite i f v)

lemma plain_plainWrite (index : UInt16) (subindex : UInt8) (value : UInt32) (size : UInt8) :
    (plainWrite index subindex value size).Plain := ⟨rfl, rfl, rfl⟩

/-- The interface and network machines keep their states. -/
structure SledEnv.SameNet (e e' : SledEnv) : Prop where
  net : e'.mchNet = e.mchNet
  intf : e'.mchIntf = e.mchIntf

/-- Only the motion machine, the drive machine and the cached report may change. -/
structure SledEnv.SameProfiles (e e' : SledEnv) : Prop extends SledEnv.SameNet e e' where
  profiles : e'.profiles = e.profiles
  currentProfile : e'.currentProfile = e.currentProfile
  there : e'.sinusoidThere = e.sinusoidThere
  rthere : e'.sinusoidRthere = e.sinusoidRthere
  back : e'.sinusoidBack = e.sinusoidBack
  rback : e'.sinusoidRback = e.sinusoidRback

/-- The motion machine may move, but is neither started nor stopped; the others keep their
states. -/
structure SledEnv.SameModes (e e' : SledEnv) : Prop extends SledEnv.SameNet e e' where
  ds : e'.mchDs = e.mchDs
  mp : e'.mchMp = .disabled ↔ e.mchMp = .disabled

namespace SledEnv

lemma SameNet.refl (e : SledEnv) : SameNet e e := ⟨rfl, rfl⟩

lemma SameNet.trans {e e' e'' : SledEnv} (h : SameNet e e') (h' : SameNet e' e'') :
    SameNet e e'' := ⟨h'.net.trans h.net, h'.intf.trans h.intf⟩

lemma SameModes.refl (e : SledEnv) : SameModes e e := ⟨.refl e, rfl, .rfl⟩

lemma SameModes.trans {e e' e'' : SledEnv} (h : SameModes e e') (h' : SameModes e' e'') :
    SameModes e e'' := ⟨h.toSameNet.trans h'.toSameNet, h'.ds.trans h.ds, h'.mp.trans h.mp⟩

lemma SameProfiles.refl (e : SledEnv) : SameProfiles e e :=
  ⟨.refl e, rfl, rfl, rfl, rfl, rfl, rfl⟩

lemma SameProfiles.trans {e e' e'' : SledEnv} (h : SameProfiles e e')
    (h' : SameProfiles e' e'') : SameProfiles e e'' :=
  ⟨h.toSameNet.trans h'.toSameNet, h'.profiles.trans h.profiles,
    h'.currentProfile.trans h.currentProfile, h'.there.trans h.there, h'.rthere.trans h.rthere,
    h'.back.trans h.back, h'.rback.trans h.rback⟩

end SledEnv

/-! ## Reports of the drive -/

/-- A series of moves that leaves profiles and network alone and queues commands only. -/
abbrev Reacts : Sled → Sled → Prop := Moves Request.Command SledEnv.SameProfiles

section Reports

variable {s t : Sled}

lemma command_controlWord (w : UInt16) : (controlWord w).Command :=
  ⟨plain_plainWrite _ _ _ _, .inl rfl⟩

lemma command_modeSwitch (mode : UInt32) : (plainWrite 0x6060 0x00 mode 0x01).Command :=
  ⟨plain_plainWrite _ _ _ _, .inr (.inl rfl)⟩

lemma command_mpEntry (st : MchMpState) : ∀ r ∈ st.entry, r.Command := by
  cases st <;> simp [MchMpState.entry, command_controlWord, command_modeSwitch]

lemma command_mpExit (st : MchMpState) : ∀ r ∈ st.exit, r.Command := by
  cases st <;> simp [MchMpState.exit, command_controlWord]

lemma command_dsEntry (st : MchDsState) : ∀ r ∈ st.entry, r.Command := by
  cases st <;> simp [MchDsState.entry, command_controlWord]
  exact ⟨⟨rfl, rfl, rfl⟩, .inr (.inr rfl)⟩

lemma Reacts.setMpState (h : Reacts s t) (st : MchMpState) : Reacts s (t.setMpState st) :=
  .note (n := .mpState t.env.mchMp st) (.env (e := { t.env with mchMp := st }) h
    ⟨⟨rfl, rfl⟩, rfl, rfl, rfl, rfl, rfl, rfl⟩) trivial

lemma Reacts.setDsState (h : Reacts s t) (st : MchDsState) : Reacts s (t.setDsState st) :=
  .note (n := .dsState t.env.mchDs st) (.env (e := { t.env with mchDs := st }) h
    ⟨⟨rfl, rfl⟩, rfl, rfl, rfl, rfl, rfl, rfl⟩) trivial

lemma Reacts.mpMove (h : Reacts s t) (event : MchMpEvent) : Reacts s (t.mpMove event) := by
  unfold Host.mpMove
  dsimp only
  split
  · exact h
  · exact (Reacts.setMpState (h.pushAll (command_mpExit _)) _).pushAll (command_mpEntry _)

lemma Reacts.dsMove (h : Reacts s t) (event : MchDsEvent) : Reacts s (t.dsMove event) := by
  have hleave : Reacts s t.dsLeave := by
    unfold Host.dsLeave
    split
    · exact h.mpMove _
    · exact h
  unfold Host.dsMove
  dsimp only
  split
  · exact h
  · have hmoved := (hleave.setDsState (mchDsNextStateGivenEvent t.env.mchDs event)).pushAll
      (command_dsEntry (mchDsNextStateGivenEvent t.env.mchDs event))
    unfold Host.dsArrive
    split
    · exact Reacts.mpMove hmoved _
    · exact hmoved

lemma Reacts.netLeave (s : Sled) : Reacts s s.netLeave := by
  unfold Host.netLeave
  split
  · exact Reacts.dsMove (.refl s) _
  · exact .refl s

/-- What a report of the drive does to the two machines. -/
def Host.tpdo (status : UInt16) (mode : UInt8) (s : Sled) : Sled :=
  (mpEvents status mode).foldl (fun s event => s.mpMove event)
    ((dsEvents status).foldl (fun s event => s.dsMove event) s)

lemma foldlM_ok {α : Type} (f : Sled → α → Sled) (l : List α) (s : Sled) :
    l.foldlM (fun s a => (.ok (f s a) : Except Halt Sled)) s = .ok (l.foldl f s) := by
  induction l generalizing s with
  | nil => rfl
  | cons a l ih => rw [List.foldlM_cons, ok_bind, ih, List.foldl_cons]

lemma intfOnTpdo_one (now : ℚ) (data : Vector UInt8 8) (s : Sled) :
    intfOnTpdo now 1 data s = .ok (s.tpdo (statusWord data) (modeOfOperation data)) := by
  unfold intfOnTpdo
  simp only [if_true, mchDsHandleEvent_eq, mchMpHandleEvent_eq, foldlM_ok, ok_bind]
  rfl

lemma moves_foldl {α : Type} {K : Request sledClient → Prop} {R : SledEnv → SledEnv → Prop}
    {f : Sled → α → Sled} (hf : ∀ t a, Moves K R s t → Moves K R s (f t a)) (l : List α)
    (h : Moves K R s t) : Moves K R s (l.foldl f t) := by
  induction l generalizing t with
  | nil => exact h
  | cons a l ih => exact ih (hf t a h)

/-- Every report is a series of moves. -/
lemma moves_tpdo {now : ℚ} {pdo : ℕ} {data : Vector UInt8 8}
    (h : intfOnTpdo now pdo data s = .ok t) : Reacts s t := by
  by_cases h1 : pdo = 1
  · subst h1
    rw [intfOnTpdo_one] at h
    cases h
    refine moves_foldl (fun t a ht => Reacts.mpMove ht a) _ ?_
    exact moves_foldl (fun t a ht => Reacts.dsMove ht a) _ (.refl s)
  · unfold intfOnTpdo at h
    rw [if_neg h1] at h
    split at h <;> cases h
    · exact .env (.refl s) ⟨⟨rfl, rfl⟩, rfl, rfl, rfl, rfl, rfl, rfl⟩
    · exact .refl s

end Reports

/-! ## The profile table -/

section Profiles

variable {K : Request sledClient → Prop} {s t : Sled}

/-- A series of moves that leaves the other machines alone. -/
abbrev Stores (K : Request sledClient → Prop) : Sled → Sled → Prop := Moves K SledEnv.SameModes

namespace Stores

lemma setProfiles (h : Stores K s t) (f : Fin MAX_PROFILES → SledProfile) :
    Stores K s (t.setProfiles f) := .env h ⟨⟨rfl, rfl⟩, rfl, .rfl⟩

lemma modifyProfile (h : Stores K s t) (i : Fin MAX_PROFILES) (f : SledProfile → SledProfile) :
    Stores K s (t.modifyProfile i f) := h.setProfiles _

lemma onProfile (h : Stores K s t) (id : ℤ) (f : SledProfile → SledProfile) :
    Stores K s (onProfile id f t).2 := by
  unfold SledServer.onProfile
  split
  · exact h
  · split
    · exact h
    · exact h.modifyProfile _ _

lemma clear (h : Stores K s t) (id : ℤ) (inUse : Bool) :
    Stores K s (sledProfileClear id inUse t) := by
  unfold sledProfileClear
  split
  · exact h
  · exact h.modifyProfile _ _

lemma create (h : Stores K s t) : Stores K s (sledProfileCreate t).2 := by
  unfold sledProfileCreate
  split
  · dsimp only
    exact (h.clear _ _).modifyProfile _ _
  · exact h

lemma register (h : Stores K s t) {store : ℤ → SledEnv → SledEnv}
    (hstore : ∀ id e, SledEnv.SameModes e (store id e)) :
    Stores K s (registerProfile store t) :=
  .env h.create (hstore _ _)

/-- `sled_create` only stores into the profile table. -/
lemma createProfiles (h : Stores K s t) : Stores K s (sledCreateProfiles t) := by
  unfold sledCreateProfiles
  extract_lets t₀ t₁ t₂ t₃ t₄ t₅ t₆ t₇ t₈ t₉ t₁₀
  have h₀ : Stores K s t₀ := moves_foldl (fun t i ht => Stores.clear ht _ _) _ h
  have h₁ : Stores K s t₁ := h₀.register fun _ _ => ⟨⟨rfl, rfl⟩, rfl, .rfl⟩
  have h₂ : Stores K s t₂ := h₁.register fun _ _ => ⟨⟨rfl, rfl⟩, rfl, .rfl⟩
  have h₃ : Stores K s t₃ := h₂.register fun _ _ => ⟨⟨rfl, rfl⟩, rfl, .rfl⟩
  have h₄ : Stores K s t₄ := h₃.register fun _ _ => ⟨⟨rfl, rfl⟩, rfl, .rfl⟩
  have h₅ : Stores K s t₅ := h₄.onProfile _ _
  have h₆ : Stores K s t₆ := h₅.onProfile _ _
  have h₇ : Stores K s t₇ := h₆.onProfile _ _
  have h₈ : Stores K s t₈ := h₇.onProfile _ _
  have h₉ : Stores K s t₉ := h₈.onProfile _ _
  have h₁₀ : Stores K s t₁₀ := h₉.onProfile _ _
  exact h₁₀.onProfile _ _

end Stores

end Profiles

/-! ## Calls of the library -/

/-- A series of moves that leaves the other machines alone and queues what a call can queue. -/
abbrev Acts : Sled → Sled → Prop := Stores Request.FromCall

section Calls

variable {s t : Sled} {r : ℤ × Sled}

/-- A visit queues copies of motion tasks, and fields of the profile. -/
lemma mem_visitRequests {e : SledEnv} {i : Fin MAX_PROFILES} {r : Request sledClient}
    (h : r ∈ e.visitRequests i) :
    (∃ src dst, r = copyTask src dst) ∨ ∃ f v, r = fieldWrite i f v := by
  simp only [SledEnv.visitRequests, List.mem_append, List.mem_map, List.mem_singleton] at h
  rcases h with (h | ⟨f, -, rfl⟩) | rfl
  · split at h
    · exact .inl ⟨_, _, List.mem_singleton.mp h⟩
    · simp at h
  · exact .inr ⟨f, _, rfl⟩
  · exact .inl ⟨_, _, rfl⟩

lemma Acts.visit (h : Acts s t) (i : Fin MAX_PROFILES) : Acts s (t.visit i) := by
  refine .env (h.pushAll fun r hr => ?_) (by rw [Host.pushAll_env]; exact ⟨⟨rfl, rfl⟩, rfl, .rfl⟩)
  rcases mem_visitRequests hr with ⟨src, dst, rfl⟩ | ⟨f, v, rfl⟩
  · exact .plain (plain_plainWrite _ _ _ _)
  · exact .field i f v

lemma Acts.visits (h : Acts s t) (is : List (Fin MAX_PROFILES)) :
    Acts s (is.foldl Host.visit t) :=
  moves_foldl (fun _ i ht => Acts.visit ht i) is h

lemma Acts.setpoint (h : Acts s t) (hidle : t.env.mchMp = .ppIdle) :
    Acts s (t.setMpState .ppSpNack) := by
  refine .note (n := .mpState t.env.mchMp .ppSpNack)
    (.env (e := { t.env with mchMp := .ppSpNack }) h ⟨⟨rfl, rfl⟩, rfl, ?_⟩) trivial
  simp [hidle]

lemma Acts.kept (s : Sled) : KeptByCalls (Acts s) where
  edit _ _ _ ht := ht.setProfiles _
  visit _ i ht := ht.visit i
  launch t i hidle ht := by
    refine Acts.setpoint (.push (.push ht ?_) ?_) (by simpa using hidle)
    · exact .plain (plain_plainWrite _ _ _ _)
    · exact .plain (plain_plainWrite _ _ _ _)
  light _ _ ht := .push ht (.plain (plain_plainWrite _ _ _ _))

/-- Every call is a series of moves. -/
lemma moves_call {c : SledCall} (h : sledCall s c = .ok r) : Acts s r.2 :=
  (Acts.kept s).call (.refl s) h

end Calls

end SledServer
