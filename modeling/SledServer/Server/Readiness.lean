import SledServer.Server.Connections

/-!
# What the callbacks leave behind

The events of the server are registered with `EV_ET`: a callback is scheduled when something
arrives, and not again because something is still there.  `net_on_read` reads once, up to 1023
bytes, and `net_on_new_connection` accepts once.

The kernel sets an edge when bytes or a connection arrive; libevent takes the edge and runs the
callback later, so that more can arrive before it runs.  An edge that was set before the descriptor
has been registered is reported afterwards.  What happens to the table of connections is left to
`netStep`; here all set-ups of connections succeed.

`stranded_iff` says which schedules leave nothing behind.
-/

namespace SledServer

open SledServer.Core NetServer

def BUFFER_SIZE : ℕ := 1023

/-- What the kernel and libevent hold for the descriptor of a client: the bytes that have not been
read, all that have been received and all that have been given to the read handler, whether there is
an edge, and whether the callback is about to run. -/
structure Inbox where
  unread : List UInt8
  received : List UInt8
  passed : List UInt8
  edge : Bool
  active : Bool

/-- The server with its descriptors.  A connection that waits to be accepted is known by the
descriptor that it will get. -/
structure EventLoop where
  net : NetServer
  waiting : List ℕ
  inbox : ℕ → Inbox
  edge : Bool
  active : Bool

/-- The steps of the kernel, of libevent and of the two callbacks. -/
inductive LoopEvent
  /-- A client has connected. -/
  | connect (fd : ℕ)
  /-- Bytes of a client have come. -/
  | arrive (fd : ℕ) (bytes : List UInt8)
  /-- libevent takes the edge of the listening socket. -/
  | pollListen
  /-- libevent takes the edge of a client. -/
  | pollRead (fd : ℕ)
  /-- `net_on_new_connection` runs. -/
  | newConnection
  /-- `net_on_read` runs.  The read handler may disconnect the connection. -/
  | read (fd : ℕ) (disconnects : Bool)

namespace Inbox

def empty : Inbox := ⟨[], [], [], false, false⟩

def arrive (bytes : List UInt8) (i : Inbox) : Inbox :=
  { i with unread := i.unread ++ bytes, received := i.received ++ bytes, edge := true }

def poll (i : Inbox) : Inbox := { i with edge := false, active := i.edge }

/-- What `read` returns in `net_on_read`.  The sockets do not block. -/
def outcome (disconnects : Bool) (i : Inbox) : ReadOutcome :=
  if i.unread = [] then .failed else .data disconnects

/-- The bytes that `net_on_read` reads are given to the read handler. -/
def read (i : Inbox) : Inbox :=
  { i with
    unread := i.unread.drop BUFFER_SIZE
    passed := i.passed ++ i.unread.take BUFFER_SIZE
    active := false }

end Inbox

namespace EventLoop

def init : EventLoop where
  net := netSetupServer
  waiting := []
  inbox _ := .empty
  edge := false
  active := false

/-- Change what is held for one descriptor. -/
def atFd (fd : ℕ) (f : Inbox → Inbox) (l : EventLoop) : EventLoop :=
  { l with inbox := Function.update l.inbox fd (f (l.inbox fd)) }

/-- A client that has connected and has not been disconnected. -/
def Connected (l : EventLoop) (fd : ℕ) : Prop := fd ∈ l.waiting ∨ (fd : ℤ) ∈ l.net.sockets

instance (l : EventLoop) (fd : ℕ) : Decidable (l.Connected fd) :=
  inferInstanceAs (Decidable (_ ∨ _))

end EventLoop

/-- One step.  `limit` is how many connections the kernel lets wait.  A step that cannot happen
changes nothing. -/
def loopStep (limit : ℕ) (l : EventLoop) : LoopEvent → Except NetFault EventLoop
  | .connect fd =>
    .ok (if l.waiting.length < limit ∧ ¬ l.Connected fd then
      { l.atFd fd fun _ => .empty with waiting := l.waiting ++ [fd], edge := true }
    else l)
  | .arrive fd bytes =>
    .ok (if l.Connected fd ∧ bytes ≠ [] then l.atFd fd (Inbox.arrive bytes) else l)
  | .pollListen =>
    .ok (if l.active then l else { l with edge := false, active := l.edge })
  | .pollRead fd =>
    .ok (if (fd : ℤ) ∈ l.net.readEvents ∧ (l.inbox fd).active = false then l.atFd fd Inbox.poll
    else l)
  | .newConnection =>
    if l.active then do
      let net ← netStep l.net (.newConnection ⟨l.waiting.head?, true, true, true⟩)
      .ok { l with net := net, waiting := l.waiting.tail, active := false }
    else .ok l
  | .read fd disconnects =>
    if (fd : ℤ) ∈ l.net.readEvents ∧ (l.inbox fd).active then do
      let net ← netStep l.net (.read fd ((l.inbox fd).outcome disconnects))
      .ok { l.atFd fd Inbox.read with net := net }
    else .ok l

namespace EventLoop

/-- The read callback of the client is scheduled. -/
def ReadPending (l : EventLoop) (fd : ℕ) : Prop :=
  (fd : ℤ) ∈ l.net.readEvents ∧ ((l.inbox fd).edge ∨ (l.inbox fd).active)

/-- The callback that accepts connections is scheduled. -/
def AcceptPending (l : EventLoop) : Prop := l.edge ∨ l.active

/-- No callback is scheduled. -/
def Quiet (l : EventLoop) : Prop := (∀ fd, ¬ l.ReadPending fd) ∧ ¬ l.AcceptPending

/-- All bytes received on open connections have been passed to the read handler, and all connections
have been accepted. -/
def AllServed (l : EventLoop) : Prop :=
  (∀ fd : ℕ, (fd : ℤ) ∈ l.net.sockets → (l.inbox fd).passed = (l.inbox fd).received) ∧
  l.waiting = []

end EventLoop

/-- The server has not stopped, and where a callback is not scheduled, there is nothing for it to
do. -/
def Served : Except NetFault EventLoop → Prop
  | .ok l =>
    (∀ fd : ℕ, (fd : ℤ) ∈ l.net.sockets → ¬ l.ReadPending fd →
      (l.inbox fd).passed = (l.inbox fd).received) ∧
    (¬ l.AcceptPending → l.waiting = [])
  | .error _ => False

/-- The callback finds no more than it takes, or is scheduled again, or ends the connection. -/
def TakesAll (l : EventLoop) : LoopEvent → Prop
  | .newConnection => l.active → l.waiting.length ≤ 1 ∨ l.edge
  | .read fd disconnects => (fd : ℤ) ∈ l.net.readEvents → (l.inbox fd).active →
      disconnects = false → (l.inbox fd).unread.length ≤ BUFFER_SIZE ∨ (l.inbox fd).edge
  | _ => True

/-! ## What holds in every state -/

namespace EventLoop

/-- The clients that wait are not those that have been accepted; there are as many as the callback
is scheduled for; what has been received is what has been passed on and what has not been read; and
where something is left, a callback will come. -/
structure Sound (l : EventLoop) : Prop where
  tidy : l.net.Tidy
  apart : ∀ fd ∈ l.waiting, (fd : ℤ) ∉ l.net.sockets
  nodup : l.waiting.Nodup
  enough : l.edge.toNat + l.active.toNat ≤ l.waiting.length
  books : ∀ fd, (l.inbox fd).received = (l.inbox fd).passed ++ (l.inbox fd).unread
  reads : ∀ fd, l.Connected fd → (l.inbox fd).unread ≠ [] →
    (l.inbox fd).edge ∨ (l.inbox fd).active
  accepts : l.waiting ≠ [] → l.edge ∨ l.active

variable {l l' : EventLoop} {fd : ℕ}

lemma sound_init : init.Sound where
  tidy := tidy_netSetupServer
  apart := by simp [init]
  nodup := List.nodup_nil
  enough := le_rfl
  books _ := rfl
  reads fd _ h := absurd rfl h
  accepts h := absurd rfl h

lemma Sound.served (h : l.Sound) : Served (.ok l) := by
  constructor
  · intro fd hfd hpending
    have hunread : (l.inbox fd).unread = [] := by
      by_contra hne
      exact hpending ⟨h.tidy.readEvents ▸ hfd, h.reads fd (.inr hfd) hne⟩
    rw [h.books fd, hunread, List.append_nil]
  · intro hpending
    by_contra hne
    exact hpending (h.accepts hne)

/-! ### One step -/

section Step

variable {f : Inbox → Inbox} {bytes : List UInt8} {limit : ℕ}

lemma inbox_atFd (l : EventLoop) (fd : ℕ) (f : Inbox → Inbox) (k : ℕ) :
    (l.atFd fd f).inbox k = if k = fd then f (l.inbox fd) else l.inbox k :=
  Function.update_apply l.inbox fd _ k

/-- Something is changed for one descriptor, and nothing is left there without a callback. -/
lemma Sound.atFd (h : l.Sound)
    (hbooks : (f (l.inbox fd)).received = (f (l.inbox fd)).passed ++ (f (l.inbox fd)).unread)
    (hreads : l.Connected fd → (f (l.inbox fd)).unread ≠ [] →
      (f (l.inbox fd)).edge ∨ (f (l.inbox fd)).active) : (l.atFd fd f).Sound where
  tidy := h.tidy
  apart := h.apart
  nodup := h.nodup
  enough := h.enough
  books k := by
    rw [inbox_atFd]
    split
    · exact hbooks
    · exact h.books k
  reads k hk := by
    rw [inbox_atFd]
    split
    next heq =>
      subst heq
      exact hreads hk
    next => exact h.reads k hk
  accepts := h.accepts

lemma Sound.connect (h : l.Sound) (hfd : ¬ l.Connected fd) :
    EventLoop.Sound
      { l.atFd fd fun _ => .empty with waiting := l.waiting ++ [fd], edge := true } := by
  have hnew : (l.atFd fd fun _ => .empty).Sound := h.atFd rfl fun _ hne => absurd rfl hne
  have hinbox : (l.atFd fd fun _ => .empty).inbox fd = .empty := by rw [inbox_atFd, if_pos rfl]
  obtain ⟨hwaiting, hsockets⟩ := not_or.mp hfd
  exact {
    tidy := h.tidy
    apart := by
      intro k hk
      rcases List.mem_append.mp hk with hk | hk
      · exact h.apart k hk
      · rwa [List.mem_singleton.mp hk]
    nodup := List.nodup_append.mpr ⟨h.nodup, by simp, by
      rintro a ha b hb rfl
      rw [List.mem_singleton.mp hb] at ha
      exact hwaiting ha⟩
    enough := by
      have henough := h.enough
      have hactive : (l.atFd fd fun _ => .empty).active = l.active := rfl
      simp only [List.length_append, List.length_singleton, Bool.toNat_true, hactive]
      omega
    books := hnew.books
    reads := by
      intro k hk hne
      by_cases heq : k = fd
      · subst heq
        exact absurd (congrArg Inbox.unread hinbox) hne
      · refine hnew.reads k ?_ hne
        rcases hk with hk | hk
        · exact .inl ((List.mem_append.mp hk).resolve_right (by simpa using heq))
        · exact .inr hk
    accepts := fun _ => .inl rfl }

lemma Sound.pollListen (h : l.Sound) (hactive : ¬ l.active) :
    EventLoop.Sound { l with edge := false, active := l.edge } where
  tidy := h.tidy
  apart := h.apart
  nodup := h.nodup
  enough := by
    have henough := h.enough
    simp only [Bool.toNat_false]
    omega
  books := h.books
  reads := h.reads
  accepts hne := .inr ((h.accepts hne).resolve_right hactive)

lemma Sound.newConnection {client : ℕ} {waiting : List ℕ} (h : l.Sound) (hactive : l.active)
    (hwaiting : l.waiting = client :: waiting) (hone : waiting = [] ∨ l.edge) :
    EventLoop.Sound { l with
      net := l.net.netOnNewConnection ⟨some client, true, true, true⟩
      waiting := waiting
      active := false } := by
  have hapart := h.apart
  have hnodup := h.nodup
  have henough := h.enough
  rw [hwaiting] at hapart hnodup henough
  obtain ⟨hclient, hrest⟩ := List.nodup_cons.mp hnodup
  exact {
    tidy := h.tidy.setUp (hapart client List.mem_cons_self)
    apart := by
      intro k hk hmem
      rcases List.mem_cons.mp hmem with heq | hmem
      · exact hclient (Int.ofNat.inj heq ▸ hk)
      · exact hapart k (List.mem_cons_of_mem client hk) hmem
    nodup := hrest
    enough := by
      rw [hactive, List.length_cons] at henough
      simp only [Bool.toNat_true, Bool.toNat_false] at henough ⊢
      omega
    books := h.books
    reads := by
      intro k hk
      refine h.reads k ?_
      rcases hk with hk | hmem
      · exact .inl (hwaiting ▸ List.mem_cons_of_mem client hk)
      · rcases List.mem_cons.mp hmem with heq | hmem
        · exact .inl (hwaiting ▸ Int.ofNat.inj heq ▸ List.mem_cons_self)
        · exact .inr hmem
    accepts := fun hne => .inl (hone.resolve_left hne) }

lemma Inbox.books_read {i : Inbox} (h : i.received = i.passed ++ i.unread) :
    i.read.received = i.read.passed ++ i.read.unread := by
  simp only [Inbox.read, List.append_assoc, List.take_append_drop]
  exact h

/-- The connection stays open. -/
lemma Sound.read (h : l.Sound)
    (hleft : (l.inbox fd).unread.length ≤ BUFFER_SIZE ∨ (l.inbox fd).edge) :
    (l.atFd fd Inbox.read).Sound := by
  refine h.atFd (Inbox.books_read (h.books fd)) fun _ hne => ?_
  refine .inl (hleft.resolve_left fun hle => hne ?_)
  exact List.drop_eq_nil_of_le hle

/-- The connection is closed. -/
lemma Sound.disconnect (h : l.Sound) (fd : ℕ) (hfd : (fd : ℤ) ∈ l.net.sockets) :
    EventLoop.Sound { l.atFd fd Inbox.read with
      net := l.net.netDisconnect (some (connectionOf fd)) } where
  tidy := h.tidy.netDisconnect fd
  apart k hk hmem := h.apart k hk (List.mem_of_mem_erase hmem)
  nodup := h.nodup
  enough := h.enough
  books k := by
    rw [inbox_atFd]
    split
    · exact Inbox.books_read (h.books fd)
    · exact h.books k
  reads k hk := by
    have hsockets : (fd : ℤ) ∉ l.net.sockets.erase fd :=
      fun hmem => ((h.tidy.nodup.mem_erase_iff).mp hmem).1 rfl
    rw [inbox_atFd]
    split
    next heq =>
      subst heq
      rcases hk with hk | hk
      · exact absurd hfd (h.apart k hk)
      · exact absurd hk hsockets
    next => exact h.reads k (hk.imp_right List.mem_of_mem_erase)
  accepts := h.accepts

end Step

end EventLoop

/-! ## Runs -/

section Runs

open EventLoop

variable {limit : ℕ} {l l' : EventLoop} {e : LoopEvent}

/-- `net_on_new_connection` finds somebody to accept. -/
lemma exists_waiting (h : l.Sound) (hactive : l.active) :
    ∃ client rest, l.waiting = client :: rest := by
  refine List.exists_cons_of_length_pos ?_
  have henough := h.enough
  rw [hactive, Bool.toNat_true] at henough
  omega

lemma loopStep_newConnection (h : l.Sound) {client : ℕ} {rest : List ℕ} (hactive : l.active)
    (hwaiting : l.waiting = client :: rest) :
    loopStep limit l .newConnection = .ok { l with
      net := l.net.netOnNewConnection ⟨some client, true, true, true⟩
      waiting := rest
      active := false } := by
  have hfree : (client : ℤ) ∉ l.net.sockets := h.apart client (hwaiting ▸ List.mem_cons_self)
  have hstep : netStep l.net (.newConnection ⟨some client, true, true, true⟩) =
      .ok (l.net.netOnNewConnection ⟨some client, true, true, true⟩) :=
    netStep_newConnection (by simpa using hfree)
  simp only [loopStep, if_pos hactive, hwaiting, List.head?_cons, List.tail_cons, hstep, ok_bind]

lemma loopStep_read (h : l.Sound) {fd : ℕ} {disconnects : Bool} (hfd : (fd : ℤ) ∈ l.net.sockets)
    (hactive : (l.inbox fd).active) :
    loopStep limit l (.read fd disconnects) = .ok { l.atFd fd Inbox.read with
      net := if ((l.inbox fd).outcome disconnects).disconnects then
        l.net.netDisconnect (some (connectionOf fd)) else l.net } := by
  have hread : (fd : ℤ) ∈ l.net.readEvents := h.tidy.readEvents ▸ hfd
  simp only [loopStep]
  rw [if_pos ⟨hread, hactive⟩, netStep_read h.tidy hfd, ok_bind]

/-- A read that finds something leaves the connection to the read handler. -/
lemma Inbox.disconnects_outcome {i : Inbox} {disconnects : Bool} :
    (i.outcome disconnects).disconnects = (i.unread.isEmpty || disconnects) := by
  cases hunread : i.unread with
  | nil => simp [Inbox.outcome, hunread, ReadOutcome.disconnects]
  | cons b bs => simp [Inbox.outcome, hunread, ReadOutcome.disconnects]

lemma loopStep_ok (h : l.Sound) (hok : TakesAll l e) :
    ∃ l', loopStep limit l e = .ok l' ∧ l'.Sound := by
  cases e with
  | connect fd =>
    refine ⟨_, rfl, ?_⟩
    split
    next hfd => exact h.connect hfd.2
    next => exact h
  | arrive fd bytes =>
    refine ⟨_, rfl, ?_⟩
    split
    next hfd =>
      refine h.atFd ?_ fun _ _ => .inl rfl
      simp only [Inbox.arrive, h.books fd, List.append_assoc]
    next => exact h
  | pollListen =>
    refine ⟨_, rfl, ?_⟩
    split
    next => exact h
    next hactive => exact h.pollListen hactive
  | pollRead fd =>
    refine ⟨_, rfl, ?_⟩
    split
    next hfd =>
      refine h.atFd (h.books fd) fun hconnected hne => .inr ?_
      have hpending := h.reads fd hconnected hne
      rw [hfd.2] at hpending
      exact hpending.resolve_right Bool.false_ne_true
    next => exact h
  | newConnection =>
    by_cases hactive : l.active
    · obtain ⟨client, rest, hwaiting⟩ := exists_waiting h hactive
      refine ⟨_, loopStep_newConnection h hactive hwaiting, h.newConnection hactive hwaiting ?_⟩
      refine (hok hactive).imp_left fun hlength => ?_
      rw [hwaiting, List.length_cons] at hlength
      exact List.length_eq_zero_iff.mp (by omega)
    · exact ⟨l, if_neg hactive, h⟩
  | read fd disconnects =>
    by_cases hfd : (fd : ℤ) ∈ l.net.readEvents ∧ (l.inbox fd).active
    · have hsocket : (fd : ℤ) ∈ l.net.sockets := h.tidy.readEvents ▸ hfd.1
      refine ⟨_, loopStep_read h hsocket hfd.2, ?_⟩
      rw [Inbox.disconnects_outcome]
      by_cases hclose : ((l.inbox fd).unread.isEmpty || disconnects) = true
      · rw [if_pos hclose]
        exact h.disconnect fd hsocket
      · rw [if_neg hclose]
        refine h.read (hok hfd.1 hfd.2 ?_)
        rw [Bool.not_eq_true, Bool.or_eq_false_iff] at hclose
        exact hclose.2
    · exact ⟨l, if_neg hfd, h⟩

/-- A callback that takes less than there is, and is not scheduled again, leaves something
behind. -/
lemma not_served_of_not_takesAll (h : l.Sound) (hno : ¬ TakesAll l e) :
    ¬ Served (loopStep limit l e) := by
  cases e with
  | connect fd => exact absurd trivial hno
  | arrive fd bytes => exact absurd trivial hno
  | pollListen => exact absurd trivial hno
  | pollRead fd => exact absurd trivial hno
  | newConnection =>
    obtain ⟨hactive, hno⟩ := Classical.not_imp.mp hno
    obtain ⟨hlength, hedge⟩ := not_or.mp hno
    obtain ⟨client, rest, hwaiting⟩ := exists_waiting h hactive
    rw [loopStep_newConnection h hactive hwaiting]
    rintro ⟨-, haccepts⟩
    have hrest : rest = [] := haccepts (by simp [AcceptPending, hedge])
    rw [hwaiting, hrest] at hlength
    exact hlength le_rfl
  | read fd disconnects =>
    simp only [TakesAll, Classical.not_imp, not_or] at hno
    obtain ⟨hfd, hactive, rfl, hlength, hedge⟩ := hno
    have hsocket : (fd : ℤ) ∈ l.net.sockets := h.tidy.readEvents ▸ hfd
    have hopen : ((l.inbox fd).outcome false).disconnects = false := by
      rw [Inbox.disconnects_outcome, Bool.or_false, List.isEmpty_eq_false_iff]
      rintro hnil
      simp [hnil] at hlength
    rw [loopStep_read h hsocket hactive, hopen]
    rintro ⟨hserved, -⟩
    have hinbox : (l.atFd fd Inbox.read).inbox fd = (l.inbox fd).read := by
      rw [inbox_atFd, if_pos rfl]
    have hpassed := hserved fd hsocket (by simp [ReadPending, hinbox, Inbox.read, hedge])
    simp only [hinbox, Inbox.read, h.books fd, List.append_cancel_left_eq] at hpassed
    have htake := congrArg List.length hpassed
    rw [List.length_take] at htake
    omega

/-- When no callback is scheduled at all, everything has been done. -/
lemma allServed_of_served (h : Served (.ok l)) (hquiet : l.Quiet) : l.AllServed :=
  ⟨fun fd hfd => h.1 fd hfd (hquiet.1 fd), h.2 hquiet.2⟩

end Runs

/-- Where no callback of a descriptor is scheduled, nothing is left there, in every state of a run,
exactly when every callback of the run finds at most 1023 bytes, or one connection, or is scheduled
again, or ends its connection.  In such a run nothing is left anywhere when no callback is
scheduled. -/
theorem stranded_iff (limit : ℕ) (events : List LoopEvent) :
    ((∀ pre, pre <+: events → Served (run (loopStep limit) EventLoop.init pre)) ↔
      Guarded (loopStep limit) TakesAll EventLoop.init events) ∧
    (Guarded (loopStep limit) TakesAll EventLoop.init events → ∀ pre, pre <+: events →
      ∃ l, run (loopStep limit) EventLoop.init pre = .ok l ∧ (l.Quiet → l.AllServed)) := by
  have hiff : (∀ pre, pre <+: events → Served (run (loopStep limit) EventLoop.init pre)) ↔
      Guarded (loopStep limit) TakesAll EventLoop.init events := by
    refine guarded_iff (I := EventLoop.Sound) ?_ ?_ ?_ EventLoop.sound_init
      EventLoop.sound_init.served
    · intro l e l' h hok hstep
      obtain ⟨k, hk, hsound⟩ := loopStep_ok h hok
      rw [hk] at hstep
      cases hstep
      exact hsound
    · intro l e h hok
      obtain ⟨k, hk, hsound⟩ := loopStep_ok h hok
      rw [hk]
      exact hsound.served
    · intro l e h hno
      exact not_served_of_not_takesAll h hno
  refine ⟨hiff, fun hguarded pre hpre => ?_⟩
  have hserved := hiff.mpr hguarded pre hpre
  cases hrun : run (loopStep limit) EventLoop.init pre with
  | error fault =>
    rw [hrun] at hserved
    exact hserved.elim
  | ok l =>
    rw [hrun] at hserved
    exact ⟨l, rfl, allServed_of_served hserved⟩

/-- A client sends 1024 bytes at once.  The callback reads 1023 of them, and is not scheduled
again. -/
theorem last_byte_stranded :
    ∃ l, run (loopStep 1) EventLoop.init [.connect 5, .pollListen, .newConnection,
        .arrive 5 (List.replicate 1024 0), .pollRead 5, .read 5 false] = .ok l ∧
      l.Quiet ∧ (5 : ℤ) ∈ l.net.sockets ∧
      (l.inbox 5).received = (l.inbox 5).passed ++ [0] ∧ ¬ l.AllServed := by
  obtain ⟨l, hrun, hsockets, hevents, hedge, hactive, hinbox⟩ : ∃ l,
      run (loopStep 1) EventLoop.init [.connect 5, .pollListen, .newConnection,
        .arrive 5 (List.replicate 1024 0), .pollRead 5, .read 5 false] = .ok l ∧
      l.net.sockets = [5] ∧ l.net.readEvents = [5] ∧ l.edge = false ∧ l.active = false ∧
      l.inbox 5 = Inbox.read ⟨List.replicate 1024 0, List.replicate 1024 0, [], false, true⟩ :=
    ⟨_, rfl, rfl, rfl, rfl, rfl, rfl⟩
  have hsocket : ((5 : ℕ) : ℤ) ∈ l.net.sockets := by simp [hsockets]
  have hreceived : (l.inbox 5).received = (l.inbox 5).passed ++ [0] := by
    rw [hinbox, Inbox.read, List.nil_append, List.take_replicate]
    exact List.replicate_succ'
  have hidle : (l.inbox 5).edge = false ∧ (l.inbox 5).active = false := by
    rw [hinbox]
    exact ⟨rfl, rfl⟩
  refine ⟨l, hrun, ⟨?_, ?_⟩, hsocket, hreceived, ?_⟩
  · rintro fd ⟨hfd, hpending⟩
    rw [hevents, List.mem_singleton] at hfd
    obtain rfl : fd = 5 := Int.ofNat.inj hfd
    simp [hidle] at hpending
  · simp [EventLoop.AcceptPending, hedge, hactive]
  · rintro ⟨hall, -⟩
    have hpassed := hall 5 hsocket
    simp [hreceived] at hpassed

end SledServer
