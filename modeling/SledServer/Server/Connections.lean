import Mathlib.Tactic.Linarith
import SledServer.Core.Run

/-!
# The table of connections

`server.cc`: the callbacks that accept connections, read from them and close them, and the table
`connection_data` in which the server finds the connection of a descriptor.  The table is read with
`operator[]`, which puts a null pointer into it where there is no entry.

The outcomes of the calls into the kernel and into libevent are part of the events.  Of the
callbacks that the server has registered, an event can only be one that is still registered.

`connections_iff` says which set-ups of a connection keep the table in order.
-/

namespace SledServer

open SledServer.Core

/-- `net_connection_t`.  An event of libevent is known by the descriptor it is for. -/
structure NetConnection where
  fd : ℤ
  readEvent : Option ℤ
  bufferEvent : Option ℤ
  deriving DecidableEq

/-- `net_server_t`, and what the kernel and libevent hold for it: the sockets that have been
accepted and not been closed, the read events that have been added, and the buffer events that have
their callback. -/
structure NetServer where
  connectionData : Std.TreeMap ℤ (Option NetConnection)
  sockets : List ℤ
  readEvents : List ℤ
  bufferEvents : List ℤ

/-- A read callback that is given a null pointer stops the process. -/
inductive NetFault
  | nullConnection
  deriving DecidableEq

/-- The outcomes of the calls that set a connection up: the descriptor from `accept`, if there is
one, and whether `event_new`, `event_add` and `bufferevent_socket_new` succeed. -/
structure SetUp where
  accept : Option ℕ
  eventNew : Bool
  eventAdd : Bool
  bufferNew : Bool

/-- What `read` returns.  With data, the read handler may disconnect the connection. -/
inductive ReadOutcome
  | failed
  | closed
  | data (disconnects : Bool)

/-- The callbacks, and the outcomes of what they call. -/
inductive NetEvent
  | newConnection (o : SetUp)
  | read (fd : ℤ) (o : ReadOutcome)
  | client (fd : ℤ) (failed : Bool)

namespace NetServer

/-- `net_setup_server` -/
def netSetupServer : NetServer where
  connectionData := ∅
  sockets := []
  readEvents := []
  bufferEvents := []

/-- `connection_data[fd]` -/
def connectionAt (fd : ℤ) (v : NetServer) : Option NetConnection × NetServer :=
  match v.connectionData[fd]? with
  | some conn => (conn, v)
  | none => (none, { v with connectionData := v.connectionData.insert fd none })

/-- `close` -/
def close (fd : ℤ) (v : NetServer) : NetServer := { v with sockets := v.sockets.erase fd }

/-- `event_del` and `event_free` -/
def eventFree (event : ℤ) (v : NetServer) : NetServer :=
  { v with readEvents := v.readEvents.erase event }

/-- `bufferevent_free` -/
def buffereventFree (event : ℤ) (v : NetServer) : NetServer :=
  { v with bufferEvents := v.bufferEvents.erase event }

/-- `net_disconnect` -/
def netDisconnect (conn : Option NetConnection) (v : NetServer) : NetServer :=
  match conn with
  | none => v
  | some conn =>
    let v := { v with connectionData := v.connectionData.erase conn.fd }
    let v := match conn.readEvent with
      | some event => v.eventFree event
      | none => v
    let v := match conn.bufferEvent with
      | some event => v.buffereventFree event
      | none => v
    v.close conn.fd

/-- `net_on_client_event`.  `failed` is whether the event is an error or the end of the stream. -/
def netOnClientEvent (fd : ℤ) (failed : Bool) (v : NetServer) : NetServer :=
  if failed then
    let (conn, v) := v.connectionAt fd
    v.netDisconnect conn
  else v

/-- `net_on_read` -/
def netOnRead (fd : ℤ) (o : ReadOutcome) (v : NetServer) : Except NetFault NetServer :=
  let (conn, v) := v.connectionAt fd
  match o with
  | .failed | .closed => .ok (v.netDisconnect conn)
  | .data disconnects =>
    match conn with
    | none => .error .nullConnection
    | some conn => .ok (if disconnects then v.netDisconnect (some conn) else v)

/-- `accept_client` -/
def acceptClient (accept : Option ℕ) (v : NetServer) : ℤ × NetServer :=
  match accept with
  | some client => (client, { v with sockets := (client : ℤ) :: v.sockets })
  | none => (-1, v)

/-- `net_on_new_connection` -/
def netOnNewConnection (o : SetUp) (v : NetServer) : NetServer :=
  let (client, v) := v.acceptClient o.accept
  if !o.eventNew then v.close client
  else if !o.eventAdd then v.close client
  else
    let v := { v with readEvents := client :: v.readEvents }
    if !o.bufferNew then v
    else
      let conn : NetConnection := ⟨client, some client, some client⟩
      { v with
        connectionData := v.connectionData.insert client (some conn)
        bufferEvents := client :: v.bufferEvents }

/-- The loop of `net_teardown_server`, for at most `n` rounds. -/
def netTeardownServer : ℕ → NetServer → Option NetServer
  | 0, _ => none
  | n + 1, v =>
    match v.connectionData.minKey? with
    | none => some v
    | some fd => netTeardownServer n (v.netDisconnect (v.connectionAt fd).1)

end NetServer

/-- The event can come: `accept` returns no descriptor that is in use, and callbacks come from
events that are registered. -/
def NetEvent.Possible (v : NetServer) : NetEvent → Prop
  | .newConnection o => ∀ client ∈ o.accept, (client : ℤ) ∉ v.sockets
  | .read fd _ => fd ∈ v.readEvents
  | .client fd _ => fd ∈ v.bufferEvents

instance (v : NetServer) (e : NetEvent) : Decidable (e.Possible v) := by
  cases e <;> unfold NetEvent.Possible <;> infer_instance

/-- What the server does when an event comes.  One that cannot come changes nothing. -/
def netStep (v : NetServer) (e : NetEvent) : Except NetFault NetServer :=
  if e.Possible v then
    match e with
    | .newConnection o => .ok (v.netOnNewConnection o)
    | .read fd o => v.netOnRead fd o
    | .client fd failed => .ok (v.netOnClientEvent fd failed)
  else .ok v

/-! ## Order -/

namespace NetServer

/-- The table is consistent: each entry is the connection of an accepted socket, stored under its
descriptor; each read event has an entry; and no socket has been left open without one. -/
structure Consistent (v : NetServer) : Prop where
  entries : ∀ fd conn, v.connectionData[fd]? = some conn →
    fd ∈ v.sockets ∧ ∃ c, conn = some c ∧ c.fd = fd
  readEvents : ∀ fd ∈ v.readEvents, fd ∈ v.connectionData
  sockets : ∀ fd ∈ v.sockets, fd ∈ v.connectionData

/-- The loop of `net_teardown_server` comes to its end. -/
def TearsDown (v : NetServer) : Prop := ∃ n v', netTeardownServer n v = some v'

end NetServer

/-- The server has not stopped, its table is consistent, and it can be torn down. -/
def Orderly : Except NetFault NetServer → Prop
  | .ok v => v.Consistent ∧ v.TearsDown
  | .error _ => False

/-- If the read event of a connection can be added, then there is a socket and a buffer for it. -/
def SetsUp (v : NetServer) : NetEvent → Prop
  | .newConnection o => (NetEvent.newConnection o).Possible v → o.eventNew → o.eventAdd →
      o.accept.isSome ∧ o.bufferNew
  | _ => True

namespace NetServer

/-- The connection that the server keeps for a socket. -/
def connectionOf (fd : ℤ) : NetConnection := ⟨fd, some fd, some fd⟩

/-- The server holds, for each socket, one entry, one read event and one buffer event. -/
structure Tidy (v : NetServer) : Prop where
  connectionData : ∀ fd, v.connectionData[fd]? =
    if fd ∈ v.sockets then some (some (connectionOf fd)) else none
  readEvents : v.readEvents = v.sockets
  bufferEvents : v.bufferEvents = v.sockets
  nodup : v.sockets.Nodup
  nonneg : ∀ fd ∈ v.sockets, 0 ≤ fd

variable {v : NetServer} {fd : ℤ}

lemma tidy_netSetupServer : netSetupServer.Tidy where
  connectionData := by simp [netSetupServer]
  readEvents := rfl
  bufferEvents := rfl
  nodup := List.nodup_nil
  nonneg := by simp [netSetupServer]

namespace Tidy

lemma mem (h : v.Tidy) : fd ∈ v.connectionData ↔ fd ∈ v.sockets := by
  rw [Std.TreeMap.mem_iff_isSome_getElem?, h.connectionData fd]
  split
  next hfd => simp [hfd]
  next hfd => simp [hfd]

lemma consistent (h : v.Tidy) : v.Consistent where
  entries fd conn hentry := by
    rw [h.connectionData fd] at hentry
    split at hentry
    next hfd =>
      cases hentry
      exact ⟨hfd, _, rfl, rfl⟩
    next => cases hentry
  readEvents fd hfd := by
    rw [h.readEvents] at hfd
    exact h.mem.mpr hfd
  sockets fd hfd := h.mem.mpr hfd

/-- The entry of a socket is found, and nothing is put into the table. -/
lemma connectionAt (h : v.Tidy) (hfd : fd ∈ v.sockets) :
    v.connectionAt fd = (some (connectionOf fd), v) := by
  rw [NetServer.connectionAt, h.connectionData fd, if_pos hfd]

lemma netDisconnect (h : v.Tidy) (fd : ℤ) : (v.netDisconnect (some (connectionOf fd))).Tidy where
  connectionData k := by
    have hmem := h.nodup.mem_erase_iff (a := k) (b := fd)
    have hentry := h.connectionData k
    simp only [NetServer.netDisconnect, connectionOf, eventFree, buffereventFree, close,
      Std.TreeMap.getElem?_erase, hmem] at hentry ⊢
    by_cases hk : fd = k
    · simp [hk]
    · have hk' : k ≠ fd := fun heq => hk heq.symm
      simp [hk, hk', hentry]
  readEvents := congrArg (List.erase · fd) h.readEvents
  bufferEvents := congrArg (List.erase · fd) h.bufferEvents
  nodup := h.nodup.erase fd
  nonneg k hk := h.nonneg k (List.mem_of_mem_erase hk)

/-- A socket that is closed again leaves no trace. -/
lemma rejected (h : v.Tidy) (accept : Option ℕ)
    (hfree : ∀ client ∈ accept, (client : ℤ) ∉ v.sockets) :
    ((v.acceptClient accept).2.close (v.acceptClient accept).1).Tidy := by
  have hv : (v.acceptClient accept).2.close (v.acceptClient accept).1 = v := by
    cases accept with
    | none =>
      have hneg : (-1 : ℤ) ∉ v.sockets := fun hmem => absurd (h.nonneg _ hmem) (by omega)
      rw [acceptClient, close, List.erase_of_not_mem hneg]
    | some client => rw [acceptClient, close, List.erase_cons_head]
  rw [hv]
  exact h

/-- A connection that has been set up. -/
lemma setUp (h : v.Tidy) {client : ℕ} (hfree : (client : ℤ) ∉ v.sockets) :
    (v.netOnNewConnection ⟨some client, true, true, true⟩).Tidy where
  connectionData fd := by
    simp only [netOnNewConnection, acceptClient, Bool.not_true, Bool.false_eq_true, if_false,
      Std.TreeMap.getElem?_insert, Std.compare_eq_iff_eq, List.mem_cons, h.connectionData fd]
    by_cases hfd : (client : ℤ) = fd
    · simp [hfd, connectionOf]
    · have hfd' : fd ≠ client := fun heq => hfd heq.symm
      simp [hfd, hfd']
  readEvents := congrArg (List.cons (client : ℤ)) h.readEvents
  bufferEvents := congrArg (List.cons (client : ℤ)) h.bufferEvents
  nodup := List.nodup_cons.mpr ⟨hfree, h.nodup⟩
  nonneg fd hfd := by
    rcases List.mem_cons.mp hfd with rfl | hmem
    · exact Int.natCast_nonneg client
    · exact h.nonneg fd hmem

lemma netOnNewConnection (h : v.Tidy) {o : SetUp}
    (hfree : ∀ client ∈ o.accept, (client : ℤ) ∉ v.sockets)
    (ho : o.eventNew → o.eventAdd → o.accept.isSome ∧ o.bufferNew) :
    (v.netOnNewConnection o).Tidy := by
  obtain ⟨accept, eventNew, eventAdd, bufferNew⟩ := o
  cases eventNew with
  | false => exact h.rejected accept hfree
  | true =>
    cases eventAdd with
    | false => exact h.rejected accept hfree
    | true =>
      obtain ⟨haccept, hbuffer⟩ := ho rfl rfl
      obtain ⟨client, hclient⟩ := Option.isSome_iff_exists.mp haccept
      simp only at hclient hbuffer
      subst hclient hbuffer
      exact h.setUp (hfree client rfl)

/-- Every round of the teardown takes an entry out of the table. -/
lemma tearsDown (h : v.Tidy) : v.TearsDown := by
  induction hn : v.connectionData.size using Nat.strong_induction_on generalizing v with
  | _ n ih =>
    cases hmin : v.connectionData.minKey? with
    | none => exact ⟨1, v, by rw [netTeardownServer, hmin]⟩
    | some fd =>
      have hcontains := Std.TreeMap.contains_minKey? hmin
      have hfd := h.mem.mp (Std.TreeMap.mem_iff_contains.mpr hcontains)
      have hpos : v.connectionData.size ≠ 0 := by
        have hempty := Std.TreeMap.isEmpty_eq_false_of_contains hcontains
        rw [Std.TreeMap.isEmpty_eq_size_eq_zero] at hempty
        simpa using hempty
      have hsize : (v.netDisconnect (some (connectionOf fd))).connectionData.size < n := by
        simp only [NetServer.netDisconnect, connectionOf, eventFree, buffereventFree, close,
          Std.TreeMap.size_erase]
        rw [if_pos hcontains]
        omega
      obtain ⟨m, v', hm⟩ := ih _ hsize (h.netDisconnect fd) rfl
      refine ⟨m + 1, v', ?_⟩
      rw [netTeardownServer, hmin]
      simp only [h.connectionAt hfd]
      exact hm

lemma orderly (h : v.Tidy) : Orderly (.ok v) := ⟨h.consistent, h.tearsDown⟩

end Tidy

end NetServer

/-! ## Runs -/

section Runs

open NetServer

variable {v v' : NetServer} {e : NetEvent}

/-- Whether a read ends the connection. -/
def ReadOutcome.disconnects : ReadOutcome → Bool
  | .data disconnects => disconnects
  | _ => true

lemma netStep_newConnection {o : SetUp} (hfree : ∀ client ∈ o.accept, (client : ℤ) ∉ v.sockets) :
    netStep v (.newConnection o) = .ok (v.netOnNewConnection o) := if_pos hfree

lemma netStep_read (h : v.Tidy) {fd : ℤ} (hfd : fd ∈ v.sockets) (o : ReadOutcome) :
    netStep v (.read fd o) =
      .ok (if o.disconnects then v.netDisconnect (some (connectionOf fd)) else v) := by
  have hp : (NetEvent.read fd o).Possible v := by
    rw [NetEvent.Possible, h.readEvents]
    exact hfd
  rw [netStep, if_pos hp]
  simp only [netOnRead, h.connectionAt hfd]
  cases o <;> rfl

/-- What a callback does that comes from a registered event, when the server holds what it
should. -/
lemma netStep_ok (h : v.Tidy) (hok : SetsUp v e) : ∃ v', netStep v e = .ok v' ∧ v'.Tidy := by
  by_cases hp : e.Possible v
  · cases e with
    | newConnection o =>
      exact ⟨_, netStep_newConnection hp, h.netOnNewConnection hp (hok hp)⟩
    | read fd o =>
      refine ⟨_, netStep_read h (h.readEvents ▸ hp) o, ?_⟩
      split
      · exact h.netDisconnect fd
      · exact h
    | client fd failed =>
      have hfd : fd ∈ v.sockets := h.bufferEvents ▸ hp
      refine ⟨_, if_pos hp, ?_⟩
      simp only [netOnClientEvent, h.connectionAt hfd]
      split
      · exact h.netDisconnect fd
      · exact h
  · exact ⟨v, if_neg hp, h⟩

/-- Without a buffer, the read event stays behind. -/
lemma not_consistent_without_buffer (h : v.Tidy) {accept : Option ℕ}
    (hfree : ∀ client ∈ accept, (client : ℤ) ∉ v.sockets) :
    ¬ (v.netOnNewConnection ⟨accept, true, true, false⟩).Consistent := by
  intro hc
  have hevent := hc.readEvents (v.acceptClient accept).1 (by simp [NetServer.netOnNewConnection])
  cases accept with
  | none =>
    have hneg := h.nonneg _ (h.mem.mp hevent)
    simp [acceptClient] at hneg
  | some client => exact hfree client rfl (h.mem.mp hevent)

/-- Without a socket, the entry is stored under -1. -/
lemma not_consistent_without_socket (h : v.Tidy) :
    ¬ (v.netOnNewConnection ⟨none, true, true, true⟩).Consistent := by
  intro hc
  have hentry := (hc.entries (-1) (some ⟨-1, some (-1), some (-1)⟩)
    (by simp [NetServer.netOnNewConnection, acceptClient])).1
  have hneg := h.nonneg _ hentry
  omega

/-- A set-up that goes on without a socket, or stops without a buffer, leaves the table in
disorder. -/
lemma not_orderly_of_not_setsUp (h : v.Tidy) (hno : ¬ SetsUp v e) : ¬ Orderly (netStep v e) := by
  cases e with
  | read fd o => exact absurd trivial hno
  | client fd failed => exact absurd trivial hno
  | newConnection o =>
    obtain ⟨accept, eventNew, eventAdd, bufferNew⟩ := o
    simp only [SetsUp, not_forall] at hno
    obtain ⟨hp, rfl, rfl, hno⟩ := hno
    rw [netStep_newConnection hp]
    rintro ⟨hc, -⟩
    cases bufferNew with
    | false => exact not_consistent_without_buffer h hp hc
    | true =>
      cases accept with
      | none => exact not_consistent_without_socket h hc
      | some client => exact hno ⟨rfl, rfl⟩

/-- The loop of `net_teardown_server` does not get past a null pointer. -/
lemma netTeardownServer_of_null (fd : ℤ) (hmin : v.connectionData.minKey? = some fd)
    (hnull : v.connectionData[fd]? = some none) (n : ℕ) : netTeardownServer n v = none := by
  induction n with
  | zero => rfl
  | succ n ih =>
    rw [netTeardownServer, hmin]
    simp only [connectionAt, hnull, NetServer.netDisconnect]
    exact ih

end Runs

/-- The table stays consistent, no read callback gets a null pointer and the server can be torn down
in every state of a run exactly when, in every set-up of a connection in which `event_new` and
`event_add` succeed, `accept` and `bufferevent_socket_new` succeed too. -/
theorem connections_iff (events : List NetEvent) :
    (∀ pre, pre <+: events → Orderly (run netStep NetServer.netSetupServer pre)) ↔
      Guarded netStep SetsUp NetServer.netSetupServer events := by
  refine guarded_iff (I := NetServer.Tidy) ?_ ?_ ?_ NetServer.tidy_netSetupServer
    NetServer.tidy_netSetupServer.orderly
  · intro v e v' h hok hstep
    obtain ⟨u, hu, htidy⟩ := netStep_ok h hok
    rw [hu] at hstep
    cases hstep
    exact htidy
  · intro v e h hok
    obtain ⟨u, hu, htidy⟩ := netStep_ok h hok
    rw [hu]
    exact htidy.orderly
  · intro v e h hno
    exact not_orderly_of_not_setsUp h hno

/-- `bufferevent_socket_new` fails for the first connection.  When the client sends something, the
read handler is given a null pointer; when the client leaves, the null pointer stays in the table,
and the server cannot be torn down. -/
theorem buffer_missing :
    run netStep NetServer.netSetupServer
        [.newConnection ⟨some 5, true, true, false⟩, .read 5 (.data false)] =
      .error .nullConnection ∧
    (∃ v, run netStep NetServer.netSetupServer
        [.newConnection ⟨some 5, true, true, false⟩, .read 5 .closed] = .ok v ∧
      ∀ n, NetServer.netTeardownServer n v = none) ∧
    ¬ ∀ events pre, pre <+: events → Orderly (run netStep NetServer.netSetupServer pre) := by
  have hmin : ((∅ : Std.TreeMap ℤ (Option NetConnection)).insert 5 none).minKey? = some 5 := by
    simp [Std.TreeMap.minKey?_insert]
  refine ⟨rfl, ⟨_, rfl, netTeardownServer_of_null 5 hmin rfl⟩, fun hall => ?_⟩
  exact hall [.newConnection ⟨some 5, true, true, false⟩, .read 5 (.data false)] _ List.prefix_rfl

end SledServer
