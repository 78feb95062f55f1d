import KeliNative.Tun.Process

/-!
# One flow of the session table

The table keeps a flow in one of three maps or in none.
-/

namespace KeliNative.Tun
open AList

inductive FlowState where
  | absent
  | active (session : TunTcpSessionRecord)
  | serverClosed (closed : TunTcpServerClosedSession)
  | postClosed (postClose : TunTcpPostCloseSession)
  deriving DecidableEq

namespace FlowState

def session : FlowState → Option TunTcpSessionRecord
  | .active session => some session
  | _ => none

def closed : FlowState → Option TunTcpServerClosedSession
  | .serverClosed closed => some closed
  | _ => none

def post : FlowState → Option TunTcpPostCloseSession
  | .postClosed postClose => some postClose
  | _ => none

variable (r : TunTcpSessionRecord) (c : TunTcpServerClosedSession) (p : TunTcpPostCloseSession)

@[simp] theorem session_active : (active r).session = some r := rfl
@[simp] theorem closed_active : (active r).closed = none := rfl
@[simp] theorem post_active : (active r).post = none := rfl
@[simp] theorem session_serverClosed : (serverClosed c).session = none := rfl
@[simp] theorem closed_serverClosed : (serverClosed c).closed = some c := rfl
@[simp] theorem post_serverClosed : (serverClosed c).post = none := rfl
@[simp] theorem session_postClosed : (postClosed p).session = none := rfl
@[simp] theorem closed_postClosed : (postClosed p).closed = none := rfl
@[simp] theorem post_postClosed : (postClosed p).post = some p := rfl
@[simp] theorem session_absent : absent.session = none := rfl
@[simp] theorem closed_absent : absent.closed = none := rfl
@[simp] theorem post_absent : absent.post = none := rfl

theorem session_eq_some {state : FlowState} {r : TunTcpSessionRecord} :
    state.session = some r ↔ state = .active r := by
  cases state <;> simp [session]

theorem closed_eq_some {state : FlowState} {c : TunTcpServerClosedSession} :
    state.closed = some c ↔ state = .serverClosed c := by
  cases state <;> simp [closed]

theorem post_eq_some {state : FlowState} {p : TunTcpPostCloseSession} :
    state.post = some p ↔ state = .postClosed p := by
  cases state <;> simp [post]

end FlowState

/-- A record sits under the key of its own flow, can be answered, and its unacked
payload is the last thing that was sent. -/
structure TunTcpSessionRecord.WellFormed (key : TunTcpSessionKey) (r : TunTcpSessionRecord) :
    Prop where
  key_eq : r.key = key
  fromFlow : TunTcpSessionKey.fromFlow r.flow = .ok key
  buildable : r.flow.Buildable
  unacked : ∀ u, r.serverUnackedPayload = some u → u.payload ≠ [] ∧
    u.payload.length ≤ maxTcpPayloadLen r.flow.ipVersion ∧
    u.sequenceNumber + UInt32.ofNat u.payload.length = r.serverNextSequenceNumber

structure TunTcpServerClosedSession.WellFormed (key : TunTcpSessionKey)
    (c : TunTcpServerClosedSession) : Prop where
  session : c.response.session.WellFormed key
  phase : tunTcpPhaseAcceptsServerResponse c.response.session.phase = true
  sequence : c.response.sequenceNumber = c.response.session.serverNextSequenceNumber
  acknowledgment : c.response.acknowledgmentNumber = c.response.session.clientNextSequenceNumber
  packet : buildTunTcpFinAckResponsePacket c.response.session.flow c.response.sequenceNumber
    c.response.acknowledgmentNumber c.response.session.windowSize = .ok c.response.packet

structure TunTcpPostCloseSession.WellFormed (key : TunTcpSessionKey) (p : TunTcpPostCloseSession) :
    Prop where
  session : p.session.WellFormed key
  recorded : p.clientFinSequenceNumber.isSome = p.clientFinAckPacket.isSome
  packet : ∀ packet, p.clientFinAckPacket = some packet →
    buildTunTcpAckResponsePacket p.session.flow p.serverNextSequenceNumber
      p.clientNextSequenceNumber p.session.windowSize = .ok packet

def FlowState.WellFormed (key : TunTcpSessionKey) : FlowState → Prop
  | .absent => True
  | .active r => r.WellFormed key
  | .serverClosed c => c.WellFormed key
  | .postClosed p => p.WellFormed key

theorem TunTcpSessionRecord.WellFormed.build_ok {key : TunTcpSessionKey} {r : TunTcpSessionRecord}
    (h : r.WellFormed key) (seq ack : UInt32) (flags : TunTcpFlags)
    (win : UInt16) : ∃ pkt, buildTunTcpResponsePacket r.flow seq
      ack flags win [] = .ok pkt :=
  (build_isOk_iff ..).mpr ⟨h.buildable, Nat.zero_le _⟩

namespace TunTcpSessionTable

structure At (table : TunTcpSessionTable) (key : TunTcpSessionKey) (state : FlowState) : Prop where
  session : table.sessions.lookup key = state.session
  closed : table.serverClosedSessions.lookup key = state.closed
  post : table.postClosedSessions.lookup key = state.post

variable {table : TunTcpSessionTable} {key : TunTcpSessionKey} {state : FlowState}

theorem At.unique {st' : FlowState} (h : table.At key state) (h' : table.At key st') :
    state = st' := by
  have hsess := h.session.symm.trans h'.session
  have hclosed := h.closed.symm.trans h'.closed
  have hpost := h.post.symm.trans h'.post
  cases state <;> cases st' <;> simp_all

structure Inv (table : TunTcpSessionTable) : Prop where
  limit : table.sessions.keys.length ≤ table.maxActiveSessions
  flows : ∀ key, ∃ state, table.At key state ∧ state.WellFormed key

theorem Inv.wellFormed (h : table.Inv) (hat : table.At key state) : state.WellFormed key := by
  obtain ⟨st', hat', hwf⟩ := h.flows key
  exact hat'.unique hat ▸ hwf

/-- `table'` is `table` with `key` at `state`; every other key is as it was. -/
structure Updated (table table' : TunTcpSessionTable) (key : TunTcpSessionKey) (state : FlowState) :
    Prop where
  at_key : table'.At key state
  others : ∀ other, other ≠ key → ∀ state', table.At other state' → table'.At other state'
  limit : table'.sessions.keys.length ≤ table'.maxActiveSessions
  maxActiveSessions : table'.maxActiveSessions = table.maxActiveSessions

theorem Updated.refl (h : table.Inv) (hat : table.At key state) : table.Updated table key state :=
  ⟨hat, fun _ _ _ h => h, h.limit, rfl⟩

theorem Updated.trans {table' table'' : TunTcpSessionTable} {st' : FlowState}
    (h : table.Updated table' key state) (h' : table'.Updated table'' key st') :
    table.Updated table'' key st' :=
  ⟨h'.at_key, fun other hne st hat => h'.others other hne st (h.others other hne st hat), h'.limit,
    h'.maxActiveSessions.trans h.maxActiveSessions⟩

theorem Updated.inv {table' : TunTcpSessionTable} (h : table.Inv)
    (hu : table.Updated table' key state) (hwf : state.WellFormed key) : table'.Inv := by
  refine ⟨hu.limit, ?_⟩
  intro other
  by_cases hother : other = key
  · subst hother
    exact ⟨state, hu.at_key, hwf⟩
  · obtain ⟨st', hat, hwf'⟩ := h.flows other
    exact ⟨st', hu.others other hother st' hat, hwf'⟩

theorem withMaxActiveSessions_inv (n : ℕ) : (withMaxActiveSessions n).Inv :=
  ⟨Nat.zero_le _, fun _ => ⟨.absent, ⟨rfl, rfl, rfl⟩, trivial⟩⟩

section

variable {table : TunTcpSessionTable} {key : TunTcpSessionKey}

section

variable (h : table.Inv)

include h

theorem updated_replaceSession {r : TunTcpSessionRecord} (hat : table.At key (.active r))
    (r' : TunTcpSessionRecord) :
    table.Updated { table with sessions := table.sessions.replace key r' } key (.active r') := by
  refine ⟨⟨KeyMap.lookup_replace_self hat.session r', hat.closed, hat.post⟩, ?_, ?_, rfl⟩
  · intro other hne state hother
    exact ⟨(KeyMap.lookup_replace_ne hne r' _).trans hother.session, hother.closed, hother.post⟩
  · rw [keys_replace]
    exact h.limit

theorem updated_replaceServerClosed {c : TunTcpServerClosedSession}
    (hat : table.At key (.serverClosed c)) (c' : TunTcpServerClosedSession) :
    table.Updated { table with serverClosedSessions := table.serverClosedSessions.replace key c' }
      key (.serverClosed c') := by
  refine ⟨⟨hat.session, KeyMap.lookup_replace_self hat.closed c', hat.post⟩, ?_, h.limit, rfl⟩
  intro other hne state hother
  exact ⟨hother.session, (KeyMap.lookup_replace_ne hne c' _).trans hother.closed, hother.post⟩

theorem updated_replacePostClosed {p : TunTcpPostCloseSession} (hat : table.At key (.postClosed p))
    (p' : TunTcpPostCloseSession) :
    table.Updated { table with postClosedSessions := table.postClosedSessions.replace key p' }
      key (.postClosed p') := by
  refine ⟨⟨hat.session, hat.closed, KeyMap.lookup_replace_self hat.post p'⟩, ?_, h.limit, rfl⟩
  intro other hne state hother
  exact ⟨hother.session, hother.closed, (KeyMap.lookup_replace_ne hne p' _).trans hother.post⟩

theorem updated_eraseSession {r : TunTcpSessionRecord} (hat : table.At key (.active r)) :
    table.Updated { table with sessions := table.sessions.erase key } key .absent := by
  refine ⟨⟨lookup_erase _ _, hat.closed, hat.post⟩, ?_, ?_, rfl⟩
  · intro other hne state hother
    exact ⟨(lookup_erase_ne hne).trans hother.session, hother.closed, hother.post⟩
  · exact le_trans (KeyMap.keys_length_erase_le key _) h.limit

theorem updated_eraseServerClosed {c : TunTcpServerClosedSession}
    (hat : table.At key (.serverClosed c)) :
    table.Updated { table with serverClosedSessions := table.serverClosedSessions.erase key }
      key .absent := by
  refine ⟨⟨hat.session, lookup_erase _ _, hat.post⟩, ?_, h.limit, rfl⟩
  intro other hne state hother
  exact ⟨hother.session, (lookup_erase_ne hne).trans hother.closed, hother.post⟩

theorem updated_erasePostClosed {p : TunTcpPostCloseSession} (hat : table.At key (.postClosed p)) :
    table.Updated { table with postClosedSessions := table.postClosedSessions.erase key }
      key .absent := by
  refine ⟨⟨hat.session, hat.closed, lookup_erase _ _⟩, ?_, h.limit, rfl⟩
  intro other hne state hother
  exact ⟨hother.session, hother.closed, (lookup_erase_ne hne).trans hother.post⟩

theorem updated_insertServerClosed (hat : table.At key .absent) (c : TunTcpServerClosedSession) :
    table.Updated { table with serverClosedSessions := table.serverClosedSessions.insert key c }
      key (.serverClosed c) := by
  refine ⟨⟨hat.session, lookup_insert _, hat.post⟩, ?_, h.limit, rfl⟩
  intro other hne state hother
  exact ⟨hother.session, (lookup_insert_ne hne).trans hother.closed, hother.post⟩

theorem updated_insertPostClosed (hat : table.At key .absent) (p : TunTcpPostCloseSession) :
    table.Updated { table with postClosedSessions := table.postClosedSessions.insert key p }
      key (.postClosed p) := by
  refine ⟨⟨hat.session, hat.closed, lookup_insert _⟩, ?_, h.limit, rfl⟩
  intro other hne state hother
  exact ⟨hother.session, hother.closed, (lookup_insert_ne hne).trans hother.post⟩

/- A started session replaces whatever the key held; the limit was checked unless the
key was active before. -/
theorem updated_startSession (r : TunTcpSessionRecord)
    (hlim : ¬(table.sessions.lookup key = none ∧ table.maxActiveSessions ≤ table.sessions.keys.length)) :
    table.Updated { table with
      serverClosedSessions := table.serverClosedSessions.erase key
      postClosedSessions := table.postClosedSessions.erase key
      sessions := table.sessions.insert key r } key (.active r) := by
  refine ⟨⟨lookup_insert _, lookup_erase _ _, lookup_erase _ _⟩, ?_, ?_, rfl⟩
  · intro other hne state hother
    exact ⟨(lookup_insert_ne hne).trans hother.session,
      (lookup_erase_ne hne).trans hother.closed,
      (lookup_erase_ne hne).trans hother.post⟩
  · show (table.sessions.insert key r).keys.length ≤ table.maxActiveSessions
    cases hlook : table.sessions.lookup key with
    | none =>
      have hroom : table.sessions.keys.length < table.maxActiveSessions :=
        Nat.lt_of_not_le fun hle => hlim ⟨hlook, hle⟩
      exact le_trans (KeyMap.keys_length_insert_le key r _) hroom
    | some old =>
      have hmem : key ∈ table.sessions := lookup_isSome.mp (by rw [hlook]; rfl)
      rw [KeyMap.keys_length_insert_of_mem hmem]
      exact h.limit

end

end

end TunTcpSessionTable

end KeliNative.Tun
