import Utp.Guarantees.Stream

/-! The table of sockets: its keys are unique and true, the lookup cache agrees with
it, and messages for one address leave the sockets of all others alone. -/
namespace Utp

namespace Context

/-- The soundness of the table and of the lookup cache. -/
structure TableSound (c : Context) : Prop where
  unique : (c.utpSockets.map Prod.fst).Nodup
  entry : ∀ key p, (key, p) ∈ c.utpSockets →
    ∃ sock, c.sockets p = some sock ∧ key = ⟨sock.addr, sock.connIdRecv⟩
  cached : ∀ p, c.lastUtpSocket = some p → ∃ key, (key, p) ∈ c.utpSockets

/-- The destructor of the socket `p` removes the entry of `p` and no other. -/
def DeletesOwnEntry (c : Context) (p : Nat) : Prop :=
  ∀ sock, c.sockets p = some sock → sock.state ≠ .uninitialized →
    (⟨sock.addr, sock.connIdRecv⟩, p) ∈ c.utpSockets ∧
      ∀ entry, entry ∈ (c.delete p).utpSockets ↔
        entry ∈ c.utpSockets ∧ entry ≠ (⟨sock.addr, sock.connIdRecv⟩, p)

end Context

/-- The address that a datagram or an ICMP message is for. -/
def Op.peer : Op → Option PackedSockAddr
  | .processUdp _ addr => some addr
  | .processIcmpFragmentation _ addr _ => some addr
  | .processIcmpError _ addr => some addr
  | _ => none

namespace Context

variable {env : Env} {c c' : Context} {p q : Nat} {sock : Socket}

theorem Ok.tableSound (h : c.Ok) : c.TableSound := by
  refine ⟨h.unique, ?_, ?_⟩
  · intro key p hEntry
    obtain ⟨sock, hHolds, hKey⟩ := h.entry key p hEntry
    exact ⟨sock, hHolds.1, hKey⟩
  · intro p hCached
    obtain ⟨sock, hHolds⟩ := h.cached p hCached
    exact ⟨sock.key, h.listed p sock hHolds⟩

/-- The shortcut through the cache finds the socket that the table has. -/
theorem Ok.findConn_eq_lookup (h : c.Ok) (addr : PackedSockAddr) (id : Nat) :
    c.findConn addr id = c.lookup ⟨addr, id⟩ := by
  cases hFind : c.findConn addr id with
  | none =>
      unfold findConn at hFind
      split at hFind
      · cases hFind
      · exact hFind.symm
  | some p =>
      obtain ⟨sock, hHolds, rfl, rfl⟩ := holds_of_findConn h hFind
      exact (h.lookup_key hHolds).symm

theorem Ok.deletesOwnEntry (h : c.Ok) (p : Nat) : c.DeletesOwnEntry p := by
  intro sock hSock hLive
  have hHolds : c.Holds p sock := ⟨hSock, hLive⟩
  obtain ⟨acks, ida, hEq, -⟩ := h.delete_eq hHolds
  refine ⟨h.listed p sock hHolds, fun entry => ?_⟩
  obtain ⟨key, q⟩ := entry
  rw [hEq, h.mem_erased hHolds key q]
  refine and_congr_right fun hEntry => not_congr ⟨?_, congrArg Prod.snd⟩
  rintro rfl
  obtain ⟨sock', hHolds', rfl⟩ := h.entry key q hEntry
  cases Option.some.inj (hSock.symm.trans hHolds'.1)
  rfl

/-- A socket may be checked in any sound context. -/
theorem Ok.checked (h : c.Ok) (env : Env) (p : Nat) : (c.runOn p fun s => s.checkTimeouts env).Ok := by
  cases hSock : c.sockets p with
  | none =>
      unfold runOn
      rw [hSock]
      exact h
  | some sock =>
      have hTurns : Turns env (.checkTimeouts [p]) c (c.runOn p fun s => s.checkTimeouts env) :=
        turns_call .timer h hSock ⟨[p], rfl⟩ nofun (fun s hCore => (Conn.path_checkTimeouts env hCore).path)
          (checkTimeouts_pristine h hSock)
      exact hTurns.ok h

/-- What a step leaves of a socket that it has nothing to do with. -/
def Spares (c c' : Context) (q : Nat) : Prop := c'.sockets q = c.sockets q ∧ c'.logs q = c.logs q

theorem spares_runOn (f : Conn → Conn) (hOther : q ≠ p) : c.Spares (c.runOn p f) q := by
  unfold runOn
  split
  · exact ⟨rfl, rfl⟩
  · unfold Spares
    rw [sockets_leave, logs_leave]
    exact ⟨Function.update_of_ne hOther .., Function.update_of_ne hOther ..⟩

theorem spares_accept {d : Datagram} {addr : PackedSockAddr} (hOther : q ≠ c.allocated) :
    c.Spares (c.accept env d addr) q := by
  unfold accept
  dsimp only
  split_ifs
  · exact ⟨rfl, rfl⟩
  · exact ⟨rfl, rfl⟩
  · exact ⟨rfl, rfl⟩
  · exact ⟨rfl, rfl⟩
  · obtain ⟨hSock, hLog⟩ := spares_runOn (c := c.called.create.addKey ⟨addr, d.header.connid + 1⟩
      c.allocated) (fun s => s.acceptSocket env d addr) hOther
    exact ⟨hSock.trans (Function.update_of_ne hOther ..), hLog.trans (Function.update_of_ne hOther ..)⟩

theorem spares_reject (header : PacketFormatV1) (addr : PackedSockAddr) (q : Nat) :
    c.Spares (c.reject env header addr) q := by
  unfold reject
  dsimp only
  split
  · exact ⟨rfl, rfl⟩
  · split_ifs <;> exact ⟨rfl, rfl⟩

/-- A socket of the table with another address is another socket. -/
theorem ne_of_foreign {sock' : Socket} {addr : PackedSockAddr} (hSock : c.sockets q = some sock)
    (hForeign : sock.state = .uninitialized ∨ sock.addr ≠ addr)
    (hFound : c.Holds p sock' ∧ sock'.addr = addr) : q ≠ p := by
  rintro rfl
  obtain ⟨hHolds, hAddr⟩ := hFound
  cases Option.some.inj (hSock.symm.trans hHolds.1)
  rcases hForeign with hNew | hElse
  · exact hHolds.2 hNew
  · exact hElse hAddr

theorem Ok.spares_processUdp (h : c.Ok) {d : Datagram} {addr : PackedSockAddr}
    (hSock : c.sockets q = some sock) (hForeign : sock.state = .uninitialized ∨ sock.addr ≠ addr) :
    c.Spares (c.utpProcessUdp env d addr).2 q := by
  have hTurns : Turns env .issueDeferredAcks c (c.record addr (.readBytes 0 20)) := turns_aside c
    c.currentMs c.tick c.lastCheck c.targetDelay c.optSndbuf c.optRcvbuf c.rstInfo _
  have hRecord : (c.record addr (.readBytes 0 20)).Ok := hTurns.ok h
  have hSame : (c.record addr (.readBytes 0 20)).sockets q = some sock := hSock
  unfold utpProcessUdp
  by_cases hLen : d.len < 20
  · rw [if_pos hLen]
    exact ⟨rfl, rfl⟩
  rw [if_neg hLen]
  dsimp only
  change Spares (c.record addr (.readBytes 0 20)) _ q
  generalize c.record addr (.readBytes 0 20) = c₁ at hRecord hSame ⊢
  split_ifs
  · exact ⟨rfl, rfl⟩
  · split
    · rename_i p hFind
      obtain ⟨sock', hFound⟩ := holds_of_findForError hRecord hFind
      exact spares_runOn _ (ne_of_foreign hSame hForeign hFound)
    · exact ⟨rfl, rfl⟩
  · exact spares_accept (Nat.ne_of_lt (hRecord.allocated q sock hSame))
  · split
    · rename_i p hFind
      obtain ⟨sock', hHolds, hAddr, -⟩ := holds_of_findConn hRecord hFind
      exact spares_runOn (c := { c₁ with lastUtpSocket := some p }) _
        (ne_of_foreign hSame hForeign ⟨hHolds, hAddr⟩)
    · exact spares_reject d.header addr q

/-- A message for one address does nothing to the sockets of the others. -/
theorem Ok.spares_of_peer (h : c.Ok) {op : Op} {addr : PackedSockAddr} (hPeer : op.peer = some addr)
    (hStep : c.step env op = some c') (hSock : c.sockets q = some sock)
    (hForeign : sock.state = .uninitialized ∨ sock.addr ≠ addr) : c.Spares c' q := by
  have hRun : c.perform1 env op = some c' := by
    unfold step at hStep
    split_ifs at hStep
    exact hStep
  cases op with
  | processUdp d from' =>
      cases hPeer
      cases hRun
      exact h.spares_processUdp hSock hForeign
  | processIcmpFragmentation d from' nextHopMtu =>
      cases hPeer
      cases hRun
      unfold utpProcessIcmpFragmentation
      split
      · exact ⟨rfl, rfl⟩
      · rename_i p hFind
        obtain ⟨sock', hFound⟩ := holds_of_parseIcmpPayload h hFind
        exact spares_runOn _ (ne_of_foreign hSock hForeign hFound)
  | processIcmpError d from' =>
      cases hPeer
      cases hRun
      unfold utpProcessIcmpError
      split
      · exact ⟨rfl, rfl⟩
      · rename_i p hFind
        obtain ⟨sock', hFound⟩ := holds_of_parseIcmpPayload h hFind
        exact spares_runOn _ (ne_of_foreign hSock hForeign hFound)
  | _ => cases hPeer

end Context

/-- The table of every reachable context is sound. The cache only saves the lookup, the
destructor erases the entry of its own socket (also of those that `utp_check_timeouts`
deletes after it has visited others), and a message for one address touches no socket of
another. -/
theorem socket_table_sound (env : Env) (c : Context) (hReach : c.Reachable env) :
    c.TableSound ∧
      (∀ addr id, c.findConn addr id = c.lookup ⟨addr, id⟩) ∧
      (∀ p, c.DeletesOwnEntry p) ∧
      (∀ visited p, ((c.utpCheckTimeouts env visited).runOn p fun s =>
        s.checkTimeouts env).DeletesOwnEntry p) ∧
      (∀ p, .assertFailed 2533 ∉ c.logs p) ∧
      ∀ op addr c', op.peer = some addr → c.step env op = some c' → ∀ q sock,
        c.sockets q = some sock → (sock.state = .uninitialized ∨ sock.addr ≠ addr) →
          c'.sockets q = some sock ∧ c'.logs q = c.logs q := by
  have hOk := hReach.ok
  refine ⟨hOk.tableSound, hOk.findConn_eq_lookup, hOk.deletesOwnEntry, ?_, ?_, ?_⟩
  · intro visited p
    have hTurns : Context.Turns env (.checkTimeouts visited) c (c.utpCheckTimeouts env visited) :=
      Context.turns_utpCheckTimeouts rfl hOk
    exact ((hTurns.ok hOk).checked env p).deletesOwnEntry p
  · exact fun p => hReach.no_failure (by decide) p
  · intro op addr c' hPeer hStep q sock hSock hForeign
    obtain ⟨hSame, hLog⟩ := hOk.spares_of_peer hPeer hStep hSock hForeign
    exact ⟨hSame.trans hSock, hLog⟩

def otherPeer : PackedSockAddr := ⟨[127, 0, 0, 2], 6881⟩

/-- A RST from the peer of one socket ends that connection and leaves the other alone. -/
theorem socket_table_sound_reset : ∃ (c c' : Context) (sock : Socket), c.Reachable steadyEnv ∧
    c.TableSound ∧ c.sockets 1 = some sock ∧
    c.step steadyEnv (.processUdp (somePacket stReset 7 0 0 []) somePeer) = some c' ∧
    c'.stateIs 0 (· == .reset) = true ∧ c'.sockets 1 = some sock := by
  have hRun : ((utpInit true false).run steadyEnv [.createSocket, .connect 0 somePeer 1,
      .createSocket, .connect 1 otherPeer 1]).any (fun c =>
        (c.sockets 1).any (fun sock => sock.addr != somePeer) &&
          (c.step steadyEnv (.processUdp (somePacket stReset 7 0 0 []) somePeer)).any
            fun c' => c'.stateIs 0 (· == .reset)) = true := by
    decide +kernel
  obtain ⟨c, hReach, hOk⟩ := Context.Reachable.exists_of_run hRun
  obtain ⟨hOther, hStep⟩ := Bool.and_eq_true_iff.1 hOk
  obtain ⟨sock, hSock, hAddr⟩ := (Option.any_eq_true _ _).1 hOther
  obtain ⟨c', hNext, hReset⟩ := (Option.any_eq_true _ _).1 hStep
  obtain ⟨hSound, -, -, -, -, hSpares⟩ := socket_table_sound steadyEnv c hReach
  exact ⟨c, c', sock, hReach, hSound, hSock, hNext, hReset,
    (hSpares _ somePeer c' rfl hNext 1 sock hSock (Or.inr (bne_iff_ne.1 hAddr))).1⟩

end Utp
