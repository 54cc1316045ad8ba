import Utp.Library.BackPointers
import Utp.Invariant.Live

/-! The invariant of a context: its table of sockets, its cache, its list of deferred
acks, and the core invariant of every socket. -/
namespace Utp

open Wrapping BackPointers

/-- A socket on which nothing but options has been set since it was created. -/
def Socket.Pristine (sock : Socket) : Prop :=
  ∃ targetDelay optSndbuf optRcvbuf ssthresh,
    sock = { utpCreateSocket targetDelay optSndbuf optRcvbuf with win.ssthresh := ssthresh }

theorem Core.of_pristine {s : Conn} (h : s.toSocket.Pristine) (hLog : s.log = []) : Core s := by
  obtain ⟨targetDelay, optSndbuf, optRcvbuf, ssthresh, hEq⟩ := h
  have hSnd : s.snd = (utpCreateSocket targetDelay optSndbuf optRcvbuf).snd := by rw [hEq]
  have hRcv : s.rcv = (utpCreateSocket targetDelay optSndbuf optRcvbuf).rcv := by rw [hEq]
  have hFree : ∀ i, s.rcv.inbuf.get i = none := by
    rw [hRcv]
    exact SizableCircularBuffer.get_calloc16
  have hEmpty : ∀ i, s.snd.outbuf.get i = none := by
    rw [hSnd]
    exact SizableCircularBuffer.get_calloc16
  have hQueue : QueueShape s.snd.seqNr s.snd.curWindowPackets s.snd.curWindow s.snd.outbuf := by
    have hSize : s.snd.outbuf.size = 16 := by
      rw [hSnd]
      exact SizableCircularBuffer.size_calloc16
    have hCount : s.snd.curWindowPackets = 0 := by
      rw [hSnd]
      rfl
    refine ⟨?_, by omega, by omega, by omega, fun j _ _ => hEmpty _, ?_, ?_⟩
    · rw [hSnd]
      exact (by decide : 1 < 65536)
    · intro j hj
      omega
    · rw [hSnd]
      exact (Finset.sum_eq_zero fun i _ => by
        change inFlight (SizableCircularBuffer.calloc16.get _) = 0
        rw [SizableCircularBuffer.get_calloc16]
        rfl).symm
  have hReorder : ReorderShape s.rcv.ackNr s.rcv.reorderCount s.rcv.inbuf := by
    refine ⟨?_, fun j _ p hGet => by rw [hFree] at hGet; cases hGet⟩
    rw [hRcv]
    exact (by decide : 0 = List.countP Option.isSome (List.replicate 16 (none : Option IncomingPacket)))
  have hBounds : ReorderBounds s.rcv.ackNr s.rcv.inbuf := by
    rw [hRcv]
    refine ⟨(by decide : 0 < 65536), ?_, ?_⟩
    · exact SizableCircularBuffer.size_calloc16.ge
    · exact SizableCircularBuffer.size_calloc16.le.trans (by decide)
  refine ⟨⟨⟨hQueue, fun _ => ?_, hBounds, fun _ => hReorder, fun _ => ?_⟩, ?_, fun _ => hFree _⟩, ?_⟩
  · rw [Conn.view_curWindowPackets, hSnd]
    exact Nat.zero_le _
  · rw [Conn.view_reorderCount, Conn.view_gotFin, Conn.view_gotFinReached, hRcv]
    exact ⟨rfl, rfl, rfl⟩
  · intro hPos
    rw [Conn.view_curWindowPackets, hSnd] at hPos
    exact absurd hPos (Nat.lt_irrefl 0)
  · rw [hLog]
    exact fun e he => nomatch he

def Socket.key (sock : Socket) : UTPSocketKey := ⟨sock.addr, sock.connIdRecv⟩

namespace Context

/-- Whether the socket `p` exists and has been initialised. -/
def Holds (c : Context) (p : Nat) (sock : Socket) : Prop :=
  c.sockets p = some sock ∧ sock.state ≠ .uninitialized

/-- What holds of every reachable context. -/
structure Ok (c : Context) : Prop where
  unique : (c.utpSockets.map Prod.fst).Nodup
  entry : ∀ key p, (key, p) ∈ c.utpSockets → ∃ sock, c.Holds p sock ∧ key = sock.key
  listed : ∀ p sock, c.Holds p sock → (sock.key, p) ∈ c.utpSockets
  allocated : ∀ p sock, c.sockets p = some sock → p < c.allocated
  pristine : ∀ p sock, c.sockets p = some sock → sock.state = .uninitialized →
    sock.Pristine ∧ c.logs p = []
  cached : ∀ p, c.lastUtpSocket = some p → ∃ sock, c.Holds p sock
  linked : Linked c.ackSockets c.ida
  acking : ∀ p ∈ c.ackSockets, ∃ sock, c.Holds p sock
  core : ∀ p sock, c.sockets p = some sock → Core (c.enter p sock)

theorem ok_utpInit (onAcceptSet onConnectSet : Bool) : (utpInit onAcceptSet onConnectSet).Ok := by
  have hEmpty : ∀ p sock, (utpInit onAcceptSet onConnectSet).sockets p ≠ some sock := fun _ _ => nofun
  constructor
  · exact List.nodup_nil
  · exact fun _ _ hMem => nomatch hMem
  · exact fun p sock hHolds => absurd hHolds.1 (hEmpty p sock)
  · exact fun p sock hSock => absurd hSock (hEmpty p sock)
  · exact fun p sock hSock => absurd hSock (hEmpty p sock)
  · exact fun _ hCached => nomatch hCached
  · refine ⟨fun a i => ?_, fun a => Int.le_refl _⟩
    change ([] : List Nat)[i]? = some a ↔ (-1 : Int) = i
    simp
  · exact fun _ hMem => nomatch hMem
  · exact fun p sock hSock => absurd hSock (hEmpty p sock)

/-- The list of deferred acks after a socket has acted. -/
theorem linked_perform (p : Nat) (e : Event) {c : Context} (h : Linked c.ackSockets c.ida) :
    Linked (c.perform p e).ackSockets (c.perform p e).ida := by
  cases e with
  | sendto packet flags =>
      change Linked (c.removeSocketFromAckList p).ackSockets (c.removeSocketFromAckList p).ida
      unfold removeSocketFromAckList
      split_ifs with hMem
      · exact h.remove hMem
      · exact h
  | scheduleAck =>
      change Linked (c.scheduleAck p).ackSockets (c.scheduleAck p).ida
      unfold scheduleAck
      split_ifs with hNew
      · exact h.push hNew
      · exact h
  | _ => exact h

/-- Only a socket that schedules an ack gets on the list. -/
theorem mem_perform {p q : Nat} {e : Event} {c : Context} (h : Linked c.ackSockets c.ida)
    (hMem : q ∈ (c.perform p e).ackSockets) : q ∈ c.ackSockets ∨ (q = p ∧ e = .scheduleAck) := by
  cases e with
  | sendto packet flags =>
      change q ∈ (c.removeSocketFromAckList p).ackSockets at hMem
      unfold removeSocketFromAckList at hMem
      split_ifs at hMem with hOn
      · exact Or.inl (h.mem_of_mem_without hOn hMem)
      · exact Or.inl hMem
  | scheduleAck =>
      change q ∈ (c.scheduleAck p).ackSockets at hMem
      unfold scheduleAck at hMem
      split_ifs at hMem with hNew
      · rcases List.mem_append.1 hMem with hOld | hLast
        · exact Or.inl hOld
        · exact Or.inr ⟨List.mem_singleton.1 hLast, rfl⟩
      · exact Or.inl hMem
  | _ => exact Or.inl hMem

/-- Performing events changes nothing but the list of deferred acks. -/
theorem perform_eq (p : Nat) (e : Event) (c : Context) :
    c.perform p e =
      { c with ackSockets := (c.perform p e).ackSockets, ida := (c.perform p e).ida } := by
  cases e with
  | sendto packet flags =>
      change c.removeSocketFromAckList p = _
      unfold perform removeSocketFromAckList
      split_ifs <;> rfl
  | scheduleAck =>
      change c.scheduleAck p = _
      unfold perform scheduleAck
      split_ifs <;> rfl
  | _ => rfl

theorem performAll_eq (p : Nat) (events : List Event) (c : Context) :
    ∃ acks ida, events.foldl (fun c e => c.perform p e) c = { c with ackSockets := acks, ida := ida } ∧
      (Linked c.ackSockets c.ida → Linked acks ida ∧
        ∀ q ∈ acks, q ∈ c.ackSockets ∨ (q = p ∧ .scheduleAck ∈ events)) := by
  induction events generalizing c with
  | nil => exact ⟨c.ackSockets, c.ida, rfl, fun h => ⟨h, fun q hMem => Or.inl hMem⟩⟩
  | cons e events ih =>
      obtain ⟨acks, ida, hEq, hKeep⟩ := ih (c.perform p e)
      refine ⟨acks, ida, ?_, ?_⟩
      · rw [List.foldl_cons, hEq, perform_eq p e c]
      · intro hLinked
        obtain ⟨hNext, hMem⟩ := hKeep (linked_perform p e hLinked)
        refine ⟨hNext, fun q hq => ?_⟩
        rcases hMem q hq with hOld | ⟨rfl, hLater⟩
        · rcases mem_perform hLinked hOld with hBefore | ⟨rfl, rfl⟩
          · exact Or.inl hBefore
          · exact Or.inr ⟨rfl, List.mem_cons_self ..⟩
        · exact Or.inr ⟨rfl, List.mem_cons_of_mem _ hLater⟩

/-- What writing a socket back does to the context. -/
theorem leave_eq (p : Nat) (s : Conn) (c : Context) :
    ∃ acks ida, c.leave p s = { c with
        sockets := Function.update c.sockets p (some s.toSocket)
        logs := Function.update c.logs p s.log
        currentMs := s.currentMs
        tick := s.tick
        ackSockets := acks
        ida := ida } ∧
      (Linked c.ackSockets c.ida → Linked acks ida ∧
        ∀ q ∈ acks, q ∈ c.ackSockets ∨ (q = p ∧ .scheduleAck ∈ s.log)) := by
  obtain ⟨acks, ida, hEq, hKeep⟩ := performAll_eq p (s.log.drop (c.logs p).length)
    { c with
      sockets := Function.update c.sockets p (some s.toSocket)
      logs := Function.update c.logs p s.log
      currentMs := s.currentMs
      tick := s.tick }
  refine ⟨acks, ida, hEq, fun hLinked => ?_⟩
  obtain ⟨hNext, hMem⟩ := hKeep hLinked
  refine ⟨hNext, fun q hq => ?_⟩
  rcases hMem q hq with hOld | ⟨rfl, hNew⟩
  · exact Or.inl hOld
  · exact Or.inr ⟨rfl, List.mem_of_mem_drop hNew⟩

end Context

end Utp
