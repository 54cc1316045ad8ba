import Utp.Invariant.Pointer
import Utp.Guarantees.Stream

/-! The fast-resend pointer after a packet has been processed. -/
namespace Utp

open Wrapping

/-- The pointer lies between the packet after `ackNr` and `seq_nr`. -/
def SendState.pointerTracks (ackNr : Nat) (snd : SendState) : Bool :=
  u16 (snd.fastResendSeqNr - (ackNr + 1)) ≤ u16 (snd.seqNr - (ackNr + 1))

/-- The sequence numbers of the SYN packets that a socket has queued are below 2^15. -/
def lowSyns (log : List Event) : Bool :=
  log.all fun e =>
    match e with
    | .queued seqNr type _ => type != stSyn || seqNr < 32768
    | _ => true

theorem dialsLow_of_lowSyns {log : List Event} (h : lowSyns log = true) :
    DialsLow (traceOf log).story := by
  intro seqNr bytes hMem
  have hAll := List.all_eq_true.1 h _ (List.mem_of_mem_filter hMem)
  simpa using hAll

/-- If the initial sequence number of a dialled socket is below 2^15, every packet that
reaches the update of the pointer leaves it between the packet after the ack and `seq_nr`,
and the guard of `selective_ack` admits every packet from the pointer on that has three
newer ones. -/
theorem fast_resend_pointer_tracks (env : Env) (c c' : Context) (hReach : c.Reachable env)
    (p : Nat) (sock sock' : Socket) (d : Datagram) (addr : PackedSockAddr)
    (hSock : c.Holds p sock) (hDelivers : c.delivers d addr p = true)
    (hUpdate : (c.enter p sock).reachesAcks d = true) (hLow : lowSyns (c.logs p) = true)
    (hStep : c.step env (.processUdp d addr) = some c') (hSock' : c'.sockets p = some sock') :
    sock'.snd.pointerTracks d.header.ackNr = true ∧
      ∀ v : Int, 3 < u16 (sock'.snd.seqNr - v) →
        u16 (sock'.snd.seqNr - v) ≤ u16 (sock'.snd.seqNr - sock'.snd.fastResendSeqNr) →
        u16 (v - sock'.snd.fastResendSeqNr) ≤ 1024 := by
  obtain ⟨hType, hNow⟩ := Context.sockets_of_delivers hDelivers hSock.1 hStep
  obtain rfl := Option.some.inj (hSock'.symm.trans hNow)
  have hCore := hReach.ok.core p sock hSock.1
  have hPointer := (preserved_pointer env).reachable hReach p sock hSock
  have hLag := hPointer.lag_lt hCore (dialsLow_of_lowSyns hLow)
  obtain ⟨hTracks, hNear⟩ := Conn.tracks_utpProcessIncoming env hCore hType hUpdate (by omega)
  have hBound := (Aim.tracks_iff _ _).1 hTracks
  refine ⟨decide_eq_true hTracks, fun v hNewer hPast => ?_⟩
  generalize (c.enter p sock).utpProcessIncoming env d false = s' at *
  have hEnd := u16_emod (s'.snd.seqNr - v)
  have hBehind := u16_emod (s'.snd.seqNr - s'.snd.fastResendSeqNr)
  have hDist := u16_emod (v - s'.snd.fastResendSeqNr)
  have hDistLt := u16_lt (v - s'.snd.fastResendSeqNr)
  change u16 (s'.snd.seqNr - s'.snd.fastResendSeqNr) ≤ u16 (s'.snd.seqNr - (d.header.ackNr + 1))
    at hBound
  omega

/-- Embedding programs that differ only in their random numbers. -/
def randomEnv (random : Nat) : Env := fun _ => ⟨1000000, 1000000, random, 0, 1500, false, false⟩

/-- What is checked of one run: the packet `d` reaches the update of the pointer of the
only socket. -/
def updates (env : Env) (d : Datagram) (ok : Context → Socket → Bool) (c : Context) : Bool :=
  (c.sockets 0).any fun sock =>
    sock.state != .uninitialized && c.delivers d somePeer 0 && (c.enter 0 sock).reachesAcks d &&
      (c.step env (.processUdp d somePeer)).any fun c' => (c'.sockets 0).any (ok c)

theorem exists_of_updates {env : Env} {d : Datagram} {ok : Context → Socket → Bool} {c : Context}
    (h : updates env d ok c = true) : ∃ (c' : Context) (sock sock' : Socket),
      c.Holds 0 sock ∧ c.delivers d somePeer 0 = true ∧ (c.enter 0 sock).reachesAcks d = true ∧
        c.step env (.processUdp d somePeer) = some c' ∧ c'.sockets 0 = some sock' ∧
        ok c sock' = true := by
  obtain ⟨sock, hSock, hRest⟩ := (Option.any_eq_true _ _).1 h
  simp only [Bool.and_eq_true, bne_iff_ne] at hRest
  obtain ⟨⟨⟨hState, hDelivers⟩, hUpdate⟩, hNext⟩ := hRest
  obtain ⟨c', hStep, hThere⟩ := (Option.any_eq_true _ _).1 hNext
  obtain ⟨sock', hSock', hOk⟩ := (Option.any_eq_true _ _).1 hThere
  exact ⟨c', sock, sock', ⟨hSock, hState⟩, hDelivers, hUpdate, hStep, hSock', hOk⟩

/-- The SYN-ACK for a socket that drew the sequence number 7. -/
theorem fast_resend_pointer_tracks_low : ∃ (c c' : Context) (sock sock' : Socket),
    c.Reachable (randomEnv 7) ∧ c.Holds 0 sock ∧
      c.step (randomEnv 7) (.processUdp (somePacket stState 7 77 7 []) somePeer) = some c' ∧
      c'.sockets 0 = some sock' ∧
      sock'.snd.pointerTracks (somePacket stState 7 77 7 []).header.ackNr = true := by
  have hRun : ((utpInit true false).run (randomEnv 7) [.createSocket, .connect 0 somePeer 1]).any
      (updates (randomEnv 7) (somePacket stState 7 77 7 []) fun c _ => lowSyns (c.logs 0)) = true := by
    decide +kernel
  obtain ⟨c, hReach, hOk⟩ := Context.Reachable.exists_of_run hRun
  obtain ⟨c', sock, sock', hSock, hDelivers, hUpdate, hStep, hSock', hLow⟩ := exists_of_updates hOk
  exact ⟨c, c', sock, sock', hReach, hSock, hStep, hSock', (fast_resend_pointer_tracks (randomEnv 7)
    c c' hReach 0 sock sock' _ somePeer hSock hDelivers hUpdate hLow hStep hSock').1⟩

/-- The SYN-ACK for a socket that drew the sequence number 40000 leaves the pointer at 1. -/
theorem fast_resend_pointer_stuck : ∃ (c c' : Context) (sock sock' : Socket),
    c.Reachable (randomEnv 40000) ∧ c.Holds 0 sock ∧
      c.delivers (somePacket stState 40000 77 40000 []) somePeer 0 = true ∧
      (c.enter 0 sock).reachesAcks (somePacket stState 40000 77 40000 []) = true ∧
      c.step (randomEnv 40000) (.processUdp (somePacket stState 40000 77 40000 []) somePeer) = some c' ∧
      c'.sockets 0 = some sock' ∧
      ¬(u16 (sock'.snd.fastResendSeqNr - (40000 + 1)) ≤ u16 (sock'.snd.seqNr - (40000 + 1))) := by
  have hRun : ((utpInit true false).run (randomEnv 40000) [.createSocket, .connect 0 somePeer 1]).any
      (updates (randomEnv 40000) (somePacket stState 40000 77 40000 []) fun _ sock' =>
        !decide (u16 (sock'.snd.fastResendSeqNr - (40000 + 1)) ≤ u16 (sock'.snd.seqNr - (40000 + 1)))) =
          true := by
    decide +kernel
  obtain ⟨c, hReach, hOk⟩ := Context.Reachable.exists_of_run hRun
  obtain ⟨c', sock, sock', hSock, hDelivers, hUpdate, hStep, hSock', hStuck⟩ := exists_of_updates hOk
  refine ⟨c, c', sock, sock', hReach, hSock, hDelivers, hUpdate, hStep, hSock', ?_⟩
  simpa using hStuck

end Utp
