import Utp.Guarantees.Mtu
import Utp.Invariant.Attribution

/-! Which packet the verdicts of the MTU search are about. -/
namespace Utp

open Wrapping

/-- The outstanding probe is a packet of the queue that was first sent as a probe of the
recorded size; and so was every packet on which a verdict was reached. -/
structure ProbeAttributed (log : List Event) (sock : Socket) : Prop where
  outstanding : sock.mtu.probeSeq ≠ 0 → ∃ pkt, sock.snd.outbuf.get sock.mtu.probeSeq = some pkt ∧
    pkt.header.seqNr = sock.mtu.probeSeq ∧ pkt.length = sock.mtu.probeSize ∧ pkt.transmissions ≠ 0 ∧
    maiden log sock.mtu.probeSeq = some (utpUdpDontfrag, sock.mtu.probeSize)
  verdicts : EachEntry Event.verdict?
    (fun pre m => maiden pre m.probeSeq = some (utpUdpDontfrag, m.probeSize)) log

theorem Probing.attributed {s : Conn} (h : Probing s) (hCore : Core s) : ProbeAttributed s.log s.toSocket := by
  refine ⟨fun hOut => ?_, h.verdicts⟩
  obtain ⟨j, pkt, hAt, hNumber, hSize, hSent⟩ := h.probe hOut
  obtain ⟨hIn, -⟩ := hCore.lt_of_packetAt hAt
  have hOwn := (hCore.packet_ok hAt).seqNr.symm.trans hNumber
  have hSlot : s.snd.outbuf.get (u16 (s.snd.seqNr - 1 - j)) = s.snd.outbuf.get (s.snd.seqNr - 1 - j) :=
    hCore.view.queue.get_u16 _
  refine ⟨pkt, ?_, hNumber, hSize, hSent, h.first hOut⟩
  rw [← hOwn, hSlot, ← hAt]
  exact (if_pos hIn).symm

/-- In every run in which only the newest packet of a queue is made the probe, and no selective
ack is for the outstanding probe, the probe is attributed to the packet that was sent as it. -/
theorem probe_is_attributed (env : Env) (c : Context) (hReach : c.Reachable env) (p : Nat) (sock : Socket)
    (hSock : c.sockets p = some sock) (hSound : SoundProbes (c.logs p)) :
    ProbeAttributed (c.logs p) sock := by
  by_cases hNew : sock.state = .uninitialized
  · obtain ⟨⟨targetDelay, optSndbuf, optRcvbuf, ssthresh, hEq⟩, hEmpty⟩ := hReach.ok.pristine p sock hSock hNew
    rw [hEmpty, hEq]
    exact ⟨fun hOut => absurd rfl hOut, EachEntry.nil⟩
  · have hProbing := (preserved_attributed env).reachable hReach p sock ⟨hSock, hNew⟩ hSound
    exact hProbing.attributed (hReach.ok.core p sock hSock)

/-- Whether the probes of a record are sound. -/
def soundProbes (log : List Event) : Bool := log.all fun e =>
  match e with
  | .mtu (.probe seqNr _ newest) _ _ => seqNr == newest
  | .sacked seqNr probeSeq => seqNr != probeSeq || seqNr == 0
  | _ => true

theorem SoundProbes.of_all {log : List Event} (h : soundProbes log = true) : SoundProbes log := by
  refine ⟨fun seqNr transmissions newest before after hMem => ?_, fun seqNr hMem => ?_⟩
  · exact beq_iff_eq.1 (List.all_eq_true.1 h _ hMem)
  · simpa using List.all_eq_true.1 h _ hMem

/-- A probe of 620 bytes waits for its ack. -/
theorem probe_is_attributed_probing : ∃ (c : Context) (sock : Socket), c.Reachable steadyEnv ∧
    c.sockets 0 = some sock ∧ sock.mtu.probeSeq ≠ 0 ∧ sock.mtu.probeSize = 620 ∧
      ProbeAttributed (c.logs 0) sock := by
  have hRun : ((utpInit true true).run steadyEnv probingOps).any (fun c => soundProbes (c.logs 0) &&
      (c.sockets 0).any fun sock => sock.mtu.probeSeq != 0 && sock.mtu.probeSize == 620) = true := by
    decide +kernel
  obtain ⟨c, hReach, hOk⟩ := Context.Reachable.exists_of_run hRun
  obtain ⟨hSound, hThere⟩ := Bool.and_eq_true_iff.1 hOk
  obtain ⟨sock, hSock, hProbe⟩ := (Option.any_eq_true _ _).1 hThere
  simp only [Bool.and_eq_true, bne_iff_ne, beq_iff_eq] at hProbe
  exact ⟨c, sock, hReach, hSock, hProbe.1, hProbe.2,
    probe_is_attributed steadyEnv c hReach 0 sock hSock (.of_all hSound)⟩

/-- An empty packet is in flight, so a block of 600 bytes is held back; closing queues a FIN
behind it, and only then it is sent. -/
def heldBackOps : List Op :=
  [.createSocket, .connect 0 somePeer 1, .processUdp (somePacket stState 7 77 7 []) somePeer,
    .writev 0 [[]], .writev 0 [List.replicate 600 0], .close 0]

/-- The probe of 620 bytes is attributed to the FIN, which has 20 bytes and was not sent. -/
theorem probe_is_not_attributed : ∃ (c : Context) (sock : Socket), c.Reachable steadyEnv ∧
    c.sockets 0 = some sock ∧ ¬ProbeAttributed (c.logs 0) sock := by
  have hRun : ((utpInit true true).run steadyEnv heldBackOps).any (fun c => (c.sockets 0).any fun sock =>
      sock.mtu.probeSeq != 0 && sock.mtu.probeSize == 620 &&
        (sock.snd.outbuf.get sock.mtu.probeSeq).any fun pkt => pkt.length == 20) = true := by
    decide +kernel
  obtain ⟨c, hReach, hOk⟩ := Context.Reachable.exists_of_run hRun
  obtain ⟨sock, hSock, hWrong⟩ := (Option.any_eq_true _ _).1 hOk
  obtain ⟨hParts, hHeld⟩ := Bool.and_eq_true_iff.1 hWrong
  simp only [Bool.and_eq_true, bne_iff_ne, beq_iff_eq] at hParts
  obtain ⟨pkt, hGet, hLength⟩ := (Option.any_eq_true _ _).1 hHeld
  refine ⟨c, sock, hReach, hSock, fun hAll => ?_⟩
  obtain ⟨pkt', hGet', -, hSize, -⟩ := hAll.outstanding hParts.1
  cases Option.some.inj (hGet.symm.trans hGet')
  rw [beq_iff_eq.1 hLength, hParts.2] at hSize
  cases hSize

end Utp
