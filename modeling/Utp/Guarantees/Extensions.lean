import Utp.Guarantees.Stream
import Utp.Transition.AckPoint
import Utp.Library.Blocks

/-! The parser of the extension headers accepts the packets of its grammar. -/
namespace Utp

open Wrapping Blocks

/-- The extension bits have eight bytes; any other block may have any length. -/
def validExtension (type : Nat) (body : List UInt8) : Prop := type = 2 → body.length = 8

/-- The bytes of the packet from `off` on start with a chain of extension blocks. -/
def Datagram.Chained (d : Datagram) (off type : Nat) (blocks : List Block) : Prop :=
  Chain validExtension type blocks ∧ ∃ payload, d.drop off = bytes blocks ++ payload

namespace Datagram

variable {d : Datagram} {off count type : Nat} {b : Block} {blocks : List Block}

theorem drop_eq (hFits : off + count ≤ d.len) :
    d.drop off = (List.range count).map (fun i => d.mem (off + i)) ++ d.drop (off + count) := by
  have hSplit : d.len - off = count + (d.len - (off + count)) := by omega
  unfold drop
  rw [hSplit, List.range_add, List.map_append, List.map_map]
  refine congrArg _ (List.map_congr_left fun i _ => ?_)
  exact congrArg d.mem (Nat.add_assoc off count i).symm

theorem length_drop : (d.drop off).length = d.len - off := by
  simp [drop]

/-- The block that the bytes at `off` spell out. -/
def blockAt (d : Datagram) (off : Nat) : Block where
  next := d.mem off
  body := (List.range (d.byte (off + 1))).map fun i => d.mem (off + 2 + i)

theorem length_blockAt : (d.blockAt off).body.length = d.byte (off + 1) := by
  simp [blockAt]

theorem drop_eq_block (hFits : off + 2 + d.byte (off + 1) ≤ d.len) :
    d.drop off = (d.blockAt off).bytes ++ d.drop (off + 2 + d.byte (off + 1)) := by
  have hHead : off + 2 ≤ d.len := by omega
  rw [drop_eq hHead, drop_eq hFits, Block.bytes, length_blockAt, ← List.append_assoc]
  refine congrArg (· ++ _) ?_
  simp [blockAt, byte, List.range_succ]

/-- A packet starts with at most one block. -/
theorem blockAt_eq {rest : List UInt8} (hLength : b.body.length < 256)
    (hBytes : d.drop off = b.bytes ++ rest) :
    off + 2 + b.body.length ≤ d.len ∧ d.blockAt off = b ∧ d.byte (off + 1) = b.body.length ∧
      d.drop (off + 2 + b.body.length) = rest := by
  have hTotal := congrArg List.length hBytes
  rw [length_drop, Block.bytes] at hTotal
  simp only [List.length_append, List.length_cons] at hTotal
  have hHead : off + 2 ≤ d.len := by omega
  rw [drop_eq hHead, Block.bytes] at hBytes
  simp only [List.range_succ, List.range_zero, List.nil_append, List.map_cons,
    List.map_nil, List.cons_append, List.cons.injEq, Nat.add_zero] at hBytes
  obtain ⟨hNext, hSize, hRest⟩ := hBytes
  have hByte : d.byte (off + 1) = b.body.length := by
    unfold byte
    rw [hSize, UInt8.toNat_ofNat']
    exact Nat.mod_eq_of_lt hLength
  have hFits : off + 2 + b.body.length ≤ d.len := by omega
  rw [drop_eq hFits] at hRest
  obtain ⟨hBody, hPayload⟩ := List.append_inj hRest (by simp)
  refine ⟨hFits, ?_, hByte, hPayload⟩
  cases b with
  | mk next body =>
      unfold blockAt
      rw [hByte, hNext]
      exact congrArg (Block.mk next) hBody

end Datagram

namespace Conn

variable {d : Datagram} {off type fuel : Nat}

/-- Whether the loop accepts the block at `off`. -/
def FitsBlock (d : Datagram) (off type : Nat) : Prop :=
  off + 2 + d.byte (off + 1) ≤ d.len ∧ (type = 2 → d.byte (off + 1) = 8)

/-- The mask that is remembered after a block. -/
def nextMask (d : Datagram) (off type : Nat) (selack : Option SackMask) : Option SackMask :=
  if type = 1 then some ⟨off + 2, d.byte (off + 1)⟩ else selack

/-- The extension bits that are remembered after a block. -/
def nextBits (d : Datagram) (off type : Nat) (bits : List UInt8) : List UInt8 :=
  if type = 2 then (d.blockAt off).body else bits

/-- A block is accepted, and the loop goes on or ends. -/
theorem extensionLoop_fits (s : Conn) (selack : Option SackMask) (hLen : d.len < 2147483648) (h : FitsBlock d off type) : ∃ log, ∀ fuel,
    s.extensionLoop d (fuel + 1) off type selack =
      if d.byte off ≠ 0 then
        { s with log := log, rcv.extensions := nextBits d off type s.rcv.extensions }.extensionLoop d fuel
          (off + 2 + d.byte (off + 1)) (d.byte off) (nextMask d off type selack)
      else (some (off + 2 + d.byte (off + 1), nextMask d off type selack),
        { s with log := log, rcv.extensions := nextBits d off type s.rcv.extensions }) := by
  obtain ⟨hFits, hBits⟩ := h
  have hRoom : ¬i32 (d.len - ((off + 2 : Nat) : Int)) < 0 := by
    rw [i32_of_lt (by omega) (by omega)]
    omega
  have hBody : ¬i32 (d.len - ((off + 2 : Nat) : Int)) < d.byte (off + 2 - 1) := by
    rw [i32_of_lt (by omega) (by omega)]
    change ¬((d.len : Int) - ((off + 2 : Nat) : Int) < d.byte (off + 1))
    omega
  have hKnown : ¬((decide (type = 2) && decide (d.byte (off + 2 - 1) ≠ 8)) = true) := by
    intro hWrong
    obtain ⟨hTwo, hNot⟩ := Bool.and_eq_true_iff.1 hWrong
    exact of_decide_eq_true hNot (hBits (of_decide_eq_true hTwo))
  obtain ⟨log, hState⟩ : ∃ log, (if type = 2 then
        { (s.emit (.readBytes (off + 2 - 1) 1)).emit (.readBytes (off + 2) 8) with
          rcv.extensions := (List.range 8).map fun i => d.mem (off + 2 + i) }
      else s.emit (.readBytes (off + 2 - 1) 1)).emit (.readBytes (off + 2 - 2) 1) =
        { s with log := log, rcv.extensions := nextBits d off type s.rcv.extensions } := by
    unfold nextBits
    split_ifs with hTwo
    · have hBlock : (d.blockAt off).body = (List.range 8).map fun i => d.mem (off + 2 + i) := by
        rw [Datagram.blockAt, hBits hTwo]
      rw [hBlock]
      exact ⟨_, rfl⟩
    · exact ⟨_, rfl⟩
  refine ⟨log, fun fuel => ?_⟩
  rw [extensionLoop]
  dsimp only
  rw [if_neg hRoom, if_neg hBody, if_neg hKnown, hState]
  rfl

/-- A block that is cut off, or that has the wrong length, is rejected. -/
theorem extensionLoop_rejects (s : Conn) (selack : Option SackMask) (hLen : d.len < 2147483648) (hOff : off ≤ d.len)
    (h : ¬FitsBlock d off type) : ∃ log, ∀ fuel,
    s.extensionLoop d (fuel + 1) off type selack = (none, { s with log := log }) := by
  unfold extensionLoop
  dsimp only
  rw [i32_of_lt (by omega) (by omega)]
  split_ifs with hRoom hBody hKnown
  · exact ⟨s.log, fun _ => rfl⟩
  · exact ⟨_, fun _ => rfl⟩
  · exact ⟨_, fun _ => rfl⟩
  all_goals
    refine absurd ⟨?_, fun hTwo => ?_⟩ h
    · change ¬((d.len : Int) - ((off + 2 : Nat) : Int) < d.byte (off + 1)) at hBody
      omega
    · by_contra hNot
      exact hKnown (by simpa [hTwo] using hNot)

/-- The loop changes nothing but the extension bits. -/
theorem extensionLoop_frame (fuel : Nat) (s : Conn) (selack : Option SackMask) (hLen : d.len < 2147483648) (hOff : off ≤ d.len) : ∃ log bits,
    (s.extensionLoop d fuel off type selack).2 = { s with log := log, rcv.extensions := bits } := by
  induction fuel generalizing off type selack s with
  | zero => exact ⟨s.log, s.rcv.extensions, rfl⟩
  | succ fuel ih =>
      by_cases hFits : FitsBlock d off type
      · obtain ⟨log, hEq⟩ := extensionLoop_fits s selack hLen hFits
        rw [hEq]
        split_ifs
        · exact ih _ _ hFits.1
        · exact ⟨log, _, rfl⟩
      · obtain ⟨log, hEq⟩ := extensionLoop_rejects s selack hLen hOff hFits
        rw [hEq]
        exact ⟨log, s.rcv.extensions, rfl⟩

/-- The loop ends on its own: fuel beyond the length of the packet is never used up. -/
theorem extensionLoop_enough {fuel' : Nat} (s : Conn) (selack : Option SackMask) (hLen : d.len < 2147483648) (hOff : off ≤ d.len)
    (hFuel : d.len - off < fuel) (hFuel' : d.len - off < fuel') :
    s.extensionLoop d fuel off type selack = s.extensionLoop d fuel' off type selack := by
  induction fuel generalizing off type selack s fuel' with
  | zero => omega
  | succ fuel ih =>
      obtain ⟨fuel', rfl⟩ : ∃ n, fuel' = n + 1 := ⟨fuel' - 1, by omega⟩
      by_cases hFits : FitsBlock d off type
      · obtain ⟨log, hEq⟩ := extensionLoop_fits s selack hLen hFits
        have hRest := hFits.1
        rw [hEq, hEq]
        split_ifs
        · exact ih _ _ hRest (by omega) (by omega)
        · rfl
      · obtain ⟨log, hEq⟩ := extensionLoop_rejects s selack hLen hOff hFits
        rw [hEq, hEq]

/-- A chain is followed to its end. -/
theorem extensionLoop_of_chained {blocks : List Block} (s : Conn) (selack : Option SackMask)
    (hLen : d.len < 2147483648) (hOff : off ≤ d.len)
    (hFuel : d.len - off < fuel) (h : d.Chained off type blocks) : ∃ log,
    s.extensionLoop d fuel off type selack =
      (some (off + (bytes blocks).length,
          ((lastOf 1 (placed off type blocks)).map fun x => ⟨x.off, x.body.length⟩).or selack),
        { s with
          log := log
          rcv.extensions := ((lastOf 2 (placed off type blocks)).map Placed.body).getD s.rcv.extensions }) := by
  obtain ⟨hChain, payload, hBytes⟩ := h
  induction hChain generalizing off selack s fuel with
  | last type b hLength hValid hEnd =>
      have hOne : d.drop off = b.bytes ++ payload := by simpa [bytes] using hBytes
      obtain ⟨hFits, hBlock, hByte, -⟩ := Datagram.blockAt_eq hLength hOne
      have hTurn : FitsBlock d off type := ⟨hByte ▸ hFits, fun hTwo => hByte.trans (hValid hTwo)⟩
      obtain ⟨log, hEq⟩ := extensionLoop_fits s selack hLen hTurn
      obtain ⟨fuel, rfl⟩ : ∃ n, fuel = n + 1 := ⟨fuel - 1, by omega⟩
      have hNext : d.byte off = 0 := by
        have hFirst : d.mem off = b.next := congrArg Block.next hBlock
        rw [Datagram.byte, hFirst, hEnd]
        rfl
      refine ⟨log, ?_⟩
      rw [hEq, if_neg (not_not.2 hNext), nextMask, nextBits, hBlock, hByte, length_bytes_cons, placed,
        map_lastOf_cons_or, map_lastOf_cons_getD, ← Nat.add_assoc, ← Nat.add_assoc]
      rfl
  | cons type b blocks hLength hValid hMore hRest ih =>
      have hOne : d.drop off = b.bytes ++ (bytes blocks ++ payload) := by simpa [bytes] using hBytes
      obtain ⟨hFits, hBlock, hByte, hTail⟩ := Datagram.blockAt_eq hLength hOne
      have hTurn : FitsBlock d off type := ⟨hByte ▸ hFits, fun hTwo => hByte.trans (hValid hTwo)⟩
      obtain ⟨log, hEq⟩ := extensionLoop_fits s selack hLen hTurn
      obtain ⟨fuel, rfl⟩ : ∃ n, fuel = n + 1 := ⟨fuel - 1, by omega⟩
      have hFirst : d.mem off = b.next := congrArg Block.next hBlock
      have hNext : d.byte off ≠ 0 := by
        rw [Datagram.byte, hFirst]
        exact fun hZero => hMore (UInt8.toNat_inj.1 hZero)
      have hFuel' : d.len - (off + 2 + b.body.length) < fuel := by omega
      obtain ⟨log', hLoop⟩ := ih { s with log := log, rcv.extensions := nextBits d off type s.rcv.extensions }
        (nextMask d off type selack) hFits hFuel' hTail
      refine ⟨log', ?_⟩
      rw [hEq, if_pos hNext, hByte, Datagram.byte, hFirst, hLoop, nextMask, nextBits, hBlock, hByte,
        length_bytes_cons, placed, map_lastOf_cons_or, map_lastOf_cons_getD, ← Nat.add_assoc, ← Nat.add_assoc]

/-- What the loop accepts is a chain. -/
theorem chained_of_extensionLoop {s : Conn} {selack : Option SackMask} (hLen : d.len < 2147483648) (hOff : off ≤ d.len)
    (h : (s.extensionLoop d fuel off type selack).1.isSome) : ∃ blocks, d.Chained off type blocks := by
  induction fuel generalizing off type selack s with
  | zero => cases h
  | succ fuel ih =>
      by_cases hFits : FitsBlock d off type
      · obtain ⟨log, hEq⟩ := extensionLoop_fits s selack hLen hFits
        rw [hEq] at h
        have hSplit := Datagram.drop_eq_block hFits.1
        have hLength : (d.blockAt off).body.length < 256 := by
          rw [Datagram.length_blockAt]
          exact (d.mem (off + 1)).toNat_lt
        have hValid : validExtension type (d.blockAt off).body := fun hTwo => by
          rw [Datagram.length_blockAt]
          exact hFits.2 hTwo
        split_ifs at h with hNext
        · obtain ⟨blocks, hChain, payload, hRest⟩ := ih hFits.1 h
          refine ⟨d.blockAt off :: blocks, .cons type _ blocks hLength hValid ?_ hChain, payload, ?_⟩
          · exact fun hZero => hNext (congrArg UInt8.toNat hZero)
          · rw [hSplit, hRest]
            simp [bytes]
        · refine ⟨[d.blockAt off], .last type _ hLength hValid ?_,
            d.drop (off + 2 + d.byte (off + 1)), ?_⟩
          · exact UInt8.toNat_inj.1 (not_not.1 hNext)
          · rw [hSplit]
            simp [bytes]
      · obtain ⟨log, hEq⟩ := extensionLoop_rejects s selack hLen hOff hFits
        rw [hEq] at h
        cases h

/-- What the parser of the extension headers does with a packet, and what becomes of the packet. -/
structure ExtensionsParsed (env : Env) (d : Datagram) (syn : Bool) (s : Conn) : Prop where
  terminates : ∀ fuel, d.len < fuel →
    (s.atExtensions env d).extensionLoop d fuel 20 d.header.ext none =
      (s.atExtensions env d).extensionLoop d (d.len + 1) 20 d.header.ext none
  accepts : ((s.atExtensions env d).skipExtensions d).1.isSome ↔
    d.header.ext = 0 ∨ ∃ blocks, d.Chained 20 d.header.ext blocks
  bare : d.header.ext = 0 → (s.atExtensions env d).skipExtensions d = (some (20, none), s.atExtensions env d)
  chained : ∀ blocks, d.header.ext ≠ 0 → d.Chained 20 d.header.ext blocks → ∃ log,
    (s.atExtensions env d).skipExtensions d =
      (some (20 + (bytes blocks).length,
          (lastOf 1 (placed 20 d.header.ext blocks)).map fun x => ⟨x.off, x.body.length⟩),
        { s.atExtensions env d with
          log := log
          rcv.extensions :=
            ((lastOf 2 (placed 20 d.header.ext blocks)).map Placed.body).getD s.rcv.extensions })
  proceeds : ∀ data selack t, (s.atExtensions env d).skipExtensions d = (some (data, selack), t) →
    s.utpProcessIncoming env d syn = t.processBody env d d.header data selack (s.receiptTime env) syn
  rejects : ((s.atExtensions env d).skipExtensions d).1 = none → ∃ bits,
    (s.utpProcessIncoming env d syn).toSocket = { s.toSocket with rcv.extensions := bits }

end Conn

/-- The extension headers of every packet are parsed as the grammar says: a packet is accepted
exactly when it holds a chain of blocks, and then its payload, its mask and its extension bits
are those of the chain. A packet that is rejected changes nothing but the extension bits. -/
theorem extension_chain_grammar (env : Env) (d : Datagram) (syn : Bool) (s : Conn) (hLong : 20 ≤ d.len)
    (hShort : d.len < 2147483648) (hType : d.header.type < stNumStates)
    (hAck : s.ackInvalid d.header = false) : s.ExtensionsParsed env d syn := by
  have hRun := Conn.utpProcessIncoming_eq env syn hLong hType hAck
  have hSocket := Conn.socket_atExtensions env d s
  generalize hAt : s.atExtensions env d = t at hRun hSocket
  have hBits : t.rcv.extensions = s.rcv.extensions := congrArg (fun sock => sock.rcv.extensions) hSocket
  have hBare : d.header.ext = 0 → t.skipExtensions d = (some (20, none), t) := by
    intro hNone
    unfold Conn.skipExtensions
    exact if_neg (not_not.2 hNone)
  have hLoop : d.header.ext ≠ 0 →
      t.skipExtensions d = t.extensionLoop d (d.len + 1) 20 d.header.ext none := by
    intro hSome
    unfold Conn.skipExtensions
    exact if_pos hSome
  have hChained : ∀ blocks, d.header.ext ≠ 0 → d.Chained 20 d.header.ext blocks → ∃ log,
      t.skipExtensions d = (some (20 + (bytes blocks).length,
          (lastOf 1 (placed 20 d.header.ext blocks)).map fun x => ⟨x.off, x.body.length⟩),
        { t with
          log := log
          rcv.extensions :=
            ((lastOf 2 (placed 20 d.header.ext blocks)).map Placed.body).getD s.rcv.extensions }) := by
    intro blocks hSome hChain
    obtain ⟨log, hEq⟩ := Conn.extensionLoop_of_chained t none hShort hLong
      (by omega : d.len - 20 < d.len + 1) hChain
    refine ⟨log, ?_⟩
    rw [hLoop hSome, hEq, hBits, Option.or_none]
  have hFrame : ∃ log bits, (t.skipExtensions d).2 = { t with log := log, rcv.extensions := bits } := by
    by_cases hNone : d.header.ext = 0
    · rw [hBare hNone]
      exact ⟨t.log, t.rcv.extensions, rfl⟩
    · rw [hLoop hNone]
      exact Conn.extensionLoop_frame _ t none hShort hLong
  subst hAt
  refine ⟨fun fuel hFuel => ?_, ⟨fun hSome => ?_, ?_⟩, hBare, hChained, fun data selack u hParse => ?_,
    fun hNone => ?_⟩
  · exact Conn.extensionLoop_enough _ none hShort hLong (by omega) (by omega)
  · by_cases hNone : d.header.ext = 0
    · exact Or.inl hNone
    · rw [hLoop hNone] at hSome
      exact Or.inr (Conn.chained_of_extensionLoop hShort hLong hSome)
  · rintro (hNone | ⟨blocks, hChain⟩)
    · rw [hBare hNone]
      rfl
    · by_cases hNone : d.header.ext = 0
      · rw [hBare hNone]
        rfl
      · obtain ⟨log, hEq⟩ := hChained blocks hNone hChain
        rw [hEq]
        rfl
  · rw [hParse] at hRun
    exact hRun
  · obtain ⟨log, bits, hRest⟩ := hFrame
    refine ⟨bits, ?_⟩
    have hEnd : s.utpProcessIncoming env d syn = ((s.atExtensions env d).skipExtensions d).2 := by
      rw [hRun]
      generalize (s.atExtensions env d).skipExtensions d = r at hNone
      obtain ⟨r1, r2⟩ := r
      cases hNone
      rfl
    rw [hEnd, hRest, ← hSocket]

/-- The answer to a SYN, with a mask of one byte and with extension bits. -/
def extendedPacket : Datagram :=
  Datagram.ofList (Wire.bytes ⟨⟨stState, 1, 1, 7, 0, 0, 65536, 77, 7⟩,
    [2, 1, 255, 0, 8, 1, 2, 3, 4, 5, 6, 7, 8, 9]⟩) fun _ => 0

/-- A dialled socket parses the answer to its SYN. -/
theorem extension_chain_grammar_answered : ∃ (c : Context) (sock : Socket), c.Reachable steadyEnv ∧
    c.sockets 0 = some sock ∧ (c.enter 0 sock).ExtensionsParsed steadyEnv extendedPacket false ∧
      extendedPacket.Chained 20 1 [⟨2, [255]⟩, ⟨0, [1, 2, 3, 4, 5, 6, 7, 8]⟩] := by
  have hRun : ((utpInit true true).run steadyEnv [.createSocket, .connect 0 somePeer 1]).any (fun c =>
      (c.sockets 0).any fun sock => !(c.enter 0 sock).ackInvalid extendedPacket.header) = true := by
    decide +kernel
  obtain ⟨c, hReach, hOk⟩ := Context.Reachable.exists_of_run hRun
  obtain ⟨sock, hSock, hAck⟩ := (Option.any_eq_true _ _).1 hOk
  refine ⟨c, sock, hReach, hSock, ?_, ?_, [9], by decide⟩
  · exact extension_chain_grammar steadyEnv extendedPacket false _ (by decide) (by decide) (by decide)
      (Bool.not_eq_true' _ ▸ hAck)
  · refine .cons 1 _ _ (by decide) nofun (by decide) (.last 2 _ (by decide) ?_ rfl)
    exact fun _ => rfl

end Utp
