import Utp.Socket.Address

/-! Peer addresses on their way into the library and back. -/
namespace Utp

open Wrapping

/-- The sixteen bytes of an IP, an IPv4 address being the mapped one. -/
def to16 (ip : List UInt8) : List UInt8 := if ip.length = 4 then v4InV6Prefix ++ ip else ip

namespace UDPAddr

/-- The IP has four or sixteen bytes, and the port sixteen bits. -/
structure Valid (a : UDPAddr) : Prop where
  ip : a.ip.length = 4 ∨ a.ip.length = 16
  port : 0 ≤ a.port ∧ a.port ≤ 65535

/-- The same address, up to the mapping of IPv4. -/
structure Same (a b : UDPAddr) : Prop where
  ip : to16 a.ip = to16 b.ip
  port : a.port = b.port
  zone : a.zone = b.zone

section

variable (interfaceByName : String → Option Nat) (order : ByteOrder)

/-- The packed form of an address that Go passes to the library. -/
def packed (a : UDPAddr) : Option PackedSockAddr :=
  (netAddrToLibSockaddr interfaceByName (.udp a)).bind fun (rsa, len) => PackedSockAddr.set order rsa len

/-- The address that a datagram to the packed address goes to. -/
def replied (a : UDPAddr) : Option UDPAddr :=
  (a.packed interfaceByName order).bind fun key => anySockaddrToUdp (key.getSockaddrStorage order) ⟨[], 0, ""⟩

/-- What is sent to the address arrives there. -/
def RoundTrips (a : UDPAddr) : Prop := ∃ b, a.replied interfaceByName order = some b ∧ b.Same a

/-- The library takes the two addresses for one peer. -/
def SharesKey (a b : UDPAddr) : Prop :=
  ∃ key key', a.packed interfaceByName order = some key ∧ b.packed interfaceByName order = some key' ∧
    key = key' ∧ key.computeHash order = key'.computeHash order

end

end UDPAddr

theorem swap16_swap16 {n : Nat} (h : n < 65536) : swap16 (swap16 n) = n := by
  have hSwap : swap16 n = n % 256 * 256 + n / 256 := by
    unfold swap16
    omega
  have hHigh : swap16 n / 256 = n % 256 := by omega
  have hLow : swap16 n % 256 = n / 256 := by omega
  rw [swap16, hHigh, hLow]
  omega

namespace ByteOrder

variable (order : ByteOrder)

/-- A port is swapped twice on its way. -/
theorem htons_ntohs {n : Nat} (h : n < 65536) : order.htons (order.ntohs n) = n := by
  cases order with
  | little => exact swap16_swap16 h
  | big => rfl

theorem ntohs_inj {m n : Nat} (hm : m < 65536) (hn : n < 65536) (h : order.ntohs m = order.ntohs n) : m = n := by
  rw [← order.htons_ntohs hm, h, order.htons_ntohs hn]

end ByteOrder

theorem to16_of_sixteen {ip : List UInt8} (h : ip.length = 16) : to16 ip = ip := by
  rw [to16, if_neg (by omega)]

theorem length_to16 {ip : List UInt8} (h : ip.length = 4 ∨ ip.length = 16) : (to16 ip).length = 16 := by
  rcases h with hFour | hSixteen
  · rw [to16, if_pos hFour, List.length_append, hFour]
    rfl
  · rw [to16_of_sixteen hSixteen, hSixteen]

/-- The bytes that are packed are those of the IP, with an IPv4 address mapped. -/
theorem to4_cases {ip : List UInt8} (h : ip.length = 4 ∨ ip.length = 16) :
    (∃ ip4, to4 ip = some ip4 ∧ ip4.length = 4 ∧ v4InV6Prefix ++ ip4 = to16 ip) ∨
      (to4 ip = none ∧ ip.length = 16 ∧ (to16 ip).take 12 ≠ v4InV6Prefix) := by
  rcases h with hFour | hSixteen
  · exact Or.inl ⟨ip, if_pos hFour, hFour, (if_pos hFour).symm⟩
  · have hOther : ¬ip.length = 4 := by omega
    by_cases hMapped : ip.take 12 = v4InV6Prefix
    · refine Or.inl ⟨ip.drop 12, ?_, by rw [List.length_drop, hSixteen], ?_⟩
      · rw [to4, if_neg hOther, if_pos ⟨hSixteen, hMapped⟩]
      · rw [to16_of_sixteen hSixteen, ← hMapped, List.take_append_drop]
    · refine Or.inr ⟨?_, hSixteen, by rwa [to16_of_sixteen hSixteen]⟩
      rw [to4, if_neg hOther, if_neg fun hBoth => hMapped hBoth.2]

namespace UDPAddr

variable (interfaceByName : String → Option Nat) (order : ByteOrder) {a b : UDPAddr}

/-- An address without a zone is packed into its sixteen bytes and its port. -/
theorem packed_of_no_zone (h : a.Valid) (hZone : a.zone = "") :
    a.packed interfaceByName order = some ⟨to16 a.ip, order.ntohs (u16 a.port)⟩ := by
  unfold packed netAddrToLibSockaddr toSockaddrInet
  rcases to4_cases h.ip with ⟨ip4, hTo4, hLength, hSame⟩ | ⟨hTo4, hLength, -⟩
  · simp only [hTo4, hZone, Option.filter, decide_true, if_true, hLength, Option.bind_some]
    rw [← hSame]
    rfl
  · have hSome : a.ip.isEmpty = false := by
      cases hIp : a.ip with
      | nil => rw [hIp] at hLength; cases hLength
      | cons byte rest => rfl
    have hBytes : a.ip.take 16 = to16 a.ip := by
      rw [to16_of_sixteen hLength, ← hLength, List.take_length]
    simp only [hTo4, Option.filter, hSome, Bool.false_eq_true, if_false, hLength, ge_iff_le, le_refl, if_true,
      Option.bind_some, hBytes]
    rfl

theorem zone_replied (h : a.replied interfaceByName order = some b) : b.zone = "" := by
  obtain ⟨key, -, hRead⟩ := Option.bind_eq_some_iff.1 h
  unfold anySockaddrToUdp at hRead
  split at hRead
  · cases hRead
    rfl
  · cases hRead
    rfl
  · cases hRead

/-- An address without a zone is replied to. -/
theorem roundTrips_of_no_zone (h : a.Valid) (hZone : a.zone = "") : a.RoundTrips interfaceByName order := by
  obtain ⟨hLow, hHigh⟩ := h.port
  have hPort : ((u16 a.port : Nat) : Int) = a.port := by
    unfold u16
    omega
  have hBack : order.htons (order.ntohs (u16 a.port)) = u16 a.port := order.htons_ntohs (u16_lt a.port)
  have hLength := length_to16 h.ip
  unfold RoundTrips replied
  rw [packed_of_no_zone interfaceByName order h hZone, Option.bind_some]
  unfold PackedSockAddr.getSockaddrStorage PackedSockAddr.getFamily
  dsimp only
  by_cases hMapped : (to16 a.ip).take 12 = v4InV6Prefix
  · rw [if_pos hMapped]
    refine ⟨_, rfl, ?_, ?_, hZone.symm⟩
    · show to16 ((to16 a.ip).drop 12) = to16 a.ip
      rw [to16, if_pos (by rw [List.length_drop, hLength]), ← hMapped, List.take_append_drop]
    · show ((order.htons (order.ntohs (u16 a.port)) : Nat) : Int) = a.port
      rw [hBack, hPort]
  · rw [if_neg hMapped]
    refine ⟨_, rfl, ?_, ?_, hZone.symm⟩
    · show to16 (to16 a.ip) = to16 a.ip
      rw [to16, if_neg (by omega)]
    · show ((order.htons (order.ntohs (u16 a.port)) : Nat) : Int) = a.port
      rw [hBack, hPort]

/-- Without zones, only one address has a given key. -/
theorem same_of_sharesKey (ha : a.Valid) (hb : b.Valid) (hZoneA : a.zone = "") (hZoneB : b.zone = "")
    (h : a.SharesKey interfaceByName order b) : a.Same b := by
  obtain ⟨key, key', hA, hB, hKey, -⟩ := h
  rw [packed_of_no_zone interfaceByName order ha hZoneA] at hA
  rw [packed_of_no_zone interfaceByName order hb hZoneB] at hB
  rw [← Option.some.inj hA, ← Option.some.inj hB] at hKey
  obtain ⟨hIp, hPort⟩ := PackedSockAddr.mk.inj hKey
  have hSame := order.ntohs_inj (u16_lt _) (u16_lt _) hPort
  obtain ⟨hLowA, hHighA⟩ := ha.port
  obtain ⟨hLowB, hHighB⟩ := hb.port
  refine ⟨hIp, ?_, hZoneA.trans hZoneB.symm⟩
  unfold u16 at hSame
  omega

end UDPAddr

/-- Replies to two peers go back to them, and the peers are kept apart, exactly when neither address
has a zone: the library keeps no scope id. -/
theorem addresses_round_trip_iff (interfaceByName : String → Option Nat) (order : ByteOrder) {a b : UDPAddr}
    (ha : a.Valid) (hb : b.Valid) :
    (a.RoundTrips interfaceByName order ∧ b.RoundTrips interfaceByName order ∧
        (a.SharesKey interfaceByName order b → a.Same b)) ↔ a.zone = "" ∧ b.zone = "" := by
  constructor
  · rintro ⟨⟨a', hA, hSameA⟩, ⟨b', hB, hSameB⟩, -⟩
    exact ⟨hSameA.zone.symm.trans (UDPAddr.zone_replied interfaceByName order hA),
      hSameB.zone.symm.trans (UDPAddr.zone_replied interfaceByName order hB)⟩
  · rintro ⟨hZoneA, hZoneB⟩
    exact ⟨UDPAddr.roundTrips_of_no_zone interfaceByName order ha hZoneA,
      UDPAddr.roundTrips_of_no_zone interfaceByName order hb hZoneB,
      UDPAddr.same_of_sharesKey interfaceByName order ha hb hZoneA hZoneB⟩

/-- The loopback address in both of its forms, and an address of a local network. -/
def loopback4 : UDPAddr := ⟨[127, 0, 0, 1], 6881, ""⟩

def loopback6 : UDPAddr := ⟨[0, 0, 0, 0, 0, 0, 0, 0, 0, 0, 0xff, 0xff, 127, 0, 0, 1], 6881, ""⟩

def linkLocal (zone : String) : UDPAddr := ⟨[0xfe, 0x80, 0, 0, 0, 0, 0, 0, 0, 0, 0, 0, 0, 0, 0, 1], 6881, zone⟩

theorem addresses_round_trip_loopback : loopback4.Same loopback6 ∧ loopback4.RoundTrips (fun _ => none) .little ∧
    loopback6.RoundTrips (fun _ => none) .little := by
  have hBoth := (addresses_round_trip_iff (fun _ => none) .little (a := loopback4) (b := loopback6)
    ⟨Or.inl rfl, by decide⟩ ⟨Or.inr rfl, by decide⟩).2 ⟨rfl, rfl⟩
  exact ⟨⟨by decide, rfl, rfl⟩, hBoth.1, hBoth.2.1⟩

/-- The two interfaces of a host that the counterexample needs. -/
def twoInterfaces (zone : String) : Option Nat :=
  if zone = "eth0" then some 2 else if zone = "eth1" then some 3 else none

/-- Two peers on different links share their key, and replies to them lose the link. -/
theorem link_local_zone_lost : ¬(linkLocal "eth0").RoundTrips twoInterfaces .little ∧
    (linkLocal "eth0").SharesKey twoInterfaces .little (linkLocal "eth1") ∧
      ¬(linkLocal "eth0").Same (linkLocal "eth1") := by
  refine ⟨?_, ?_, fun hSame => absurd hSame.zone (by decide)⟩
  · rintro ⟨b, hReply, hSame⟩
    have hZone := UDPAddr.zone_replied twoInterfaces .little hReply
    exact absurd (hSame.zone.symm.trans hZone) (by decide)
  · exact ⟨⟨(linkLocal "eth0").ip, swap16 6881⟩, ⟨(linkLocal "eth0").ip, swap16 6881⟩, by decide +kernel,
      by decide +kernel, rfl, rfl⟩

end Utp
