import Utp.Socket.Types

/-! Peer addresses: the Go type, the socket address that is passed to the library, and the packed
form that the library keeps. -/
namespace Utp

open Wrapping

/-- The byte order of the host. -/
inductive ByteOrder where
  | little | big
  deriving DecidableEq, Repr

/-- The two bytes of a 16-bit value, exchanged. -/
def swap16 (n : Nat) : Nat := n % 256 * 256 + n / 256 % 256

def ByteOrder.ntohs (order : ByteOrder) (n : Nat) : Nat :=
  match order with
  | .little => swap16 n
  | .big => n

def ByteOrder.htons (order : ByteOrder) (n : Nat) : Nat := order.ntohs n

/-- `Read32`: four bytes of memory as the host reads them. -/
def ByteOrder.read32 (order : ByteOrder) (a b c d : UInt8) : UInt32 :=
  match order with
  | .little => a.toUInt32 ||| b.toUInt32 <<< 8 ||| c.toUInt32 <<< 16 ||| d.toUInt32 <<< 24
  | .big => d.toUInt32 ||| c.toUInt32 <<< 8 ||| b.toUInt32 <<< 16 ||| a.toUInt32 <<< 24

inductive Family where
  | unspec | inet | inet6
  deriving DecidableEq, Repr

/-- A `sockaddr_in` or `sockaddr_in6` as it lies in memory: the port is the number that the host
reads there, the address its four or sixteen bytes. -/
structure RawSockaddr where
  family : Family
  port : Nat
  addr : List UInt8
  scopeId : Nat
  deriving DecidableEq, Repr

abbrev sizeofSockaddrIn : Nat := 16
abbrev sizeofSockaddrIn6 : Nat := 28
abbrev sizeofRawSockaddrAny : Nat := 112

/-- The Go type `net.UDPAddr`. An IP that is nil is the empty list. -/
structure UDPAddr where
  ip : List UInt8
  port : Int
  zone : String
  deriving DecidableEq, Repr

/-- The addresses that `netAddrToLibSockaddr` tells apart. -/
inductive NetAddr where
  | udp (a : UDPAddr)
  | inproc (port : Int)
  | other
  deriving DecidableEq, Repr

/-- The first twelve bytes of `::ffff:0:0/96`. -/
def v4InV6Prefix : List UInt8 := [0, 0, 0, 0, 0, 0, 0, 0, 0, 0, 0xff, 0xff]

/-- The Go method `net.IP.To4`. -/
def to4 (ip : List UInt8) : Option (List UInt8) :=
  if ip.length = 4 then some ip
  else if ip.length = 16 ∧ ip.take 12 = v4InV6Prefix then some (ip.drop 12)
  else none

/-- The loop of the Go function `strconv.ParseUint(s, 10, 32)`, of which only the value is used. -/
def parseUint32Loop : List Char → Nat → Nat
  | [], n => n
  | c :: cs, n =>
      if c.isDigit then
        if n * 10 + (c.toNat - '0'.toNat) > 4294967295 then 4294967295
        else parseUint32Loop cs (n * 10 + (c.toNat - '0'.toNat))
      else 0

section Go

variable (interfaceByName : String → Option Nat)

/-- The interfaces of the host are a parameter. -/
def zoneToScopeId (zone : String) : Nat :=
  if zone = "" then 0
  else
    match interfaceByName zone with
    | some index => u32 index
    | none => parseUint32Loop zone.toList 0

/-- The result is nothing if the function panics. -/
def toSockaddrInet (ip : List UInt8) (port : Int) (zone : String) : Option (RawSockaddr × Nat) :=
  match (to4 ip).filter fun _ => zone = "" with
  | some ip4 => if ip4.length = 4 then some (⟨.inet, u16 port, ip4, 0⟩, sizeofSockaddrIn) else none
  | none =>
      let scopeId := zoneToScopeId interfaceByName zone
      if ip.isEmpty then some (⟨.inet6, u16 port, List.replicate 16 0, scopeId⟩, sizeofSockaddrIn6)
      else if ip.length ≥ 16 then some (⟨.inet6, u16 port, ip.take 16, scopeId⟩, sizeofSockaddrIn6)
      else none

def netAddrToLibSockaddr (na : NetAddr) : Option (RawSockaddr × Nat) :=
  match na with
  | .udp v => toSockaddrInet interfaceByName v.ip v.port v.zone
  | .inproc port =>
      if (u16 port : Int) = port then some (⟨.unspec, u16 port, List.replicate 16 0, 0⟩, sizeofRawSockaddrAny)
      else none
  | .other => none

end Go

/-- Read a socket address into an existing `net.UDPAddr`; nothing stands for `EAFNOSUPPORT`. -/
def anySockaddrToUdp (rsa : RawSockaddr) (udp : UDPAddr) : Option UDPAddr :=
  match rsa.family with
  | .inet => some { udp with port := rsa.port, ip := rsa.addr }
  | .inet6 => some { udp with port := rsa.port, ip := rsa.addr }
  | .unspec => none

/-- `utp_hash_mem` -/
def utpHashMem (order : ByteOrder) : List UInt8 → UInt32 → UInt32
  | a :: b :: c :: d :: rest, hash =>
      let hash := hash ^^^ order.read32 a b c d
      utpHashMem order rest (hash <<< 13 ||| hash >>> 19)
  | a :: rest, hash =>
      let hash := hash ^^^ a.toUInt32
      utpHashMem order rest (hash <<< 8 ||| hash >>> 24)
  | [], hash => hash

namespace PackedSockAddr

variable (order : ByteOrder)

/-- The result is nothing if the assertion on the length fails. Every family but `AF_INET` is taken
for `AF_INET6`, and the scope id is not looked at. -/
def set (sa : RawSockaddr) (len : Nat) : Option PackedSockAddr :=
  if sa.family = .inet then
    if len ≥ sizeofSockaddrIn then some ⟨v4InV6Prefix ++ sa.addr, order.ntohs sa.port⟩ else none
  else if len ≥ sizeofSockaddrIn6 then some ⟨sa.addr, order.ntohs sa.port⟩
  else none

/-- `IN6_IS_ADDR_V4MAPPED` -/
def getFamily (a : PackedSockAddr) : Family := if a.in6.take 12 = v4InV6Prefix then .inet else .inet6

def getSockaddrStorage (a : PackedSockAddr) : RawSockaddr :=
  match a.getFamily with
  | .inet => ⟨.inet, order.htons a.port, a.in6.drop 12, 0⟩
  | family => ⟨family, order.htons a.port, a.in6, 0⟩

def computeHash (a : PackedSockAddr) : UInt32 := utpHashMem order a.in6 0 ^^^ UInt32.ofNat a.port

end PackedSockAddr

end Utp
