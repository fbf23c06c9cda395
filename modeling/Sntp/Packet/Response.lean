import Sntp.Packet.Timestamp
import Sntp.Text.Utf8

/-!
# Requests and responses

A packet has 48 bytes, of which a request fills only the first. `Response.ofBytes` reads a response
and names the first of its defects: too short, not from a server, no stratum, an unknown version, an
unsynchronized clock, a time before 1970.
-/

set_option autoImplicit false

namespace Sntp

namespace Packet

/-- The length of a packet in bytes. -/
def size : Nat := 48

/-- The port that servers listen on. -/
def port : Nat := 123

/-- The mode of a packet from a server. -/
def serverMode : Nat := 4

/-- The leap indicator of a clock that is not synchronized. -/
def unsynchronizedLeap : Nat := 3

/-- A request: leap indicator 0, version 4 and client mode 3 in the first byte, and nothing after
it. -/
def request : Bytes := 0x23 :: List.replicate (size - 1) 0

/-- The byte at a position, zero past the end. -/
def byteAt (packet : Bytes) (position : Nat) : Nat := (packet.getD position 0).toNat

/-- The signed byte at a position, in two's complement. -/
def signedByteAt (packet : Bytes) (position : Nat) : Int :=
  let byte := byteAt packet position
  if byte < 128 then byte else (byte : Int) - 256

/-- The four bytes from a position on, the first the most significant. -/
def wordAt (packet : Bytes) (position : Nat) : Nat :=
  ((byteAt packet position * 256 + byteAt packet (position + 1)) * 256 + byteAt packet (position + 2)) * 256
    + byteAt packet (position + 3)

/-- Whether a character is one of the printable ones of ASCII, the blank included. -/
def isPrintable (c : Char) : Bool := 0x20 ≤ c.toNat && c.toNat ≤ 0x7E

/-- The code in the reference bytes: what is printable in them, without blanks around it. -/
def referenceCode (packet : Bytes) : List Char :=
  Text.trim (([12, 13, 14, 15].map fun position => Char.ofNat (byteAt packet position)).filter isPrintable)

/-- The reference bytes as an address in dotted decimal. -/
def referenceAddress (packet : Bytes) : List Char :=
  let part (position : Nat) : List Char := Number.digitsOf (byteAt packet position)
  part 12 ++ '.' :: part 13 ++ '.' :: part 14 ++ '.' :: part 15

/-- The mode of the sender, in the low three bits of the first byte. -/
def mode (packet : Bytes) : Nat := byteAt packet 0 % 8

/-- The version of the protocol, in the next three bits. -/
def version (packet : Bytes) : Nat := byteAt packet 0 / 8 % 8

/-- The leap indicator, in the high two bits. -/
def leap (packet : Bytes) : Nat := byteAt packet 0 / 64

/-- The distance of the server from a reference clock. -/
def stratum (packet : Bytes) : Nat := byteAt packet 1

/-- What a server takes its time from: below stratum 2 a code, from there on the address of another
server. -/
def reference (packet : Bytes) : String :=
  String.ofList (if stratum packet < 2 then referenceCode packet else referenceAddress packet)

/-- The seconds of the time at which a packet left. -/
def transmitSeconds (packet : Bytes) : Nat := wordAt packet 40

/-- The fraction of the time at which a packet left. -/
def transmitFraction (packet : Bytes) : Nat := wordAt packet 44

/-- The first reason, its time aside, for which a packet is no usable response. -/
def defect? (packet : Bytes) : Option Fault :=
  if packet.length < size then some (.shortPacket packet.length)
  else if mode packet ≠ serverMode then some (.wrongMode (mode packet))
  else if stratum packet = 0 then some (.kissOfDeath (reference packet))
  else if version packet < 1 ∨ 4 < version packet then some (.wrongVersion (version packet))
  else if leap packet = unsynchronizedLeap then some .unsynchronized
  else none

end Packet

/-- The fields of a response that the program uses or reports. -/
structure Response where
  leap : Nat
  version : Nat
  mode : Nat
  stratum : Nat
  /-- The logarithm of the interval between messages, in seconds. -/
  poll : Int
  /-- The logarithm of the clock's precision, in seconds. -/
  precision : Int
  rootDelay : Nat
  rootDispersion : Nat
  reference : String
  /-- The whole seconds and the fraction of the time at which the response left. -/
  seconds : Nat
  fraction : Nat
  /-- That time in milliseconds since 1970-01-01. -/
  transmitMs : Int
  deriving DecidableEq, Repr, Inhabited

namespace Response

/-- Reads a response, or names its first defect. -/
def ofBytes (packet : Bytes) : Except Fault Response :=
  match Packet.defect? packet with
  | some fault => .error fault
  | none =>
    (Packet.unixMillis (Packet.transmitSeconds packet) (Packet.transmitFraction packet)).map fun transmitMs =>
      { leap := Packet.leap packet
        version := Packet.version packet
        mode := Packet.mode packet
        stratum := Packet.stratum packet
        poll := Packet.signedByteAt packet 2
        precision := Packet.signedByteAt packet 3
        rootDelay := Packet.wordAt packet 4
        rootDispersion := Packet.wordAt packet 8
        reference := Packet.reference packet
        seconds := Packet.transmitSeconds packet
        fraction := Packet.transmitFraction packet
        transmitMs }

end Response

end Sntp
