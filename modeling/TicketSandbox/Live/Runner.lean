import TicketSandbox.Firewall.Contracts
import TicketSandbox.Library.Base64
import TicketSandbox.Library.Crlf

namespace TicketSandbox.Live

/-!
# The peer runner

`trusted_checker_live/runner.py`: the runner connects to the target, reads the
header of the response byte by byte and its body up to a limit, and reports
what it heard as a packet.
-/

open Base64 (b64encode)
open Crlf (Bytes blockEnd split)
open TicketSandbox.Firewall (IsPrivateIp)
open TicketSandbox.Runtime (Transport)

/-! ## The peer -/

/-- How a stream ends. -/
inductive Ending where
  | eof
  | timeout
  | refused
  | osError

/-- What a peer sends: a stream that ends, or does not.  A deadline that
passes ends it with a timeout. -/
structure Peer where
  byte? : Nat → Option UInt8
  ending : Ending
  closed : ∀ position, byte? position = none → byte? (position + 1) = none

/-- What a socket raises. -/
inductive Fault where
  | timeout
  | refused
  | osError
  deriving Repr, DecidableEq

/-- The bytes of a stream from a position on, at most so many. -/
def Peer.read (peer : Peer) : Nat → Nat → Bytes
  | 0, _ => []
  | count + 1, position =>
      match peer.byte? position with
      | none => []
      | some byte => byte :: peer.read count (position + 1)

/-- What `recv` gives where the stream ends. -/
def Ending.heard : Ending → Except Fault Bytes
  | .eof => .ok []
  | .timeout => .error .timeout
  | .refused => .error .refused
  | .osError => .error .osError

/-- `recv`: a piece of the stream that is not empty and no longer than
requested, or what happens where the stream ends. -/
def Peer.recv (peer : Peer) (size : Nat → Nat)
    (position requested : Nat) : Except Fault Bytes :=
  match peer.byte? position with
  | some _ => .ok (peer.read (max 1 (min (size position) requested)) position)
  | none => peer.ending.heard

/-- What a target does: what `connect` and `sendall` raise, and what it
sends. -/
structure Target where
  connect : Option Fault
  sendall : Option Fault
  peer : Peer

/-! ## Packets -/

/-- `POLICY_ID`. -/
def policyId : String := "service-bind-localhost-live-peer-v2"

/-- `POLICY_VERSION`. -/
def policyVersion : Nat := 2

/-- `PROTOCOL_VERSION`. -/
def protocolVersion : Nat := 2

/-- `MAX_BODY`. -/
def maxBody : Nat := 1024

/-- `MAX_HEADERS`. -/
def maxHeaders : Nat := 8192

/-- What the runner reports. -/
structure Packet where
  protocolVersion : Nat
  policyId : String
  policyVersion : Nat
  targetIpv4 : String
  status : Option Nat
  bodyB64 : List Char
  complete : Bool
  transport : Transport
  deriving Repr, DecidableEq

variable (ip : String)

/-- `packet`. -/
def packet (status : Option Nat) (body : Bytes) (complete : Bool)
    (transport : Transport) : Packet where
  protocolVersion
  policyId
  policyVersion
  targetIpv4 := ip
  status
  bodyB64 := b64encode body
  complete
  transport

/-- A packet without a response. -/
def silent (transport : Transport) : Packet :=
  packet ip none [] false transport

/-! ## Headers -/

/-- A decimal digit. -/
def isDigit (byte : UInt8) : Bool :=
  decide (48 ≤ byte.toNat ∧ byte.toNat ≤ 57)

/-- `int` of decimal digits. -/
def decimal (digits : Bytes) : Nat :=
  digits.foldl (fun value byte => 10 * value + (byte.toNat - 48)) 0

/-- `[\x20-\x7e]`. -/
def isPrintable (byte : UInt8) : Bool :=
  decide (32 ≤ byte.toNat ∧ byte.toNat ≤ 126)

/-- The reason of a status line, which may be missing. -/
def isReason : Bytes → Bool
  | [] => true
  | byte :: rest => decide (byte = 32) && rest.all isPrintable

/-- The status of a status line. -/
def status? : Bytes → Option Nat
  | 72 :: 84 :: 84 :: 80 :: 47 :: 49 :: 46 :: minor :: 32 :: first ::
      second :: third :: reason =>
      if (minor = 48 ∨ minor = 49) ∧
          (49 ≤ first.toNat ∧ first.toNat ≤ 53) ∧ isDigit second = true ∧
          isDigit third = true ∧ isReason reason = true then
        some (decimal [first, second, third])
      else
        none
  | _ => none

/-- `[A-Za-z0-9-]`. -/
def isKeyByte (byte : UInt8) : Bool :=
  isDigit byte || decide (byte = 45) ||
    decide (65 ≤ byte.toNat ∧ byte.toNat ≤ 90) ||
      decide (97 ≤ byte.toNat ∧ byte.toNat ≤ 122)

/-- `[A-Za-z0-9-]+`. -/
def isKey (key : Bytes) : Bool :=
  !key.isEmpty && key.all isKeyByte

/-- `lower`. -/
def lower (key : Bytes) : Bytes :=
  key.map fun byte =>
    if 65 ≤ byte.toNat ∧ byte.toNat ≤ 90 then byte + 32 else byte

/-- A space or a tab. -/
def isBlank (byte : UInt8) : Bool :=
  decide (byte = 32) || decide (byte = 9)

/-- `strip(b' \t')`. -/
def strip (value : Bytes) : Bytes :=
  ((value.dropWhile isBlank).reverse.dropWhile isBlank).reverse

/-- The key of a header line. -/
def lineKey (line : Bytes) : Bytes :=
  line.takeWhile fun byte => byte ≠ 58

/-- The value of a header line. -/
def lineValue (line : Bytes) : Bytes :=
  (line.dropWhile fun byte => byte ≠ 58).drop 1

/-- The loop over the header lines. -/
def readHeaders :
    List (Bytes × Bytes) → List Bytes → Option (List (Bytes × Bytes))
  | headers, [] => some headers
  | headers, line :: lines =>
      if 58 ∉ line ∨ (line.head?.any isBlank) = true then
        none
      else if isKey (lineKey line) = false ∨
          lower (lineKey line) ∈ headers.map Prod.fst then
        none
      else
        readHeaders
          (headers ++ [(lower (lineKey line), strip (lineValue line))])
          lines

/-- The bytes of an ASCII text. -/
def ascii (text : String) : Bytes :=
  text.toList.map fun char => UInt8.ofNat char.toNat

/-- `headers.get`. -/
def header? (headers : List (Bytes × Bytes)) (key : String) : Option Bytes :=
  (headers.find? fun header => decide (header.1 = ascii key)).map Prod.snd

/-- `[0-9]{1,12}`. -/
def isLength (value : Bytes) : Bool :=
  decide (1 ≤ value.length ∧ value.length ≤ 12) && value.all isDigit

/-- What the header of a response says. -/
structure Head where
  status : Nat
  expected : Option Nat

/-- The framing that the headers ask for. -/
def framing? (status : Nat) (headers : List (Bytes × Bytes)) : Option Head :=
  if (header? headers "transfer-encoding").isSome = true ∨
      (header? headers "content-encoding").isSome = true then
    none
  else
    match header? headers "content-length" with
    | none => some { status, expected := none }
    | some length =>
        if isLength length = true then
          some { status, expected := some (decimal length) }
        else
          none

/-- What is read of a block of headers. -/
def head? (raw : Bytes) : Option Head :=
  match split (raw.take (raw.length - 4)) with
  | [] => none
  | line :: lines =>
      if 33 < lines.length + 1 then
        none
      else do
        let status ← status? line
        let headers ← readHeaders [] lines
        framing? status headers

/-! ## Reading -/

/-- The loop over the bytes of the header; nothing where it ends early.  The
room is what the header may still grow by. -/
def readHead
    (peer : Peer) (size : Nat → Nat) : Nat → Bytes → Except Fault (Option Bytes)
  | 0, raw =>
      if blockEnd <:+: raw then .ok (some raw)
      else (peer.recv size raw.length 1).map fun _ => none
  | room + 1, raw =>
      if blockEnd <:+: raw then
        .ok (some raw)
      else
        match peer.recv size raw.length 1 with
        | .error fault => .error fault
        | .ok [] => .ok none
        | .ok (first :: rest) => readHead peer size room (raw ++ first :: rest)

/-- How much is requested of a body. -/
def requested (expected : Option Nat) (length : Nat) : Nat :=
  min (maxBody + 1 - length) (match expected with
      | some expected => expected - length
      | none => maxBody + 1)

/-- The body has as many bytes as are expected. -/
def isFull (expected : Option Nat) (length : Nat) : Bool :=
  expected.any fun expected => decide (expected ≤ length)

/-- The loop over the pieces of the body behind a header: the body, and
whether it is complete.  Every piece has a byte, so that the fuel is enough. -/
def readBody
    (peer : Peer) (size : Nat → Nat) (start : Nat) (expected : Option Nat) :
    Nat → Bytes → Except Fault (Bytes × Bool)
  | 0, body => .ok (body, true)
  | fuel + 1, body =>
      if maxBody < body.length then
        .ok (body, true)
      else if isFull expected body.length = true then
        .ok (body, true)
      else
        match
          peer.recv size (start + body.length) (requested expected body.length)
        with
        | .error fault => .error fault
        | .ok [] =>
            .ok (body, expected.isNone || decide (expected = some body.length))
        | .ok (first :: rest) =>
            readBody peer size start expected fuel (body ++ first :: rest)

/-- The packet of a body. -/
def bodyPacket (status : Nat) (heard : Bytes × Bool) : Packet :=
  packet ip (some status) heard.1 heard.2 .none

/-- What is reported of a response. -/
def exchange (peer : Peer) (size : Nat → Nat) : Except Fault Packet :=
  match readHead peer size maxHeaders [] with
  | .error fault => .error fault
  | .ok none => .ok (silent ip .uncertain)
  | .ok (some raw) =>
      match head? raw with
      | none => .ok (silent ip .uncertain)
      | some head =>
          (readBody peer size raw.length head.expected (maxBody + 2) []).map
            (bodyPacket ip head.status)

/-- The packet of what was raised, by whichever call. -/
def faulty : Fault → Packet
  | .timeout => silent ip .timeout
  | .refused => silent ip .refused
  | .osError => silent ip .uncertain

/-- `probe`, or nothing where it raises. -/
def probe (target : Target) (size : Nat → Nat) : Option Packet :=
  if IsPrivateIp ip then
    match target.connect, target.sendall with
    | some fault, _ => some (faulty ip fault)
    | none, some fault => some (faulty ip fault)
    | none, none =>
        match exchange ip target.peer size with
        | .error fault => some (faulty ip fault)
        | .ok packet => some packet
  else
    none

end TicketSandbox.Live
