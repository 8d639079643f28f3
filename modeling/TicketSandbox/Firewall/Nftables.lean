import TicketSandbox.Firewall.Rules

namespace TicketSandbox.Firewall

/-!
# Frames

The Ethernet frames that pass the bridge, as bytes, and the header fields that
a packet filter can read from them.  A field of a protocol can only be read
from a frame that carries the protocol.
-/

/-- An Ethernet frame from its destination address on. -/
abbrev Frame := Bytes

namespace Frame

variable (frame : Frame)

/-- The bytes of a frame from an offset on. -/
def slice? (offset len : Nat) : Option Bytes :=
  if offset + len ≤ frame.length then some ((frame.drop offset).take len)
  else none

/-- The EtherType; the one of a tagged frame is the one of its tag. -/
def etherType? : Option Bytes :=
  frame.slice? 12 2

/-- The bytes of the IPv4 header of a frame that has one. -/
def ipv4? (offset len : Nat) : Option Bytes :=
  if frame.etherType? = some [8, 0] then frame.slice? (14 + offset) len
  else none

/-- The bytes of the ARP packet of a frame that has one. -/
def arp? (offset len : Nat) : Option Bytes :=
  if frame.etherType? = some [8, 6] then frame.slice? (14 + offset) len
  else none

/-- What an IPv4 packet carries. -/
structure Transport where
  protocol : UInt8
  offset : Nat
  fragmentOffset : Nat

/--
The transport header behind an IPv4 header that is complete: version four, at
least five words, and a total length that the frame has.
-/
def transport? : Option Transport := do
  let header ← frame.ipv4? 0 20
  let version := header.getD 0 0
  let headerLength := version.toNat % 16 * 4
  let totalLength := Bytes.number ((header.drop 2).take 2)
  if version.toNat / 16 = 4 ∧ 20 ≤ headerLength ∧
      headerLength ≤ totalLength ∧ 14 + totalLength ≤ frame.length then
    pure
      { protocol := header.getD 9 0
        offset := 14 + headerLength
        fragmentOffset := Bytes.number ((header.drop 6).take 2) % 8192 }
  else
    none

/-- The bytes of the TCP header of a frame that has one. -/
def tcp? (offset len : Nat) : Option Bytes :=
  match frame.transport? with
  | some transport =>
      if transport.protocol = 6 ∧ transport.fragmentOffset = 0 then
        frame.slice? (transport.offset + offset) len
      else
        none
  | none => none

/-- The two directions of a connection differ in what is swapped. -/
structure Flow where
  source : Bytes
  dest : Bytes
  sourcePort : Bytes
  destPort : Bytes
  deriving Repr, DecidableEq

/-- The other direction of a flow. -/
def Flow.opposite (flow : Flow) : Flow where
  source := flow.dest
  dest := flow.source
  sourcePort := flow.destPort
  destPort := flow.sourcePort

/-- The TCP flow that a frame belongs to. -/
def flow? : Option Flow := do
  pure
    { source := ← frame.ipv4? 12 4
      dest := ← frame.ipv4? 16 4
      sourcePort := ← frame.tcp? 0 2
      destPort := ← frame.tcp? 2 2 }

end Frame

end TicketSandbox.Firewall

namespace TicketSandbox.Firewall

/-!
# The meaning of a transaction

What nft makes of the rendered rules: the bytes a field selects, when a match
holds, what a rule decides, and what the chains on a hook decide.  A packet is
accepted on a hook when every base chain there accepts it.
-/

open Filters (Verdict)

/-- A port of the host. -/
structure Port where
  name : String
  index : Nat

/-- A packet on a hook. -/
structure Packet where
  frame : Frame
  iif : Option Port
  oif : Option Port
  established : Bool

/-- The bytes of a field. -/
def Field.load (frame : Frame) : Field → Option Bytes
  | .etherDaddr => frame.slice? 0 6
  | .etherSaddr => frame.slice? 6 6
  | .etherType => frame.etherType?
  | .ipFragOff => frame.ipv4? 6 2
  | .ipSaddr => frame.ipv4? 12 4
  | .ipDaddr => frame.ipv4? 16 4
  | .tcpSport => frame.tcp? 0 2
  | .tcpDport => frame.tcp? 2 2
  | .arpOperation => frame.arp? 6 2
  | .arpSaddrEther => frame.arp? 8 6
  | .arpSaddrIp => frame.arp? 14 4
  | .arpDaddrIp => frame.arp? 24 4

/-- The bytes of a port number. -/
def portBytes (value : Nat) : Bytes :=
  [UInt8.ofNat (value / 256), UInt8.ofNat value]

/-- The bytes of the symbols of a field. -/
def symbol? (value : String) : List (String × Bytes) → Option Bytes
  | [] => none
  | (name, bytes) :: rest =>
      if value = name then some bytes else symbol? value rest

/-- The bytes that a field is compared with. -/
def Field.encode : Field → Right → Option Bytes
  | .etherType, .text value => symbol? value [("ip", [8, 0]), ("arp", [8, 6])]
  | .etherSaddr, .text value => mac? value
  | .etherDaddr, .text value => mac? value
  | .arpSaddrEther, .text value => mac? value
  | .ipSaddr, .text value => ipv4? value
  | .ipDaddr, .text value => ipv4? value
  | .arpSaddrIp, .text value => ipv4? value
  | .arpDaddrIp, .text value => ipv4? value
  | .arpOperation, .text value =>
      symbol? value [("request", [0, 1]), ("reply", [0, 2])]
  | .tcpSport, .number value => some (portBytes value)
  | .tcpDport, .number value => some (portBytes value)
  | _, _ => none

/-- Both sides of a comparison are there and agree. -/
def agree {α : Type} [DecidableEq α] (left right : Option α) : Bool :=
  left.isSome && left = right

/-- Whether a match holds of a packet. -/
def Left.holds (packet : Packet) : Left → Right → Bool
  | .iifname, .text name => agree (packet.iif.map Port.name) (some name)
  | .oifname, .text name => agree (packet.oif.map Port.name) (some name)
  | .iif, .number index => agree (packet.iif.map Port.index) (some index)
  | .l4proto, .text value =>
      agree (packet.frame.transport?.map Frame.Transport.protocol)
        (if value = "tcp" then some 6 else none)
  | .ctState, .text value => value = "established" && packet.established
  | .payload field, value =>
      agree (field.load packet.frame) (field.encode value)
  | .masked field mask, .number value =>
      agree ((field.load packet.frame).map fun bytes =>
          Bytes.number bytes &&& mask)
        (some value)
  | .linkLayer offset len, .hex value =>
      agree (packet.frame.slice? (offset / 8) (len / 8)) (some value)
  | _, _ => false

/-- What the expressions of a rule decide, one after the other. -/
def evaluate (packet : Packet) : List Expression → Option Verdict
  | [] => none
  | .match left right :: rest =>
      if left.holds packet right then evaluate packet rest else none
  | .counter :: rest => evaluate packet rest
  | .accept :: _ => some .accept
  | .drop :: _ => some .drop

/-- The base chains on a hook. -/
def chainsOn
    (commands : List Command) (family : Family) (hook : Hook) : List Chain :=
  commands.filterMap fun command =>
    match command with
    | .chain chain =>
        if chain.family = family ∧ chain.hook = hook then some chain else none
    | _ => none

/-- The expressions of the rules of a chain, in order. -/
def rulesOf
    (commands : List Command) (chain : Chain) : List (List Expression) :=
  commands.filterMap fun command =>
    match command with
    | .rule rule =>
        if rule.family = chain.family ∧ rule.table = chain.table ∧
            rule.chain = chain.hook then
          some rule.expr
        else
          none
    | _ => none

/-- What a chain decides on a packet. -/
def chainVerdict
    (commands : List Command) (chain : Chain) (packet : Packet) : Verdict :=
  Filters.verdict (fun expr packet => evaluate packet expr) chain.policy
    (rulesOf commands chain) packet

/-- What the chains on a hook decide on a packet. -/
def hookVerdict (commands : List Command) (family : Family) (hook : Hook)
    (packet : Packet) : Verdict :=
  if ∀ chain ∈ chainsOn commands family hook,
      chainVerdict commands chain packet = .accept then
    .accept
  else
    .drop

end TicketSandbox.Firewall

namespace TicketSandbox.Firewall

/-!
# Traffic

Sequences of packets at the host.  A bridged frame passes prerouting and then
forward or, for the host itself, input; a frame of the host passes output.  A
frame is established when a frame of the other direction of its flow was
accepted in forward earlier.
-/

open Filters (Verdict)

/-- A packet that arrives at the host or leaves it. -/
inductive Event where
  | bridged (frame : Frame) (iif oif : Port)
  | delivered (frame : Frame) (iif : Port)
  | originated (frame : Frame) (oif : Port)
  | inetInput (frame : Frame) (iif : Port)
  | inetForward (frame : Frame) (iif oif : Port)
  | inetOutput (frame : Frame) (oif : Port)

/-- Whether a frame belongs to the other direction of a tracked flow. -/
def isEstablished (tracked : List Frame.Flow) (frame : Frame) : Bool :=
  match frame.flow? with
  | some flow => flow.opposite ∈ tracked
  | none => false

/-- The packet of a frame between two ports. -/
def packetOf (tracked : List Frame.Flow) (frame : Frame)
    (iif oif : Option Port) : Packet where
  frame := frame
  iif := iif
  oif := oif
  established := isEstablished tracked frame

/-- A packet has to be accepted on both hooks. -/
def both : Verdict → Verdict → Verdict
  | .accept, other => other
  | .drop, _ => .drop

/-- What the hooks on the way of a packet decide. -/
def decision
    (commands : List Command) (tracked : List Frame.Flow) : Event → Verdict
  | .bridged frame iif oif =>
      both (hookVerdict commands .bridge .prerouting
          (packetOf tracked frame (some iif) none))
        (hookVerdict commands .bridge .forward
          (packetOf tracked frame (some iif) (some oif)))
  | .delivered frame iif =>
      both (hookVerdict commands .bridge .prerouting
          (packetOf tracked frame (some iif) none))
        (hookVerdict commands .bridge .input
          (packetOf tracked frame (some iif) none))
  | .originated frame oif =>
      hookVerdict commands .bridge .output
        (packetOf tracked frame none (some oif))
  | .inetInput frame iif =>
      hookVerdict commands .inet .input (packetOf tracked frame (some iif) none)
  | .inetForward frame iif oif =>
      hookVerdict commands .inet .forward
        (packetOf tracked frame (some iif) (some oif))
  | .inetOutput frame oif =>
      hookVerdict commands .inet .output
        (packetOf tracked frame none (some oif))

/-- Track the flow of a frame that was accepted in forward. -/
def track (commands : List Command) (tracked : List Frame.Flow)
    (event : Event) : List Frame.Flow :=
  match event with
  | .bridged frame iif oif =>
      if decision commands tracked (.bridged frame iif oif) = .accept then
        tracked ++ frame.flow?.toList
      else
        tracked
  | _ => tracked

/-- The flows tracked after a sequence of packets. -/
def trackedAfter
    (commands : List Command) (earlier : List Event) : List Frame.Flow :=
  earlier.foldl (track commands) []

/-- What is decided on a packet after the earlier ones. -/
def decisionAfter (commands : List Command) (earlier : List Event)
    (event : Event) : Verdict :=
  decision commands (trackedAfter commands earlier) event

/-- A frame of the flow was forwarded earlier. -/
def WasForwarded (commands : List Command) (earlier : List Event)
    (flow : Frame.Flow) : Prop :=
  ∃ before frame iif oif after,
    earlier = before ++ .bridged frame iif oif :: after ∧
      decisionAfter commands before (.bridged frame iif oif) = .accept ∧
      frame.flow? = some flow

theorem trackedAfter_append
    (commands : List Command) (earlier : List Event) (event : Event) :
    trackedAfter commands (earlier ++ [event]) =
      track commands (trackedAfter commands earlier) event :=
  List.foldl_append

variable {commands : List Command} {event : Event} {earlier : List Event}
  {flow : Frame.Flow}

theorem mem_track {tracked : List Frame.Flow} :
    flow ∈ track commands tracked event ↔ flow ∈ tracked ∨ ∃ frame iif oif,
          event = .bridged frame iif oif ∧
            decision commands tracked event = .accept ∧
            frame.flow? = some flow := by
  cases event with
  | bridged frame iif oif =>
      by_cases accepted :
          decision commands tracked (.bridged frame iif oif) = .accept
      · simp [track, accepted]
      · simp [track, accepted]
  | delivered frame iif => simp [track]
  | originated frame oif => simp [track]
  | inetInput frame iif => simp [track]
  | inetForward frame iif oif => simp [track]
  | inetOutput frame oif => simp [track]

theorem not_wasForwarded_nil (commands : List Command) (flow : Frame.Flow) :
    ¬ WasForwarded commands [] flow := by
  rintro ⟨before, frame, iif, oif, after, split, _⟩
  exact List.append_ne_nil_of_right_ne_nil before
    (List.cons_ne_nil _ after) split.symm

theorem wasForwarded_append :
    WasForwarded commands (earlier ++ [event]) flow ↔
      WasForwarded commands earlier flow ∨ ∃ frame iif oif,
          event = .bridged frame iif oif ∧
            decisionAfter commands earlier event = .accept ∧
            frame.flow? = some flow := by
  constructor
  · rintro ⟨before, frame, iif, oif, after, split, accepted, isFlow⟩
    rcases List.eq_nil_or_concat after with isLast | ⟨middle, last, isAfter⟩
    · subst after
      obtain ⟨sameEarlier, sameEvent⟩ := List.append_inj' split rfl
      cases sameEvent
      subst earlier
      exact Or.inr ⟨frame, iif, oif, rfl, accepted, isFlow⟩
    · subst after
      have regrouped : earlier ++ [event] =
            (before ++ .bridged frame iif oif :: middle) ++ [last] := by
        rw [split, List.concat_eq_append, List.append_assoc, List.cons_append]
      obtain ⟨sameEarlier, _⟩ := List.append_inj' regrouped rfl
      exact Or.inl
        ⟨before, frame, iif, oif, middle, sameEarlier, accepted, isFlow⟩
  · rintro (⟨before, frame, iif, oif, after, split, accepted, isFlow⟩ |
      ⟨frame, iif, oif, rfl, accepted, isFlow⟩)
    · subst earlier
      exact ⟨before, frame, iif, oif, after ++ [event],
          by rw [List.append_assoc, List.cons_append], accepted, isFlow⟩
    · exact ⟨earlier, frame, iif, oif, [], rfl, accepted, isFlow⟩

theorem mem_trackedAfter (earlier : List Event) :
    flow ∈ trackedAfter commands earlier ↔
      WasForwarded commands earlier flow := by
  induction earlier using List.reverseRecOn with
  | nil =>
      exact iff_of_false List.not_mem_nil (not_wasForwarded_nil commands flow)
  | append_singleton before event inductionHypothesis =>
      rw [trackedAfter_append, mem_track, wasForwarded_append,
        inductionHypothesis]
      rfl

/-- A flow is established once its opposite was forwarded. -/
theorem isEstablished_after {frame : Frame} :
    isEstablished (trackedAfter commands earlier) frame = true ↔ ∃ flow,
        frame.flow? = some flow ∧
          WasForwarded commands earlier flow.opposite := by
  unfold isEstablished
  cases isFlow : frame.flow? with
  | none => simp
  | some flow => simp [mem_trackedAfter]

end TicketSandbox.Firewall
