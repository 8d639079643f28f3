import TicketSandbox.Firewall.Nftables
import TicketSandbox.Firewall.Probes

namespace TicketSandbox.Firewall

/-!
# Facts about probes

Where the headers of a probe lie, and what can be read from a frame that
begins with a probe.
-/

/-! ## Slices -/

variable {before middle after frame dest source etherType payload head src dst
    rest more raw : Bytes}
  {offset len value port : Nat}

theorem Frame.slice?_middle
    (isOffset : before.length = offset) (isLen : middle.length = len) :
    Frame.slice? (before ++ (middle ++ after)) offset len = some middle := by
  subst isOffset isLen
  unfold Frame.slice?
  rw [if_pos (by simp only [List.length_append]; omega),
    List.drop_left, List.take_left]

theorem patch_append
    {front back : Bytes} (inFront : offset + 2 ≤ front.length) :
    patch (front ++ back) offset value = patch front offset value ++ back := by
  have atOffset : offset ≤ front.length := by
    omega
  unfold patch
  rw [List.take_append_of_le_length atOffset,
    List.drop_append_of_le_length inFront]
  simp only [List.append_assoc]

theorem patch_length {bytes : Bytes} (isInside : offset + 2 ≤ bytes.length) :
    (patch bytes offset value).length = bytes.length := by
  simp only [patch, pack16, List.length_append, List.length_take,
    List.length_drop, List.length_cons, List.length_nil]
  omega

/-! ## Layouts -/

/-- A frame with its Ethernet header. -/
structure HasEthernet (frame dest source etherType payload : Bytes) : Prop where
  split : frame = dest ++ (source ++ (etherType ++ payload))
  dest_length : dest.length = 6
  source_length : source.length = 6
  type_length : etherType.length = 2

namespace HasEthernet

theorem append
    (layout : HasEthernet frame dest source etherType payload) (more : Bytes) :
    HasEthernet (frame ++ more) dest source etherType (payload ++ more) where
  split := by
    rw [layout.split]
    simp only [List.append_assoc]
  dest_length := layout.dest_length
  source_length := layout.source_length
  type_length := layout.type_length

theorem dest_eq (layout : HasEthernet frame dest source etherType payload) :
    Frame.slice? frame 0 6 = some dest := by
  rw [layout.split]
  change Frame.slice? ([] ++ (dest ++ _)) 0 6 = some dest
  exact Frame.slice?_middle rfl layout.dest_length

theorem source_eq (layout : HasEthernet frame dest source etherType payload) :
    Frame.slice? frame 6 6 = some source := by
  rw [layout.split]
  exact Frame.slice?_middle layout.dest_length layout.source_length

/-- The type of a frame is read at its place. -/
theorem type_eq (layout : HasEthernet frame dest source etherType payload) :
    Frame.etherType? frame = some etherType := by
  have twelve : (dest ++ source).length = 12 := by
    rw [List.length_append, layout.dest_length, layout.source_length]
  rw [Frame.etherType?, layout.split, ← List.append_assoc]
  exact Frame.slice?_middle twelve layout.type_length

end HasEthernet

/-- A frame with its IPv4 header, whose first words are `head`. -/
structure HasIpv4 (frame dest source head src dst rest : Bytes) : Prop where
  ethernet :
    HasEthernet frame dest source [8, 0] (head ++ (src ++ (dst ++ rest)))
  head_length : head.length = 12
  src_length : src.length = 4
  dst_length : dst.length = 4

namespace HasIpv4

theorem append
    (layout : HasIpv4 frame dest source head src dst rest) (more : Bytes) :
    HasIpv4 (frame ++ more) dest source head src dst (rest ++ more) where
  ethernet := by
    have longer := layout.ethernet.append more
    simp only [List.append_assoc] at longer
    exact longer
  head_length := layout.head_length
  src_length := layout.src_length
  dst_length := layout.dst_length

theorem split (layout : HasIpv4 frame dest source head src dst rest) :
    frame = (dest ++ source ++ [8, 0]) ++ (head ++ (src ++ (dst ++ rest))) := by
  rw [layout.ethernet.split]
  simp only [List.append_assoc]

theorem before_length (layout : HasIpv4 frame dest source head src dst rest) :
    (dest ++ source ++ [8, 0]).length = 14 := by
  simp only [List.length_append, layout.ethernet.dest_length,
    layout.ethernet.source_length, List.length_cons, List.length_nil]

theorem read (layout : HasIpv4 frame dest source head src dst rest)
    (parts : head ++ (src ++ (dst ++ rest)) = before ++ (middle ++ after))
    (isOffset : before.length = offset) (isLen : middle.length = len) :
    Frame.ipv4? frame offset len = some middle := by
  rw [Frame.ipv4?, if_pos layout.ethernet.type_eq, layout.split, parts,
    ← List.append_assoc]
  refine Frame.slice?_middle ?_ isLen
  rw [List.length_append, layout.before_length, isOffset]

theorem src_eq (layout : HasIpv4 frame dest source head src dst rest) :
    Frame.ipv4? frame 12 4 = some src :=
  layout.read rfl layout.head_length layout.src_length

theorem dst_eq (layout : HasIpv4 frame dest source head src dst rest) :
    Frame.ipv4? frame 16 4 = some dst := by
  refine layout.read (List.append_assoc head src (dst ++ rest)).symm ?_
    layout.dst_length
  rw [List.length_append, layout.head_length, layout.src_length]

end HasIpv4

theorem Frame.transport?_of
    {frame : Frame} {header : Bytes} (read : frame.ipv4? 0 20 = some header)
    (version : header.getD 0 0 = 69) (protocol : header.getD 9 0 = 6)
    (total : Bytes.number ((header.drop 2).take 2) = 40)
    (fragment : Bytes.number ((header.drop 6).take 2) = 16384)
    (isLong : 54 ≤ frame.length) :
    frame.transport? = some ⟨6, 34, 0⟩ := by
  simp only [Frame.transport?, read, Option.bind_eq_bind, Option.bind_some,
    version, protocol, total, fragment]
  exact if_pos ⟨by decide, by decide, by decide, isLong⟩

/-- An IPv4 packet with a TCP header to a port. -/
structure HasTcp (head rest : Bytes) (port : Nat) : Prop where
  head_eq : ∃ ident other check sum,
      head = [69, 0, 0, 40, ident, other, 64, 0, 64, 6, check, sum]
  rest_eq : ∃ more, more.length = 16 ∧ rest = [192, 0] ++ (pack16 port ++ more)

namespace HasTcp

theorem transport_eq (tcp : HasTcp head rest port)
    (layout : HasIpv4 frame dest source head src dst (rest ++ more)) :
    Frame.transport? frame = some ⟨6, 34, 0⟩ := by
  obtain ⟨ident, other, check, sum, isHead⟩ := tcp.head_eq
  obtain ⟨tail, tailLength, isRest⟩ := tcp.rest_eq
  have isLong : 54 ≤ frame.length := by
    rw [layout.split, isRest]
    simp only [List.length_append, layout.ethernet.dest_length,
      layout.ethernet.source_length, layout.head_length, layout.src_length,
      layout.dst_length, tailLength, pack16, List.length_cons,
      List.length_nil]
    omega
  have readHeader : Frame.ipv4? frame 0 20 = some (head ++ (src ++ dst)) := by
    have parts : head ++ (src ++ (dst ++ (rest ++ more))) =
          [] ++ ((head ++ (src ++ dst)) ++ (rest ++ more)) := by
      simp only [List.append_assoc, List.nil_append]
    refine layout.read parts rfl ?_
    simp only [List.length_append, layout.head_length, layout.src_length,
      layout.dst_length]
  rw [isHead] at readHeader
  refine Frame.transport?_of readHeader rfl rfl rfl rfl ?_
  exact isLong

theorem fragment_eq (tcp : HasTcp head rest port)
    (layout : HasIpv4 frame dest source head src dst rest) :
    Frame.ipv4? frame 6 2 = some [64, 0] := by
  obtain ⟨ident, other, check, sum, rfl⟩ := tcp.head_eq
  have parts : [69, 0, 0, 40, ident, other, 64, 0, 64, 6, check, sum] ++
          (src ++ (dst ++ rest)) =
        [69, 0, 0, 40, ident, other] ++
          ([64, 0] ++ ([64, 6, check, sum] ++ (src ++ (dst ++ rest)))) :=
    rfl
  exact layout.read parts rfl rfl

theorem dport_eq (tcp : HasTcp head rest port)
    (layout : HasIpv4 frame dest source head src dst (rest ++ more)) :
    Frame.tcp? frame 2 2 = some (pack16 port) := by
  obtain ⟨tail, _, isRest⟩ := tcp.rest_eq
  have before :
      ((dest ++ source ++ [8, 0]) ++
          (head ++ (src ++ (dst ++ [192, 0])))).length =
        36 := by
    rw [List.length_append, layout.before_length]
    simp only [List.length_append, layout.head_length, layout.src_length,
      layout.dst_length, List.length_cons, List.length_nil]
  have split : frame =
        ((dest ++ source ++ [8, 0]) ++ (head ++ (src ++ (dst ++ [192, 0])))) ++
          (pack16 port ++ (tail ++ more)) := by
    rw [layout.split, isRest]
    simp only [List.append_assoc]
  rw [Frame.tcp?, tcp.transport_eq layout]
  change Frame.slice? frame 36 2 = _
  rw [split]
  exact Frame.slice?_middle before rfl

end HasTcp

/-! ## The frames of the probes -/

/-- The IPv4 header of a probe before its checksum, without addresses. -/
def bareHead (length sequence : Nat) (protocol : UInt8) : Bytes :=
  [69, 0] ++ pack16 length ++ pack16 (sequence % 65536) ++
    pack16 16384 ++ [64, protocol] ++ pack16 0

/-- The transport header of a probe with its checksum. -/
def probeSegment (src dst : Bytes) (port sequence : Nat) (udp : Bool) : Bytes :=
  let bare := segment udp false port sequence 2
  patch bare (if udp then 6 else 16) (checksum
      (src ++ dst ++ [0, if udp then 17 else 6] ++ pack16 bare.length ++ bare))

/-- The IPv4 header of a probe with its checksum, without addresses. -/
def probeHead (src dst : Bytes) (port sequence : Nat) (udp : Bool) : Bytes :=
  let bare :=
    bareHead (20 + (probeSegment src dst port sequence udp).length) sequence
      (if udp then 17 else 6)
  patch bare 10 (checksum (bare ++ src ++ dst))

/-- The layout of a frame that is built. -/
theorem ipv4Frame_layout
    {sourceMac destinationMac sourceIp destinationIp : String} {sm dm : Bytes}
    (readSource : mac? sourceMac = some sm)
    (readDestination : mac? destinationMac = some dm)
    (readSrc : ipv4? sourceIp = some src)
    (readDst : ipv4? destinationIp = some dst) (port sequence : Nat)
    (udp : Bool) :
    HasIpv4 (ipv4Frame sourceMac destinationMac sourceIp destinationIp port
        sequence udp 2 false)
      dm sm (probeHead src dst port sequence udp) src dst
      (probeSegment src dst port sequence udp) := by
  have isSource : mac sourceMac = sm := by
    simp only [mac, readSource, Option.getD_some]
  have isDestination : mac destinationMac = dm := by
    simp only [mac, readDestination, Option.getD_some]
  have isSrc : packed sourceIp = src := by
    simp only [packed, readSrc, Option.getD_some]
  have isDst : packed destinationIp = dst := by
    simp only [packed, readDst, Option.getD_some]
  have header :
      ipv4Frame sourceMac destinationMac sourceIp destinationIp port sequence
          udp 2 false =
        dm ++ sm ++ [8, 0] ++ patch
            (bareHead (20 + (probeSegment src dst port sequence udp).length)
              sequence (if udp then 17 else 6) ++ src ++ dst)
            10
            (checksum
              (bareHead (20 + (probeSegment src dst port sequence udp).length)
                sequence (if udp then 17 else 6) ++ src ++ dst)) ++
          probeSegment src dst port sequence udp := by
    simp only [ipv4Frame, isSource, isDestination, isSrc, isDst]
    rfl
  refine
    { ethernet :=
        { split := ?_
          dest_length := mac?_length readDestination
          source_length := mac?_length readSource
          type_length := rfl }
      head_length := patch_length (Nat.le_refl 12)
      src_length := ipv4?_length readSrc
      dst_length := ipv4?_length readDst }
  rw [header, List.append_assoc (bareHead _ _ _) src dst,
    patch_append (Nat.le_refl 12)]
  simp only [probeHead, List.append_assoc]

theorem probeHead_tcp (src dst : Bytes) (port sequence : Nat) :
    HasTcp (probeHead src dst port sequence false)
      (probeSegment src dst port sequence false) port where
  head_eq := by
    have twenty : (probeSegment src dst port sequence false).length = 20 := rfl
    unfold probeHead
    rw [twenty]
    exact ⟨_, _, _, _, rfl⟩
  rest_eq := by
    simp only [probeSegment, Bool.false_eq_true, ↓reduceIte]
    generalize checksum _ = sum
    have ephemeral : ([192, 0] : Bytes) = pack16 49152 := by
      decide
    rw [ephemeral]
    exact ⟨pack32 sequence ++ pack32 0 ++ [80, 2] ++ pack16 1024 ++
        pack16 sum ++ pack16 0, rfl, rfl⟩

theorem HasIpv4.getD (layout : HasIpv4 frame dest source head src dst rest)
    {index : Nat} (inHead : index < 12) :
    frame.getD (14 + index) 0 = head.getD index 0 := by
  have inside : index < head.length := by
    rw [layout.head_length]
    exact inHead
  have behind : (dest ++ source ++ [8, 0]).length ≤ 14 + index := by
    rw [layout.before_length]
    exact Nat.le_add_right 14 index
  rw [layout.split, List.getD_eq_getElem?_getD,
    List.getElem?_append_right behind, layout.before_length,
    Nat.add_sub_cancel_left, List.getElem?_append_left inside,
    List.getD_eq_getElem?_getD]

theorem HasIpv4.offset_eq (layout : HasIpv4 raw dest source head src dst rest) :
    (if (raw.drop 12).take 2 = [129, 0] then 18 else 14) = 14 := by
  have isType := layout.ethernet.type_eq
  unfold Frame.etherType? Frame.slice? at isType
  split at isType
  · rw [Option.some.inj isType]
    rfl
  · cases isType

theorem HasTcp.sampled (tcp : HasTcp head rest port)
    (layout : HasIpv4 raw dest source head src dst rest) (token : Bytes) :
    sampleFrame raw token = raw := by
  obtain ⟨ident, other, check, sum, rfl⟩ := tcp.head_eq
  have protocol : raw.getD (14 + 9) 0 = 6 := layout.getD (by decide)
  unfold sampleFrame
  rw [layout.offset_eq]
  refine if_neg fun isUdp => ?_
  rw [protocol] at isUdp
  exact absurd isUdp.2 (by decide)

theorem HasIpv4.replaced
    {other : Bytes} (layout : HasIpv4 raw dest source head src dst rest)
    (isLong : other.length = 12) (split :
      frame = dest ++ source ++ [8, 0] ++ (other ++ (src ++ dst)) ++ more) :
    HasIpv4 frame dest source other src dst more where
  ethernet :=
    { split := by
        rw [split]
        simp only [List.append_assoc]
      dest_length := layout.ethernet.dest_length
      source_length := layout.ethernet.source_length
      type_length := rfl }
  head_length := isLong
  src_length := layout.src_length
  dst_length := layout.dst_length

theorem HasIpv4.sampled
    (layout : HasIpv4 raw dest source head src dst rest) (token : Bytes) :
    ∃ otherHead otherRest,
      HasIpv4 (sampleFrame raw token) dest source otherHead src dst
        otherRest := by
  have front : raw.take 14 = dest ++ source ++ [8, 0] := by
    rw [layout.split, ← layout.before_length, List.take_left]
  have packet : (raw.drop 14).take 20 = head ++ (src ++ dst) := by
    have twenty : (head ++ (src ++ dst)).length = 20 := by
      simp only [List.length_append, layout.head_length, layout.src_length,
        layout.dst_length]
    have parts :
        head ++ (src ++ (dst ++ rest)) = (head ++ (src ++ dst)) ++ rest := by
      simp only [List.append_assoc]
    rw [layout.split, ← layout.before_length, List.drop_left, parts,
      ← twenty, List.take_left]
  have short (offset : Nat) (bound : offset ≤ 10) :
      offset + 2 ≤ head.length := by
    rw [layout.head_length]
    omega
  unfold sampleFrame
  rw [layout.offset_eq]
  dsimp only
  rw [front, packet]
  split
  · have inHead := short 10 (Nat.le_refl 10)
    have sized (value : Nat) : (patch head 2 value).length = head.length :=
      patch_length (short 2 (by decide))
    have patched (value : Nat) :
        (patch (patch head 2 value) 10 0).length = head.length := by
      rw [patch_length (by rw [sized]; exact inHead), sized]
    rw [patch_append (short 2 (by decide)),
      patch_append (by rw [sized]; exact inHead),
      patch_append (by rw [patched]; exact inHead)]
    refine ⟨_, _, layout.replaced ?_ rfl⟩
    rw [patch_length (by rw [patched]; exact inHead), patched]
    exact layout.head_length
  · exact ⟨head, rest, layout⟩

theorem HasEthernet.sampled
    (layout : HasEthernet raw dest source etherType payload) (token : Bytes) :
    ∃ other,
      HasEthernet (sampleFrame raw token) dest source etherType other := by
  have front : raw.take 14 = dest ++ (source ++ etherType) := by
    have fourteen : (dest ++ (source ++ etherType)).length = 14 := by
      simp only [List.length_append, layout.dest_length,
        layout.source_length, layout.type_length]
    have parts : dest ++ (source ++ (etherType ++ payload)) =
          (dest ++ (source ++ etherType)) ++ payload := by
      simp only [List.append_assoc]
    rw [layout.split, parts, ← fourteen, List.take_left]
  have keeps (offset : Nat) (more : Bytes) (bound : 14 ≤ offset) :
      HasEthernet (raw.take offset ++ more) dest source etherType
        ((raw.take offset).drop 14 ++ more) := by
    refine ⟨?_, layout.dest_length, layout.source_length, layout.type_length⟩
    calc
      raw.take offset ++ more =
          ((raw.take offset).take 14 ++ (raw.take offset).drop 14) ++ more := by
        rw [List.take_append_drop]
      _ = (raw.take 14 ++ (raw.take offset).drop 14) ++ more := by
        rw [List.take_take, Nat.min_eq_left bound]
      _ = dest ++ (source ++ (etherType ++
            ((raw.take offset).drop 14 ++ more))) := by
        rw [front]
        simp only [List.append_assoc]
  have isBehind : 14 ≤ if (raw.drop 12).take 2 = [129, 0] then 18 else 14 := by
    split
    · decide
    · decide
  unfold sampleFrame
  generalize (if (raw.drop 12).take 2 = [129, 0] then 18 else 14) = offset
    at isBehind ⊢
  dsimp only
  split
  · rw [List.append_assoc]
    exact ⟨_, keeps _ _ isBehind⟩
  · exact ⟨payload, layout⟩

end TicketSandbox.Firewall

namespace TicketSandbox.Firewall

/-!
# Checksums

The sum of the words of a packet that carries its own checksum is a number of
whole carries, so that its checksum is zero.
-/

/-! ## Words -/

theorem words_append
    {first : Bytes} (isEven : first.length % 2 = 0) (second : Bytes) :
    words (first ++ second) = words first + words second := by
  induction first using words.induct with
  | case1 => simp only [List.nil_append, words, Nat.zero_add]
  | case2 last => cases isEven
  | case3 high low rest inductionHypothesis =>
      have restEven : rest.length % 2 = 0 := by
        simp only [List.length_cons] at isEven
        omega
      simp only [List.cons_append, words, inductionHypothesis restEven]
      omega

variable {value offset : Nat} {bytes : Bytes}

theorem words_pack16
    (isWord : value < 65536) : words (pack16 value) = value := by
  simp only [pack16, words, UInt8.toNat_ofNat', Nat.add_zero]
  omega

theorem words_patch
    (isEven : offset % 2 = 0) (isInside : offset + 2 ≤ bytes.length)
    (isEmpty : (bytes.drop offset).take 2 = [0, 0]) (isWord : value < 65536) :
    words (patch bytes offset value) = words bytes + value := by
  have frontEven : (bytes.take offset).length % 2 = 0 := by
    rw [List.length_take_of_le (by omega)]
    exact isEven
  have wordEven (word : Nat) : (pack16 word).length % 2 = 0 := by
    simp only [pack16, List.length_cons, List.length_nil]
  have split :
      bytes = bytes.take offset ++ (pack16 0 ++ bytes.drop (offset + 2)) := by
    have zero : pack16 0 = [0, 0] := rfl
    rw [zero, ← isEmpty, ← List.drop_drop, List.take_append_drop,
      List.take_append_drop]
  have whole : words bytes =
        words (bytes.take offset) + words (bytes.drop (offset + 2)) := by
    calc
      words bytes = words
            (bytes.take offset ++ (pack16 0 ++ bytes.drop (offset + 2))) :=
        congrArg words split
      _ = words (bytes.take offset) + words (bytes.drop (offset + 2)) := by
        rw [words_append frontEven, words_append (wordEven 0),
          words_pack16 (by decide), Nat.zero_add]
  rw [patch, List.append_assoc, words_append frontEven,
    words_append (wordEven value), words_pack16 isWord, whole]
  omega

/-! ## Carries -/

theorem carried_eq (total : Nat) :
    carried total = if total = 0 then 0 else (total - 1) % 65535 + 1 := by
  induction total using carried.induct with
  | case1 total isWord =>
      rw [carried, if_pos isWord]
      split
      · assumption
      · rw [Nat.mod_eq_of_lt (by omega)]
        omega
  | case2 total isLong inductionHypothesis =>
      rw [carried, if_neg isLong, inductionHypothesis, if_neg (by omega),
        if_neg (by omega)]
      omega

theorem carried_complement (total : Nat) :
    carried (total + (65535 - carried total)) = 65535 := by
  rw [carried_eq (total + _), carried_eq total]
  by_cases isZero : total = 0
  · simp [isZero]
  · rw [if_neg isZero, if_neg (by omega)]
    omega

theorem checksum_lt (raw : Bytes) : checksum raw < 65536 := by
  unfold checksum
  omega

theorem checksum_patch {pseudo : Bytes} (pseudoEven : pseudo.length % 2 = 0)
    (isEven : offset % 2 = 0) (isInside : offset + 2 ≤ bytes.length)
    (isEmpty : (bytes.drop offset).take 2 = [0, 0]) :
    checksum (pseudo ++ patch bytes offset (checksum (pseudo ++ bytes))) =
      0 := by
  have total :
      words (pseudo ++ patch bytes offset (checksum (pseudo ++ bytes))) =
        words (pseudo ++ bytes) + checksum (pseudo ++ bytes) := by
    rw [words_append pseudoEven, words_append pseudoEven,
      words_patch isEven isInside isEmpty (checksum_lt _), Nat.add_assoc]
  rw [checksum, total, checksum, carried_complement]

end TicketSandbox.Firewall
