import TicketSandbox.Firewall.Observer

namespace TicketSandbox.Firewall

/-!
# Facts about replies

The frames that are built carry their checksums, and a frame is a reply to a
probe exactly when it is laid out as a segment that acknowledges the probe.
-/

open Raises

/-! ## Options -/

/-- The options of a segment: fillers and options with their size, closed by
zeros or by the end of the segment. -/
inductive WellFormedOptions : Bytes → Prop where
  | nil : WellFormedOptions []
  | endOfOptions (count : Nat) : WellFormedOptions (0 :: List.replicate count 0)
  | noOperation {rest : Bytes} :
      WellFormedOptions rest → WellFormedOptions (1 :: rest)
  | sized {kind size : UInt8} {data rest : Bytes} :
      kind ≠ 0 → kind ≠ 1 → size.toNat = data.length + 2 →
      WellFormedOptions rest →
      WellFormedOptions (kind :: size :: (data ++ rest))

theorem scanOptions_skip (skip : Nat) (options : Bytes) :
    scanOptions skip options = scanOptions 0 (options.drop skip) := by
  induction options generalizing skip with
  | nil =>
      cases skip with
      | zero => rfl
      | succ skip => rfl
  | cons option rest inductionHypothesis =>
      cases skip with
      | zero => rfl
      | succ skip =>
          rw [List.drop_succ_cons]
          exact inductionHypothesis skip

theorem all_zero_iff {bytes : Bytes} :
    (bytes.all fun byte => byte = 0) = true ↔
      bytes = List.replicate bytes.length 0 := by
  rw [List.all_eq_true, List.eq_replicate_iff]
  simp

theorem wellFormed_of_scanOptions
    {options : Bytes} (accepted : scanOptions 0 options = true) :
    WellFormedOptions options := by
  induction isLength : options.length using Nat.strong_induction_on
    generalizing options with
  | _ length inductionHypothesis =>
      subst isLength
      cases options with
      | nil => exact .nil
      | cons option rest =>
          unfold scanOptions at accepted
          split at accepted
          · rename_i isEnd
            rw [isEnd, all_zero_iff.mp accepted]
            exact .endOfOptions rest.length
          · split at accepted
            · rename_i isNoOperation
              rw [isNoOperation]
              exact .noOperation
                (inductionHypothesis rest.length (by simp) accepted rfl)
            · rename_i notEnd notNoOperation
              cases rest with
              | nil => cases accepted
              | cons size more =>
                  obtain ⟨bounds, later⟩ := (Bool.and_eq_true _ _).mp accepted
                  obtain ⟨atLeast, atMost⟩ := of_decide_eq_true bounds
                  rw [scanOptions_skip] at later
                  have shorter : (more.drop (size.toNat - 2)).length <
                        (option :: size :: more).length := by
                    simp only [List.length_drop, List.length_cons]
                    omega
                  have inner := inductionHypothesis _ shorter later rfl
                  have data : size.toNat =
                        (more.take (size.toNat - 2)).length + 2 := by
                    rw [List.length_take_of_le (by omega)]
                    omega
                  rw [← List.take_append_drop (size.toNat - 2) more]
                  exact .sized notEnd notNoOperation data inner

theorem scanOptions_of_wellFormed
    {options : Bytes} (wellFormed : WellFormedOptions options) :
    scanOptions 0 options = true := by
  induction wellFormed with
  | nil => rfl
  | endOfOptions count =>
      unfold scanOptions
      rw [if_pos rfl]
      refine all_zero_iff.mpr ?_
      rw [List.length_replicate]
  | noOperation _ inductionHypothesis =>
      unfold scanOptions
      rw [if_neg (by decide), if_pos rfl]
      exact inductionHypothesis
  | @sized kind size data rest notEnd notNoOperation isSize _
      inductionHypothesis =>
      unfold scanOptions
      rw [if_neg notEnd, if_neg notNoOperation]
      refine (Bool.and_eq_true _ _).mpr ⟨decide_eq_true ?_, ?_⟩
      · rw [isSize, List.length_append]
        omega
      · rw [scanOptions_skip, isSize, Nat.add_sub_cancel, List.drop_left]
        exact inductionHypothesis

/-! ## What is built -/

/-- The frame carries an IPv4 packet with a segment, and both carry their
checksums. -/
structure CarriesChecksums (frame destinationMac sourceMac src dst : Bytes)
    (protocol : UInt8) : Prop where
  parts : ∃ ip transport,
      frame = destinationMac ++ sourceMac ++ [8, 0] ++ ip ++ transport ∧
        ip.length = 20 ∧ ip.drop 12 = src ++ dst ∧
        checksum ip = 0 ∧
        checksum (src ++ dst ++ [0, protocol] ++ pack16 transport.length ++
              transport) =
          0

theorem segment_room (udp reverse : Bool) (port sequence flags : Nat) :
    (if udp then 6 else 16) + 2 ≤
        (segment udp reverse port sequence flags).length ∧
      ((segment udp reverse port sequence flags).drop
        (if udp then 6 else 16)).take 2 = [0, 0] ∧
      (if udp then 6 else 16) % 2 = 0 := by
  cases udp with
  | true => exact ⟨Nat.le_refl 8, rfl, rfl⟩
  | false => exact ⟨Nat.le_of_ble_eq_true rfl, rfl, rfl⟩

variable {bytes ip tcp : Bytes} {value : Nat} {binding : NetworkBinding}
  {high low : Char} {byte : UInt8}

theorem patch_drop {offset behind : Nat} (isInside : offset + 2 ≤ bytes.length)
    (isBehind : offset + 2 ≤ behind) :
    (patch bytes offset value).drop behind = bytes.drop behind := by
  have front : (bytes.take offset ++ pack16 value).length = offset + 2 := by
    rw [List.length_append, List.length_take_of_le (by omega)]
    rfl
  rw [patch, List.drop_append, front, List.drop_drop,
    List.drop_eq_nil_of_le (by rw [front]; exact isBehind),
    List.nil_append, Nat.add_sub_cancel' isBehind]

variable {src : Bytes} {dst : Bytes}

theorem ipv4FrameOf_carriesChecksums
    (srcLength : src.length = 4) (dstLength : dst.length = 4)
    (sourceMac destinationMac : Bytes) (port sequence : Nat) (udp : Bool)
    (flags : Nat) (reverse : Bool) :
    CarriesChecksums
      (ipv4FrameOf sourceMac destinationMac src dst port sequence udp flags
        reverse)
      destinationMac sourceMac src dst (if udp then 17 else 6) := by
  obtain ⟨isInside, isEmpty, isEven⟩ :=
    segment_room udp reverse port sequence flags
  simp only [ipv4FrameOf]
  generalize segment udp reverse port sequence flags = bare at isInside isEmpty
  generalize (if udp then (17 : UInt8) else 6) = protocol
  generalize (if udp then 6 else 16) = offset at isInside isEmpty isEven
  have sized (value : Nat) : (patch bare offset value).length = bare.length :=
    patch_length isInside
  have pseudoEven :
      (src ++ dst ++ [0, protocol] ++ pack16 bare.length).length % 2 =
        0 := by
    simp only [List.length_append, srcLength, dstLength, pack16,
      List.length_cons, List.length_nil]
  generalize isHeader : [69, 0] ++ pack16 (20 + (patch bare offset (checksum
                        (src ++ dst ++ [0, protocol] ++
                          pack16 bare.length ++ bare))).length) ++
              pack16 (sequence % 65536) ++
            pack16 16384 ++
          [64, protocol] ++
        pack16 0 ++
      src ++
    dst = header
  have headerLength : header.length = 20 := by
    simp only [← isHeader, List.length_append, srcLength, dstLength,
      pack16, List.length_cons, List.length_nil]
  have headerInside : 10 + 2 ≤ header.length := by
    rw [headerLength]
    decide
  have headerEmpty : (header.drop 10).take 2 = [0, 0] := by
    rw [← isHeader]
    rfl
  have addresses : header.drop 12 = src ++ dst := by
    rw [← isHeader]
    rfl
  refine ⟨_, _, rfl, ?_, ?_, ?_, ?_⟩
  · rw [patch_length headerInside, headerLength]
  · rw [patch_drop headerInside (Nat.le_refl 12), addresses]
  · exact @checksum_patch 10 header [] rfl rfl headerInside headerEmpty
  · rw [sized]
    exact checksum_patch pseudoEven isEven isInside isEmpty

theorem ipv4Frame?_carriesChecksums
    {sourceMac destinationMac sourceIp destinationIp : String}
    {port sequence flags : Int} {udp reverse : Bool} {frame : Bytes} (built :
      ipv4Frame? sourceMac destinationMac sourceIp destinationIp port
        sequence udp flags reverse = some frame) :
    ∃ source destination src dst, macBytes? sourceMac = some source ∧
        macBytes? destinationMac = some destination ∧
        ipv4? sourceIp = some src ∧
        ipv4? destinationIp = some dst ∧
        CarriesChecksums frame destination source src dst
          (if udp then 17 else 6) := by
  obtain ⟨src, isSrc, built⟩ := Option.bind_eq_some_iff.mp built
  obtain ⟨dst, isDst, built⟩ := Option.bind_eq_some_iff.mp built
  obtain ⟨source, isSource, built⟩ := Option.bind_eq_some_iff.mp built
  obtain ⟨destination, isDestination, built⟩ := Option.bind_eq_some_iff.mp built
  split at built
  · cases built
    exact ⟨source, destination, src, dst, isSource, isDestination, isSrc, isDst,
        ipv4FrameOf_carriesChecksums (ipv4?_length isSrc)
          (ipv4?_length isDst) _ _ _ _ _ _ _⟩
  · cases built

/-! ## What a reply is -/

/-- What the peer chooses of a reply. -/
structure Reply where
  service : UInt8
  identification : Bytes
  fragment : UInt8
  timeToLive : UInt8
  headerChecksum : Bytes
  number : Bytes
  flags : UInt8
  window : Bytes
  segmentChecksum : Bytes
  urgent : Bytes
  options : Bytes

namespace Reply

/-- The segment of a reply, from the port of the target to that of the runner,
that acknowledges a sequence number. -/
def segment (reply : Reply) (sequence : Nat) : Bytes :=
  pack16 8080 ++ pack16 49152 ++ reply.number ++ pack32 (sequence + 1) ++
    [UInt8.ofNat ((20 + reply.options.length) / 4 * 16), reply.flags] ++
    reply.window ++ reply.segmentChecksum ++ reply.urgent ++ reply.options

/-- The IPv4 header of a reply, from the target to the runner. -/
def header (reply : Reply) (src dst : Bytes) : Bytes :=
  [69, reply.service] ++ pack16 (40 + reply.options.length) ++
    reply.identification ++ [reply.fragment, 0, reply.timeToLive, 6] ++
    reply.headerChecksum ++ src ++ dst

/-- The frame of a reply. -/
def frame (reply : Reply) (sequence : Nat)
    (runnerMac targetMac src dst : Bytes) : Bytes :=
  runnerMac ++ targetMac ++ [8, 0] ++ reply.header src dst ++
    reply.segment sequence

/-- What must hold of a reply: the sizes of its fields, checksums that are
right, no fragment, well formed options and flags that answer a SYN. -/
structure IsValid
    (reply : Reply) (sequence : Nat) (src dst : Bytes) : Prop where
  sizes : reply.identification.length = 2 ∧ reply.headerChecksum.length = 2 ∧
      reply.number.length = 4 ∧ reply.window.length = 2 ∧
      reply.segmentChecksum.length = 2 ∧ reply.urgent.length = 2
  optionWords : reply.options.length % 4 = 0
  optionLength : reply.options.length ≤ 40
  unfragmented : reply.fragment.toNat % 64 = 0
  headerChecksum : checksum (reply.header src dst) = 0
  segmentChecksum : checksum
        (src ++ dst ++ [0, 6] ++ pack16 (20 + reply.options.length) ++
          reply.segment sequence) =
      0
  flags : reply.flags = 18 ∨ reply.flags = 20
  options : WellFormedOptions reply.options

/-- What the flags of a reply prove. -/
def proves (reply : Reply) : PathOpen :=
  if reply.flags = 20 then .rst else .synack

end Reply

theorem number_two (high low : UInt8) :
    Bytes.number [high, low] = high.toNat * 256 + low.toNat := by
  simp [Bytes.number]

theorem pack16_number (high low : UInt8) :
    pack16 (Bytes.number [high, low]) = [high, low] := by
  have lowLt := low.toNat_lt
  rw [number_two, pack16]
  congr 1
  · apply UInt8.toNat_inj.mp
    rw [UInt8.toNat_ofNat']
    have highLt := high.toNat_lt
    omega
  · congr 1
    apply UInt8.toNat_inj.mp
    rw [UInt8.toNat_ofNat']
    omega

theorem pack32_number (a b c d : UInt8) :
    pack32 (Bytes.number [a, b, c, d]) = [a, b, c, d] := by
  have aLt := a.toNat_lt
  have bLt := b.toNat_lt
  have cLt := c.toNat_lt
  have dLt := d.toNat_lt
  simp only [Bytes.number, List.foldl_cons, List.foldl_nil, pack32,
    Nat.shiftRight_eq_div_pow, List.cons.injEq, and_true]
  refine ⟨?_, ?_, ?_, ?_⟩
  · apply UInt8.toNat_inj.mp
    rw [UInt8.toNat_ofNat']
    omega
  · apply UInt8.toNat_inj.mp
    rw [UInt8.toNat_ofNat']
    omega
  · apply UInt8.toNat_inj.mp
    rw [UInt8.toNat_ofNat']
    omega
  · apply UInt8.toNat_inj.mp
    rw [UInt8.toNat_ofNat']
    omega

theorem number_pack16
    (isWord : value < 65536) : Bytes.number (pack16 value) = value := by
  rw [pack16, number_two, UInt8.toNat_ofNat', UInt8.toNat_ofNat']
  omega

theorem number_pack32
    (isNumber : value < 4294967296) : Bytes.number (pack32 value) = value := by
  simp only [pack32, Bytes.number, List.foldl_cons, List.foldl_nil,
    Nat.shiftRight_eq_div_pow, UInt8.toNat_ofNat']
  omega

/-! ## Parts of a frame -/

theorem bytes_eq {count : Nat} (isLength : bytes.length = count) :
    bytes = (List.range count).map fun index => bytes.getD index 0 := by
  subst isLength
  refine List.ext_getElem (by simp) fun index inBytes _ => ?_
  simp [inBytes]

variable {reply : Reply}

theorem header_of_checks {total : Nat} (isLength : ip.length = 20)
    (version : ip.getD 0 0 = 69) (protocol : ip.getD 9 0 = 6)
    (isSrc : (ip.drop 12).take 4 = src) (isDst : (ip.drop 16).take 4 = dst)
    (isTotal : Bytes.number ((ip.drop 2).take 2) = total) (unfragmented :
      Bytes.number ((ip.drop 6).take 2) % 16384 = 0) :
    ∃ service fragment timeToLive : UInt8,
      ∃ identification headerChecksum : Bytes,
        identification.length = 2 ∧ headerChecksum.length = 2 ∧
          fragment.toNat % 64 = 0 ∧
          ip = [69, service] ++ pack16 total ++ identification ++
              [fragment, 0, timeToLive, 6] ++ headerChecksum ++ src ++
              dst := by
  obtain ⟨b0, b1, b2, b3, b4, b5, b6, b7, b8, b9, b10, b11, b12, b13, b14,
    b15, b16, b17, b18, b19, rfl⟩ :
      ∃ b0 b1 b2 b3 b4 b5 b6 b7 b8 b9 b10 b11 b12 b13 b14 b15 b16 b17 b18 b19,
        ip = [b0, b1, b2, b3, b4, b5, b6, b7, b8, b9, b10, b11, b12, b13, b14,
            b15, b16, b17, b18, b19] :=
    ⟨_, _, _, _, _, _, _, _, _, _, _, _, _, _, _, _, _, _, _, _,
      bytes_eq isLength⟩
  have isVersion : b0 = 69 := version
  have isProtocol : b9 = 6 := protocol
  have word : Bytes.number [b2, b3] = total := isTotal
  have bits : Bytes.number [b6, b7] % 16384 = 0 := unfragmented
  rw [number_two] at bits
  have lowLt := b7.toNat_lt
  have low : b7 = 0 := by
    apply UInt8.toNat_inj.mp
    change b7.toNat = 0
    omega
  refine ⟨b1, b6, b8, [b4, b5], [b10, b11], rfl, rfl, by omega, ?_⟩
  rw [← isSrc, ← isDst, ← word, pack16_number, isVersion, isProtocol, low]
  rfl

theorem segment_of_checks {sequence : Nat} (isLong : 20 ≤ tcp.length)
    (isSport : Bytes.number (tcp.take 2) = 8080)
    (isDport : Bytes.number ((tcp.drop 2).take 2) = 49152)
    (isAck : Bytes.number ((tcp.drop 8).take 4) = sequence + 1)
    (isWords : (tcp.getD 12 0).toNat / 16 * 4 = tcp.length)
    (isReserved : (tcp.getD 12 0).toNat % 16 = 0) :
    tcp.length % 4 = 0 ∧ ∃ number window segmentChecksum urgent : Bytes,
        number.length = 4 ∧ window.length = 2 ∧
          segmentChecksum.length = 2 ∧ urgent.length = 2 ∧
          tcp = pack16 8080 ++ pack16 49152 ++ number ++
              pack32 (sequence + 1) ++
              [UInt8.ofNat ((20 + (tcp.drop 20).length) / 4 * 16),
                tcp.getD 13 0] ++
              window ++ segmentChecksum ++ urgent ++ tcp.drop 20 := by
  have frontLength : (tcp.take 20).length = 20 := List.length_take_of_le isLong
  obtain ⟨b0, b1, b2, b3, b4, b5, b6, b7, b8, b9, b10, b11, b12, b13, b14,
    b15, b16, b17, b18, b19, isFront⟩ :
      ∃ b0 b1 b2 b3 b4 b5 b6 b7 b8 b9 b10 b11 b12 b13 b14 b15 b16 b17 b18 b19,
        tcp.take 20 =
          [b0, b1, b2, b3, b4, b5, b6, b7, b8, b9, b10, b11, b12, b13, b14,
            b15, b16, b17, b18, b19] :=
    ⟨_, _, _, _, _, _, _, _, _, _, _, _, _, _, _, _, _, _, _, _,
      bytes_eq frontLength⟩
  have split := List.take_append_drop 20 tcp
  generalize tcp.drop 20 = options at split ⊢
  rw [isFront] at split
  subst split
  have sport : Bytes.number [b0, b1] = 8080 := isSport
  have dport : Bytes.number [b2, b3] = 49152 := isDport
  have ack : Bytes.number [b8, b9, b10, b11] = sequence + 1 := isAck
  have words : b12.toNat / 16 * 4 = 20 + options.length := by
    refine isWords.trans ?_
    simp only [List.length_append, List.length_cons, List.length_nil]
  have reserved : b12.toNat % 16 = 0 := isReserved
  have offset : b12 = UInt8.ofNat ((20 + options.length) / 4 * 16) := by
    have offsetLt := b12.toNat_lt
    apply UInt8.toNat_inj.mp
    rw [UInt8.toNat_ofNat']
    omega
  refine ⟨?_, [b4, b5, b6, b7], [b14, b15], [b16, b17], [b18, b19], rfl,
    rfl, rfl, rfl, ?_⟩
  · simp only [List.length_append, List.length_cons, List.length_nil]
    omega
  · rw [← ack, pack32_number, ← sport, pack16_number, ← dport,
      pack16_number, ← offset]
    rfl

theorem frame_parts {front : Bytes} (frontLength : front.length = 14)
    (ipLength : ip.length = 20) :
    (front ++ ip ++ tcp).take 14 = front ∧
      ((front ++ ip ++ tcp).drop 14).take 20 = ip ∧
      (front ++ ip ++ tcp).drop 34 = tcp ∧
      (front ++ ip ++ tcp).length = 34 + tcp.length := by
  have whole : (front ++ ip).length = 34 := by
    rw [List.length_append, frontLength, ipLength]
  refine ⟨?_, ?_, ?_, ?_⟩
  · rw [List.append_assoc, ← frontLength, List.take_left]
  · rw [List.append_assoc, ← frontLength, List.drop_left, ← ipLength,
      List.take_left]
  · rw [← whole, List.drop_left]
  · rw [List.length_append, whole]

/-! ## Replies -/

namespace Reply

variable {sequence : Nat}

theorem IsValid.header_length
    (isValid : reply.IsValid sequence src dst) (srcLength : src.length = 4)
    (dstLength : dst.length = 4) :
    (reply.header src dst).length = 20 := by
  obtain ⟨identification, headerChecksum, _⟩ := isValid.sizes
  simp only [header, pack16, List.length_append, List.length_cons,
    List.length_nil, identification, headerChecksum, srcLength, dstLength]

theorem IsValid.segment_length (isValid : reply.IsValid sequence src dst) :
    (reply.segment sequence).length = 20 + reply.options.length := by
  obtain ⟨_, _, number, window, segmentChecksum, urgent⟩ := isValid.sizes
  simp only [segment, pack16, pack32, List.length_append, List.length_cons,
    List.length_nil, number, window, segmentChecksum, urgent]

theorem IsValid.header_checks
    (isValid : reply.IsValid sequence src dst) (srcLength : src.length = 4)
    (dstLength : dst.length = 4) :
    (reply.header src dst).getD 0 0 = 69 ∧ (reply.header src dst).getD 9 0 = 6 ∧
      ((reply.header src dst).drop 12).take 4 = src ∧
      ((reply.header src dst).drop 16).take 4 = dst ∧
      ((reply.header src dst).drop 12).take 8 = src ++ dst ∧
      Bytes.number (((reply.header src dst).drop 2).take 2) =
        40 + reply.options.length ∧
      Bytes.number (((reply.header src dst).drop 6).take 2) % 16384 =
        0 := by
  obtain ⟨identificationLength, checksumLength, _⟩ := isValid.sizes
  obtain ⟨i0, i1, isIdentification⟩ :=
    List.length_eq_two.mp identificationLength
  obtain ⟨c0, c1, isChecksum⟩ := List.length_eq_two.mp checksumLength
  have isHeader : reply.header src dst =
        [69, reply.service] ++ pack16 (40 + reply.options.length) ++
          [i0, i1] ++ [reply.fragment, 0, reply.timeToLive, 6] ++
          [c0, c1] ++ (src ++ dst) := by
    rw [header, isIdentification, isChecksum, List.append_assoc _ src]
  have total : 40 + reply.options.length < 65536 := by
    have bounded := isValid.optionLength
    omega
  have unfragmented := isValid.unfragmented
  have addresses : (src ++ dst).length = 8 := by
    rw [List.length_append, srcLength, dstLength]
  rw [isHeader]
  refine ⟨rfl, rfl, ?_, ?_, ?_, ?_, ?_⟩
  · change (src ++ dst).take 4 = src
    rw [← srcLength, List.take_left]
  · change ((src ++ dst).drop 4).take 4 = dst
    rw [← srcLength, List.drop_left, srcLength, ← dstLength, List.take_length]
  · change (src ++ dst).take 8 = src ++ dst
    rw [← addresses, List.take_length]
  · change Bytes.number (pack16 (40 + reply.options.length)) = _
    exact number_pack16 total
  · change Bytes.number [reply.fragment, 0] % 16384 = 0
    rw [number_two]
    change (reply.fragment.toNat * 256 + 0) % 16384 = 0
    omega

theorem IsValid.segment_checks (isValid : reply.IsValid sequence src dst)
    (isSequence : sequence + 1 < 4294967296) :
    Bytes.number ((reply.segment sequence).take 2) = 8080 ∧
      Bytes.number (((reply.segment sequence).drop 2).take 2) = 49152 ∧
      Bytes.number (((reply.segment sequence).drop 8).take 4) = sequence + 1 ∧
      ((reply.segment sequence).getD 12 0).toNat / 16 * 4 =
        20 + reply.options.length ∧
      ((reply.segment sequence).getD 12 0).toNat % 16 = 0 ∧
      (reply.segment sequence).getD 13 0 = reply.flags ∧
      (reply.segment sequence).drop 20 = reply.options := by
  obtain ⟨_, _, numberLength, windowLength, checksumLength,
    urgentLength⟩ := isValid.sizes
  obtain ⟨w0, w1, isWindow⟩ := List.length_eq_two.mp windowLength
  obtain ⟨c0, c1, isChecksum⟩ := List.length_eq_two.mp checksumLength
  obtain ⟨u0, u1, isUrgent⟩ := List.length_eq_two.mp urgentLength
  obtain ⟨n0, n1, n2, n3, isNumber⟩ :
      ∃ n0 n1 n2 n3, reply.number = [n0, n1, n2, n3] :=
    ⟨_, _, _, _, bytes_eq numberLength⟩
  have words := isValid.optionWords
  have bounded := isValid.optionLength
  have offset : (UInt8.ofNat ((20 + reply.options.length) / 4 * 16)).toNat =
        (20 + reply.options.length) / 4 * 16 := by
    rw [UInt8.toNat_ofNat']
    omega
  rw [segment, isNumber, isWindow, isChecksum, isUrgent]
  refine ⟨rfl, rfl, ?_, ?_, ?_, rfl, rfl⟩
  · change Bytes.number (pack32 (sequence + 1)) = sequence + 1
    exact number_pack32 isSequence
  · change (UInt8.ofNat ((20 + reply.options.length) / 4 * 16)).toNat / 16 * 4 =
        20 + reply.options.length
    rw [offset]
    omega
  · change (UInt8.ofNat ((20 + reply.options.length) / 4 * 16)).toNat % 16 = 0
    rw [offset]
    omega

end Reply

/-- The addresses that a reply is checked against. -/
structure AddressSizes (runnerMac targetMac src dst : Bytes) : Prop where
  runnerMac : runnerMac.length = 6
  targetMac : targetMac.length = 6
  src : src.length = 4
  dst : dst.length = 4

/-- The addresses of a binding have their sizes. -/
theorem NetworkBinding.IsBound.addressSizes (bound : binding.IsBound) :
    AddressSizes (mac binding.runner.mac) (mac binding.target.mac)
      (packed binding.target.ipv4) (packed binding.runner.ipv4) := by
  obtain ⟨runnerMac, isRunnerMac⟩ := bound.runner_port.mac_local.exists_bytes
  obtain ⟨targetMac, isTargetMac⟩ := bound.target_port.mac_local.exists_bytes
  obtain ⟨runnerIp, isRunnerIp⟩ := bound.runner_port.ipv4_private.exists_bytes
  obtain ⟨targetIp, isTargetIp⟩ := bound.target_port.ipv4_private.exists_bytes
  constructor
  · rw [mac, isRunnerMac]
    exact mac?_length isRunnerMac
  · rw [mac, isTargetMac]
    exact mac?_length isTargetMac
  · rw [packed, isTargetIp]
    exact ipv4?_length isTargetIp
  · rw [packed, isRunnerIp]
    exact ipv4?_length isRunnerIp

/-- Ethernet padding is taken off a reply. -/
theorem Reply.IsValid.unpad {sequence : Nat} {runnerMac targetMac : Bytes}
    (isValid : reply.IsValid sequence src dst)
    (sizes : AddressSizes runnerMac targetMac src dst) {padding : Nat}
    (isPadding : padding = 0 ∨
        (reply.frame sequence runnerMac targetMac src dst).length +
          padding ≤ 60) :
    unpad (reply.frame sequence runnerMac targetMac src dst ++
          List.replicate padding 0) =
      .ok (reply.frame sequence runnerMac targetMac src dst) := by
  have frontLength : (runnerMac ++ targetMac ++ [8, 0]).length = 14 := by
    simp only [List.length_append, sizes.runnerMac, sizes.targetMac,
      List.length_cons, List.length_nil]
  have macsLength : (runnerMac ++ targetMac).length = 12 := by
    simp only [List.length_append, sizes.runnerMac, sizes.targetMac]
  have headerLength := isValid.header_length sizes.src sizes.dst
  have segmentLength := isValid.segment_length
  have bounded := isValid.optionLength
  obtain ⟨_, _, _, _, _, total, _⟩ := isValid.header_checks sizes.src sizes.dst
  unfold Reply.frame at isPadding ⊢
  generalize isHeader : reply.header src dst = header
    at headerLength total isPadding ⊢
  generalize isSegment : reply.segment sequence = segment
    at segmentLength isPadding ⊢
  generalize isFrame :
    runnerMac ++ targetMac ++ [8, 0] ++ header ++ segment = frame at isPadding ⊢
  have frameLength : frame.length = 54 + reply.options.length := by
    rw [← isFrame, List.length_append, List.length_append, frontLength,
      headerLength, segmentLength]
    omega
  have kind :
      ((frame ++ List.replicate padding 0).drop 12).take 2 = [8, 0] := by
    rw [← isFrame, List.append_assoc, List.append_assoc,
      List.append_assoc, ← macsLength, List.drop_left]
    rfl
  have size : ((frame ++ List.replicate padding 0).drop (14 + 2)).take 2 =
        (header.drop 2).take 2 := by
    rw [← isFrame, ← List.drop_drop, List.append_assoc, List.append_assoc,
      ← frontLength, List.drop_left, List.drop_append_of_le_length
        (by rw [headerLength]; decide),
      List.take_append_of_le_length
        (by rw [List.length_drop, headerLength]; decide)]
  have start : packetStart (frame ++ List.replicate padding 0) =
        .ok (14, [8, 0]) := by
    unfold packetStart
    rw [kind]
    rfl
  have last : packetEnd (frame ++ List.replicate padding 0) 14 [8, 0] =
        .ok frame.length := by
    unfold packetEnd
    rw [if_pos rfl, size, total, frameLength]
    refine bind_ok.mpr ⟨(), require_ok.mpr ?_, ?_⟩
    · rw [List.length_append, frameLength]
      omega
    · exact congrArg Except.ok (by omega)
  have isShort : (frame ++ List.replicate padding 0).length ≤ 128 := by
    rw [List.length_append, List.length_replicate, frameLength]
    omega
  refine bind_ok.mpr ⟨(), require_ok.mpr ⟨?_, isShort⟩, ?_⟩
  · rw [List.length_append, frameLength]
    omega
  refine bind_ok.mpr ⟨_, start, ?_⟩
  refine bind_ok.mpr ⟨_, last, ?_⟩
  refine bind_ok.mpr ⟨(), require_ok.mpr ⟨?_, ?_, ?_⟩, ?_⟩
  · rw [frameLength]
    omega
  · rw [List.length_append]
    exact Nat.le_add_right _ _
  · rw [List.length_append, List.length_replicate]
    rcases isPadding with none | isPadding
    · exact .inl (by omega)
    · refine .inr ⟨isPadding, ?_⟩
      rw [List.drop_left, Nat.add_sub_cancel_left]
  · rw [List.take_left]
    rfl

/-- A frame is accepted exactly when it is a padded reply. -/
theorem classifyReply_ok {probe : Probe} {frame : Bytes} {verdict : PathOpen}
    (isSequence : probe.sequence + 1 < 4294967296) (bound : binding.IsBound) :
    classifyReply probe binding frame = .ok verdict ↔ ∃ reply : Reply,
        reply.IsValid probe.sequence (packed binding.target.ipv4)
            (packed binding.runner.ipv4) ∧
          unpad frame = .ok (reply.frame probe.sequence (mac binding.runner.mac)
                (mac binding.target.mac) (packed binding.target.ipv4)
                (packed binding.runner.ipv4)) ∧
          verdict = reply.proves := by
  have sizes := bound.addressSizes
  have frontLength : (mac binding.runner.mac ++ mac binding.target.mac ++
        [8, 0]).length = 14 := by
    simp only [List.length_append, sizes.runnerMac, sizes.targetMac,
      List.length_cons, List.length_nil]
  constructor
  · intro accepted
    obtain ⟨core, unpadded, accepted⟩ := bind_ok.mp accepted
    obtain ⟨_, ethernet, accepted⟩ := bind_ok.mp accepted
    obtain ⟨_, ipv4, accepted⟩ := bind_ok.mp accepted
    obtain ⟨_, flow, accepted⟩ := bind_ok.mp accepted
    obtain ⟨_, options, isVerdict⟩ := bind_ok.mp accepted
    obtain ⟨isLong, front⟩ := require_ok.mp ethernet
    obtain ⟨version, protocol, headerChecksum, isSrc, isDst, isTotal,
      unfragmented⟩ := require_ok.mp ipv4
    obtain ⟨isSport, isDport, isAck, atLeast, isWords, atMost, isReserved,
      segmentChecksum, isFlags⟩ := require_ok.mp flow
    have ipLength : ((core.drop 14).take 20).length = 20 := by
      rw [List.length_take_of_le]
      rw [List.length_drop]
      omega
    have split :
        core = core.take 14 ++ (core.drop 14).take 20 ++ core.drop 34 := by
      rw [List.append_assoc, ← List.drop_drop (i := 20) (j := 14),
        List.take_append_drop, List.take_append_drop]
    have coreLength : core.length = 34 + (core.drop 34).length := by
      rw [List.length_drop]
      omega
    generalize (core.drop 14).take 20 = ip at *
    generalize core.drop 34 = tcp at *
    have total : Bytes.number ((ip.drop 2).take 2) =
          40 + (tcp.drop 20).length := by
      rw [isTotal, List.length_drop]
      omega
    obtain ⟨service, fragment, timeToLive, identification, sum,
      identificationLength, sumLength, isWhole, isIp⟩ :=
      header_of_checks ipLength version protocol isSrc isDst total unfragmented
    obtain ⟨optionWords, number, window, check, urgent, numberLength,
      windowLength, checkLength, urgentLength, isTcp⟩ :=
      segment_of_checks (by omega) isSport isDport isAck isWords isReserved
    have addresses : (ip.drop 12).take 8 =
          packed binding.target.ipv4 ++ packed binding.runner.ipv4 := by
      rw [← isSrc, ← isDst, ← List.drop_drop (i := 4) (j := 12)]
      exact List.take_add (i := 4) (j := 4)
    have sized : 20 + (tcp.drop 20).length = tcp.length := by
      rw [List.length_drop]
      omega
    refine
      ⟨{ service
         identification
         fragment
         timeToLive
         headerChecksum := sum
         number
         flags := tcp.getD 13 0
         window
         segmentChecksum := check
         urgent
         options := tcp.drop 20 }, ?_, ?_, ?_⟩
    · refine
        { sizes :=
            ⟨identificationLength, sumLength, numberLength, windowLength,
              checkLength, urgentLength⟩
          optionWords := ?_
          optionLength := ?_
          unfragmented := isWhole
          headerChecksum := ?_
          segmentChecksum := ?_
          flags := isFlags
          options := wellFormed_of_scanOptions (require_ok.mp options) }
      · rw [List.length_drop]
        omega
      · rw [List.length_drop]
        omega
      · exact (congrArg checksum isIp).symm.trans headerChecksum
      · rw [← addresses, sized]
        exact (congrArg (fun bytes =>
              checksum ((ip.drop 12).take 8 ++ [0, 6] ++ pack16 tcp.length ++
                  bytes))
            isTcp).symm.trans segmentChecksum
    · rw [unpadded, split, front]
      exact congrArg Except.ok (congrArg₂ (fun header segment =>
            mac binding.runner.mac ++ mac binding.target.mac ++ [8, 0] ++
              header ++ segment)
          isIp isTcp)
    · cases isVerdict
      rfl
  · rintro ⟨reply, isValid, unpadded, rfl⟩
    obtain ⟨isFront, isHeader, isSegment, isLength⟩ :=
      @frame_parts _ (reply.segment probe.sequence) _ frontLength
        (isValid.header_length sizes.src sizes.dst)
    obtain ⟨version, protocol, isSrc, isDst, addresses, total,
      unfragmented⟩ := isValid.header_checks sizes.src sizes.dst
    obtain ⟨isSport, isDport, isAck, isWords, isReserved, isFlags,
      isOptions⟩ := isValid.segment_checks isSequence
    have segmentLength := isValid.segment_length
    have bounded := isValid.optionLength
    refine bind_ok.mpr ⟨_, unpadded, ?_⟩
    simp only [Reply.frame, isFront, isHeader, isSegment, isLength,
      segmentLength, isOptions, isFlags, addresses]
    refine bind_ok.mpr ⟨(), require_ok.mpr ⟨by omega, trivial⟩, ?_⟩
    refine bind_ok.mpr ⟨(), require_ok.mpr ⟨version, protocol,
      isValid.headerChecksum, isSrc, isDst, ?_, unfragmented⟩, ?_⟩
    · rw [total]
      omega
    refine bind_ok.mpr ⟨(), require_ok.mpr ⟨isSport, isDport, isAck,
      ?_, isWords, ?_, isReserved, isValid.segmentChecksum,
      isValid.flags⟩, ?_⟩
    · rw [isWords]
      omega
    · omega
    exact bind_ok.mpr
      ⟨(), require_ok.mpr (scanOptions_of_wellFormed isValid.options), rfl⟩

/-! ## Built replies -/

theorem hexDigit?_plain
    {char : Char} {digit : Nat} (read : hexDigit? char = some digit) :
    char ≠ ':' ∧ isAsciiSpace char = false ∧ char.toLower = char := by
  have plain : ("0123456789abcdef".toList.all fun char =>
        decide (char ≠ ':' ∧ isAsciiSpace char = false ∧
          char.toLower = char)) = true := by
    decide
  obtain ⟨inDigits, isChar, _⟩ := List.findIdx?_eq_some_iff_getElem.mp read
  refine of_decide_eq_true (List.all_eq_true.mp plain char ?_)
  rw [← beq_iff_eq.mp isChar]
  exact List.getElem_mem inDigits

theorem hexByte?_plain (read : hexByte? high low = some byte) :
    (high ≠ ':' ∧ low ≠ ':') ∧ isAsciiSpace high = false ∧
      anyHexByte? high low = some byte := by
  have digits := read
  simp only [hexByte?, Option.bind_eq_bind, Option.pure_def,
    Option.bind_eq_some_iff] at digits
  obtain ⟨_, readHigh, _, readLow, _⟩ := digits
  obtain ⟨highPlain, highSpace, highLower⟩ := hexDigit?_plain readHigh
  obtain ⟨lowPlain, _, lowLower⟩ := hexDigit?_plain readLow
  refine ⟨⟨highPlain, lowPlain⟩, highSpace, ?_⟩
  rw [anyHexByte?, highLower, lowLower]
  exact read

theorem fromhex?_cons {rest : List Char} (isSpace : isAsciiSpace high = false)
    (read : anyHexByte? high low = some byte)
    (readRest : fromhex? rest = some bytes) :
    fromhex? (high :: low :: rest) = some (byte :: bytes) := by
  rw [fromhex?, if_neg (Bool.eq_false_iff.mp isSpace), read, readRest]
  rfl

theorem macBytes?_of_mac? {value : String} (read : mac? value = some bytes) :
    macBytes? value = some bytes := by
  unfold mac? at read
  split at read
  case h_2 => cases read
  case h_1 text =>
    simp only [Option.bind_eq_bind, Option.pure_def,
      Option.bind_eq_some_iff, Option.some.injEq] at read
    obtain ⟨_, r0, _, r1, _, r2, _, r3, _, r4, _, r5, rfl⟩ := read
    obtain ⟨⟨p0, q0⟩, s0, r0⟩ := hexByte?_plain r0
    obtain ⟨⟨p1, q1⟩, s1, r1⟩ := hexByte?_plain r1
    obtain ⟨⟨p2, q2⟩, s2, r2⟩ := hexByte?_plain r2
    obtain ⟨⟨p3, q3⟩, s3, r3⟩ := hexByte?_plain r3
    obtain ⟨⟨p4, q4⟩, s4, r4⟩ := hexByte?_plain r4
    obtain ⟨⟨p5, q5⟩, s5, r5⟩ := hexByte?_plain r5
    rw [macBytes?, text]
    simp only [ne_eq, decide_not, List.filter_cons, p0, q0, p1, q1, p2, q2,
      p3, q3, p4, q4, p5, q5, decide_false, Bool.not_false, ↓reduceIte,
      decide_true, Bool.not_true, Bool.false_eq_true, List.filter_nil]
    exact fromhex?_cons s0 r0 <| fromhex?_cons s1 r1 <| fromhex?_cons s2 r2 <|
        fromhex?_cons s3 r3 <| fromhex?_cons s4 r4 <| fromhex?_cons s5 r5 rfl

/-- The reply that `ipv4_frame` builds. -/
def builtReply (src dst : Bytes) (sequence : Nat) (flags : UInt8) : Reply :=
  let bare := segment false true 8080 sequence flags.toNat
  let header :=
    [69, 0] ++ pack16 40 ++ pack16 (sequence % 65536) ++ pack16 16384 ++
      [64, 6] ++ pack16 0 ++ src ++ dst
  { service := 0
    identification := pack16 (sequence % 65536)
    fragment := 64
    timeToLive := 64
    headerChecksum := pack16 (checksum header)
    number := pack32 0
    flags
    window := pack16 1024
    segmentChecksum :=
      pack16
        (checksum (src ++ dst ++ [0, 6] ++ pack16 bare.length ++ bare))
    urgent := pack16 0
    options := [] }

theorem ipv4FrameOf_eq
    (runnerMac targetMac src dst : Bytes) (sequence : Nat) (flags : UInt8) :
    ipv4FrameOf targetMac runnerMac src dst 8080 sequence false flags.toNat
        true =
      (builtReply src dst sequence flags).frame sequence runnerMac targetMac
        src dst := by
  have isFlags : UInt8.ofNat flags.toNat = flags := UInt8.ofNat_toNat
  have isSegment (value : Nat) :
      patch (segment false true 8080 sequence flags.toNat) 16 value =
        Reply.segment
          { builtReply src dst sequence flags with
            segmentChecksum := pack16 value }
          sequence := by
    have offset : UInt8.ofNat ((20 + 0) / 4 * 16) = 80 := by
      decide
    simp only [segment, Reply.segment, builtReply, List.length_nil, offset,
      isFlags, Bool.false_eq_true, if_false, if_true]
    rfl
  simp only [ipv4FrameOf, Bool.false_eq_true, ↓reduceIte, isSegment]
  rfl

theorem builtReply_isValid
    (srcLength : src.length = 4) (dstLength : dst.length = 4)
    (sequence : Nat) {flags : UInt8} (isFlags : flags = 18 ∨ flags = 20) :
    (builtReply src dst sequence flags).IsValid sequence src dst := by
  obtain ⟨ip, transport, isFrame, ipLength, _, headerChecksum,
    segmentChecksum⟩ :=
    (ipv4FrameOf_carriesChecksums srcLength dstLength [] [] 8080 sequence
      false flags.toNat true).parts
  have headerLength :
      ((builtReply src dst sequence flags).header src dst).length = 20 := by
    simp only [Reply.header, builtReply, pack16, List.length_append,
      List.length_cons, List.length_nil, srcLength, dstLength]
  rw [ipv4FrameOf_eq, Reply.frame] at isFrame
  obtain ⟨isFront, isSegment⟩ := List.append_inj isFrame (by
      simp only [List.length_append, headerLength, ipLength])
  have isHeader := List.append_cancel_left isFront
  exact
    { sizes := ⟨rfl, rfl, rfl, rfl, rfl, rfl⟩
      optionWords := rfl
      optionLength := Nat.zero_le 40
      unfragmented := by
        change (64 : UInt8).toNat % 64 = 0
        decide
      headerChecksum := (congrArg checksum isHeader).trans headerChecksum
      segmentChecksum := by
        rw [← isSegment] at segmentChecksum
        exact segmentChecksum
      flags := isFlags
      options := .nil }

theorem ipv4Frame?_reply (bound : binding.IsBound) {sequence : Nat}
    (isSequence : sequence + 1 < 4294967296) (flags : UInt8) :
    ipv4Frame? binding.target.mac binding.runner.mac binding.target.ipv4
        binding.runner.ipv4 8080 sequence false flags.toNat true =
      some ((builtReply (packed binding.target.ipv4)
              (packed binding.runner.ipv4) sequence flags).frame
          sequence (mac binding.runner.mac) (mac binding.target.mac)
          (packed binding.target.ipv4) (packed binding.runner.ipv4)) := by
  obtain ⟨runnerMac, isRunnerMac⟩ := bound.runner_port.mac_local.exists_bytes
  obtain ⟨targetMac, isTargetMac⟩ := bound.target_port.mac_local.exists_bytes
  obtain ⟨runnerIp, isRunnerIp⟩ := bound.runner_port.ipv4_private.exists_bytes
  obtain ⟨targetIp, isTargetIp⟩ := bound.target_port.ipv4_private.exists_bytes
  have flagsLt := flags.toNat_lt
  have isFit :
      segmentFits false true 8080 (sequence : Int) (flags.toNat : Int) := by
    refine ⟨by decide, fun _ => ⟨⟨?_, ?_⟩, ⟨?_, ?_⟩⟩⟩
    · simp only [if_true]
      omega
    · simp only [if_true]
      omega
    · omega
    · omega
  have sequenceEq : ((sequence : Int) % 4294967296).toNat = sequence := by
    omega
  simp only [mac, packed, isRunnerMac, isTargetMac, isRunnerIp, isTargetIp,
    Option.getD_some]
  rw [← ipv4FrameOf_eq]
  simp only [ipv4Frame?, isRunnerIp, isTargetIp,
    macBytes?_of_mac? isRunnerMac, macBytes?_of_mac? isTargetMac,
    Option.bind_eq_bind, Option.bind_some, if_pos isFit, sequenceEq,
    Int.toNat_natCast]
  rfl

/-! ## Packets and replies -/

/-- Every packet that is built carries the checksums of its header and of its
segment.  A reply of the target that is built is accepted, padded or not; and
a frame is accepted only as a padded reply: a segment from the target to the
runner that is no fragment, carries its checksums, acknowledges the probe and
has well formed options. -/
theorem classifyReply_characterised :
    (∀ (sourceMac destinationMac sourceIp destinationIp : String)
        (port sequence : Int) (udp : Bool) (flags : Int) (reverse : Bool)
        (frame : Bytes),
        ipv4Frame? sourceMac destinationMac sourceIp destinationIp port
            sequence udp flags reverse = some frame →
          ∃ source destination src dst, macBytes? sourceMac = some source ∧
              macBytes? destinationMac = some destination ∧
              ipv4? sourceIp = some src ∧
              ipv4? destinationIp = some dst ∧
              CarriesChecksums frame destination source src dst
                (if udp then 17 else 6)) ∧
      ∀ (probe : Probe) (binding : NetworkBinding),
        probe.sequence < 2147483648 →
        binding.postInit = .ok () → (∀ (flags : UInt8) (verdict : PathOpen),
            flags = 18 ∧ verdict = .synack ∨ flags = 20 ∧ verdict = .rst →
              ∃ frame, ipv4Frame? binding.target.mac binding.runner.mac
                    binding.target.ipv4 binding.runner.ipv4 8080
                    probe.sequence false flags.toNat true = some frame ∧
                  ∀ padding, padding = 0 ∨ frame.length + padding ≤ 60 →
                      classifyReply probe binding
                          (frame ++ List.replicate padding 0) =
                        .ok verdict) ∧
            ∀ frame verdict, classifyReply probe binding frame = .ok verdict →
                ∃ reply : Reply,
                  reply.IsValid probe.sequence (packed binding.target.ipv4)
                      (packed binding.runner.ipv4) ∧
                    unpad frame = .ok (reply.frame probe.sequence
                          (mac binding.runner.mac) (mac binding.target.mac)
                          (packed binding.target.ipv4)
                          (packed binding.runner.ipv4)) ∧
                    verdict = reply.proves := by
  constructor
  · intro _ _ _ _ _ _ _ _ _ _ built
    exact ipv4Frame?_carriesChecksums built
  · intro probe binding isSequence constructed
    have bound := NetworkBinding.postInit_ok constructed
    have accepts (frame : Bytes) (verdict : PathOpen) :=
      @classifyReply_ok binding probe frame verdict (by omega) bound
    refine ⟨?_, fun frame verdict => (accepts frame verdict).mp⟩
    intro flags verdict isVerdict
    have isFlags : flags = 18 ∨ flags = 20 := isVerdict.imp And.left And.left
    have sizes := bound.addressSizes
    have isValid :=
      builtReply_isValid sizes.src sizes.dst probe.sequence isFlags
    refine ⟨_, ipv4Frame?_reply bound (by omega) flags, ?_⟩
    intro padding isPadding
    refine (accepts _ verdict).mpr
      ⟨_, isValid, isValid.unpad sizes isPadding, ?_⟩
    rcases isVerdict with ⟨rfl, rfl⟩ | ⟨rfl, rfl⟩
    · rfl
    · rfl

theorem pilotId_length : (List.replicate 32 (0 : UInt8)).length = 32 :=
  rfl

/-- A probe of the pilot. -/
def pilotProbe : Probe where
  case := "allow_target_8080"
  probeId := ⟨List.replicate 32 0, pilotId_length⟩
  frame := []
  destinationIp := "10.0.0.2"
  port := 8080
  sequence := 5
  responseRequired := true

theorem classifyReply_characterised_pilot :
    (∃ frame source destination src dst,
        ipv4Frame? "AA:BB" "" "10.0.0.3" "10.0.0.2" 53 (-1) true (-1)
            false = some frame ∧
          macBytes? "AA:BB" = some source ∧
          macBytes? "" = some destination ∧
          ipv4? "10.0.0.3" = some src ∧
          ipv4? "10.0.0.2" = some dst ∧
          CarriesChecksums frame destination source src dst 17) ∧
      (∃ frame, ipv4Frame? pilotBinding.target.mac pilotBinding.runner.mac
            pilotBinding.target.ipv4 pilotBinding.runner.ipv4 8080 5 false
            18 true = some frame ∧
          ∀ padding, padding = 0 ∨ frame.length + padding ≤ 60 →
              classifyReply pilotProbe pilotBinding
                  (frame ++ List.replicate padding 0) =
                .ok .synack) ∧
      ∀ frame verdict,
        classifyReply pilotProbe pilotBinding frame = .ok verdict →
          ∃ reply : Reply, reply.IsValid 5 (packed pilotBinding.target.ipv4)
                (packed pilotBinding.runner.ipv4) ∧
              unpad frame = .ok (reply.frame 5 (mac pilotBinding.runner.mac)
                    (mac pilotBinding.target.mac)
                    (packed pilotBinding.target.ipv4)
                    (packed pilotBinding.runner.ipv4)) ∧
              verdict = reply.proves := by
  have replies :=
    classifyReply_characterised.2 pilotProbe pilotBinding (by decide)
      (by decide +kernel)
  refine ⟨?_, replies.1 18 .synack (.inl ⟨rfl, rfl⟩), replies.2⟩
  have built : (ipv4Frame? "AA:BB" "" "10.0.0.3" "10.0.0.2" 53 (-1) true (-1)
        false).isSome = true := by
    decide +kernel
  obtain ⟨frame, isFrame⟩ := Option.isSome_iff_exists.mp built
  obtain ⟨source, destination, src, dst, first, second, third, fourth,
    carries⟩ :=
    classifyReply_characterised.1 _ _ _ _ _ _ _ _ _ frame isFrame
  exact ⟨frame, source, destination, src, dst, isFrame, first, second, third,
      fourth, carries⟩

end TicketSandbox.Firewall
