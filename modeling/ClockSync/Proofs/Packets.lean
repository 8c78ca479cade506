import ClockSync.Wire.Packet

/-!
# Packets and datagrams

A datagram that is a packet, and a packet with the right signature, are the same
thing in two forms. `Packet.ofBytes` reads the five words off any datagram.
Writing them gives the datagram back if it has the size of a packet
(`serialize_ofBytes`), and the words of a written packet are its own
(`ofBytes_serialize`). What is left to say is which datagrams are read at all
(`parse_eq`, `decodeReply_eq`).
-/

namespace ClockSync.Wire

/-! ## One word among others -/

namespace LittleEndian

theorem write_read_of_length {bytes : Bytes} {k : Nat} (h : bytes.length = k) :
    write k (read bytes) = bytes := by
  rw [← h, write_read]

theorem length_take_drop {bytes : Bytes} {offset k : Nat}
    (h : offset + k ≤ bytes.length) :
    ((bytes.drop offset).take k).length = k := by
  rw [List.length_take, List.length_drop]
  omega

/-- A slice of a list and all that comes after it. -/
theorem take_drop_append_drop (bytes : Bytes) (offset k : Nat) :
    (bytes.drop offset).take k ++ bytes.drop (offset + k) =
      bytes.drop offset := by
  rw [← List.drop_drop, List.take_append_drop]

theorem take_drop_write (front rest : Bytes) (k n : Nat) :
    ((front ++ (write k n ++ rest)).drop front.length).take k = write k n := by
  rw [List.drop_left, List.take_left' (length_write k n)]

end LittleEndian

namespace Packet

theorem word32_write (front rest : Bytes) (w : UInt32) :
    word32 (front ++ (LittleEndian.write 4 w.toNat ++ rest)) front.length =
      w := by
  rw [word32, LittleEndian.take_drop_write, LittleEndian.read_write]
  apply UInt32.toNat_inj.mp
  rw [UInt32.toNat_ofNat']
  have hlt := w.toNat_lt
  show w.toNat % 2 ^ 32 % 2 ^ 32 = w.toNat
  omega

theorem word64_write (front rest : Bytes) (w : UInt64) :
    word64 (front ++ (LittleEndian.write 8 w.toNat ++ rest)) front.length =
      w := by
  rw [word64, LittleEndian.take_drop_write, LittleEndian.read_write]
  apply UInt64.toNat_inj.mp
  rw [UInt64.toNat_ofNat']
  have hlt := w.toNat_lt
  show w.toNat % 2 ^ 64 % 2 ^ 64 = w.toNat
  omega

theorem write_word32 {bytes : Bytes} {offset : Nat}
    (h : offset + 4 ≤ bytes.length) :
    LittleEndian.write 4 (word32 bytes offset).toNat =
      (bytes.drop offset).take 4 := by
  have hlen := LittleEndian.length_take_drop h
  have hlt : LittleEndian.read ((bytes.drop offset).take 4) < 2 ^ 32 := by
    have hread := LittleEndian.read_lt ((bytes.drop offset).take 4)
    rwa [hlen] at hread
  rw [word32, UInt32.toNat_ofNat', Nat.mod_eq_of_lt hlt,
    LittleEndian.write_read_of_length hlen]

theorem write_word64 {bytes : Bytes} {offset : Nat}
    (h : offset + 8 ≤ bytes.length) :
    LittleEndian.write 8 (word64 bytes offset).toNat =
      (bytes.drop offset).take 8 := by
  have hlen := LittleEndian.length_take_drop h
  have hlt : LittleEndian.read ((bytes.drop offset).take 8) < 2 ^ 64 := by
    have hread := LittleEndian.read_lt ((bytes.drop offset).take 8)
    rwa [hlen] at hread
  rw [word64, UInt64.toNat_ofNat', Nat.mod_eq_of_lt hlt,
    LittleEndian.write_read_of_length hlen]

/-! ## All words of a packet -/

/-- The words of a datagram, whatever they are. -/
def ofBytes (bytes : Bytes) : Packet where
  magic := word32 bytes 0
  flags := word32 bytes 4
  requesterTime := word64 bytes 8
  responderTime := word64 bytes 16
  reserved := word64 bytes 24

/-- The words of a written packet are its own. -/
theorem ofBytes_serialize (p : Packet) : ofBytes p.serialize = p := by
  obtain ⟨magic, flags, requesterTime, responderTime, reserved⟩ := p
  -- each word is read behind a front as long as its offset
  have hmagic := word32_write [] (LittleEndian.write 4 flags.toNat ++
    (LittleEndian.write 8 requesterTime.toNat ++
      (LittleEndian.write 8 responderTime.toNat ++
      LittleEndian.write 8 reserved.toNat))) magic
  have hflags := word32_write (LittleEndian.write 4 magic.toNat)
    (LittleEndian.write 8 requesterTime.toNat ++
      (LittleEndian.write 8 responderTime.toNat ++
      LittleEndian.write 8 reserved.toNat)) flags
  have hrequester := word64_write (LittleEndian.write 4 magic.toNat ++
      LittleEndian.write 4 flags.toNat)
    (LittleEndian.write 8 responderTime.toNat ++
      LittleEndian.write 8 reserved.toNat) requesterTime
  have hresponder := word64_write (LittleEndian.write 4 magic.toNat ++
      (LittleEndian.write 4 flags.toNat ++
        LittleEndian.write 8 requesterTime.toNat))
    (LittleEndian.write 8 reserved.toNat) responderTime
  have hreserved := word64_write (LittleEndian.write 4 magic.toNat ++
      (LittleEndian.write 4 flags.toNat ++
        (LittleEndian.write 8 requesterTime.toNat ++
        LittleEndian.write 8 responderTime.toNat))) [] reserved
  simp only [List.length_append, LittleEndian.length_write, List.length_nil,
    List.nil_append, List.append_nil,
    List.append_assoc] at hmagic hflags hrequester hresponder hreserved
  simp only [ofBytes, serialize, List.append_assoc, hmagic, hflags, hrequester,
    hresponder, hreserved]

/-- A datagram of the right size is what its words are written as. -/
theorem serialize_ofBytes {bytes : Bytes} (h : bytes.length = packetSize) :
    (ofBytes bytes).serialize = bytes := by
  rw [packetSize] at h
  have hlast : (bytes.drop 24).take 8 = bytes.drop 24 := by
    rw [List.take_of_length_le]
    rw [List.length_drop]
    omega
  calc (ofBytes bytes).serialize
      = (bytes.drop 0).take 4 ++
        ((bytes.drop 4).take 4 ++ ((bytes.drop 8).take 8 ++
          ((bytes.drop 16).take 8 ++ (bytes.drop 24).take 8))) := by
        simp only [ofBytes, serialize, List.append_assoc]
        rw [write_word32 (by omega), write_word32 (by omega),
          write_word64 (by omega), write_word64 (by omega),
          write_word64 (by omega)]
    _ = bytes.drop 0 := by
        rw [hlast, LittleEndian.take_drop_append_drop bytes 16 8,
          LittleEndian.take_drop_append_drop bytes 8 8,
          LittleEndian.take_drop_append_drop bytes 4 4,
          LittleEndian.take_drop_append_drop bytes 0 4]
    _ = bytes := List.drop_zero

end Packet

/-! ## Which datagrams are packets -/

/-- The datagram has the size of a packet and starts with `drft`. -/
def IsPacket (bytes : Bytes) : Prop :=
  bytes.length = 32 ∧ bytes.take 4 = [0x64, 0x72, 0x66, 0x74]

instance : DecidablePred IsPacket := fun bytes =>
  inferInstanceAs (Decidable (bytes.length = 32 ∧
    bytes.take 4 = [0x64, 0x72, 0x66, 0x74]))

/-- The lowest bit of the fifth byte is set. -/
def IsMarked (bytes : Bytes) : Prop := bytes.getD 4 0 &&& 1 = 1

instance : DecidablePred IsMarked := fun bytes =>
  inferInstanceAs (Decidable (bytes.getD 4 0 &&& 1 = 1))

namespace Packet

theorem word32_eq_signature_iff {bytes : Bytes}
    (h : bytes.length = packetSize) :
    word32 bytes 0 = signature ↔ bytes.take 4 = [0x64, 0x72, 0x66, 0x74] := by
  constructor
  · intro hword
    have hwrite : LittleEndian.write 4 (word32 bytes 0).toNat =
        (bytes.drop 0).take 4 :=
      write_word32 (by rw [h]; decide)
    rw [hword] at hwrite
    exact hwrite.symm
  · intro htake
    rw [word32, List.drop_zero, htake]
    rfl

/-- The lowest bit of a little-endian word is that of its first byte. -/
theorem isReply_ofBytes {bytes : Bytes} (h : bytes.length = packetSize) :
    (ofBytes bytes).isReply = true ↔ IsMarked bytes := by
  obtain ⟨front, rest, rfl, hfront⟩ : ∃ front rest, bytes = front ++ rest ∧
    front.length = 4 :=
    ⟨bytes.take 4, bytes.drop 4, (List.take_append_drop 4 bytes).symm, by
      rw [List.length_take, h]
      rfl⟩
  cases rest with
  | nil =>
    rw [List.append_nil, hfront] at h
    exact absurd h (by decide)
  | cons b rest =>
    have hread : LittleEndian.read (((front ++ b :: rest).drop 4).take 4) =
        b.toNat + 256 * LittleEndian.read (rest.take 3) := by
      rw [← hfront, List.drop_left, hfront]
      rfl
    have hbyte : (front ++ b :: rest).getD 4 0 = b := by
      rw [← hfront]
      simp
    have hbit : (word32 (front ++ b :: rest) 4 &&& replyFlag).toNat =
        (b &&& 1).toNat := by
      rw [UInt32.toNat_and, UInt8.toNat_and, word32, hread, UInt32.toNat_ofNat']
      show _ &&& 1 = _ &&& 1
      rw [Nat.and_one_is_mod, Nat.and_one_is_mod]
      omega
    rw [isReply, IsMarked, hbyte, ofBytes, bne_iff_ne, ne_eq,
      ← UInt32.toNat_inj, hbit, ← UInt8.toNat_inj, UInt8.toNat_and]
    show ¬ b.toNat &&& 1 = 0 ↔ b.toNat &&& 1 = 1
    rw [Nat.and_one_is_mod]
    omega

/-- What is wrong with a datagram, or its words if nothing is. -/
theorem parse_eq (bytes : Bytes) :
    parse bytes =
      if IsPacket bytes then .ok (ofBytes bytes)
      else if bytes.length = packetSize then .error .signature
      else .error (.size bytes.length) := by
  by_cases hsize : bytes.length = packetSize
  · by_cases hsignature : word32 bytes 0 = signature
    · have hpacket : IsPacket bytes :=
        ⟨hsize, (word32_eq_signature_iff hsize).mp hsignature⟩
      rw [parse, if_neg (not_not_intro hsize),
        if_neg (not_not_intro hsignature), if_pos hpacket]
      rfl
    · have hpacket : ¬ IsPacket bytes := fun hp =>
        hsignature ((word32_eq_signature_iff hsize).mpr hp.2)
      rw [parse, if_neg (not_not_intro hsize), if_pos hsignature,
        if_neg hpacket, if_pos hsize]
  · have hpacket : ¬ IsPacket bytes := fun hp => hsize hp.1
    rw [parse, if_pos hsize, if_neg hpacket, if_neg hsize]

theorem decodeReply_eq (bytes : Bytes) :
    decodeReply bytes =
      if IsPacket bytes ∧ IsMarked bytes then .ok (ofBytes bytes)
      else if IsPacket bytes then .error .direction
      else if bytes.length = packetSize then .error .signature
      else .error (.size bytes.length) := by
  by_cases hpacket : IsPacket bytes
  · have hparse : parse bytes = .ok (ofBytes bytes) := by
      rw [parse_eq, if_pos hpacket]
    have hdecode : decodeReply bytes =
        if (ofBytes bytes).isReply then .ok (ofBytes bytes)
        else .error .direction := by
      rw [decodeReply, hparse]
      rfl
    rw [hdecode]
    simp only [isReply_ofBytes hpacket.1, hpacket, true_and, if_true]
  · have hnot : ¬ (IsPacket bytes ∧ IsMarked bytes) := fun h => hpacket h.1
    rw [decodeReply, parse_eq, if_neg hpacket, if_neg hnot, if_neg hpacket]
    split <;> rfl

/-! ## Both ways -/

theorem isPacket_serialize {p : Packet} :
    IsPacket p.serialize ↔ p.magic = signature := by
  have hword : word32 p.serialize 0 = p.magic :=
    congrArg magic (ofBytes_serialize p)
  rw [IsPacket, ← word32_eq_signature_iff (length_serialize p), hword]
  exact and_iff_right (length_serialize p)

theorem storeInto_ite (slot : Option Packet) (read : Except Malformed Packet)
    (p : Packet) (good : Prop) [Decidable good] (hgood : good → read = .ok p)
    (hbad : ¬ good → ∃ what, read = .error what) :
    storeInto slot read = if slot.isSome ∧ good then (true, some p)
      else (false, slot) := by
  by_cases h : good
  · rw [hgood h]
    cases slot with
    | none => rfl
    | some old => exact (if_pos ⟨rfl, h⟩).symm
  · obtain ⟨what, hwhat⟩ := hbad h
    rw [hwhat, if_neg fun hboth => h hboth.2]
    cases slot <;> rfl

theorem storeInto_parse (slot : Option Packet) (bytes : Bytes) :
    storeInto slot (parse bytes) =
      if slot.isSome ∧ IsPacket bytes then (true, some (ofBytes bytes))
      else (false, slot) := by
  refine storeInto_ite slot _ _ _ (fun h => ?_) (fun h => ?_)
  · rw [parse_eq, if_pos h]
  · rw [parse_eq, if_neg h]
    split
    · exact ⟨_, rfl⟩
    · exact ⟨_, rfl⟩

theorem storeInto_decodeReply (slot : Option Packet) (bytes : Bytes) :
    storeInto slot (decodeReply bytes) =
      if slot.isSome ∧ IsPacket bytes ∧ IsMarked bytes then
        (true, some (ofBytes bytes))
      else (false, slot) := by
  refine storeInto_ite slot _ _ _ (fun h => ?_) (fun h => ?_)
  · rw [decodeReply_eq, if_pos h]
  · rw [decodeReply_eq, if_neg h]
    split
    · exact ⟨_, rfl⟩
    · split
      · exact ⟨_, rfl⟩
      · exact ⟨_, rfl⟩

/-- Packets with the right signature and datagrams that are packets are the same
in two forms. A packet is written as 32 bytes, and those are read as the packet
again exactly if its signature is right. A datagram is read exactly if it is a
packet, as one that is written as that datagram; as a reply it is read exactly
if it is marked besides, as the same packet. Where nothing is read, or there is
no slot for it, the slot is as it was. -/
theorem codec_bijective :
    (∀ (p : Packet) (slot : Option Packet),
      p.serialize.length = 32 ∧
        storeInto slot (parse p.serialize) =
          if slot.isSome ∧ p.magic = signature then (true, some p)
          else (false, slot)) ∧
    ∀ bytes : Bytes, ∃ p : Packet,
      (IsPacket bytes → p.serialize = bytes) ∧
        ∀ slot : Option Packet,
          storeInto slot (parse bytes) =
            (if slot.isSome ∧ IsPacket bytes then (true, some p)
              else (false, slot)) ∧
          storeInto slot (decodeReply bytes) =
            (if slot.isSome ∧ IsPacket bytes ∧ IsMarked bytes then
              (true, some p)
              else (false, slot)) := by
  constructor
  · intro p slot
    refine ⟨length_serialize p, ?_⟩
    rw [storeInto_parse, ofBytes_serialize]
    simp only [isPacket_serialize]
  · intro bytes
    refine ⟨ofBytes bytes, fun h => serialize_ofBytes h.1, fun slot => ?_⟩
    exact ⟨storeInto_parse slot bytes, storeInto_decodeReply slot bytes⟩

end Packet

end ClockSync.Wire
