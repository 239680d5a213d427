/-
What is written as packets is read as packets.

A buffer that has not failed holds, one behind the other, the bytes of the packets that
were written to it: of each its header, with the length as it is known in the end, and
everything that was put into it.  The two kinds of packets can be told apart by their
first byte, since the length of a special packet starts with a zero.  So on any prefix
of such bytes, `incomplete_header` and `get_header` see the same header, or none.
-/
import PgBouncer.Wire

namespace PgBouncer.Wire

open LoginCtx (getUint32be)

/-! ### Numbers -/

theorem getUint32be_uint32be (n : Nat) (rest : Bytes) :
    getUint32be (uint32be n ++ rest) = some (n % 2 ^ 32, rest) := by
  simp only [uint32be, List.cons_append, List.nil_append, getUint32be, UInt8.toNat_ofNat',
    Option.some.injEq, Prod.mk.injEq, and_true]
  omega

theorem getUint32be_lt {data rest : Bytes} {n : Nat} (h : getUint32be data = some (n, rest)) :
    n < 2 ^ 32 := by
  unfold getUint32be at h
  split at h
  · rename_i a b c d _
    have ha := a.toNat_lt
    have hb := b.toNat_lt
    have hc := c.toNat_lt
    have hd := d.toNat_lt
    have heq := congrArg Prod.fst (Option.some.inj h)
    dsimp only at heq
    omega
  · exact nomatch h

/-! ### Packets -/

/-- What a put writes. -/
def Put.written : Put → Bytes
  | .char val => [val]
  | .uint16 val => [UInt8.ofNat (val / 2 ^ 8), UInt8.ofNat val]
  | .uint32 val => uint32be val
  | .uint64 val => uint32be (val / 2 ^ 32) ++ uint32be (val % 2 ^ 32)
  | .string str => str ++ [0]
  | .bytes data => data

/-- A packet that is written: its type and what is put into it. -/
structure Packet where
  type : Nat
  puts : List Put

namespace Packet

variable (p : Packet)

def payload : Bytes := p.puts.flatMap Put.written

def headerLen : Nat := if p.type < 256 then newHeaderLen else oldHeaderLen

/-- The length of a packet, its type included. -/
def len : Nat := p.headerLen + p.payload.length

def header : Bytes :=
  if p.type < 256 then UInt8.ofNat p.type :: uint32be (4 + p.payload.length)
  else uint32be (8 + p.payload.length) ++ uint32be p.type

/-- The bytes of a packet. -/
def bytes : Bytes := p.header ++ p.payload

/-- What reading a packet gives, if so many of its bytes are there. -/
def read (avail : Nat) : PktHdr := ⟨p.type, p.len, (p.bytes.take avail).drop p.headerLen⟩

/-- A type from 1 to 255, or a code that is known in a packet of less than 65536 bytes. -/
structure Valid (maxPacketSize : UInt32) : Prop where
  type : 0 < p.type ∧ p.type < 256 ∨ p.type ∈ specialCodes ∧ p.len < 65536
  max : p.len ≤ maxPacketSize.toNat

variable {p}

theorem length_header : p.header.length = p.headerLen := by
  unfold header headerLen
  split_ifs <;> rfl

theorem length_bytes : p.bytes.length = p.len := by
  rw [bytes, List.length_append, length_header, len]

theorem not_lt_of_mem_specialCodes {type : Nat} (h : type ∈ specialCodes) : ¬type < 256 := by
  revert type
  decide

end Packet

/-! ### Writing -/

namespace PktBuf

variable {realloc : Nat → Bool} {b b' b'' : PktBuf} {room : Nat} {data data' : Bytes}

/-- Unless it fails, a step has appended this. -/
def Appends (b b' : PktBuf) (data : Bytes) : Prop :=
  b'.failed = false →
    b.failed = false ∧ b'.buf = b.buf ++ data ∧ b'.pktlenPos = b.pktlenPos

theorem Appends.trans (h : Appends b b' data) (h' : Appends b' b'' data') :
    Appends b b'' (data ++ data') := by
  intro hfailed
  obtain ⟨hfirst, hbuf', hpos'⟩ := h' hfailed
  obtain ⟨hb, hbuf, hpos⟩ := h hfirst
  exact ⟨hb, by rw [hbuf', hbuf, List.append_assoc], hpos'.trans hpos⟩

theorem appends_putRaw : Appends b (b.putRaw realloc room data) data := by
  have hroom : (b.makeRoom realloc room).buf = b.buf ∧
      (b.makeRoom realloc room).pktlenPos = b.pktlenPos ∧
      ((b.makeRoom realloc room).failed = false → b.failed = false) := by
    unfold makeRoom
    dsimp only
    split_ifs <;> simp_all
  intro h
  unfold putRaw at h ⊢
  dsimp only at h ⊢
  split_ifs at h ⊢ with hfailed
  · exact nomatch hfailed.symm.trans h
  · exact ⟨hroom.2.2 h, by rw [hroom.1], hroom.2.1⟩

theorem appends_put (p : Put) : Appends b (b.put realloc p) p.written := by
  cases p with
  | uint64 val => exact appends_putRaw.trans appends_putRaw
  | bytes data =>
    by_cases hnil : data.length = 0
    · simp only [put, Put.written, List.length_eq_zero_iff.mp hnil]
      exact fun h => ⟨h, (List.append_nil _).symm, rfl⟩
    · simp only [put, if_neg hnil]
      exact appends_putRaw
  | char | uint16 | uint32 | string => exact appends_putRaw

theorem appends_puts (puts : List Put) :
    Appends b (puts.foldl (put realloc) b) (puts.flatMap Put.written) := by
  induction puts generalizing b with
  | nil => exact fun h => ⟨h, (List.append_nil _).symm, rfl⟩
  | cons p puts ih => exact (appends_put p).trans ih

/-- What stands behind the length of a packet. -/
theorem startPacket_ok {type : Nat} (h : (b.startPacket realloc type).failed = false) :
    ∃ before behind, b.failed = false ∧ (b.startPacket realloc type).pktlenPos = before.length ∧
      (b.startPacket realloc type).buf = before ++ (uint32be 0 ++ behind) ∧
      if type < 256 then before = b.buf ++ [UInt8.ofNat type] ∧ behind = []
      else before = b.buf ∧ behind = uint32be type := by
  unfold startPacket at h ⊢
  by_cases hfailed : b.failed = true
  · rw [if_pos hfailed] at h
    exact nomatch hfailed.symm.trans h
  rw [if_neg hfailed] at h ⊢
  by_cases htype : type < 256
  · simp only [if_pos htype] at h ⊢
    obtain ⟨hput, hbuf, hpos⟩ := appends_putRaw h
    obtain ⟨hb, hchar, -⟩ := appends_put _ hput
    exact ⟨_, [], hb, hpos.trans (congrArg _ hchar), hbuf.trans (by rw [hchar]; rfl), rfl, rfl⟩
  · simp only [if_neg htype] at h ⊢
    obtain ⟨hb, hbuf, hpos⟩ := appends_putRaw.trans appends_putRaw h
    exact ⟨_, _, hb, hpos, hbuf, rfl, rfl⟩

/-- The length is filled in. -/
theorem fill_in (before behind : Bytes) :
    (before ++ (uint32be 0 ++ behind)).take before.length ++
        uint32be ((before ++ (uint32be 0 ++ behind)).length - before.length) ++
        (before ++ (uint32be 0 ++ behind)).drop (before.length + 4) =
      before ++ (uint32be (4 + behind.length) ++ behind) := by
  have hlen : (before ++ (uint32be 0 ++ behind)).length - before.length = 4 + behind.length := by
    simp [uint32be]
    omega
  rw [List.take_left, hlen, ← List.drop_drop, List.drop_left, List.append_assoc]
  rfl

/-- A packet that does not fail is appended. -/
theorem writeGeneric_ok {p : Packet} (h : (b.writeGeneric realloc p.type p.puts).failed = false) :
    b.failed = false ∧ (b.writeGeneric realloc p.type p.puts).buf = b.buf ++ p.bytes := by
  have hputs : (p.puts.foldl (put realloc) (b.startPacket realloc p.type)).failed = false := by
    unfold writeGeneric finishPacket at h
    split_ifs at h with hfailed
    · exact h
    · exact Bool.eq_false_iff.mpr hfailed
  obtain ⟨hstart, hbuf, hpos⟩ := appends_puts p.puts hputs
  obtain ⟨before, behind, hb, hpos', hbuf', htype⟩ := startPacket_ok hstart
  refine ⟨hb, ?_⟩
  rw [writeGeneric, finishPacket, if_neg (Bool.eq_false_iff.mp hputs)]
  dsimp only
  rw [hpos, hpos', hbuf, hbuf', List.append_assoc before, List.append_assoc (uint32be 0), fill_in]
  unfold Packet.bytes Packet.header Packet.payload
  split_ifs at htype ⊢
  · rw [htype.1, htype.2]
    simp
  · rw [htype.1, htype.2, List.length_append, ← Nat.add_assoc]
    simp [uint32be]

theorem writeAll_ok {ps : List Packet}
    (h : (ps.foldl (fun b p => b.writeGeneric realloc p.type p.puts) b).failed = false) :
    (ps.foldl (fun b p => b.writeGeneric realloc p.type p.puts) b).buf =
      b.buf ++ ps.flatMap Packet.bytes ∧ b.failed = false := by
  induction ps generalizing b with
  | nil => exact ⟨(List.append_nil _).symm, h⟩
  | cons p ps ih =>
    obtain ⟨hbuf, hfirst⟩ := ih h
    obtain ⟨hb, hbuf'⟩ := writeGeneric_ok hfirst
    refine ⟨?_, hb⟩
    rw [List.foldl_cons, hbuf, hbuf', List.flatMap_cons, List.append_assoc]

end PktBuf

/-! ### Reading -/

variable {maxPacketSize : UInt32} {p : Packet} {data rest : Bytes} {hdr : PktHdr}

theorem getHeader_of_incomplete (h : incompleteHeader data = true) :
    getHeader maxPacketSize data = none := by
  match data with
  | [] | [_] | [_, _] | [_, _, _] | [_, _, _, _] =>
    simp [getHeader, getUint32be, specialHeader]
  | [t, _, _, _, _] | [t, _, _, _, _, _] | [t, _, _, _, _, _, _] =>
    obtain rfl : t = 0 := by simpa [incompleteHeader, oldHeaderLen, newHeaderLen] using h
    simp [getHeader, getUint32be, specialHeader]
  | _ :: _ :: _ :: _ :: _ :: _ :: _ :: _ :: _ => simp [incompleteHeader, oldHeaderLen] at h

/-- The header of a regular packet. -/
theorem Packet.Valid.regular (h : p.Valid maxPacketSize) (htype : p.type < 256) :
    ∃ t, p.header = t :: uint32be (4 + p.payload.length) ∧ t ≠ 0 ∧ t.toNat = p.type := by
  have hnat : (UInt8.ofNat p.type).toNat = p.type := by
    rw [UInt8.toNat_ofNat']
    exact Nat.mod_eq_of_lt htype
  have hpos : 0 < p.type := by
    rcases h.type with hbyte | ⟨hcode, -⟩
    · exact hbyte.1
    · exact absurd htype (not_lt_of_mem_specialCodes hcode)
  refine ⟨UInt8.ofNat p.type, if_pos htype, fun hzero => ?_, hnat⟩
  rw [hzero, UInt8.toNat_zero] at hnat
  omega

/-- The header of a special packet. -/
theorem Packet.Valid.special (h : p.Valid maxPacketSize) (htype : ¬p.type < 256) :
    ∃ a b : UInt8, p.header = 0 :: 0 :: a :: b :: uint32be p.type ∧
      a.toNat * 256 + b.toNat = p.len ∧ p.type ∈ specialCodes := by
  obtain ⟨hcode, hshort⟩ : p.type ∈ specialCodes ∧ p.len < 65536 :=
    h.type.resolve_left fun hbyte => htype hbyte.2
  have hlen : p.len = 8 + p.payload.length := by
    simp [len, headerLen, htype, oldHeaderLen]
  refine ⟨UInt8.ofNat (p.len / 2 ^ 8), UInt8.ofNat p.len, ?_, ?_, hcode⟩
  · rw [header, if_neg htype, ← hlen, uint32be, Nat.div_eq_of_lt (by omega),
      Nat.div_eq_of_lt (by omega)]
    rfl
  · simp only [UInt8.toNat_ofNat']
    omega

/-- A code that is known is read as it is written. -/
theorem specialType_of_mem {type : Nat} (h : type ∈ specialCodes) :
    specialType (type % 2 ^ 32) = some type := by
  revert type
  decide

theorem incompleteHeader_eq (h : p.Valid maxPacketSize) (hpre : data <+: p.bytes ++ rest) :
    incompleteHeader data = decide (data.length < p.headerLen) := by
  obtain ⟨t, tail, hheader, ht⟩ : ∃ t tail, p.header = t :: tail ∧ (t = 0 ↔ ¬p.type < 256) := by
    by_cases htype : p.type < 256
    · obtain ⟨t, hheader, hne, -⟩ := h.regular htype
      exact ⟨t, _, hheader, by simp [hne, htype]⟩
    · obtain ⟨a, b, hheader, -⟩ := h.special htype
      exact ⟨0, _, hheader, by simp [htype]⟩
  unfold incompleteHeader Packet.headerLen
  cases data with
  | nil =>
    by_cases htype : p.type < 256 <;> simp [newHeaderLen, oldHeaderLen, htype]
  | cons x xs =>
    rw [Packet.bytes, hheader, List.cons_append, List.cons_append, List.cons_prefix_cons] at hpre
    by_cases htype : p.type < 256 <;>
      simp only [hpre.1, List.head?_cons, Option.some.injEq, ht, htype, newHeaderLen,
        oldHeaderLen, List.length_cons, if_true, if_false] <;> split_ifs <;> simp <;> omega

/-- The header of a packet that is there. -/
theorem getHeader_header (h : p.Valid maxPacketSize) (tail : Bytes) :
    getHeader maxPacketSize (p.header ++ tail) =
      some ⟨p.type, p.len, ((p.header ++ tail).take p.len).drop p.headerLen⟩ := by
  have hcheck : ∀ d, checkLen maxPacketSize p.headerLen d p.type p.len =
      some ⟨p.type, p.len, (d.take p.len).drop p.headerLen⟩ := by
    intro d
    rw [checkLen, if_neg]
    exact not_or.mpr ⟨Nat.not_lt.mpr (Nat.le_add_right _ _), Nat.not_lt.mpr h.max⟩
  rw [← hcheck]
  by_cases htype : p.type < 256
  · obtain ⟨t, hheader, hne, hnat⟩ := h.regular htype
    have hlen : p.headerLen = newHeaderLen := if_pos htype
    have hfits := Nat.lt_of_le_of_lt h.max maxPacketSize.toNat_lt
    have hwire : ((4 + p.payload.length) % 2 ^ 32 + 1) % 2 ^ 32 = p.len := by
      simp only [Packet.len, hlen, newHeaderLen] at hfits ⊢
      omega
    rw [hheader, List.cons_append, getHeader]
    dsimp only
    rw [if_pos hne, getUint32be_uint32be, Option.bind_some, hnat, hwire, hlen]
  · obtain ⟨a, b, hheader, hab, hcode⟩ := h.special htype
    have hread : specialHeader (0 :: a :: b :: (uint32be p.type ++ tail)) =
        some (p.type, p.len) := by
      rw [specialHeader, if_neg (by simp), getUint32be_uint32be, Option.bind_some]
      dsimp only
      rw [specialType_of_mem hcode, hab]
      rfl
    have hlen : p.headerLen = oldHeaderLen := if_neg htype
    rw [hheader]
    simp only [List.cons_append, getHeader, ne_eq, not_true_eq_false, if_false]
    rw [hread, Option.bind_some, hlen]

/-- On a prefix of the bytes of a packet and of what follows, the packet is read or
nothing is. -/
theorem getHeader_prefix (h : p.Valid maxPacketSize) (hpre : data <+: p.bytes ++ rest) :
    getHeader maxPacketSize data =
      if data.length < p.headerLen then none else some (p.read data.length) := by
  split_ifs with hshort
  · refine getHeader_of_incomplete ?_
    rw [incompleteHeader_eq h hpre]
    exact decide_eq_true hshort
  · have htake : data.take p.len = p.bytes.take data.length := by
      have hdata := List.prefix_iff_eq_take.mp hpre
      calc data.take p.len = ((p.bytes ++ rest).take data.length).take p.len := by rw [← hdata]
        _ = ((p.bytes ++ rest).take p.len).take data.length := by
          rw [List.take_take, List.take_take, Nat.min_comm]
        _ = p.bytes.take data.length := by rw [← Packet.length_bytes, List.take_left]
    have hheader : p.header <+: data := by
      refine List.prefix_of_prefix_length_le ?_ hpre (Packet.length_header ▸ Nat.not_lt.mp hshort)
      rw [Packet.bytes, List.append_assoc]
      exact List.prefix_append _ _
    obtain ⟨tail, rfl⟩ := hheader
    rw [getHeader_header h, htake]
    rfl

/-- One packet behind the other. -/
theorem getPackets_bytes {ps : List Packet} (h : ∀ p ∈ ps, p.Valid maxPacketSize) :
    getPackets maxPacketSize ps.length (ps.flatMap Packet.bytes) =
      some (ps.map fun p => ⟨p.type, p.len, p.payload⟩) := by
  induction ps with
  | nil => rfl
  | cons p ps ih =>
    obtain ⟨hp, hps⟩ := List.forall_mem_cons.mp h
    have hread := getHeader_prefix hp (List.prefix_refl (p.bytes ++ ps.flatMap Packet.bytes))
    have hlen : ¬(p.bytes ++ ps.flatMap Packet.bytes).length < p.headerLen := by
      rw [List.length_append, Packet.length_bytes, Packet.len]
      omega
    have hpacket : p.read (p.bytes ++ ps.flatMap Packet.bytes).length =
        ⟨p.type, p.len, p.payload⟩ := by
      rw [Packet.read, List.take_of_length_le (by simp), Packet.bytes, ← Packet.length_header,
        List.drop_left]
    rw [if_neg hlen, hpacket] at hread
    have hne : p.bytes ++ ps.flatMap Packet.bytes ≠ [] := by
      intro hnil
      rw [hnil] at hread
      exact nomatch hread
    obtain ⟨x, xs, hcons⟩ := List.exists_cons_of_ne_nil hne
    rw [List.flatMap_cons, List.length_cons, hcons, getPackets, ← hcons, hread, Option.bind_some,
      ← Packet.length_bytes, List.drop_left, ih hps, Packet.length_bytes]
    · rfl
    · simp

/-! ### Lengths that are refused -/

/-- The length that stands in the first bytes of a packet, its type included, and the size
of its header. -/
def lengthField : Bytes → Option (Nat × Nat)
  | [] => none
  | 0 :: rest => (getUint32be (0 :: rest)).map fun (len, _) => (len, oldHeaderLen)
  | _ :: rest => (getUint32be rest).map fun (len, _) => (len + 1, newHeaderLen)

theorem lengthField_of_getHeader (h : getHeader maxPacketSize data = some hdr) :
    ∃ got, lengthField data = some (hdr.len, got) ∧ got ≤ hdr.len ∧
      hdr.len ≤ maxPacketSize.toNat := by
  have hcheck : ∀ {got type len : Nat}, checkLen maxPacketSize got data type len = some hdr →
      hdr.len = len ∧ got ≤ len ∧ len ≤ maxPacketSize.toNat := by
    intro got type len hlen
    obtain ⟨hbounds, heq⟩ := Option.ite_none_left_eq_some.mp hlen
    cases heq
    exact ⟨rfl, by omega⟩
  unfold getHeader at h
  split at h
  · exact nomatch h
  · rename_i type rest
    split_ifs at h with htype
    · obtain ⟨⟨len, tail⟩, hlen, hrest⟩ := Option.bind_eq_some_iff.mp h
      obtain ⟨heq, hgot, hmax⟩ := hcheck hrest
      have hlt := getUint32be_lt hlen
      simp only [newHeaderLen] at hgot
      refine ⟨newHeaderLen, ?_, heq ▸ hgot, heq ▸ hmax⟩
      have hfield : hdr.len = len + 1 := by omega
      simp [lengthField, hlen, hfield]
    · obtain ⟨⟨special, len⟩, hspecial, hrest⟩ := Option.bind_eq_some_iff.mp h
      obtain ⟨heq, hgot, hmax⟩ := hcheck hrest
      refine ⟨oldHeaderLen, ?_, heq ▸ hgot, heq ▸ hmax⟩
      unfold specialHeader at hspecial
      split at hspecial
      · rename_i second a b rest
        obtain ⟨hsecond, hcode⟩ := Option.ite_none_left_eq_some.mp hspecial
        obtain ⟨⟨code, _⟩, _, hmap⟩ := Option.bind_eq_some_iff.mp hcode
        obtain ⟨_, _, hpair⟩ := Option.map_eq_some_iff.mp hmap
        obtain rfl : type = 0 := not_not.mp htype
        obtain rfl : second = 0 := not_not.mp hsecond
        have hab : a.toNat * 256 + b.toNat = len := congrArg Prod.snd hpair
        simp [lengthField, getUint32be, heq, hab]
      · exact nomatch hspecial

/-! ### The codec -/

/-- **Packets are read as they are written.**  Packets are written to an empty buffer, and
the buffer has not failed.  Then reading it gives exactly these packets, and all of it is
consumed.  On every prefix of what is left behind some of them, `incomplete_header` is
true exactly if there is no full header of the next packet, and then nothing is read;
otherwise that packet is.  And whatever the bytes are, no packet is read whose length
field is less than its header or above `max_packet_size`. -/
theorem packet_codec {realloc : Nat → Bool} {b : PktBuf} {ps : List Packet}
    (hempty : b.buf = []) (hvalid : ∀ p ∈ ps, p.Valid maxPacketSize)
    (hok : (ps.foldl (fun b p => b.writeGeneric realloc p.type p.puts) b).failed = false) :
    getPackets maxPacketSize ps.length
        (ps.foldl (fun b p => b.writeGeneric realloc p.type p.puts) b).buf =
      some (ps.map fun p => ⟨p.type, p.len, p.payload⟩) ∧
    (∀ before after data, ps = before ++ after →
      (before.flatMap Packet.bytes ++ data) <+:
        (ps.foldl (fun b p => b.writeGeneric realloc p.type p.puts) b).buf →
      incompleteHeader data = after.head?.all (fun p => data.length < p.headerLen) ∧
        getHeader maxPacketSize data = after.head?.bind fun p =>
          if data.length < p.headerLen then none else some (p.read data.length)) ∧
    ∀ data hdr, getHeader maxPacketSize data = some hdr →
      ∃ got, lengthField data = some (hdr.len, got) ∧ got ≤ hdr.len ∧
        hdr.len ≤ maxPacketSize.toNat := by
  obtain ⟨hbuf, -⟩ := PktBuf.writeAll_ok hok
  rw [hempty, List.nil_append] at hbuf
  rw [hbuf]
  refine ⟨getPackets_bytes hvalid, ?_, fun data hdr => lengthField_of_getHeader⟩
  rintro before after data rfl hpre
  rw [List.flatMap_append, List.prefix_append_right_inj] at hpre
  cases after with
  | nil =>
    rw [List.prefix_nil.mp hpre]
    exact ⟨rfl, rfl⟩
  | cons p after =>
    have hp := hvalid p (List.mem_append_right _ List.mem_cons_self)
    exact ⟨incompleteHeader_eq hp hpre, getHeader_prefix hp hpre⟩

theorem packet_codec_startup :
    ∃ b : PktBuf, ([⟨0x30000, [.string [1]]⟩, ⟨81, [.uint32 7]⟩] : List Packet).foldl
        (fun b p => b.writeGeneric (fun _ => true) p.type p.puts) { bufLen := 1 } = b ∧
      getPackets 100 2 b.buf = some [⟨0x30000, 10, [1, 0]⟩, ⟨81, 9, [0, 0, 0, 7]⟩] := by
  refine ⟨_, rfl, ?_⟩
  have hcodec := (@packet_codec 100 (fun _ => true) { bufLen := 1 }
    [⟨0x30000, [.string [1]]⟩, ⟨81, [.uint32 7]⟩] rfl ?_ (by decide)).1
  · exact hcodec
  · intro p hp
    simp only [List.mem_cons, List.not_mem_nil, or_false] at hp
    rcases hp with rfl | rfl
    · exact ⟨.inr (by decide), by decide⟩
    · exact ⟨.inl (by decide), by decide⟩

end PgBouncer.Wire
