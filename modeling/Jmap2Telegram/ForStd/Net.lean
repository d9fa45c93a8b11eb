import Mathlib.Data.Nat.Bitwise
import Mathlib.Tactic.Common

/-!
# Internet addresses

The addresses of `std::net` and its predicates on them, and address blocks in CIDR form, which say
what the predicates stand for.

* `Cidr.and_netmask`: masking an address clears its host bits.
* `Cidr.contains_append`: a block whose prefix is in the high part of an address is decided by it.
* `Ipv4Addr.isPrivate_iff`, …: the blocks of the predicates.
-/

/-- A block of `w`-bit addresses: those that have the first `length` bits of `network`. -/
structure Cidr (w : ℕ) where
  network : ℕ
  length : ℕ

namespace Cidr

variable {w : ℕ}

/-- Whether an address is in the block. -/
def Contains (block : Cidr w) (address : ℕ) : Prop :=
  address / 2 ^ (w - block.length) = block.network / 2 ^ (w - block.length)

instance (block : Cidr w) (address : ℕ) : Decidable (block.Contains address) :=
  inferInstanceAs (Decidable (_ = _))

/-- A block whose network is in a larger block is part of it. -/
theorem Contains.mono {block block' : Cidr w} {address : ℕ} (hlength : block'.length ≤ block.length)
    (hnetwork : block'.Contains block.network) (h : block.Contains address) :
    block'.Contains address := by
  have hpow : 2 ^ (w - block'.length) =
      2 ^ (w - block.length) * 2 ^ (w - block'.length - (w - block.length)) := by
    rw [← pow_add]
    congr 1
    omega
  rw [Contains] at h hnetwork ⊢
  rw [← hnetwork, hpow, ← Nat.div_div_eq_div_mul, h, Nat.div_div_eq_div_mul]

/-- Masking an address clears its host bits. -/
theorem and_netmask {k address : ℕ} (hk : k ≤ w) (haddress : address < 2 ^ w) :
    address &&& (2 ^ w - 2 ^ k) = address / 2 ^ k * 2 ^ k := by
  have hmask : 2 ^ w - 2 ^ k = (2 ^ (w - k) - 1) * 2 ^ k := by
    rw [Nat.sub_mul, ← pow_add, Nat.sub_add_cancel hk, one_mul]
  have hhigh : (address &&& (2 ^ w - 2 ^ k)) / 2 ^ k = address / 2 ^ k := by
    have hlt : address / 2 ^ k < 2 ^ (w - k) := by
      rw [Nat.div_lt_iff_lt_mul (Nat.two_pow_pos k), ← pow_add, Nat.sub_add_cancel hk]
      exact haddress
    rw [← Nat.shiftRight_eq_div_pow, Nat.shiftRight_and_distrib, Nat.shiftRight_eq_div_pow,
      Nat.shiftRight_eq_div_pow, hmask, Nat.mul_div_cancel _ (Nat.two_pow_pos k),
      Nat.and_two_pow_sub_one_of_lt_two_pow hlt]
  have hlow : (address &&& (2 ^ w - 2 ^ k)) % 2 ^ k = 0 := by
    rw [Nat.and_mod_two_pow, hmask, Nat.mul_mod_left, Nat.and_zero]
  rw [← hhigh, Nat.div_mul_cancel (Nat.dvd_of_mod_eq_zero hlow)]

/-- A comparison of masked bits tests for a block. -/
theorem and_netmask_eq_iff {k address network : ℕ} (hk : k ≤ w) (haddress : address < 2 ^ w)
    (hnetwork : network % 2 ^ k = 0) :
    address &&& (2 ^ w - 2 ^ k) = network ↔ Contains (w := w) ⟨network, w - k⟩ address := by
  have hexact : network / 2 ^ k * 2 ^ k = network :=
    Nat.div_mul_cancel (Nat.dvd_of_mod_eq_zero hnetwork)
  rw [and_netmask hk haddress, Contains, Nat.sub_sub_self hk]
  constructor
  · intro h
    rw [← h, Nat.mul_div_cancel _ (Nat.two_pow_pos k)]
  · intro h
    rw [h, hexact]

/-- A block whose prefix is in the high part of an address is decided by it. -/
theorem contains_append {low length network high rest : ℕ} (hlength : length ≤ w)
    (hrest : rest < 2 ^ low) :
    Contains (w := w + low) ⟨network * 2 ^ low, length⟩ (high * 2 ^ low + rest) ↔
      Contains (w := w) ⟨network, length⟩ high := by
  have hpow : 2 ^ (w + low - length) = 2 ^ low * 2 ^ (w - length) := by
    rw [← pow_add]
    congr 1
    omega
  have hhigh : (high * 2 ^ low + rest) / 2 ^ low = high := by
    rw [Nat.add_comm, Nat.add_mul_div_right _ _ (Nat.two_pow_pos low), Nat.div_eq_of_lt hrest,
      Nat.zero_add]
  rw [Contains, Contains, hpow, ← Nat.div_div_eq_div_mul, ← Nat.div_div_eq_div_mul, hhigh,
    Nat.mul_div_cancel _ (Nat.two_pow_pos low)]

end Cidr

/-! ### IPv4 -/

/-- `Ipv4Addr`, by its octets. -/
structure Ipv4Addr where
  a : UInt8
  b : UInt8
  c : UInt8
  d : UInt8
  deriving DecidableEq

namespace Ipv4Addr

variable (ip : Ipv4Addr)

/-- `to_bits`. -/
def toBits : ℕ :=
  ip.a.toNat * 2 ^ 24 + ip.b.toNat * 2 ^ 16 + ip.c.toNat * 2 ^ 8 + ip.d.toNat

/-- The address block `ip/length`. -/
def block (length : ℕ) : Cidr 32 := ⟨ip.toBits, length⟩

/-- The address is in one of the blocks. -/
def In (blocks : List (Cidr 32)) : Prop := ∃ block ∈ blocks, block.Contains ip.toBits

instance (blocks : List (Cidr 32)) : Decidable (ip.In blocks) :=
  inferInstanceAs (Decidable (∃ block ∈ blocks, block.Contains ip.toBits))

/-- `is_unspecified`. -/
def isUnspecified : Bool := ip.toBits == 0

/-- `is_loopback`. -/
def isLoopback : Bool := ip.a == 127

/-- `is_private`. -/
def isPrivate : Bool :=
  ip.a == 10 || (ip.a == 172 && (decide (16 ≤ ip.b) && decide (ip.b ≤ 31))) ||
    (ip.a == 192 && ip.b == 168)

/-- `is_link_local`. -/
def isLinkLocal : Bool := ip.a == 169 && ip.b == 254

/-- `is_multicast`. -/
def isMulticast : Bool := decide (224 ≤ ip.a) && decide (ip.a ≤ 239)

/-- `is_broadcast`. -/
def isBroadcast : Bool := ip.a == 255 && ip.b == 255 && ip.c == 255 && ip.d == 255

/-- `is_documentation`. -/
def isDocumentation : Bool :=
  (ip.a == 192 && ip.b == 0 && ip.c == 2) || (ip.a == 198 && ip.b == 51 && ip.c == 100) ||
    (ip.a == 203 && ip.b == 0 && ip.c == 113)

/-! ### The blocks of the predicates -/

/-- The blocks of the private addresses. -/
def privateBlocks : List (Cidr 32) :=
  [(Ipv4Addr.mk 10 0 0 0).block 8, (Ipv4Addr.mk 172 16 0 0).block 12,
    (Ipv4Addr.mk 192 168 0 0).block 16]

/-- The blocks of the addresses for documentation. -/
def documentationBlocks : List (Cidr 32) :=
  [(Ipv4Addr.mk 192 0 2 0).block 24, (Ipv4Addr.mk 198 51 100 0).block 24,
    (Ipv4Addr.mk 203 0 113 0).block 24]

variable {ip}

/-- What the octets of an address are as numbers. -/
theorem octets_lt : ip.a.toNat < 256 ∧ ip.b.toNat < 256 ∧ ip.c.toNat < 256 ∧ ip.d.toNat < 256 :=
  ⟨ip.a.toNat_lt, ip.b.toNat_lt, ip.c.toNat_lt, ip.d.toNat_lt⟩

theorem in_cons {block : Cidr 32} {blocks : List (Cidr 32)} :
    ip.In (block :: blocks) ↔ block.Contains ip.toBits ∨ ip.In blocks := by
  simp [In]

theorem in_nil : ip.In [] ↔ False := by simp [In]

/-- Membership in a block, on the octets. -/
theorem block_contains (net : Ipv4Addr) (length : ℕ) :
    (net.block length).Contains ip.toBits ↔
      (ip.a.toNat * 16777216 + ip.b.toNat * 65536 + ip.c.toNat * 256 + ip.d.toNat) /
          2 ^ (32 - length) =
        (net.a.toNat * 16777216 + net.b.toNat * 65536 + net.c.toNat * 256 + net.d.toNat) /
          2 ^ (32 - length) := Iff.rfl

theorem isUnspecified_iff : ip.isUnspecified = true ↔ ip.In [(Ipv4Addr.mk 0 0 0 0).block 32] := by
  simp [isUnspecified, in_cons, in_nil, block, Cidr.Contains, toBits]

theorem isLoopback_iff : ip.isLoopback = true ↔ ip.In [(Ipv4Addr.mk 127 0 0 0).block 8] := by
  obtain ⟨ha, hb, hc, hd⟩ := ip.octets_lt
  simp only [isLoopback, beq_iff_eq, ← UInt8.toNat_inj, in_cons, in_nil, or_false, block_contains,
    UInt8.reduceToNat, Nat.reduceSub, Nat.reducePow, Nat.reduceMul, Nat.reduceAdd, Nat.reduceDiv]
  omega

theorem isPrivate_iff : ip.isPrivate = true ↔ ip.In privateBlocks := by
  obtain ⟨ha, hb, hc, hd⟩ := ip.octets_lt
  simp only [isPrivate, privateBlocks, Bool.or_eq_true, Bool.and_eq_true, decide_eq_true_eq,
    beq_iff_eq, ← UInt8.toNat_inj, UInt8.le_iff_toNat_le, in_cons, in_nil, or_false, block_contains,
    UInt8.reduceToNat, Nat.reduceSub, Nat.reducePow, Nat.reduceMul, Nat.reduceAdd, Nat.reduceDiv]
  omega

theorem isLinkLocal_iff :
    ip.isLinkLocal = true ↔ ip.In [(Ipv4Addr.mk 169 254 0 0).block 16] := by
  obtain ⟨ha, hb, hc, hd⟩ := ip.octets_lt
  simp only [isLinkLocal, Bool.and_eq_true, beq_iff_eq, ← UInt8.toNat_inj, in_cons, in_nil,
    or_false, block_contains, UInt8.reduceToNat, Nat.reduceSub, Nat.reducePow, Nat.reduceMul,
    Nat.reduceAdd, Nat.reduceDiv]
  omega

theorem isMulticast_iff : ip.isMulticast = true ↔ ip.In [(Ipv4Addr.mk 224 0 0 0).block 4] := by
  obtain ⟨ha, hb, hc, hd⟩ := ip.octets_lt
  simp only [isMulticast, Bool.and_eq_true, decide_eq_true_eq, UInt8.le_iff_toNat_le, in_cons,
    in_nil, or_false, block_contains, UInt8.reduceToNat, Nat.reduceSub, Nat.reducePow,
    Nat.reduceMul, Nat.reduceAdd, Nat.reduceDiv]
  omega

theorem isBroadcast_iff :
    ip.isBroadcast = true ↔ ip.In [(Ipv4Addr.mk 255 255 255 255).block 32] := by
  obtain ⟨ha, hb, hc, hd⟩ := ip.octets_lt
  simp only [isBroadcast, Bool.and_eq_true, beq_iff_eq, ← UInt8.toNat_inj, in_cons, in_nil,
    or_false, block_contains, UInt8.reduceToNat, Nat.reduceSub, Nat.reducePow, Nat.reduceMul,
    Nat.reduceAdd, Nat.reduceDiv]
  omega

theorem isDocumentation_iff : ip.isDocumentation = true ↔ ip.In documentationBlocks := by
  obtain ⟨ha, hb, hc, hd⟩ := ip.octets_lt
  simp only [isDocumentation, documentationBlocks, Bool.or_eq_true, Bool.and_eq_true, beq_iff_eq,
    ← UInt8.toNat_inj, in_cons, in_nil, or_false, block_contains, UInt8.reduceToNat,
    Nat.reduceSub, Nat.reducePow, Nat.reduceMul, Nat.reduceAdd, Nat.reduceDiv]
  omega

end Ipv4Addr

/-! ### IPv6 -/

/-- `Ipv6Addr`, by its segments. -/
structure Ipv6Addr where
  s0 : UInt16
  s1 : UInt16
  s2 : UInt16
  s3 : UInt16
  s4 : UInt16
  s5 : UInt16
  s6 : UInt16
  s7 : UInt16
  deriving DecidableEq

/-- The address whose octets two segments hold. -/
def Ipv4Addr.ofSegments (s t : UInt16) : Ipv4Addr :=
  ⟨(s >>> 8).toUInt8, s.toUInt8, (t >>> 8).toUInt8, t.toUInt8⟩

namespace Ipv6Addr

variable (ip : Ipv6Addr)

/-- The bits after the first segment. -/
def tailBits : ℕ :=
  ip.s1.toNat * 2 ^ 96 + ip.s2.toNat * 2 ^ 80 + ip.s3.toNat * 2 ^ 64 + ip.s4.toNat * 2 ^ 48 +
    ip.s5.toNat * 2 ^ 32 + ip.s6.toNat * 2 ^ 16 + ip.s7.toNat

/-- `to_bits`. -/
def toBits : ℕ := ip.s0.toNat * 2 ^ 112 + ip.tailBits

/-- The address block `ip/length`. -/
def block (length : ℕ) : Cidr 128 := ⟨ip.toBits, length⟩

/-- The address is in one of the blocks. -/
def In (blocks : List (Cidr 128)) : Prop := ∃ block ∈ blocks, block.Contains ip.toBits

instance (blocks : List (Cidr 128)) : Decidable (ip.In blocks) :=
  inferInstanceAs (Decidable (∃ block ∈ blocks, block.Contains ip.toBits))

/-- The IPv4 address in the last 32 bits. -/
def lastIpv4 : Ipv4Addr := .ofSegments ip.s6 ip.s7

/-- The IPv4 address after the first 16 bits. -/
def secondIpv4 : Ipv4Addr := .ofSegments ip.s1 ip.s2

/-- `is_unspecified`. -/
def isUnspecified : Bool := ip.toBits == 0

/-- `is_loopback`. -/
def isLoopback : Bool := ip.toBits == 1

/-- `is_multicast`. -/
def isMulticast : Bool := (ip.s0 &&& 0xff00) == 0xff00

/-- `to_ipv4_mapped`. -/
def toIpv4Mapped : Option Ipv4Addr :=
  if ip.s0 == 0 && ip.s1 == 0 && ip.s2 == 0 && ip.s3 == 0 && ip.s4 == 0 && ip.s5 == 0xffff then
    some ip.lastIpv4
  else none

/-! ### The blocks of the predicates -/

variable {ip}

theorem in_cons {block : Cidr 128} {blocks : List (Cidr 128)} :
    ip.In (block :: blocks) ↔ block.Contains ip.toBits ∨ ip.In blocks := by
  simp [In]

theorem in_nil : ip.In [] ↔ False := by simp [In]

theorem tailBits_lt : ip.tailBits < 2 ^ 112 := by
  have h1 := ip.s1.toNat_lt
  have h2 := ip.s2.toNat_lt
  have h3 := ip.s3.toNat_lt
  have h4 := ip.s4.toNat_lt
  have h5 := ip.s5.toNat_lt
  have h6 := ip.s6.toNat_lt
  have h7 := ip.s7.toNat_lt
  rw [tailBits]
  omega

/-- A mask on the first segment tests for a block. -/
theorem mask_eq_iff {k : ℕ} (hk : k ≤ 16) {mask network : UInt16}
    (hmask : mask.toNat = 2 ^ 16 - 2 ^ k) (hnetwork : network.toNat % 2 ^ k = 0) :
    ip.s0 &&& mask = network ↔ ip.In [(Ipv6Addr.mk network 0 0 0 0 0 0 0).block (16 - k)] := by
  have hbits : (Ipv6Addr.mk network 0 0 0 0 0 0 0).toBits = network.toNat * 2 ^ 112 := by
    simp [toBits, tailBits]
  rw [in_cons, in_nil, or_false, block, hbits, ← UInt16.toNat_inj, UInt16.toNat_and, hmask,
    Cidr.and_netmask_eq_iff hk ip.s0.toNat_lt hnetwork]
  exact (Cidr.contains_append (Nat.sub_le 16 k) ip.tailBits_lt).symm

theorem isMulticast_iff :
    ip.isMulticast = true ↔ ip.In [(Ipv6Addr.mk 0xff00 0 0 0 0 0 0 0).block 8] := by
  rw [isMulticast, beq_iff_eq]
  exact mask_eq_iff (k := 8) (by decide) rfl rfl

theorem isUnspecified_iff :
    ip.isUnspecified = true ↔ ip.In [(Ipv6Addr.mk 0 0 0 0 0 0 0 0).block 128] := by
  simp [isUnspecified, in_cons, in_nil, block, Cidr.Contains, toBits, tailBits]

theorem isLoopback_iff :
    ip.isLoopback = true ↔ ip.In [(Ipv6Addr.mk 0 0 0 0 0 0 0 1).block 128] := by
  simp [isLoopback, in_cons, in_nil, block, Cidr.Contains, toBits, tailBits]

/-- The mapped addresses are those of `::ffff:0:0/96`. -/
theorem toIpv4Mapped_eq_some {v4 : Ipv4Addr} : ip.toIpv4Mapped = some v4 ↔
    ip.In [(Ipv6Addr.mk 0 0 0 0 0 0xffff 0 0).block 96] ∧ ip.lastIpv4 = v4 := by
  have h1 := ip.s1.toNat_lt
  have h2 := ip.s2.toNat_lt
  have h3 := ip.s3.toNat_lt
  have h4 := ip.s4.toNat_lt
  have h5 := ip.s5.toNat_lt
  have h6 := ip.s6.toNat_lt
  have h7 := ip.s7.toNat_lt
  have hblock : (ip.s0 == 0 && ip.s1 == 0 && ip.s2 == 0 && ip.s3 == 0 && ip.s4 == 0 &&
      ip.s5 == 0xffff) = true ↔ ip.In [(Ipv6Addr.mk 0 0 0 0 0 0xffff 0 0).block 96] := by
    simp only [Bool.and_eq_true, beq_iff_eq, ← UInt16.toNat_inj, in_cons, in_nil, or_false, block,
      Cidr.Contains, toBits, tailBits, UInt16.reduceToNat, Nat.reduceSub, Nat.reducePow,
      Nat.reduceMul, Nat.reduceAdd, Nat.reduceDiv]
    omega
  rw [toIpv4Mapped, Option.ite_none_right_eq_some, hblock, Option.some.injEq]

end Ipv6Addr

/-- `IpAddr`. -/
inductive IpAddr where
  | v4 (ip : Ipv4Addr)
  | v6 (ip : Ipv6Addr)
  deriving DecidableEq
