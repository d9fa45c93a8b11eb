import Jmap2Telegram.ForStd.Net

/-!
# The guard on server addresses

`/login` and `/accounts` connect to a server that a chat names, so `connect` (`jmap.rs`) first
resolves its host and refuses every address that is not public. `Reserved` says which addresses are
not: the special-purpose blocks of both families, and the IPv6 addresses that stand for an IPv4
address of such a block. The guard knows a part of them.

* `isDisallowedHost_iff`: the addresses the guard refuses.
* `reserved_iff`: the addresses that are not public are those and the ones it lets through.
* `passes_public_iff`: so an answer that passes is all public unless it has one of the latter.
-/

namespace Jmap2Telegram

/-- The errors of `assert_public_host`; the address is written into the message as text. -/
inductive JmapError where
  | invalidUrl
  | privateHost (host : String) (ip : IpAddr)
  | unreachable
  deriving DecidableEq

/-- What `assert_public_host` calls: the URL parser, up to the port of the URL, if it has one, and
the resolver. -/
structure HostLookup where
  portOrKnownDefault : String → Option (Option UInt16)
  lookupHost : String → UInt16 → Option (List IpAddr)

/-- `is_disallowed_v4`. -/
def isDisallowedV4 (v4 : Ipv4Addr) : Bool :=
  v4.isPrivate || v4.isLoopback || v4.isLinkLocal || v4.isUnspecified || v4.isMulticast ||
    v4.isBroadcast || v4.isDocumentation || (v4.a == 100 && (v4.b &&& 0b11000000) == 0b01000000)

/-- `is_disallowed_host`. -/
def isDisallowedHost : IpAddr → Bool
  | .v4 v4 => isDisallowedV4 v4
  | .v6 v6 =>
    match v6.toIpv4Mapped with
    | some mapped => isDisallowedV4 mapped
    | none =>
      v6.isLoopback || v6.isUnspecified || v6.isMulticast || (v6.s0 &&& 0xfe00) == 0xfc00 ||
        (v6.s0 &&& 0xffc0) == 0xfe80

/-- The loop of `assert_public_host` over the addresses. -/
def checkAddrs (host : String) (resolvedAny : Bool) : List IpAddr → Except JmapError Unit
  | [] => if resolvedAny then .ok () else .error .unreachable
  | ip :: addrs =>
    if isDisallowedHost ip then .error (.privateHost host ip) else checkAddrs host true addrs

/-- `assert_public_host`. -/
def assertPublicHost (lookup : HostLookup) (host serverUrl : String) : Except JmapError Unit :=
  match lookup.portOrKnownDefault serverUrl with
  | none => .error .invalidUrl
  | some port =>
    match lookup.lookupHost host (port.getD 443) with
    | none => .error .unreachable
    | some addrs => checkAddrs host false addrs

/-! ### Addresses that are not public -/

/-- The IPv4 blocks that are not public. -/
def reservedV4 : List (Cidr 32) :=
  [(Ipv4Addr.mk 0 0 0 0).block 8, (Ipv4Addr.mk 10 0 0 0).block 8,
    (Ipv4Addr.mk 100 64 0 0).block 10, (Ipv4Addr.mk 127 0 0 0).block 8,
    (Ipv4Addr.mk 169 254 0 0).block 16, (Ipv4Addr.mk 172 16 0 0).block 12,
    (Ipv4Addr.mk 192 0 0 0).block 24, (Ipv4Addr.mk 192 0 2 0).block 24,
    (Ipv4Addr.mk 192 168 0 0).block 16, (Ipv4Addr.mk 198 18 0 0).block 15,
    (Ipv4Addr.mk 198 51 100 0).block 24, (Ipv4Addr.mk 203 0 113 0).block 24,
    (Ipv4Addr.mk 224 0 0 0).block 4, (Ipv4Addr.mk 240 0 0 0).block 4]

/-- The IPv6 blocks that are not public. -/
def reservedV6 : List (Cidr 128) :=
  [(Ipv6Addr.mk 0 0 0 0 0 0 0 0).block 128, (Ipv6Addr.mk 0 0 0 0 0 0 0 1).block 128,
    (Ipv6Addr.mk 0xfc00 0 0 0 0 0 0 0).block 7, (Ipv6Addr.mk 0xfe80 0 0 0 0 0 0 0).block 10,
    (Ipv6Addr.mk 0xfec0 0 0 0 0 0 0 0).block 10, (Ipv6Addr.mk 0xff00 0 0 0 0 0 0 0).block 8,
    (Ipv6Addr.mk 0x2001 0xdb8 0 0 0 0 0 0).block 32]

/-- The IPv6 blocks whose addresses carry an IPv4 address: the mapped, the compatible and the NAT64
addresses in their last 32 bits, the 6to4 addresses after their first 16. -/
def mappedBlock : Cidr 128 := (Ipv6Addr.mk 0 0 0 0 0 0xffff 0 0).block 96

@[inherit_doc mappedBlock]
def compatibleBlock : Cidr 128 := (Ipv6Addr.mk 0 0 0 0 0 0 0 0).block 96

@[inherit_doc mappedBlock]
def nat64Block : Cidr 128 := (Ipv6Addr.mk 0x64 0xff9b 0 0 0 0 0 0).block 96

@[inherit_doc mappedBlock]
def sixToFourBlock : Cidr 128 := (Ipv6Addr.mk 0x2002 0 0 0 0 0 0 0).block 16

/-- An address that is not public. -/
def Reserved : IpAddr → Prop
  | .v4 ip => ip.In reservedV4
  | .v6 ip =>
    ip.In reservedV6 ∨
      ip.In [mappedBlock, compatibleBlock, nat64Block] ∧
          ip.lastIpv4.In reservedV4 ∨
        ip.In [sixToFourBlock] ∧ ip.secondIpv4.In reservedV4

/-! ### Addresses the guard refuses -/

/-- The IPv4 blocks the guard knows. -/
def knownV4 : List (Cidr 32) :=
  [(Ipv4Addr.mk 10 0 0 0).block 8, (Ipv4Addr.mk 172 16 0 0).block 12,
    (Ipv4Addr.mk 192 168 0 0).block 16, (Ipv4Addr.mk 127 0 0 0).block 8,
    (Ipv4Addr.mk 169 254 0 0).block 16, (Ipv4Addr.mk 0 0 0 0).block 32,
    (Ipv4Addr.mk 224 0 0 0).block 4, (Ipv4Addr.mk 255 255 255 255).block 32,
    (Ipv4Addr.mk 192 0 2 0).block 24, (Ipv4Addr.mk 198 51 100 0).block 24,
    (Ipv4Addr.mk 203 0 113 0).block 24, (Ipv4Addr.mk 100 64 0 0).block 10]

/-- The IPv6 blocks the guard knows. -/
def knownV6 : List (Cidr 128) :=
  [(Ipv6Addr.mk 0 0 0 0 0 0 0 1).block 128, (Ipv6Addr.mk 0 0 0 0 0 0 0 0).block 128,
    (Ipv6Addr.mk 0xff00 0 0 0 0 0 0 0).block 8, (Ipv6Addr.mk 0xfc00 0 0 0 0 0 0 0).block 7,
    (Ipv6Addr.mk 0xfe80 0 0 0 0 0 0 0).block 10]

/-- An address the guard knows, as it is or mapped. -/
def KnownToGuard : IpAddr → Prop
  | .v4 ip => ip.In knownV4
  | .v6 ip =>
    ip.In knownV6 ∨
      ip.In [mappedBlock] ∧ ip.lastIpv4.In knownV4

/-- The IPv4 addresses that are not public and that the guard does not know: `0.0.0.0/8` but for
`0.0.0.0`, `192.0.0.0/24`, `198.18.0.0/15`, and `240.0.0.0/4` but for `255.255.255.255`. -/
def UnknownV4 (ip : Ipv4Addr) : Prop :=
  ip.In [(Ipv4Addr.mk 0 0 0 0).block 8, (Ipv4Addr.mk 192 0 0 0).block 24,
      (Ipv4Addr.mk 198 18 0 0).block 15, (Ipv4Addr.mk 240 0 0 0).block 4] ∧
    ¬ip.In [(Ipv4Addr.mk 0 0 0 0).block 32, (Ipv4Addr.mk 255 255 255 255).block 32]

/-- The addresses that are not public and that the guard does not know: those IPv4 addresses, as
they are or mapped; `fec0::/10` and `2001:db8::/32`; and the other IPv6 addresses that carry an IPv4
address that is not public, but for `::` and `::1`. -/
def UnknownToGuard : IpAddr → Prop
  | .v4 ip => UnknownV4 ip
  | .v6 ip =>
    ip.In [mappedBlock] ∧ UnknownV4 ip.lastIpv4 ∨
      ip.In [(Ipv6Addr.mk 0xfec0 0 0 0 0 0 0 0).block 10,
        (Ipv6Addr.mk 0x2001 0xdb8 0 0 0 0 0 0).block 32] ∨
      ip.In [compatibleBlock, nat64Block] ∧
          ip.lastIpv4.In reservedV4 ∧
          ¬ip.In [(Ipv6Addr.mk 0 0 0 0 0 0 0 0).block 128,
            (Ipv6Addr.mk 0 0 0 0 0 0 0 1).block 128] ∨
        ip.In [sixToFourBlock] ∧ ip.secondIpv4.In reservedV4

theorem isDisallowedV4_iff (v4 : Ipv4Addr) :
    isDisallowedV4 v4 = true ↔ v4.In knownV4 := by
  have hshared : (v4.a == 100 && (v4.b &&& 0b11000000) == 0b01000000) = true ↔
      v4.In [(Ipv4Addr.mk 100 64 0 0).block 10] := by
    have hmask : v4.b.toNat &&& (2 ^ 8 - 2 ^ 6) = 64 ↔ _ :=
      Cidr.and_netmask_eq_iff (by decide) v4.b.toNat_lt rfl
    obtain ⟨ha, hb, hc, hd⟩ := v4.octets_lt
    simp only [Cidr.Contains, Nat.reduceSub, Nat.reducePow, Nat.reduceDiv] at hmask
    simp only [Bool.and_eq_true, beq_iff_eq, ← UInt8.toNat_inj, UInt8.toNat_and,
      UInt8.reduceToNat, hmask, Ipv4Addr.in_cons, Ipv4Addr.in_nil, or_false,
      Ipv4Addr.block_contains, Nat.reduceSub, Nat.reducePow, Nat.reduceMul, Nat.reduceAdd,
      Nat.reduceDiv]
    omega
  simp only [isDisallowedV4, Bool.or_eq_true, hshared, Ipv4Addr.isPrivate_iff,
    Ipv4Addr.isLoopback_iff, Ipv4Addr.isLinkLocal_iff, Ipv4Addr.isUnspecified_iff,
    Ipv4Addr.isMulticast_iff, Ipv4Addr.isBroadcast_iff, Ipv4Addr.isDocumentation_iff,
    knownV4, Ipv4Addr.privateBlocks, Ipv4Addr.documentationBlocks,
    Ipv4Addr.in_cons, Ipv4Addr.in_nil, or_false, or_assoc]

/-- A mapped address is in none of the IPv6 blocks the guard knows. -/
theorem not_in_knownV6 {v6 : Ipv6Addr} (h : v6.In [mappedBlock]) : ¬v6.In knownV6 := by
  simp only [mappedBlock, knownV6, Ipv6Addr.in_cons, Ipv6Addr.in_nil, or_false, Ipv6Addr.block,
    Cidr.Contains, Ipv6Addr.toBits, Ipv6Addr.tailBits, UInt16.reduceToNat, Nat.reduceSub,
    Nat.reducePow, Nat.reduceMul, Nat.reduceAdd, Nat.reduceDiv] at h ⊢
  omega

/-- The masks on the first segment, with the other predicates. -/
theorem isDisallowedV6_iff (v6 : Ipv6Addr) :
    (v6.isLoopback || v6.isUnspecified || v6.isMulticast || (v6.s0 &&& 0xfe00) == 0xfc00 ||
      (v6.s0 &&& 0xffc0) == 0xfe80) = true ↔ v6.In knownV6 := by
  have hlocal : (v6.s0 &&& 0xfe00) = 0xfc00 ↔ _ :=
    Ipv6Addr.mask_eq_iff (k := 9) (by decide) rfl rfl
  have hlink : (v6.s0 &&& 0xffc0) = 0xfe80 ↔ _ :=
    Ipv6Addr.mask_eq_iff (k := 6) (by decide) rfl rfl
  simp only [Bool.or_eq_true, beq_iff_eq, hlocal, hlink, Ipv6Addr.isLoopback_iff,
    Ipv6Addr.isUnspecified_iff, Ipv6Addr.isMulticast_iff, knownV6, Ipv6Addr.in_cons,
    Ipv6Addr.in_nil, or_false, or_assoc, Nat.reduceSub]

/-- **The addresses the guard refuses.** -/
theorem isDisallowedHost_iff (ip : IpAddr) : isDisallowedHost ip = true ↔ KnownToGuard ip := by
  cases ip with
  | v4 v4 => exact isDisallowedV4_iff v4
  | v6 v6 =>
    rw [isDisallowedHost, KnownToGuard]
    rcases hmapped : v6.toIpv4Mapped with - | mapped
    · have hnot : ¬v6.In [mappedBlock] := by
        intro h
        rw [Ipv6Addr.toIpv4Mapped_eq_some.mpr ⟨h, rfl⟩] at hmapped
        cases hmapped
      rw [or_iff_left fun h => hnot h.1]
      exact isDisallowedV6_iff v6
    · obtain ⟨hin, rfl⟩ := Ipv6Addr.toIpv4Mapped_eq_some.mp hmapped
      rw [or_iff_right (not_in_knownV6 hin)]
      exact (isDisallowedV4_iff _).trans (and_iff_right hin).symm

/-! ### What the guard does not know -/

/-- The IPv4 addresses that are not public. -/
theorem in_reservedV4_iff (v4 : Ipv4Addr) : v4.In reservedV4 ↔ v4.In knownV4 ∨ UnknownV4 v4 := by
  -- the two single addresses the guard knows are in blocks it does not know
  have hzero : (Ipv4Addr.block ⟨0, 0, 0, 0⟩ 32).Contains v4.toBits →
      (Ipv4Addr.block ⟨0, 0, 0, 0⟩ 8).Contains v4.toBits :=
    Cidr.Contains.mono (by decide) (by decide)
  have hbroadcast : (Ipv4Addr.block ⟨255, 255, 255, 255⟩ 32).Contains v4.toBits →
      (Ipv4Addr.block ⟨240, 0, 0, 0⟩ 4).Contains v4.toBits :=
    Cidr.Contains.mono (by decide) (by decide)
  simp only [reservedV4, knownV4, UnknownV4, Ipv4Addr.in_cons, Ipv4Addr.in_nil, or_false]
  constructor
  · intro h
    by_cases hz : (Ipv4Addr.block ⟨0, 0, 0, 0⟩ 32).Contains v4.toBits
    · simp only [hz, true_or, or_true]
    · by_cases hb : (Ipv4Addr.block ⟨255, 255, 255, 255⟩ 32).Contains v4.toBits
      · simp only [hb, true_or, or_true]
      · simp only [hz, hb, false_or, or_false, not_false_eq_true, and_true]
        rcases h with h | h | h | h | h | h | h | h | h | h | h | h | h | h <;>
          simp only [h, true_or, or_true]
  · rintro ((h | h | h | h | h | h | h | h | h | h | h | h) | ⟨h | h | h | h, -⟩)
    case inl.inr.inr.inr.inr.inr.inl => simp only [hzero h, true_or]
    case inl.inr.inr.inr.inr.inr.inr.inr.inl => simp only [hbroadcast h, or_true]
    all_goals simp only [h, true_or, or_true]

/-- The IPv6 blocks that are not public are those the guard knows and two more. -/
theorem in_reservedV6_iff (v6 : Ipv6Addr) : v6.In reservedV6 ↔ v6.In knownV6 ∨
    v6.In [(Ipv6Addr.mk 0xfec0 0 0 0 0 0 0 0).block 10,
      (Ipv6Addr.mk 0x2001 0xdb8 0 0 0 0 0 0).block 32] := by
  simp only [reservedV6, knownV6, Ipv6Addr.in_cons, Ipv6Addr.in_nil, or_false]
  constructor
  · rintro (h | h | h | h | h | h | h) <;> simp only [h, true_or, or_true]
  · rintro ((h | h | h | h | h) | h | h) <;> simp only [h, true_or, or_true]

/-- **The addresses that are not public** are those the guard knows and those it does not know. -/
theorem reserved_iff (ip : IpAddr) : Reserved ip ↔ KnownToGuard ip ∨ UnknownToGuard ip := by
  cases ip with
  | v4 v4 => exact in_reservedV4_iff v4
  | v6 v6 =>
    have hzero : v6.In [(Ipv6Addr.mk 0 0 0 0 0 0 0 0).block 128,
        (Ipv6Addr.mk 0 0 0 0 0 0 0 1).block 128] → v6.In knownV6 := by
      simp only [knownV6, Ipv6Addr.in_cons, Ipv6Addr.in_nil, or_false]
      rintro (h | h) <;> simp only [h, true_or, or_true]
    have hcarry : v6.In [mappedBlock, compatibleBlock, nat64Block] ↔
        v6.In [mappedBlock] ∨ v6.In [compatibleBlock, nat64Block] := by
      simp only [Ipv6Addr.in_cons, Ipv6Addr.in_nil, or_false]
    have hlast := in_reservedV4_iff v6.lastIpv4
    rw [Reserved, KnownToGuard, UnknownToGuard, in_reservedV6_iff, hcarry]
    constructor
    · rintro ((hknown | hblock) | ⟨hmapped | hcarried, hreserved⟩ | hsixToFour)
      · exact .inl (.inl hknown)
      · exact .inr (.inr (.inl hblock))
      · rcases hlast.mp hreserved with hknown | hunknown
        · exact .inl (.inr ⟨hmapped, hknown⟩)
        · exact .inr (.inl ⟨hmapped, hunknown⟩)
      -- `::` and `::1` are compatible addresses, and the guard knows them
      · by_cases hz : v6.In [(Ipv6Addr.mk 0 0 0 0 0 0 0 0).block 128,
          (Ipv6Addr.mk 0 0 0 0 0 0 0 1).block 128]
        · exact .inl (.inl (hzero hz))
        · exact .inr (.inr (.inr (.inl ⟨hcarried, hreserved, hz⟩)))
      · exact .inr (.inr (.inr (.inr hsixToFour)))
    · rintro ((hknown | ⟨hmapped, hknown⟩) | ⟨hmapped, hunknown⟩ | hblock |
        ⟨hcarried, hreserved, -⟩ | hsixToFour)
      · exact .inl (.inl hknown)
      · exact .inr (.inl ⟨.inl hmapped, hlast.mpr (.inl hknown)⟩)
      · exact .inr (.inl ⟨.inl hmapped, hlast.mpr (.inr hunknown)⟩)
      · exact .inl (.inr hblock)
      · exact .inr (.inl ⟨.inr hcarried, hreserved⟩)
      · exact .inr (.inr hsixToFour)

/-! ### The answers that pass -/

/-- The loop passes an answer when the guard knows none of its addresses. -/
theorem checkAddrs_eq_ok_iff {host : String} {resolvedAny : Bool} {addrs : List IpAddr} :
    checkAddrs host resolvedAny addrs = .ok () ↔
      (resolvedAny = true ∨ addrs ≠ []) ∧ ∀ ip ∈ addrs, ¬KnownToGuard ip := by
  induction addrs generalizing resolvedAny with
  | nil => cases resolvedAny <;> simp [checkAddrs]
  | cons ip addrs ih =>
    rw [checkAddrs]
    split
    case isTrue hdisallowed =>
      have hknown := (isDisallowedHost_iff ip).mp hdisallowed
      simp [hknown]
    case isFalse hallowed =>
      rw [isDisallowedHost_iff] at hallowed
      rw [ih]
      simp [hallowed]

section

variable {lookup : HostLookup} {host serverUrl : String} {port : Option UInt16}
  {addrs : List IpAddr}

/-- `assert_public_host` passes an answer that is not empty and has no address the guard knows. -/
theorem assertPublicHost_eq_ok_iff (hurl : lookup.portOrKnownDefault serverUrl = some port)
    (haddrs : lookup.lookupHost host (port.getD 443) = some addrs) :
    assertPublicHost lookup host serverUrl = .ok () ↔
      addrs ≠ [] ∧ ∀ ip ∈ addrs, ¬KnownToGuard ip := by
  rw [assertPublicHost, hurl]
  dsimp only
  rw [haddrs]
  dsimp only
  rw [checkAddrs_eq_ok_iff]
  simp

/-- **The exact condition.** The guard passes an answer only if it is not empty and all its
addresses are public, if and only if the answer has an address the guard knows, or has none of those
that are not public and that it does not know. -/
theorem passes_public_iff (hurl : lookup.portOrKnownDefault serverUrl = some port)
    (haddrs : lookup.lookupHost host (port.getD 443) = some addrs) :
    (assertPublicHost lookup host serverUrl = .ok () →
        addrs ≠ [] ∧ ∀ ip ∈ addrs, ¬Reserved ip) ↔
      (∃ ip ∈ addrs, KnownToGuard ip) ∨ ∀ ip ∈ addrs, ¬UnknownToGuard ip := by
  rw [assertPublicHost_eq_ok_iff hurl haddrs]
  constructor
  · intro h
    by_cases hknown : ∃ ip ∈ addrs, KnownToGuard ip
    · exact .inl hknown
    · refine .inr fun ip hip hunknown => ?_
      have hnone : ∀ ip ∈ addrs, ¬KnownToGuard ip := fun ip hip hk => hknown ⟨ip, hip, hk⟩
      have hpublic := (h ⟨List.ne_nil_of_mem hip, hnone⟩).2 ip hip
      exact hpublic ((reserved_iff ip).mpr (.inr hunknown))
  · rintro (⟨ip, hip, hknown⟩ | hunknown) ⟨hne, hnone⟩
    · exact absurd hknown (hnone ip hip)
    · refine ⟨hne, fun ip hip hreserved => ?_⟩
      rcases (reserved_iff ip).mp hreserved with hk | hu
      · exact hnone ip hip hk
      · exact hunknown ip hip hu

end

/-- A resolver that answers with some addresses, for an `https` URL. -/
def answersWith (addrs : List IpAddr) : HostLookup where
  portOrKnownDefault _ := some (some 443)
  lookupHost _ _ := some addrs

/-- Two public addresses. -/
def publicAddrs : List IpAddr :=
  [.v4 ⟨8, 8, 8, 8⟩, .v6 ⟨0x2001, 0x4860, 0x4860, 0, 0, 0, 0, 0x8888⟩]

/-- With these and a private one the guard fails; with these alone it passes, and they are
public. -/
theorem passes_public_severalAddresses :
    (assertPublicHost (answersWith (publicAddrs ++ [.v4 ⟨10, 0, 0, 1⟩])) "mail.example"
        "https://mail.example" = .ok () →
      publicAddrs ++ [.v4 ⟨10, 0, 0, 1⟩] ≠ [] ∧
        ∀ ip ∈ publicAddrs ++ [.v4 ⟨10, 0, 0, 1⟩], ¬Reserved ip) ∧
    (assertPublicHost (answersWith publicAddrs) "mail.example" "https://mail.example" = .ok () →
      publicAddrs ≠ [] ∧ ∀ ip ∈ publicAddrs, ¬Reserved ip) := by
  have hurl : ∀ addrs, (answersWith addrs).portOrKnownDefault "https://mail.example" =
      some (some 443) := fun _ => rfl
  refine ⟨(passes_public_iff (hurl _) rfl).mpr (.inl ?_),
    (passes_public_iff (hurl _) rfl).mpr (.inr fun ip hip => ?_)⟩
  · exact ⟨.v4 ⟨10, 0, 0, 1⟩, by decide, (isDisallowedHost_iff _).mp (by decide)⟩
  · simp only [publicAddrs, List.mem_cons, List.not_mem_nil, or_false] at hip
    rcases hip with rfl | rfl
    · exact fun hunknown => absurd hunknown.1 (by decide)
    · rintro (⟨hmapped, -⟩ | hblock | ⟨hblock, -⟩ | ⟨hblock, -⟩)
      · exact absurd hmapped (by decide)
      · exact absurd hblock (by decide)
      · exact absurd hblock (by decide)
      · exact absurd hblock (by decide)

/-- The NAT64 form of `10.0.0.1`. -/
def nat64Address : IpAddr := .v6 ⟨0x64, 0xff9b, 0, 0, 0, 0, 0x0a00, 0x0001⟩

/-- The guard passes it. -/
theorem not_forall_passes_public : ¬∀ (lookup : HostLookup) (host serverUrl : String)
    (port : Option UInt16) (addrs : List IpAddr),
    lookup.portOrKnownDefault serverUrl = some port →
      lookup.lookupHost host (port.getD 443) = some addrs →
        assertPublicHost lookup host serverUrl = .ok () →
          addrs ≠ [] ∧ ∀ ip ∈ addrs, ¬Reserved ip := by
  intro h
  have hpublic := (h (answersWith [nat64Address]) "mail.example" "https://mail.example"
    (some 443) [nat64Address] rfl rfl (by decide)).2 nat64Address (List.mem_singleton_self _)
  exact hpublic (.inr (.inl ⟨by decide, by decide⟩))

end Jmap2Telegram
