import Mathlib.Data.List.Basic
import Mathlib.Data.List.Nodup
import Mathlib.Data.BitVec

/-!
# Internet addresses and the hosts of a network

Addresses of both versions, networks as aligned ranges of addresses, and the
hosts of a network in the order in which they are listed.
-/

set_option autoImplicit false

namespace CompleteDeviceManagement.Library

/-- The scope id is part of an IPv6 address: two addresses that differ in it
are different. -/
inductive IpAddress where
  | v4 (ip : BitVec 32)
  | v6 (ip : BitVec 128) (scopeId : Option String)
  deriving DecidableEq

def IpAddress.scopeId : IpAddress → Option String
  | .v4 _ => none
  | .v6 _ scopeId => scopeId

/-! ## Networks -/

/-- An aligned range of addresses: the host bits of the network address are 0. -/
structure NetworkRange (bits : Nat) where
  network : Nat
  prefixlen : Nat
  fits : network < 2 ^ bits
  prefixlen_le : prefixlen ≤ bits
  aligned : 2 ^ (bits - prefixlen) ∣ network

namespace NetworkRange

variable {bits : Nat}

/-- The network of a prefix length that an address lies in; host bits of the
address are dropped. -/
def containing (ip : BitVec bits) (prefixlen : Nat) (h : prefixlen ≤ bits) :
    NetworkRange bits where
  network := ip.toNat - ip.toNat % 2 ^ (bits - prefixlen)
  prefixlen := prefixlen
  fits := by
    have := ip.isLt
    omega
  prefixlen_le := h
  aligned := Nat.dvd_sub_mod ip.toNat

def size (r : NetworkRange bits) : Nat := 2 ^ (bits - r.prefixlen)

def broadcast (r : NetworkRange bits) : Nat := r.network + r.size - 1

theorem size_pos (r : NetworkRange bits) : 0 < r.size := Nat.two_pow_pos _

theorem network_add_size_le (r : NetworkRange bits) : r.network + r.size ≤ 2 ^ bits := by
  obtain ⟨a, ha⟩ := r.aligned
  have hsplit : 2 ^ bits = 2 ^ (bits - r.prefixlen) * 2 ^ r.prefixlen := by
    rw [← Nat.pow_add, Nat.sub_add_cancel r.prefixlen_le]
  have hlt := r.fits
  unfold size
  rw [ha, hsplit] at hlt
  rw [ha, hsplit, ← Nat.mul_succ]
  exact Nat.mul_le_mul_left _ (Nat.lt_of_mul_lt_mul_left hlt)

end NetworkRange

inductive IpNetwork where
  | v4 (range : NetworkRange 32)
  | v6 (range : NetworkRange 128)

namespace IpNetwork

variable {bits : Nat}

/-- The hosts below `stop`, except in the two smallest networks, where every
address is a host. -/
def hostValues (r : NetworkRange bits) (stop : Nat) : List Nat :=
  if r.prefixlen + 1 = bits then List.range' r.network (r.broadcast + 1 - r.network)
  else if r.prefixlen = bits then [r.network]
  else List.range' (r.network + 1) (stop - (r.network + 1))

/-- An IPv4 network ends in its broadcast address; IPv6 has none. -/
def hosts : IpNetwork → List IpAddress
  | .v4 range => (hostValues range range.broadcast).map fun x => .v4 (BitVec.ofNat 32 x)
  | .v6 range =>
      (hostValues range (range.broadcast + 1)).map fun x => .v6 (BitVec.ofNat 128 x) none

theorem hostValues_nodup (r : NetworkRange bits) (stop : Nat) : (hostValues r stop).Nodup := by
  unfold hostValues
  split
  · exact List.nodup_range'
  · split
    · exact List.nodup_singleton _
    · exact List.nodup_range'

theorem hostValues_lt {r : NetworkRange bits} {stop x : Nat} (hstop : stop ≤ r.broadcast + 1)
    (h : x ∈ hostValues r stop) : x < 2 ^ bits := by
  have hpos := r.size_pos
  have hle := r.network_add_size_le
  have hbroadcast : r.broadcast = r.network + r.size - 1 := rfl
  unfold hostValues at h
  split at h
  · rw [List.mem_range'_1] at h
    omega
  · split at h
    · rw [List.mem_singleton] at h
      omega
    · rw [List.mem_range'_1] at h
      omega

theorem ofNat_injOn {x y : Nat} (hx : x < 2 ^ bits) (hy : y < 2 ^ bits)
    (h : BitVec.ofNat bits x = BitVec.ofNat bits y) : x = y := by
  have heq := congrArg BitVec.toNat h
  rwa [BitVec.toNat_ofNat, BitVec.toNat_ofNat, Nat.mod_eq_of_lt hx, Nat.mod_eq_of_lt hy] at heq

/-- The hosts of a network are pairwise different. -/
theorem hosts_nodup (network : IpNetwork) : network.hosts.Nodup := by
  cases network with
  | v4 range =>
    refine (hostValues_nodup range _).map_on fun x hx y hy hxy => ?_
    exact ofNat_injOn (hostValues_lt (by omega) hx) (hostValues_lt (by omega) hy)
      (IpAddress.v4.inj hxy)
  | v6 range =>
    refine (hostValues_nodup range _).map_on fun x hx y hy hxy => ?_
    exact ofNat_injOn (hostValues_lt (by omega) hx) (hostValues_lt (by omega) hy)
      (IpAddress.v6.inj hxy).1

/-- A host has no scope id. -/
theorem scopeless_of_mem_hosts {network : IpNetwork} {a : IpAddress} (h : a ∈ network.hosts) :
    a.scopeId = none := by
  cases network with
  | v4 range =>
    obtain ⟨x, -, rfl⟩ := List.mem_map.mp h
    rfl
  | v6 range =>
    obtain ⟨x, -, rfl⟩ := List.mem_map.mp h
    rfl

end IpNetwork

end CompleteDeviceManagement.Library
