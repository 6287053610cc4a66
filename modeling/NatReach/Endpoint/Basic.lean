import NatReach.Endpoint.AddressSet
import NatReach.OrderedMap

/-!
# Endpoints

An endpoint is one gateway of one cluster, as it describes itself to its peers: who it is, on which
host and with which backend it runs, the addresses at which it may be reached, and settings of the
backend by key.

Two descriptions are `alike` if they describe the same gateway set up in the same way. Addresses do
not count. A gateway behind a load balancer stamps settings that change at every start, so between
two of those the settings do not count either.
-/
namespace NatReach

structure Identity where
  cluster : String
  endpoint : String
deriving DecidableEq, Repr

def Identity.text (identity : Identity) : String := identity.cluster ++ "/" ++ identity.endpoint

structure Endpoint where
  cluster : String
  /-- The name of the endpoint, which no other endpoint of any cluster has. -/
  cable : String
  hostname : String := ""
  backend : String := ""
  publicIps : AddressSet := .empty
  privateIps : AddressSet := .empty
  healthCheckIps : AddressSet := .empty
  settings : OrderedMap String := .empty
deriving DecidableEq

namespace Endpoint

def discoveryPortKey : String := "natt-discovery-port"

def tunnelPortKey : String := "udp-port"

def loadBalancerKey : String := "using-load-balancer"

def identity (endpoint : Endpoint) : Identity := ⟨endpoint.cluster, endpoint.cable⟩

def publicIp? (endpoint : Endpoint) (family : Family) : Option Ip := endpoint.publicIps.get? family

def privateIp? (endpoint : Endpoint) (family : Family) : Option Ip :=
  endpoint.privateIps.get? family

def healthCheckIp? (endpoint : Endpoint) (family : Family) : Option Ip :=
  endpoint.healthCheckIps.get? family

def isLoadBalanced (endpoint : Endpoint) : Bool :=
  endpoint.settings.get? loadBalancerKey == some "true"

/-- Whether two descriptions have the same settings, as far as settings last. -/
def sameSettings (a b : Endpoint) : Bool :=
  (a.isLoadBalanced && b.isLoadBalanced) || a.settings = b.settings

/-- Whether two descriptions are of one gateway, set up in one way. -/
def alike (a b : Endpoint) : Bool :=
  a.cluster = b.cluster && a.cable = b.cable && a.hostname = b.hostname && a.backend = b.backend &&
    a.sameSettings b

/-! ## Being alike is an equivalence -/

theorem sameSettings_symm {a b : Endpoint} (same : a.sameSettings b = true) :
    b.sameSettings a = true := by
  simp only [sameSettings, Bool.or_eq_true, Bool.and_eq_true, decide_eq_true_eq] at same ⊢
  rcases same with ⟨balancedA, balancedB⟩ | equal
  · exact .inl ⟨balancedB, balancedA⟩
  · exact .inr equal.symm

theorem isLoadBalanced_congr {a b : Endpoint} (equal : a.settings = b.settings) :
    a.isLoadBalanced = b.isLoadBalanced := by
  simp only [isLoadBalanced, equal]

theorem sameSettings_trans {a b c : Endpoint} (first : a.sameSettings b = true)
    (second : b.sameSettings c = true) : a.sameSettings c = true := by
  simp only [sameSettings, Bool.or_eq_true, Bool.and_eq_true, decide_eq_true_eq] at *
  rcases first with ⟨balancedA, balancedB⟩ | equalAB <;>
    rcases second with ⟨balancedB', balancedC⟩ | equalBC
  · exact .inl ⟨balancedA, balancedC⟩
  · exact .inl ⟨balancedA, isLoadBalanced_congr equalBC ▸ balancedB⟩
  · exact .inl ⟨isLoadBalanced_congr equalAB ▸ balancedB', balancedC⟩
  · exact .inr (equalAB.trans equalBC)

theorem alike_iff {a b : Endpoint} :
    a.alike b = true ↔
      a.cluster = b.cluster ∧ a.cable = b.cable ∧ a.hostname = b.hostname ∧
        a.backend = b.backend ∧ a.sameSettings b = true := by
  simp [alike, and_assoc]

theorem alike_refl (a : Endpoint) : a.alike a = true := by
  simp [alike_iff, sameSettings]

theorem alike_symm {a b : Endpoint} (same : a.alike b = true) : b.alike a = true := by
  obtain ⟨cluster, cable, hostname, backend, settings⟩ := alike_iff.1 same
  exact alike_iff.2
    ⟨cluster.symm, cable.symm, hostname.symm, backend.symm, sameSettings_symm settings⟩

theorem alike_trans {a b c : Endpoint} (first : a.alike b = true) (second : b.alike c = true) :
    a.alike c = true := by
  obtain ⟨cluster, cable, hostname, backend, settings⟩ := alike_iff.1 first
  obtain ⟨cluster', cable', hostname', backend', settings'⟩ := alike_iff.1 second
  exact alike_iff.2
    ⟨cluster.trans cluster', cable.trans cable', hostname.trans hostname',
      backend.trans backend', sameSettings_trans settings settings'⟩

end Endpoint
end NatReach
