import NatReach.Document.Record
import NatReach.Address.Spelling
import NatReach.Endpoint.Basic

namespace NatReach

namespace AddressSet

def document (set : AddressSet) : Document := .list (set.ips.map fun ip => .str ip.text)

def ip? (document : Document) : Option Ip := document.string?.bind Ip.ofText?

def ofDocument? (document : Document) : Option AddressSet := (document.list? ip?).map ofList

end AddressSet

namespace Endpoint

def document (endpoint : Endpoint) : Document :=
  .record [
    ("cluster_id", .str endpoint.cluster),
    ("cable_name", .str endpoint.cable),
    ("hostname", .str endpoint.hostname),
    ("backend", .str endpoint.backend),
    ("public_ips", endpoint.publicIps.document),
    ("private_ips", endpoint.privateIps.document),
    ("health_check_ips", endpoint.healthCheckIps.document),
    ("backend_config", .record (endpoint.settings.entries.map fun (key, value) =>
      (key, .str value)))]

def members : List String :=
  ["cluster_id", "cable_name", "hostname", "backend", "public_ips", "public_ip", "private_ips",
    "private_ip", "health_check_ips", "health_check_ip", "backend_config"]

/-- The addresses of a list and of the legacy member beside it. -/
def addresses? (fields : Fields) (list legacy : String) : Option AddressSet := do
  let ips ← fields.withDefault list [] (Document.list? AddressSet.ip?)
  let legacy ← fields.optional legacy AddressSet.ip?
  return .ofParts ips legacy

def ofDocument? (conventions : Conventions) (document : Document) : Option Endpoint := do
  let fields ← document.fields? conventions members
  return {
    cluster := ← fields.required "cluster_id" Document.string?
    cable := ← fields.required "cable_name" Document.string?
    hostname := ← fields.withDefault "hostname" "" Document.string?
    backend := ← fields.withDefault "backend" "" Document.string?
    publicIps := ← addresses? fields "public_ips" "public_ip"
    privateIps := ← addresses? fields "private_ips" "private_ip"
    healthCheckIps := ← addresses? fields "health_check_ips" "health_check_ip"
    settings := ← (fields.withDefault "backend_config" [] (Document.entries? Document.string?)).map
      OrderedMap.ofList }

end Endpoint
end NatReach
