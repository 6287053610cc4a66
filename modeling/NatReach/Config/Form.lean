import NatReach.Config.Basic
import NatReach.Endpoint.Form
import NatReach.Text.Utf8
import NatReach.Toml.Reader
import NatReach.Toml.Writer

namespace NatReach

def Family.ofDocument? (conventions : Conventions) (document : Document) : Option Family :=
  document.choice? conventions Family.ofKey?

namespace DiscoverySettings

def members : List String :=
  ["bind_addr", "tick_interval_ms", "retry_base_ms", "retry_max_ms", "max_attempts",
    "revalidate_interval_secs", "ip_family"]

def ofDocument? (conventions : Conventions) (document : Document) : Option DiscoverySettings := do
  let fields ← document.fields? conventions members
  let usual : DiscoverySettings := {}
  return {
    bindAddress := ← fields.withDefault "bind_addr" usual.bindAddress Document.string?
    tickInterval := ← fields.withDefault "tick_interval_ms" usual.tickInterval Document.uint64?
    retryBase := ← fields.withDefault "retry_base_ms" usual.retryBase Document.uint64?
    retryMax := ← fields.withDefault "retry_max_ms" usual.retryMax Document.uint64?
    maxAttempts := ← fields.withDefault "max_attempts" usual.maxAttempts Document.uint32?
    revalidateSeconds := ← fields.optional "revalidate_interval_secs" Document.uint64?
    family := ← fields.withDefault "ip_family" usual.family (Family.ofDocument? conventions) }

def lines (settings : DiscoverySettings) : List (String × Toml.Line) :=
  [("bind_addr", .text settings.bindAddress),
    ("tick_interval_ms", .number settings.tickInterval.toNat),
    ("retry_base_ms", .number settings.retryBase.toNat),
    ("retry_max_ms", .number settings.retryMax.toNat),
    ("max_attempts", .number settings.maxAttempts.toNat)] ++
  (settings.revalidateSeconds.toList.map fun seconds =>
    ("revalidate_interval_secs", .number seconds.toNat)) ++
  [("ip_family", .text settings.family.key)]

end DiscoverySettings

namespace Endpoint

def lines (endpoint : Endpoint) : List (String × Toml.Line) :=
  let ips := fun (set : AddressSet) => Toml.Line.texts (set.ips.map Ip.text)
  [("cluster_id", .text endpoint.cluster),
    ("cable_name", .text endpoint.cable),
    ("hostname", .text endpoint.hostname),
    ("backend", .text endpoint.backend),
    ("public_ips", ips endpoint.publicIps),
    ("private_ips", ips endpoint.privateIps),
    ("health_check_ips", ips endpoint.healthCheckIps)]

def blocks (endpoint : Endpoint) (header : Toml.Header) (path : List String) : List Toml.Block :=
  [⟨header, endpoint.lines⟩,
    ⟨.table (path ++ ["backend_config"]),
      endpoint.settings.entries.map fun (key, value) => (key, .text value)⟩]

end Endpoint

namespace Config

def members : List String := ["local", "discovery", "remotes"]

def ofDocument? (conventions : Conventions) (document : Document) : Option Config := do
  let fields ← document.fields? conventions members
  return {
    home := ← fields.required "local" (Endpoint.ofDocument? conventions)
    discovery :=
      ← fields.withDefault "discovery" {} (DiscoverySettings.ofDocument? conventions)
    remotes :=
      ← fields.withDefault "remotes" [] (Document.list? (Endpoint.ofDocument? conventions)) }

/-! ## Files -/

inductive FileError where
  | notText
  | notConfig
deriving DecidableEq, Repr

def FileError.message : FileError → String
  | notText => "the configuration is not valid UTF-8"
  | notConfig => "the configuration is not valid"

def ofToml? (text : List Char) : Option Config :=
  (Toml.read text).bind (ofDocument? Toml.conventions)

/-- The configuration of the content of a file, or the initial one if there is no file. -/
def load : Option (List UInt8) → Except FileError Config
  | none => .ok initial
  | some octets =>
    match Utf8.decode? octets with
    | none => .error .notText
    | some text =>
      match ofToml? text with
      | some config => .ok config
      | none => .error .notConfig

def blocks (config : Config) : List Toml.Block :=
  ⟨.none, if config.remotes.isEmpty then [("remotes", .texts [])] else []⟩ ::
    config.home.blocks (.table ["local"]) ["local"] ++
    [⟨.table ["discovery"], config.discovery.lines⟩] ++
    config.remotes.flatMap fun remote => remote.blocks (.item ["remotes"]) ["remotes"]

/-- The configuration as a TOML text. A number above the largest one of TOML cannot be written. -/
def toml? (config : Config) : Option String := (Toml.render? config.blocks).map String.ofList

end Config
end NatReach
