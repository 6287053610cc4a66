import NatReach.Endpoint.Basic
import NatReach.Text.Blank
import NatReach.Text.Numeral
import NatReach.Text.Quoted

namespace NatReach

inductive EndpointError where
  | emptyCluster
  | emptyCable
  | invalidPort (key value : String)
  | invalidFlag (key value : String)
deriving DecidableEq, Repr

def EndpointError.message : EndpointError → String
  | emptyCluster => "cluster ID cannot be empty"
  | emptyCable => "cable name cannot be empty"
  | invalidPort key value =>
    "error parsing backend config " ++ key ++ ": invalid port " ++ Text.quote value
  | invalidFlag key value =>
    "error parsing backend config " ++ key ++ ": invalid bool " ++ Text.quote value

def Setting.dropPlus : List Char → List Char
  | '+' :: rest => rest
  | cs => cs

def Setting.port? (text : String) : Option UInt16 := do
  let number ← Numeral.readDecimal? (dropPlus (Text.trimBlanks text.toList))
  if 1 ≤ number ∧ number ≤ 65535 then return UInt16.ofNat number else none

def Setting.flag? (text : String) : Option Bool :=
  if ["1", "t", "T", "true", "TRUE", "True"].contains text then some true
  else if ["0", "f", "F", "false", "FALSE", "False"].contains text then some false
  else none

namespace Endpoint

/-- A setting that says something. -/
def setting? (endpoint : Endpoint) (key : String) : Option String :=
  (endpoint.settings.get? key).filter (· ≠ "")

def settingPort (endpoint : Endpoint) (key : String) (fallback : UInt16) :
    Except EndpointError UInt16 :=
  match endpoint.setting? key with
  | none => .ok fallback
  | some value =>
    match Setting.port? value with
    | some port => .ok port
    | none => .error (.invalidPort key value)

def settingFlag (endpoint : Endpoint) (key : String) (fallback : Option Bool) :
    Except EndpointError (Option Bool) :=
  match endpoint.setting? key with
  | none => .ok fallback
  | some value =>
    match Setting.flag? value with
    | some flag => .ok (some flag)
    | none => .error (.invalidFlag key value)

def defaultDiscoveryPort : UInt16 := 4490

def defaultTunnelPort : UInt16 := 4500

/-- Where the gateway answers probes; none if it does not. -/
def discoveryPort (endpoint : Endpoint) : Except EndpointError (Option UInt16) :=
  if endpoint.settings.contains discoveryPortKey then
    (endpoint.settingPort discoveryPortKey defaultDiscoveryPort).map some
  else .ok none

def tunnelPort (endpoint : Endpoint) : Except EndpointError UInt16 :=
  endpoint.settingPort tunnelPortKey defaultTunnelPort

/-! ## Which port is read -/

theorem setting?_eq_none_iff {endpoint : Endpoint} {key : String} :
    endpoint.setting? key = none ↔
      endpoint.settings.get? key = none ∨ endpoint.settings.get? key = some "" := by
  unfold setting?
  cases endpoint.settings.get? key <;> simp [Option.filter]

theorem setting?_eq_some_iff {endpoint : Endpoint} {key value : String} :
    endpoint.setting? key = some value ↔
      endpoint.settings.get? key = some value ∧ value ≠ "" := by
  simp [setting?, Option.filter_eq_some_iff]

theorem settingPort_eq_ok_iff {endpoint : Endpoint} {key : String} {fallback port : UInt16} :
    endpoint.settingPort key fallback = .ok port ↔
      (endpoint.setting? key = none ∧ port = fallback) ∨
        ∃ value, endpoint.setting? key = some value ∧ Setting.port? value = some port := by
  unfold settingPort
  split
  · rename_i missing
    simp [missing, eq_comm]
  · rename_i value present
    split
    · rename_i read isPort
      simp [present, isPort]
    · rename_i notPort
      simp [present, notPort]

end Endpoint
end NatReach
