import NatReach.Endpoint.Basic

namespace NatReach

inductive Edit where
  | cluster (text : String)
  | cable (text : String)
  | hostname (text : String)
  | backend (text : String)
  | publicIp (ip : Ip)
  | privateIp (ip : Ip)
  | healthCheckIp (ip : Ip)
  | setting (key value : String)
  | dropSetting (key : String)
deriving DecidableEq, Repr

namespace Endpoint

def edit (endpoint : Endpoint) : Edit → Endpoint
  | .cluster text => { endpoint with cluster := text }
  | .cable text => { endpoint with cable := text }
  | .hostname text => { endpoint with hostname := text }
  | .backend text => { endpoint with backend := text }
  | .publicIp ip => { endpoint with publicIps := endpoint.publicIps.set ip }
  | .privateIp ip => { endpoint with privateIps := endpoint.privateIps.set ip }
  | .healthCheckIp ip => { endpoint with healthCheckIps := endpoint.healthCheckIps.set ip }
  | .setting key value => { endpoint with settings := endpoint.settings.insert key value }
  | .dropSetting key => { endpoint with settings := endpoint.settings.erase key }

/-- The description after a change, and whether it is now of another gateway or of another setup. -/
def update (endpoint : Endpoint) (change : Endpoint → Endpoint) : Endpoint × Bool :=
  (change endpoint, !endpoint.alike (change endpoint))

def revise (endpoint : Endpoint) (edits : List Edit) : Endpoint × Bool :=
  endpoint.update fun endpoint => edits.foldl edit endpoint

end Endpoint
end NatReach
