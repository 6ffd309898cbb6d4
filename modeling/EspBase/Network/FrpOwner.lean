import EspBase.Config.Data

set_option autoImplicit false

/-!
# The FRP client owner

The FRP library is outside: its results are answers. A destroy that returns `ok`
clears the handle and a failing create leaves it empty.
-/

namespace EspBase

inductive EfrpResult where
  | ok
  | wouldBlock
  | timeout
  | other (code : Int)
deriving DecidableEq, Repr

def frpRetryMs : Nat := 5000

structure FrpOwner where
  config : FrpConfig
  client : Bool
  deviceId : CString
  retryAtMs : Nat
  error : EfrpResult
  endpointReady : Bool
  networkReady : Bool
  draining : Bool
  reconfiguring : Bool
deriving DecidableEq

def FrpOwner.initial : FrpOwner :=
  { config := .zero
    client := false
    deviceId := .empty
    retryAtMs := 0
    error := .ok
    endpointReady := false
    networkReady := false
    draining := false
    reconfiguring := false }

def releaseClient (destroyed : EfrpResult) (o : FrpOwner) : Bool × FrpOwner :=
  if !o.client then (true, { o with draining := false })
  else
    match destroyed with
    | .ok => (true, { o with client := false, draining := false })
    | .other code => (false, { o with draining := true, error := .other code })
    | _ => (false, { o with draining := true })

def frpOwnerConfigure (destroyed : EfrpResult) (config : FrpConfig) (deviceId : CString)
    (o : FrpOwner) : EspErr × FrpOwner :=
  if deviceId.bytes.length ≠ 36 then (.invalidArg, o)
  else
    match releaseClient destroyed { o with reconfiguring := true } with
    | (false, o) => (.timeout, o)
    | (true, o) =>
      (.ok, { o with
        config := config
        deviceId := deviceId
        retryAtMs := 0
        error := .ok
        endpointReady := false
        networkReady := false
        reconfiguring := false })

-- `destroyed` answers the release before a start, `destroyedAfter` the one after a failed start.
structure FrpOwnerAnswers where
  timeReady : Bool := true
  destroyed : EfrpResult := .ok
  created : EfrpResult := .ok
  started : EfrpResult := .ok
  destroyedAfter : EfrpResult := .ok
deriving DecidableEq

def startClient (a : FrpOwnerAnswers) (now : Nat) (o : FrpOwner) : FrpOwner :=
  let o := { o with client := a.created == .ok }
  let result := if a.created = .ok then a.started else a.created
  if result = .ok then o
  else (releaseClient a.destroyedAfter { o with error := result, retryAtMs := now + frpRetryMs }).2

def frpOwnerPoll (a : FrpOwnerAnswers) (now : Nat)
    (networkReady trustedTimeReady endpointReady : Bool) (o : FrpOwner) : FrpOwner :=
  let o := { o with
    networkReady := networkReady && trustedTimeReady && a.timeReady
    endpointReady := endpointReady }
  if o.reconfiguring || !o.config.configured || !o.networkReady || !o.endpointReady then
    (releaseClient a.destroyed o).2
  else if !o.draining then
    if o.client || now < o.retryAtMs then o else startClient a now o
  else
    match releaseClient a.destroyed o with
    | (false, o) => o
    | (true, o) => if o.client || now < o.retryAtMs then o else startClient a now o

end EspBase
