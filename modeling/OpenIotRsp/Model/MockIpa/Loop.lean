import OpenIotRsp.Model.Esipa.Handler
import OpenIotRsp.Model.MockIpa.Result

/-!
# An eUICC and the eIM that manages it

Operations are queued, and the mock IPA polls for them (`mockipa/runner.go` and
`mockipa/client.go`).  It executes the package that it is sent and uploads the
signed result, and once there is an answer, whatever it is, it changes its own
state.  Its messages reach the handler of the eIM over the wire; the answers are
handed over as the handler returns them.  An error ends the IPA: those that it
retries are about a key that the eIM does not have yet, and it does not defer
packages until its certificates are presented.

The notifications that accompany a result are an input of the poll, and
downloads change the eUICC alone; what else the IPA does for triggers and data
requests is left out.
-/

namespace OpenIotRsp.MockIpa

open Octets Ber Stateful Asn1 Storage Euiccpkg Esipa

/-- An eIM and the IPA of one eUICC. -/
structure Link where
  handler : Handler
  fixture : Fixture
  eid : Bytes
  maxMessageSize : Nat

/-- The eUICC and the store of the eIM, how many results the eUICC has signed, and why the IPA has
stopped. -/
structure Managed where
  device : DeviceState
  store : Store
  draws : Nat := 0
  stopped : Option Error := none

inductive ManagedEvent where
  | enqueue (request : OperationRequest)
  | poll (notifications : List Tlv)
  | download (profileID smdp : Bytes)

/-- The operations that `notificationKindForOperation` has a notification for. -/
def hasNotification : Euiccpkg.OperationKind → Bool
  | .enable | .disable | .delete => true
  | _ => false

namespace Link

variable (L : Link)

/-- A message to the eIM, and what its handler answers. -/
def exchange (message : Tlv) : StoreM Reply := do
  let payload ← ofExcept (Asn1.encode L.fixture.bertlv (.ok message))
  if L.maxMessageSize < payload.length then
    fail (.message "read ESipa request: http: request body too large")
  else
    let message ← ofExcept (decodeRequest L.handler payload)
    dispatch L.handler message

def pollMessage : Tlv := .constructed tagGetEimPackage [octetTLV tagEID L.eid]

def resultMessage (result : Tlv) : Tlv :=
  .constructed tagProvideEimResult [octetTLV tagEID L.eid, result]

/-- `Client.Poll`. -/
def poll : StoreM Reply := L.exchange L.pollMessage

/-- `uploadEimPackageResultTLV`. -/
def upload (result : Tlv) : StoreM Reply := L.exchange (L.resultMessage result)

/-- The signed result of a package as it is uploaded. -/
def packageResult (draws : Nat) (device : DeviceState) (request : EuiccPackageRequest)
    (notifications : List Tlv) : Except Error Tlv := do
  let (result, operation) ← signedEUICCPackageResult L.fixture draws device request 0
  let tlv ← result.marshalBERTLV L.fixture.bertlv
  if hasNotification operation then
    return .constructed tagSequence [tlv, .constructed tagNotificationList notifications]
  else return tlv

def handleEUICCPackage (x : Managed) (request : EuiccPackageRequest) (notifications : List Tlv) :
    Managed :=
  match L.packageResult x.draws x.device request notifications with
  | .error e => { x with stopped := some e }
  | .ok result =>
      match L.upload result x.store with
      | (.error e, store) => { x with store := store, stopped := some e }
      | (.ok _, store) =>
          { x with
            device := x.device.applyOperation request.euiccPackageSigned.euiccPackage
            store := store
            draws := x.draws + 1 }

def pollOnce (x : Managed) (notifications : List Tlv) : Managed :=
  match L.poll x.store with
  | (.error e, store) => { x with store := store, stopped := some e }
  | (.ok (.getEimPackage (.euiccPackageRequest request)), store) =>
      L.handleEUICCPackage { x with store := store } request notifications
  | (.ok _, store) => { x with store := store }

def step (x : Managed) (event : ManagedEvent) : Managed :=
  if x.stopped.isSome then x
  else
    match event with
    | .enqueue request => { x with store := (enqueueOperation L.handler.tenant request x.store).2 }
    | .poll notifications => L.pollOnce x notifications
    | .download profileID smdp => { x with device := x.device.recordDownload profileID smdp }

def run (x : Managed) (events : List ManagedEvent) : Managed := events.foldl L.step x

end Link

end OpenIotRsp.MockIpa
