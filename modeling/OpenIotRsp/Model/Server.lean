import OpenIotRsp.Library.Run
import OpenIotRsp.Model.Api
import OpenIotRsp.Model.Esipa.Handler

/-!
# The server

Northbound requests and IPA messages over one store.  A package request is more
than one store call: it draws its counter, signs, and queues what it signed, and
other requests run in between.  The events are the store calls of such requests,
the other northbound requests, and whole IPA messages.
-/

namespace OpenIotRsp.Server

open Octets Ber Stateful Asn1 Storage Euiccpkg Api Esipa

/-- A package request that has drawn its counter, and perhaps signed its package. -/
structure InFlight where
  input : SignInput
  counter : Int
  signed : Option SignedRequest

structure System where
  store : Store
  inFlight : List InFlight

def System.new : System := ⟨Store.new, []⟩

/-- A request in flight is named by its place in the list. -/
inductive Event where
  | register (tenantID : TenantID) (eid : Bytes)
  | draw (tenantID : TenantID) (eid transactionID : Bytes) (request : PackageRequest)
  | sign (i : Nat)
  | enqueue (i : Nat)
  /-- the request is given up, or its client is gone -/
  | abandon (i : Nat)
  /-- `EnqueueTrigger` of a profile download -/
  | enqueueTrigger (tenantID : TenantID) (eid payload : Bytes)
  /-- `EnqueueRequest` of a data read -/
  | enqueueDataRequest (tenantID : TenantID) (eid payload : Bytes)
  | storeEIMConfig (tenantID : TenantID) (config : EIMConfig)
  /-- `RecordInitialEIMAssociation` -/
  | associate (tenantID : TenantID) (eid : Bytes) (config : EimConfigurationData)
  /-- a message of an IPA, as it comes over the wire -/
  | message (payload : Bytes)

variable (S : Service) (H : Handler)

/-- What a package request signs. -/
def requestInput (tenantID : TenantID) (eid transactionID : Bytes) (request : PackageRequest) :
    Except Error SignInput := do
  let (eid, eidValue) ← parseEID eid
  return signInput tenantID eid eidValue transactionID (← request.package H.bertlv S)

namespace System

variable (y : System)

def draw (input : SignInput) : System :=
  match drawCounter S input y.store with
  | (.ok counter, store) => ⟨store, y.inFlight ++ [⟨input, counter, none⟩]⟩
  | (.error _, store) => ⟨store, y.inFlight⟩

/-- A request whose package cannot be signed ends. -/
def sign (i : Nat) : System :=
  match y.inFlight[i]? with
  | none => y
  | some r =>
      match signDrawn H.bertlv S r.input r.counter y.store with
      | (.ok signed, store) => ⟨store, y.inFlight.set i { r with signed := some signed }⟩
      | (.error _, store) => ⟨store, y.inFlight.eraseIdx i⟩

def enqueue (i : Nat) : System :=
  match y.inFlight[i]? with
  | some ⟨input, _, some signed⟩ =>
      ⟨(enqueueOperation input.tenantID ⟨input.eid, .euiccPackage, signed.der⟩ y.store).2,
        y.inFlight.eraseIdx i⟩
  | _ => y

/-- Run a store action. -/
def act {α : Type} (m : StoreM α) : System := { y with store := (m y.store).2 }

end System

/-- One event.  A message of an IPA is one event as a whole, although the handler calls the store
several times for it and other calls may come between these. -/
def step (y : System) : Event → System
  | .register tenantID eid => y.act (registerDevice tenantID eid)
  | .draw tenantID eid transactionID request =>
      match requestInput S H tenantID eid transactionID request with
      | .ok input => y.draw S input
      | .error _ => y
  | .sign i => y.sign S H i
  | .enqueue i => y.enqueue i
  | .abandon i => { y with inFlight := y.inFlight.eraseIdx i }
  | .enqueueTrigger tenantID eid payload =>
      y.act (enqueueOperation tenantID ⟨eid, .profileDownloadTrigger, payload⟩)
  | .enqueueDataRequest tenantID eid payload =>
      y.act (enqueueOperation tenantID ⟨eid, .ipaEuiccData, payload⟩)
  | .storeEIMConfig tenantID config => y.act (Storage.storeEIMConfig tenantID config)
  | .associate tenantID eid config => y.act (setAssociatedConfig H.bertlv tenantID eid config)
  | .message payload => y.act (handleEncodedResponse H payload)

end OpenIotRsp.Server
