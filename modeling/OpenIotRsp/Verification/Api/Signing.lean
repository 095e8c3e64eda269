import OpenIotRsp.Model.Api
import OpenIotRsp.Verification.Package.RoundTrip
import OpenIotRsp.Verification.Storage.DeviceState
import OpenIotRsp.Verification.Storage.Queue

/-!
# Signing a package

What a successful `Sign` has done: it drew one counter, and its request is the
encoding of the signed object with that counter.
-/

namespace OpenIotRsp.Euiccpkg

open Octets Ber Stateful Asn1 Storage

variable {B : Bertlv} {S : Service} {input : SignInput} {s s' : Store} {request : SignedRequest}

/-- The request encodes the signed object. -/
def SignedRequest.Encodes (B : Bertlv) (S : Service) (input : SignInput) (counter : Int)
    (der : Bytes) : Prop :=
  ∃ signature, Asn1.encode B
    (EuiccPackageRequest.marshalBERTLV B ⟨input.signed S counter, signature⟩) = .ok der

theorem readOnly_signingToken (input : SignInput) : ReadOnly (signingToken B S input) := by
  unfold signingToken
  cases input.associationToken with
  | some token => exact fun _ => rfl
  | none => exact keeps_existingAssociationToken id B _ _ _

theorem readOnly_signDrawn (input : SignInput) (counter : Int) :
    ReadOnly (signDrawn B S input counter) := by
  refine (keeps_ofExcept id _).bind fun signedDER => ?_
  refine ((readOnly_signingToken input).keeps id).bind fun token => ?_
  refine (keeps_ofExcept id _).bind fun signedInput => ?_
  refine (keeps_ofExcept id _).bind fun signature => ?_
  exact (keeps_ofExcept id _).bind fun der => keeps_pure id _

/-- Signing reads the store only, and the request carries the signed object. -/
theorem signDrawn_eq_ok {counter : Int}
    (h : signDrawn B S input counter s = (.ok request, s')) :
    s' = s ∧ SignedRequest.Encodes B S input counter request.der := by
  obtain ⟨signedDER, -, h⟩ := (readOnly_ofExcept _).bind_eq_ok h
  obtain ⟨token, -, h⟩ := (readOnly_signingToken input).bind_eq_ok h
  obtain ⟨signedInput, -, h⟩ := (readOnly_ofExcept _).bind_eq_ok h
  obtain ⟨signature, -, h⟩ := (readOnly_ofExcept _).bind_eq_ok h
  obtain ⟨der, hder, h⟩ := (readOnly_ofExcept _).bind_eq_ok h
  obtain ⟨hrequest, hstate⟩ := Prod.mk.inj h
  obtain rfl := Except.ok.inj hrequest
  exact ⟨hstate.symm, signature, hder⟩

theorem drawCounter_eq_ok {counter : Int} (h : drawCounter S input s = (.ok counter, s')) :
    nextEUICCPackageCounter input.tenantID input.eid s = (.ok counter, s') := by
  rw [drawCounter] at h
  split at h
  next => cases h
  next =>
      split at h
      next => cases h
      next => exact h

/-- A failed draw leaves the store as it is. -/
theorem drawCounter_eq_error {e : Error} (h : drawCounter S input s = (.error e, s')) : s' = s := by
  rw [drawCounter] at h
  split at h
  next => exact (Prod.mk.inj h).2.symm
  next =>
      split at h
      next => exact (Prod.mk.inj h).2.symm
      next =>
          rw [nextEUICCPackageCounter_apply] at h
          split at h
          next => exact (Prod.mk.inj h).2.symm
          next => cases h

theorem sign_eq_ok (h : sign B S input s = (.ok request, s')) :
    ∃ counter, drawCounter S input s = (.ok counter, s') ∧
      SignedRequest.Encodes B S input counter request.der := by
  obtain ⟨counter, t, hdraw, h⟩ := Stateful.bind_eq_ok h
  obtain ⟨rfl, hencodes⟩ := signDrawn_eq_ok h
  exact ⟨counter, hdraw, hencodes⟩

end OpenIotRsp.Euiccpkg
