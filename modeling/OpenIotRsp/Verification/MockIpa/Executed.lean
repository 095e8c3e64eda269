import OpenIotRsp.Model.MockIpa.Result
import OpenIotRsp.Verification.MockIpa.Messages

/-!
# Results of executed operations

The result data of the mock IPA, as the eIM reads them: every operation is
reported as a success of the kind of the package, with the profiles of the
device and the token that it associates.
-/

namespace OpenIotRsp.MockIpa

open Octets Ber Asn1 Euiccpkg Outcome

variable {kind : Euiccpkg.OperationKind} {B : Bertlv}

/-- A package of one operation that both sides carry out: the profile that gets the fallback
attribute has an ICCID, and a configuration is read back where it is stored. -/
def Executable : EuiccPackage → Prop
  | .psmo [psmo] =>
      (psmoOperation psmo).1 = .setFallbackAttribute → (psmoOperation psmo).2 ≠ []
  | .eco [eco] => eco.Plain ∧ eco.Deliverable
  | _ => False

/-- What the result of an operation tells about the device. -/
def Reports (device : DeviceState) (result : Result) : EuiccPackage → Prop
  | .psmo [.listProfileInfo _] => result.profiles = device.profileInfos.filterMap domainProfile
  | .eco [.addEIM (some config)] => result.addEIMAssociationToken = some (addedToken config)
  | _ => True

variable {F : Fixture} {device : DeviceState} {data : EuiccResultData} {eimID : Bytes}

/-- The result item is read as a success of the package. -/
structure Succeeds (B : Bertlv) (device : DeviceState) (pkg : EuiccPackage)
    (data : EuiccResultData) : Prop where
  wellFormed : data.raw.WellFormed
  result : ∃ result, operationResult B pkg [data] = .ok result ∧ result.ok = true ∧
    Reports device result pkg

theorem integerEuiccResult_eq_ok (hB : B.Lawful) {number : Nat} {value : Int}
    (h : integerEuiccResult B number value = .ok data) :
    ∃ octets, data.raw = .primitive (context number) octets ∧
      integerResult B data.raw = .ok value := by
  obtain ⟨t, ht, hdata⟩ := bind_eq_ok.mp h
  obtain rfl := Except.ok.inj hdata
  obtain ⟨octets, hoctets, rfl⟩ := integerTLV_eq_ok ht
  exact ⟨octets, rfl, by simp [integerResult, hB.unmarshalInt_marshalInt value octets _ hoctets]⟩

theorem reported_eq_ok {item : Except Error EuiccResultData} {kind kind' : Euiccpkg.OperationKind}
    (h : (do return (← item, kind)) = .ok (data, kind')) : item = .ok data := by
  obtain ⟨data', hdata, heq⟩ := bind_eq_ok.mp h
  rw [hdata, (Prod.mk.inj (Except.ok.inj heq)).1]

theorem resultDataByTag_of_tag (tag : Tag) {number : Nat} (htag : data.raw.tag = tag)
    (hnumber : tag.isContextSpecific = true ∧ tag.number = number) :
    resultDataByTag [data] number = some data.raw := by
  simp [resultDataByTag, htag, hnumber]

/-- The operations whose result is an INTEGER. -/
def integerKinds : List Euiccpkg.OperationKind :=
  [.enable, .disable, .delete, .configureImmediateEnable, .setFallbackAttribute,
    .unsetFallbackAttribute]

theorem mapOperationResult_zero (kind : Euiccpkg.OperationKind) :
    mapOperationResult kind 0 = .ok := by
  cases kind <;> rfl

/-- The domain result of a success without further data. -/
def successOf (kind : Euiccpkg.OperationKind) : Result where
  ok := true
  operation := kind
  resultCode := some .ok

theorem psmoOperationResult_of_integer (hkind : kind ∈ integerKinds)
    (hfound : resultDataByTag [data] kind.resultTag = some data.raw)
    (hvalue : integerResult B data.raw = .ok 0) :
    psmoOperationResult B kind [data] = .ok (successOf kind) := by
  have hread : integerOperationResult B kind data.raw = .ok (successOf kind) := by
    simp [integerOperationResult, hvalue, mapOperationResult_zero, successOf]
  rw [psmoOperationResult, hfound]
  simp only [integerKinds, List.mem_cons, List.not_mem_nil, or_false] at hkind
  rcases hkind with rfl | rfl | rfl | rfl | rfl | rfl <;> exact hread

theorem operationResult_psmo {psmo : Psmo} (kind : Euiccpkg.OperationKind)
    (hpsmo : (psmoOperation psmo).1 = kind) (hkind : kind ≠ .none) :
    operationResult B (.psmo [psmo]) [data] = psmoOperationResult B kind [data] := by
  rw [operationResult, packagePSMO, hpsmo, if_pos hkind]

theorem operationResult_eco {eco : Eco} (kind : Euiccpkg.OperationKind)
    (heco : ecoOperation eco = kind) (hkind : kind ≠ .none) :
    operationResult B (.eco [eco]) [data] = ecoOperationResult B kind [data] := by
  rw [operationResult, packagePSMO, if_neg (by simp), packageECO, heco, if_pos hkind]
  simp

/-- An INTEGER result of zero under the tag of the operation is a success. -/
theorem succeeds_integer (hB : F.bertlv.Lawful) {psmo : Psmo} (kind : Euiccpkg.OperationKind)
    (number : Nat) (hpsmo : (psmoOperation psmo).1 = kind)
    (hkind : kind ∈ integerKinds ∧ kind ≠ .none ∧ kind.resultTag = number)
    (hcontext : ((context number).isContextSpecific = true ∧ (context number).number = number) ∧
      (context number).Valid ∧ (context number).isConstructed = false)
    (hreports : Reports device (successOf kind) (.psmo [psmo]))
    (h : integerEuiccResult F.bertlv number 0 = .ok data) :
    Succeeds F.bertlv device (.psmo [psmo]) data := by
  obtain ⟨octets, hraw, hvalue⟩ := integerEuiccResult_eq_ok hB h
  have hfound : resultDataByTag [data] kind.resultTag = some data.raw :=
    resultDataByTag_of_tag (context number) (by rw [hraw]; rfl) (hkind.2.2 ▸ hcontext.1)
  refine ⟨by rw [hraw]; exact hcontext.2, successOf kind, ?_, rfl, hreports⟩
  rw [operationResult_psmo kind hpsmo hkind.2.1]
  exact psmoOperationResult_of_integer hkind.1 hfound hvalue

theorem succeeds_listProfileInfo (hB : F.bertlv.Lawful) {request : Option Tlv}
    (h : profileInfoListEuiccResult F.bertlv ⟨device.profileInfos, none⟩ = .ok data) :
    Succeeds F.bertlv device (.psmo [.listProfileInfo request]) data := by
  obtain ⟨t, ht, hraw⟩ := bind_eq_ok.mp h
  obtain rfl := Except.ok.inj hraw
  obtain ⟨htag, hwf, hread⟩ := ProfileInfoListResponse.read_written hB ht
  have hfound : resultDataByTag [⟨t⟩] 45 = some t :=
    resultDataByTag_of_tag tagProfileInfoList htag (by decide)
  have hresult : psmoOperationResult F.bertlv .listProfileInfo [⟨t⟩] = .ok
      { successOf .listProfileInfo with
        profiles := device.profileInfos.filterMap domainProfile } := by
    rw [psmoOperationResult, OperationKind.resultTag, hfound]
    simp [listProfileInfoResult, hread, successOf]
  exact ⟨hwf, _, (operationResult_psmo .listProfileInfo rfl (by decide)).trans hresult, rfl, rfl⟩

theorem succeeds_setDefaultDPAddress (hB : F.bertlv.Lawful)
    {request : Option SetDefaultDPAddressRequest}
    (h : setDefaultDPAddressEuiccResult F.bertlv ⟨0⟩ = .ok data) :
    Succeeds F.bertlv device (.psmo [.setDefaultDPAddress request]) data := by
  obtain ⟨t, ht, hraw⟩ := bind_eq_ok.mp h
  obtain rfl := Except.ok.inj hraw
  obtain ⟨child, hchild, ht⟩ := bind_eq_ok.mp ht
  obtain rfl := Except.ok.inj ht
  have hfound : resultDataByTag [⟨.constructed tagSetDefaultDPAddress [child]⟩] 101 =
      some (.constructed tagSetDefaultDPAddress [child]) :=
    resultDataByTag_of_tag tagSetDefaultDPAddress rfl (by decide)
  have hresult : psmoOperationResult F.bertlv .setDefaultDPAddress
      [⟨.constructed tagSetDefaultDPAddress [child]⟩] = .ok (successOf .setDefaultDPAddress) := by
    rw [psmoOperationResult, OperationKind.resultTag, hfound]
    simp [setDefaultDPAddressResult, SetDefaultDPAddressResponse.unmarshalBERTLV, expectTag,
      integerValue_written hB hchild, mapOperationResult_zero, successOf]
  exact ⟨⟨by decide, by decide, (integerTLV_written (by decide) hchild).2, trivial⟩, _,
    (operationResult_psmo .setDefaultDPAddress rfl (by decide)).trans hresult, rfl, trivial⟩

theorem succeeds_psmo (hB : F.bertlv.Lawful) {psmo : Psmo}
    (h : psmoResultData F device psmo = .ok (data, kind)) :
    Succeeds F.bertlv device (.psmo [psmo]) data := by
  cases psmo with
  | enable iccid rollback =>
      exact succeeds_integer hB .enable 3 rfl (by decide) (by decide) trivial (reported_eq_ok h)
  | disable iccid =>
      exact succeeds_integer hB .disable 4 rfl (by decide) (by decide) trivial (reported_eq_ok h)
  | delete iccid =>
      exact succeeds_integer hB .delete 5 rfl (by decide) (by decide) trivial (reported_eq_ok h)
  | listProfileInfo request => exact succeeds_listProfileInfo hB (reported_eq_ok h)
  | getRAT =>
      obtain ⟨rfl, -⟩ := Prod.mk.inj (Except.ok.inj h)
      exact ⟨⟨by decide, by decide, trivial⟩, _, rfl, rfl, trivial⟩
  | configureImmediateEnable value =>
      exact succeeds_integer hB .configureImmediateEnable 7 rfl (by decide) (by decide) trivial
        (reported_eq_ok h)
  | setFallbackAttribute iccid =>
      exact succeeds_integer hB .setFallbackAttribute 13 rfl (by decide) (by decide) trivial
        (reported_eq_ok h)
  | unsetFallbackAttribute =>
      exact succeeds_integer hB .unsetFallbackAttribute 14 rfl (by decide) (by decide) trivial
        (reported_eq_ok h)
  | setDefaultDPAddress request => exact succeeds_setDefaultDPAddress hB (reported_eq_ok h)

theorem succeeds_addEIM (hB : F.bertlv.Lawful) {config : Option EimConfigurationData}
    (h : addEimEuiccResult F.bertlv (.associationToken ((config.map addedToken).getD 1)) =
      .ok data) : Succeeds F.bertlv device (.eco [.addEIM config]) data := by
  obtain ⟨child, hchild, hraw⟩ := bind_eq_ok.mp h
  obtain rfl := Except.ok.inj hraw
  obtain ⟨htag, hwf⟩ := integerTLV_written (by decide) hchild
  have hfound : resultDataByTag [⟨.constructed (contextConstructed 8) [child]⟩] 8 =
      some (.constructed (contextConstructed 8) [child]) :=
    resultDataByTag_of_tag (contextConstructed 8) rfl (by decide)
  have hexplicit : explicitResultChild (.constructed (contextConstructed 8) [child]) 8 =
      .ok child :=
    if_pos (show (contextConstructed 8).isContextSpecific ∧ (contextConstructed 8).number = 8 by
      decide)
  have hresult : ecoOperationResult F.bertlv .addEIM
      [⟨.constructed (contextConstructed 8) [child]⟩] = .ok
        { ok := true, operation := .addEIM, ecoResultCode := some .ok,
          addEIMAssociationToken := some ((config.map addedToken).getD 1) } := by
    rw [ecoOperationResult, OperationKind.resultTag, hfound]
    simp [addEIMResult, hexplicit, AddEimResult.unmarshalBERTLV, htag,
      integerValue_written hB hchild]
  refine ⟨⟨by decide, by decide, hwf, trivial⟩, _,
    (operationResult_eco .addEIM rfl (by decide)).trans hresult, rfl, ?_⟩
  cases config with
  | none => trivial
  | some config => rfl

/-- An INTEGER result that the operation on the eIMs takes for a success. -/
theorem succeeds_ecoInteger (hB : F.bertlv.Lawful) {eco : Eco} (kind : Euiccpkg.OperationKind)
    (number : Nat) (result : Result) {value : Int} (heco : ecoOperation eco = kind)
    (hkind : kind ≠ .none ∧ kind.resultTag = number)
    (hcontext : ((context number).isContextSpecific = true ∧ (context number).number = number) ∧
      (context number).Valid ∧ (context number).isConstructed = false)
    (hread : resultDataByTag [data] kind.resultTag = some data.raw →
      integerResult F.bertlv data.raw = .ok value →
      ecoOperationResult F.bertlv kind [data] = .ok result)
    (hreports : result.ok = true ∧ Reports device result (.eco [eco]))
    (h : integerEuiccResult F.bertlv number value = .ok data) :
    Succeeds F.bertlv device (.eco [eco]) data := by
  obtain ⟨octets, hraw, hvalue⟩ := integerEuiccResult_eq_ok hB h
  have hfound : resultDataByTag [data] kind.resultTag = some data.raw :=
    resultDataByTag_of_tag (context number) (by rw [hraw]; rfl) (hkind.2 ▸ hcontext.1)
  exact ⟨by rw [hraw]; exact hcontext.2, result,
    (operationResult_eco kind heco hkind.1).trans (hread hfound hvalue), hreports⟩

theorem succeeds_eco (hB : F.bertlv.Lawful) {eco : Eco}
    (h : ecoResultData F eimID eco = .ok (data, kind)) :
    Succeeds F.bertlv device (.eco [eco]) data := by
  let lastDeleted : Result :=
    { ok := true, operation := .deleteEIM, ecoResultCode := some .lastEIMDeleted,
      rawResultCode := 2, lastEIMDeleted := true }
  let updated : Result := { ok := true, operation := .updateEIM, ecoResultCode := some .ok }
  cases eco with
  | addEIM config => exact succeeds_addEIM hB (reported_eq_ok h)
  | deleteEIM target =>
      refine succeeds_ecoInteger hB .deleteEIM 9 lastDeleted
        rfl (by decide) (by decide) (fun hfound hvalue => ?_) ⟨rfl, trivial⟩ (reported_eq_ok h)
      rw [ecoOperationResult, hfound]
      simp [deleteEIMResult, hvalue, mapDeleteEIMResult, lastDeleted]
  | updateEIM config =>
      refine succeeds_ecoInteger hB .updateEIM 10 updated rfl (by decide) (by decide)
        (fun hfound hvalue => ?_) ⟨rfl, trivial⟩ (reported_eq_ok h)
      rw [ecoOperationResult, hfound]
      simp [updateEIMResult, hvalue, mapUpdateEIMResult, updated]
  | listEIM =>
      obtain rfl := Except.ok.inj (reported_eq_ok h)
      exact ⟨⟨by decide, by decide, ⟨by decide, by decide, ⟨by decide, by decide,
        ⟨by decide, by decide⟩, trivial⟩, trivial⟩, trivial⟩, _, rfl, rfl, trivial⟩

/-- Whatever the mock IPA is asked to do, it reports as done. -/
theorem succeeds_of_executed (hB : F.bertlv.Lawful) {pkg : EuiccPackage}
    (h : successfulResultData F pkg eimID device = .ok (data, kind)) :
    Succeeds F.bertlv device pkg data := by
  unfold successfulResultData at h
  split at h
  next psmo => exact succeeds_psmo hB h
  next => cases h
  next eco => exact succeeds_eco hB h
  next => cases h

end OpenIotRsp.MockIpa
