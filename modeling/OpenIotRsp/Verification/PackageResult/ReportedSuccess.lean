import OpenIotRsp.Verification.PackageResult.SignatureBinding

/-!
# Reported success

A package of one operation is reported as successful only when the eUICC says
so.  A package of several operations is reported as successful whatever the
eUICC says.
-/

namespace OpenIotRsp.Euiccpkg

open Octets Ber Asn1 Outcome

variable {value : Int}

/-! ## What success means -/

/-- The operations of a package, in order. -/
def operations : EuiccPackage → List OperationKind
  | .psmo psmos => psmos.map fun psmo => (psmoOperation psmo).1
  | .eco ecos => ecos.map ecoOperation

/-- The arms that belong to an operation: those under its tag, and the sole arm with the base type
INTEGER where the package has no other operation. -/
def arms (pkg : EuiccPackage) (operation : OperationKind) (results : List EuiccResultData) :
    List Tlv :=
  (results.map EuiccResultData.raw).filter fun raw =>
    (raw.tag.isContextSpecific ∧ raw.tag.number = operation.resultTag) ∨
      ((operations pkg).length = 1 ∧ results.length = 1 ∧ raw.tag = tagInteger)

/-- `deleteEimResult` has a second code for success. -/
def lastEimDeleted : Int := 2

/-- The arm says that the operation was carried out. -/
def Successful (B : Bertlv) (operation : OperationKind) (raw : Tlv) : Prop :=
  match operation with
  | .listProfileInfo => ∃ profiles, ProfileInfoListResponse.unmarshalBERTLV B raw = .ok ⟨profiles, none⟩
  | .getRAT => True
  | .setDefaultDPAddress => SetDefaultDPAddressResponse.unmarshalBERTLV B raw = .ok ⟨0⟩
  | .addEIM => ∃ child, raw.children = [child] ∧
      (AddEimResult.unmarshalBERTLV B child = .ok (.code 0) ∨
        ∃ token, AddEimResult.unmarshalBERTLV B child = .ok (.associationToken token))
  | .listEIM => ∃ child, raw.children = [child] ∧
      ∃ list, ListEimResult.unmarshalBERTLV B child = .ok (.eimIDList list)
  | .deleteEIM => B.unmarshalInt raw = some 0 ∨ B.unmarshalInt raw = some lastEimDeleted
  | _ => B.unmarshalInt raw = some 0

/-- Every operation has an arm, and every arm of an operation says that it was carried out. -/
def Succeeded (B : Bertlv) (pkg : EuiccPackage) (results : List EuiccResultData) : Prop :=
  ∀ operation ∈ operations pkg, arms pkg operation results ≠ [] ∧
    ∀ raw ∈ arms pkg operation results, Successful B operation raw

/-- No operation has two arms. -/
def Unambiguous (pkg : EuiccPackage) (results : List EuiccResultData) : Prop :=
  ∀ operation ∈ operations pkg, (arms pkg operation results).length ≤ 1

variable {B : Bertlv} {C : Crypto} {pkg : EuiccPackage} {operation : OperationKind}
  {results : List EuiccResultData} {result : Result} {raw : Tlv}

/-! ## Single arms -/

theorem mapOperationResult_eq_ok : mapOperationResult operation value = .ok ↔ value = 0 := by
  unfold mapOperationResult
  split <;> simp_all

theorem mapAddEIMResult_eq_ok : mapAddEIMResult value = .ok ↔ value = 0 := by
  unfold mapAddEIMResult
  split <;> simp_all

theorem mapDeleteEIMResult_eq_ok : mapDeleteEIMResult value = .ok ↔ value = 0 := by
  unfold mapDeleteEIMResult
  split <;> simp_all

theorem mapDeleteEIMResult_eq_lastEIMDeleted :
    mapDeleteEIMResult value = .lastEIMDeleted ↔ value = lastEimDeleted := by
  unfold mapDeleteEIMResult lastEimDeleted
  split <;> simp_all

theorem mapUpdateEIMResult_eq_ok : mapUpdateEIMResult value = .ok ↔ value = 0 := by
  unfold mapUpdateEIMResult
  split <;> simp_all

theorem integerResult_eq_ok :
    integerResult B raw = .ok value ↔ B.unmarshalInt raw = some value := by
  unfold integerResult
  cases B.unmarshalInt raw <;> simp

theorem integer_zero (h : integerOperationResult B operation raw = .ok result)
    (hok : result.ok = true) : B.unmarshalInt raw = some 0 := by
  obtain ⟨value, hvalue, hresult⟩ := bind_eq_ok.mp h
  obtain rfl := Except.ok.inj hresult
  obtain rfl := mapOperationResult_eq_ok.mp (of_decide_eq_true hok)
  exact integerResult_eq_ok.mp hvalue

theorem listProfileInfo_successful (h : listProfileInfoResult B raw = .ok result)
    (hok : result.ok = true) : Successful B .listProfileInfo raw := by
  obtain ⟨⟨profiles, error⟩, hdecoded, hresult⟩ := bind_eq_ok.mp h
  cases error with
  | none => exact ⟨profiles, hdecoded⟩
  | some value =>
      obtain rfl := Except.ok.inj hresult
      cases hok

theorem setDefaultDPAddress_successful (h : setDefaultDPAddressResult B raw = .ok result)
    (hok : result.ok = true) : Successful B .setDefaultDPAddress raw := by
  obtain ⟨⟨value⟩, hdecoded, hresult⟩ := bind_eq_ok.mp h
  obtain rfl := Except.ok.inj hresult
  obtain rfl := mapOperationResult_eq_ok.mp (of_decide_eq_true hok)
  exact hdecoded

theorem children_of_explicitResultChild {number : Nat} {child : Tlv}
    (h : explicitResultChild raw number = .ok child) : raw.children = [child] := by
  rw [explicitResultChild] at h
  split at h
  next =>
      split at h
      next only hchildren =>
          obtain rfl := Except.ok.inj h
          exact hchildren
      next => cases h
  next => cases h

theorem addEIM_successful (h : addEIMResult B raw = .ok result) (hok : result.ok = true) :
    Successful B .addEIM raw := by
  obtain ⟨child, hchild, hdecode⟩ := bind_eq_ok.mp h
  obtain ⟨decoded, hdecoded, hresult⟩ := bind_eq_ok.mp hdecode
  refine ⟨child, children_of_explicitResultChild hchild, ?_⟩
  cases decoded with
  | associationToken token => exact .inr ⟨token, hdecoded⟩
  | code value =>
      obtain rfl := Except.ok.inj hresult
      obtain rfl := mapAddEIMResult_eq_ok.mp (of_decide_eq_true hok)
      exact .inl hdecoded

theorem deleteEIM_successful (h : deleteEIMResult B raw = .ok result) (hok : result.ok = true) :
    Successful B .deleteEIM raw := by
  obtain ⟨value, hvalue, hresult⟩ := bind_eq_ok.mp h
  obtain rfl := Except.ok.inj hresult
  rcases of_decide_eq_true hok with hcode | hcode
  · obtain rfl := mapDeleteEIMResult_eq_ok.mp hcode
    exact .inl (integerResult_eq_ok.mp hvalue)
  · obtain rfl := mapDeleteEIMResult_eq_lastEIMDeleted.mp hcode
    exact .inr (integerResult_eq_ok.mp hvalue)

theorem updateEIM_successful (h : updateEIMResult B raw = .ok result) (hok : result.ok = true) :
    Successful B .updateEIM raw := by
  obtain ⟨value, hvalue, hresult⟩ := bind_eq_ok.mp h
  obtain rfl := Except.ok.inj hresult
  obtain rfl := mapUpdateEIMResult_eq_ok.mp (of_decide_eq_true hok)
  exact integerResult_eq_ok.mp hvalue

theorem listEIM_successful (h : listEIMResult B raw = .ok result) (hok : result.ok = true) :
    Successful B .listEIM raw := by
  obtain ⟨child, hchild, hdecode⟩ := bind_eq_ok.mp h
  obtain ⟨decoded, hdecoded, hresult⟩ := bind_eq_ok.mp hdecode
  refine ⟨child, children_of_explicitResultChild hchild, ?_⟩
  cases decoded with
  | eimIDList list => exact ⟨list, hdecoded⟩
  | error value =>
      obtain rfl := Except.ok.inj hresult
      cases hok

/-! ## The arm that is read -/

/-- The arm of the only operation that decides what is reported. -/
def readArm (operation : OperationKind) (results : List EuiccResultData) : Option Tlv :=
  (resultDataByTag results operation.resultTag).or (baseTypeIntegerResult operation results)

/-- Operations of the eIM configuration. -/
def isECO : OperationKind → Bool
  | .addEIM | .deleteEIM | .updateEIM | .listEIM => true
  | _ => false

theorem psmo_successful (h : psmoOperationResult B operation results = .ok result)
    (hok : result.ok = true) (heco : isECO operation = false) :
    ∃ raw, readArm operation results = some raw ∧ Successful B operation raw := by
  rw [psmoOperationResult] at h
  rw [readArm]
  cases hdata : resultDataByTag results operation.resultTag with
  | some raw =>
      rw [hdata] at h
      refine ⟨raw, rfl, ?_⟩
      cases operation with
      | listProfileInfo => exact listProfileInfo_successful h hok
      | getRAT => trivial
      | setDefaultDPAddress => exact setDefaultDPAddress_successful h hok
      | addEIM | deleteEIM | updateEIM | listEIM => cases heco
      | _ => exact integer_zero h hok
  | none =>
      rw [hdata] at h
      cases hbase : baseTypeIntegerResult operation results with
      | none =>
          rw [hbase] at h
          cases h
      | some raw =>
          rw [hbase] at h
          refine ⟨raw, rfl, ?_⟩
          have hzero := integer_zero h hok
          cases operation with
          | listProfileInfo | getRAT | setDefaultDPAddress => cases hbase
          | addEIM | deleteEIM | updateEIM | listEIM => cases heco
          | _ => exact hzero

theorem eco_successful (h : ecoOperationResult B operation results = .ok result)
    (hok : result.ok = true) :
    ∃ raw, readArm operation results = some raw ∧ Successful B operation raw := by
  rw [ecoOperationResult] at h
  rw [readArm]
  cases hdata : resultDataByTag results operation.resultTag with
  | none =>
      rw [hdata] at h
      cases h
  | some raw =>
      rw [hdata] at h
      refine ⟨raw, rfl, ?_⟩
      cases operation with
      | addEIM => exact addEIM_successful h hok
      | deleteEIM => exact deleteEIM_successful h hok
      | updateEIM => exact updateEIM_successful h hok
      | listEIM => exact listEIM_successful h hok
      | _ => cases h

theorem isECO_psmoOperation (psmo : Psmo) : isECO (psmoOperation psmo).1 = false := by
  cases psmo <;> rfl

theorem psmoOperation_ne_none (psmo : Psmo) : (psmoOperation psmo).1 ≠ .none := by
  cases psmo <;> simp [psmoOperation]

theorem ecoOperation_ne_none (eco : Eco) : ecoOperation eco ≠ .none := by
  cases eco <;> simp [ecoOperation]

theorem operationResult_psmo (psmo : Psmo) :
    operationResult B (.psmo [psmo]) results =
      psmoOperationResult B (psmoOperation psmo).1 results :=
  if_pos (psmoOperation_ne_none psmo)

theorem operationResult_eco (eco : Eco) :
    operationResult B (.eco [eco]) results = ecoOperationResult B (ecoOperation eco) results :=
  (if_neg (not_not.mpr rfl)).trans (if_pos (ecoOperation_ne_none eco))

/-- Any other number of operations is reported as successful without a look at the results. -/
theorem operationResult_of_length (h : (operations pkg).length ≠ 1) :
    operationResult B pkg results = .ok { ok := true, resultCode := some .ok } := by
  rcases pkg with (_ | ⟨psmo, _ | ⟨psmo', psmos⟩⟩) | (_ | ⟨eco, _ | ⟨eco', ecos⟩⟩)
  · rfl
  · cases h rfl
  · rfl
  · rfl
  · cases h rfl
  · rfl

/-- The report on a single operation rests on the arm that is read. -/
theorem readArm_of_operationResult (hsingle : operations pkg = [operation])
    (h : operationResult B pkg results = .ok result) (hok : result.ok = true) :
    ∃ raw, readArm operation results = some raw ∧ Successful B operation raw := by
  cases pkg with
  | psmo psmos =>
      obtain ⟨psmo, rfl, rfl⟩ := List.map_eq_singleton_iff.mp hsingle
      rw [operationResult_psmo] at h
      exact psmo_successful h hok (isECO_psmoOperation psmo)
  | eco ecos =>
      obtain ⟨eco, rfl, rfl⟩ := List.map_eq_singleton_iff.mp hsingle
      rw [operationResult_eco] at h
      exact eco_successful h hok

theorem eq_singleton_of_baseTypeIntegerResult
    (h : baseTypeIntegerResult operation results = some raw) :
    results = [⟨raw⟩] ∧ raw.tag = tagInteger := by
  unfold baseTypeIntegerResult at h
  split at h
  next => cases h
  next => cases h
  next => cases h
  next =>
      split at h
      next only =>
          split at h
          next htag =>
              obtain rfl := Option.some.inj h
              exact ⟨rfl, htag⟩
          next => cases h
      next => cases h

theorem mem_arms_of_readArm (hsingle : operations pkg = [operation])
    (h : readArm operation results = some raw) : raw ∈ arms pkg operation results := by
  rw [arms, List.mem_filter, decide_eq_true_iff]
  rcases Option.or_eq_some_iff.mp h with hdata | ⟨-, hbase⟩
  · obtain ⟨data, hfind, rfl⟩ := Option.map_eq_some_iff.mp hdata
    have hfound := List.find?_some hfind
    exact ⟨List.mem_map_of_mem (List.mem_of_find?_eq_some hfind), .inl (of_decide_eq_true hfound)⟩
  · obtain ⟨rfl, htag⟩ := eq_singleton_of_baseTypeIntegerResult hbase
    exact ⟨List.mem_singleton.mpr rfl, .inr ⟨by rw [hsingle]; rfl, rfl, htag⟩⟩

/-- Without two arms for one operation, a report of success on at most one operation is right. -/
theorem succeeded_of_reported (hlength : (operations pkg).length ≤ 1)
    (hresults : Unambiguous pkg results) (h : operationResult B pkg results = .ok result)
    (hok : result.ok = true) : Succeeded B pkg results := by
  intro operation hoperation
  have hsingle : operations pkg = [operation] := by
    obtain ⟨operation', hoperations⟩ := List.length_eq_one_iff.mp
      (Nat.le_antisymm hlength (List.length_pos_of_mem hoperation))
    rw [hoperations, List.mem_singleton] at hoperation
    rw [hoperations, hoperation]
  obtain ⟨raw, hread, hsuccessful⟩ := readArm_of_operationResult hsingle h hok
  have hmem := mem_arms_of_readArm hsingle hread
  refine ⟨List.ne_nil_of_mem hmem, fun raw' hraw' => ?_⟩
  obtain ⟨only, honly⟩ := List.length_eq_one_iff.mp
    (Nat.le_antisymm (hresults operation hoperation) (List.length_pos_of_mem hmem))
  rw [honly, List.mem_singleton] at hmem hraw'
  rwa [hraw', ← hmem]

/-- The report on a package is right for all results without two arms for one operation just when the
package has at most one operation; what is reported on a signed result is then right as well. -/
theorem reported_success_iff (B : Bertlv) (pkg : EuiccPackage) :
    ((∀ results, Unambiguous pkg results → ∀ result, operationResult B pkg results = .ok result →
        result.ok = true → Succeeded B pkg results) ↔ (operations pkg).length ≤ 1) ∧
      ∀ C input request result, input.request = some request → request.package = pkg →
        (operations pkg).length ≤ 1 → verifyPackageResult B C input = .ok result →
        result.ok = true → ∃ signed,
          Asn1.decode B (EuiccPackageResult.unmarshalBERTLV B) input.resultDER = .ok (.ok signed) ∧
          (Unambiguous pkg signed.data.results → Succeeded B pkg signed.data.results) := by
  refine ⟨⟨fun h => ?_, fun hlength results hresults result hresult hok =>
    succeeded_of_reported hlength hresults hresult hok⟩, ?_⟩
  · -- a report on several operations does not even need a result
    by_contra hlength
    obtain ⟨operation, hoperation⟩ := List.exists_mem_of_length_pos (l := operations pkg) (by omega)
    have hsucceeded := h [] (fun _ _ => Nat.zero_le _) _
      (operationResult_of_length (by omega)) rfl
    exact (hsucceeded operation hoperation).1 rfl
  · rintro C input request result hrequest rfl hlength haccept hok
    obtain ⟨signed, -, hdecode, -, -, -, -, -, hresult⟩ := signed_of_accepted hrequest haccept hok
    exact ⟨signed, hdecode, fun hresults => succeeded_of_reported hlength hresults hresult hok⟩

theorem reported_success_iff_enable :
    Succeeded .reference (.psmo [.enable [0x89] false]) [⟨.primitive (context 3) [0x00]⟩] := by
  have hresults : Unambiguous (.psmo [.enable [0x89] false]) [⟨.primitive (context 3) [0x00]⟩] := by
    unfold Unambiguous
    decide
  exact (reported_success_iff .reference (.psmo [.enable [0x89] false])).1.mpr (by decide) _
    hresults { ok := true, operation := .enable, resultCode := some .ok } rfl rfl

/-- Two failed operations are reported as a success. -/
theorem failed_operations_reported :
    ∃ result, operationResult .reference (.psmo [.enable [0x89] false, .disable [0x98]])
        [⟨.primitive (context 3) [0x01]⟩, ⟨.primitive (context 4) [0x02]⟩] = .ok result ∧
      result.ok = true ∧
      Bertlv.reference.unmarshalInt (.primitive (context 3) [0x01]) = some 1 ∧
      Bertlv.reference.unmarshalInt (.primitive (context 4) [0x02]) = some 2 ∧
      ¬ Succeeded .reference (.psmo [.enable [0x89] false, .disable [0x98]])
        [⟨.primitive (context 3) [0x01]⟩, ⟨.primitive (context 4) [0x02]⟩] := by
  refine ⟨_, rfl, rfl, by decide, by decide, fun hsucceeded => ?_⟩
  have henable := (hsucceeded .enable (by decide)).2 (.primitive (context 3) [0x01]) (by decide)
  exact absurd henable (by simp only [Successful]; decide)

end OpenIotRsp.Euiccpkg
