import OpenIotRsp.Library.Ber.DocumentOrder
import OpenIotRsp.Model.Esipa.EidResolve
import OpenIotRsp.Verification.PackageResult.SignatureBinding

/-!
# The transaction identifier of a result

The identifier that routes a result is taken from the decoded structure for the
alternatives BF51, BF52 and BF54.  For the two others it is the first [2] of the
tree, whatever that is.
-/

namespace OpenIotRsp

open Octets Ber Asn1 Outcome

variable {tlv : Tlv}

namespace Asn1

/-- The `eimTransactionId` field of the selected alternative. -/
def EimPackageResult.eimTransactionID (r : EimPackageResult) : Option Bytes :=
  match r.choice with
  | .euiccPackage result => Esipa.euiccPackageTransactionID result
  | .eprAndNotifications result _ => result.bind Esipa.euiccPackageTransactionID
  | .ipaEuiccData response => Esipa.ipaEuiccDataTransactionID response
  | .profileDownload result => result.eimTransactionID
  | .error error => error.eimTransactionID

end Asn1

namespace Esipa

variable {B : Bertlv}

/-! ## The search -/

/-- The first [2] in document order. -/
def firstTransactionTag (nodes : List Tlv) : Option Tlv :=
  nodes.find? fun t => t.tag = context 2

mutual

theorem firstContextPrimitive2_eq (t : Tlv) :
    firstContextPrimitive2 t = (firstTransactionTag t.nodes).map Tlv.value := by
  cases t with
  | primitive tag value =>
      by_cases htag : tag = context 2 <;>
        simp [firstContextPrimitive2, firstTransactionTag, Tlv.nodes, htag, Tlv.value]
  | constructed tag children =>
      have hin := firstContextPrimitive2In_eq children
      by_cases htag : tag = context 2
      · simp [firstContextPrimitive2, firstTransactionTag, Tlv.nodes, htag, Tlv.value]
      · rw [firstTransactionTag] at hin
        simp [firstContextPrimitive2, firstTransactionTag, Tlv.nodes, htag, hin]

theorem firstContextPrimitive2In_eq (ts : List Tlv) :
    firstContextPrimitive2In ts = (firstTransactionTag (Tlv.nodesAll ts)).map Tlv.value := by
  cases ts with
  | nil => rfl
  | cons t ts =>
      rw [firstContextPrimitive2In, firstContextPrimitive2_eq t, firstContextPrimitive2In_eq ts,
        Tlv.nodesAll, firstTransactionTag, firstTransactionTag, firstTransactionTag,
        List.find?_append]
      cases t.nodes.find? fun t => t.tag = context 2 <;> rfl

end

/-! ## The package result -/

/-- The node that has the identifier of a package result as a child: the signed data, or the
alternative itself when there is no signature. -/
def transactionCarrier (pkg : Tlv) : Option Tlv :=
  match pkg.children with
  | [arm] => if (arm.first tagSignature).isSome then arm.children.head? else some arm
  | _ => none

/-- The carrier is read for the identifier, and no [2] stands in front of its fields. -/
structure Carries (pkg carrier : Tlv) (transactionID : Option Bytes) : Prop where
  carrier_eq : transactionCarrier pkg = some carrier
  read : transactionID = (carrier.first (context 2)).map Tlv.value
  fields_first : ∃ front after, pkg.nodes = front ++ (Tlv.nodesAll carrier.children ++ after) ∧
    ∀ t ∈ front, t.tag ≠ context 2

theorem transactionID_of_resultData {t : Tlv} {d : EuiccPackageResultDataSigned}
    (h : EuiccPackageResultDataSigned.unmarshalBERTLV B t = .ok d) :
    t.tag = tagSequence ∧ d.eimTransactionID = (t.first (context 2)).map Tlv.value := by
  obtain ⟨_, htag, h⟩ := bind_eq_ok.mp h
  obtain ⟨eimID, -, h⟩ := bind_eq_ok.mp h
  obtain ⟨counter, -, h⟩ := bind_eq_ok.mp h
  obtain ⟨seq, -, h⟩ := bind_eq_ok.mp h
  refine ⟨expectTag_eq_ok.mp htag, ?_⟩
  split at h
  next => cases h
  next =>
      split at h
      next => exact (congrArg _ (Except.ok.inj h)).symm
      next =>
          split at h
          next => exact (congrArg _ (Except.ok.inj h)).symm
          next => cases h

theorem transactionID_of_errorData {t : Tlv} {d : EuiccPackageErrorDataSigned}
    (h : EuiccPackageErrorDataSigned.unmarshalBERTLV B t = .ok d) :
    t.tag = tagSequence ∧ d.eimTransactionID = (t.first (context 2)).map Tlv.value := by
  obtain ⟨_, htag, h⟩ := bind_eq_ok.mp h
  obtain ⟨eimID, -, h⟩ := bind_eq_ok.mp h
  obtain ⟨counter, -, h⟩ := bind_eq_ok.mp h
  obtain ⟨code, -, h⟩ := bind_eq_ok.mp h
  exact ⟨expectTag_eq_ok.mp htag, (congrArg _ (Except.ok.inj h)).symm⟩

theorem transactionID_of_unsigned {t : Tlv} {e : EuiccPackageErrorUnsigned} (ht : t.WellFormed)
    (h : EuiccPackageErrorUnsigned.unmarshalBERTLV B t = .ok e) :
    t.tag ≠ context 2 ∧ e.eimTransactionID = (t.first (context 2)).map Tlv.value := by
  rw [EuiccPackageErrorUnsigned.unmarshalBERTLV] at h
  split at h
  next hcode =>
      obtain ⟨code, -, h⟩ := bind_eq_ok.mp h
      obtain rfl := Except.ok.inj h
      simp only [isEuiccPackageUnsignedErrorCodeTLV, decide_eq_true_eq] at hcode
      cases t with
      | primitive tag value =>
          rcases hcode with rfl | rfl
          · exact ⟨(by decide : tagInteger ≠ context 2), rfl⟩
          · exact ⟨(by decide : context 15 ≠ context 2), rfl⟩
      | constructed tag children =>
          rcases hcode with rfl | rfl
          · exact absurd ht.2.1 (by decide)
          · exact absurd ht.2.1 (by decide)
  next =>
      obtain ⟨_, htag, h⟩ := bind_eq_ok.mp h
      obtain ⟨token, -, h⟩ := bind_eq_ok.mp h
      obtain ⟨code, -, h⟩ := bind_eq_ok.mp h
      obtain rfl := Except.ok.inj h
      by_cases h2 : t.tag = contextConstructed 2
      · refine ⟨by rw [h2]; decide, ?_⟩
        simp only [if_pos h2]
        rfl
      · rw [if_neg h2] at htag
        refine ⟨by rw [expectTag_eq_ok.mp htag]; decide, ?_⟩
        simp only [if_neg h2]

theorem tag_ne_of_unwrap {arm : Tlv} (h : (unwrapEuiccPackageResultChoice arm).tag ≠ context 2) :
    arm.tag ≠ context 2 := by
  rw [unwrapEuiccPackageResultChoice] at h
  split at h
  next harm =>
      rintro h2
      rw [h2] at harm
      exact absurd harm (by decide)
  next => exact h

theorem unwrapEuiccPackageResultChoice_wellFormed {arm : Tlv} (h : arm.WellFormed) :
    (unwrapEuiccPackageResultChoice arm).WellFormed := by
  rw [unwrapEuiccPackageResultChoice]
  split
  next => exact ⟨by decide, by decide, h.children⟩
  next => exact h

/-- The signed kinds: the signed data is the first child of the alternative. -/
theorem carries_signed {pkg arm data : Tlv} {rest : List Tlv} {transactionID : Option Bytes}
    (hpkg : pkg.tag = tagEuiccPkg) (harm : pkg.children = [arm])
    (htag : (unwrapEuiccPackageResultChoice arm).tag = tagSequence)
    (hsignature : (arm.first tagSignature).isSome) (hchildren : arm.children = data :: rest)
    (hdata : data.tag = tagSequence ∧
      transactionID = (data.first (context 2)).map Tlv.value) :
    Carries pkg data transactionID := by
  refine ⟨?_, hdata.2, [pkg, arm, data], Tlv.nodesAll rest, ?_, ?_⟩
  · simp [transactionCarrier, harm, hsignature, hchildren]
  · rw [Tlv.nodes_eq, harm, Tlv.nodesAll_cons, Tlv.nodes_eq arm, hchildren, Tlv.nodesAll_cons,
      Tlv.nodes_eq data]
    simp
  · have harm_ne : arm.tag ≠ context 2 := tag_ne_of_unwrap (by rw [htag]; decide)
    have hpkg_ne : pkg.tag ≠ context 2 := by rw [hpkg]; decide
    have hdata_ne : data.tag ≠ context 2 := by rw [hdata.1]; decide
    simp [hpkg_ne, harm_ne, hdata_ne]

theorem exists_carries {pkg : Tlv} {result : EuiccPackageResult} (hwf : pkg.WellFormed)
    (h : EuiccPackageResult.unmarshalBERTLV B pkg = .ok result) :
    ∃ carrier, Carries pkg carrier (euiccPackageTransactionID result) := by
  obtain ⟨hpkg, arm, harm, hselected⟩ := EuiccPackageResult.of_unmarshalBERTLV h
  have hfirst : (unwrapEuiccPackageResultChoice arm).first = arm.first := by
    funext tag
    rw [Tlv.first, Tlv.first, children_unwrapEuiccPackageResultChoice]
  rw [EuiccPackageResult.unmarshalSelected, hfirst, children_unwrapEuiccPackageResultChoice]
    at hselected
  split at hselected
  next hsignature =>
      split at hselected
      next => cases hselected
      next first rest hchildren =>
          split at hselected
          next =>
              obtain ⟨signed, hsub, heq⟩ := bind_eq_ok.mp hselected
              obtain rfl := Except.ok.inj heq
              obtain ⟨htag, data, others, hsubChildren, hdata⟩ :=
                EuiccPackageResultSigned.of_unmarshalBERTLV hsub
              rw [children_unwrapEuiccPackageResultChoice] at hsubChildren
              exact ⟨data, carries_signed hpkg harm htag hsignature hsubChildren
                (transactionID_of_resultData hdata)⟩
          next =>
              obtain ⟨error, hsub, heq⟩ := bind_eq_ok.mp hselected
              obtain rfl := Except.ok.inj heq
              obtain ⟨htag, data, others, hsubChildren, hdata⟩ :=
                EuiccPackageErrorSigned.of_unmarshalBERTLV hsub
              rw [children_unwrapEuiccPackageResultChoice] at hsubChildren
              exact ⟨data, carries_signed hpkg harm htag hsignature hsubChildren
                (transactionID_of_errorData hdata)⟩
  next hsignature =>
      obtain ⟨error, hsub, heq⟩ := bind_eq_ok.mp hselected
      obtain rfl := Except.ok.inj heq
      have harmWF : arm.WellFormed := by
        have hall := hwf.children
        rw [harm] at hall
        exact hall.1
      obtain ⟨htag, hread⟩ :=
        transactionID_of_unsigned (unwrapEuiccPackageResultChoice_wellFormed harmWF) hsub
      rw [hfirst] at hread
      have harm_ne : arm.tag ≠ context 2 := tag_ne_of_unwrap htag
      have hpkg_ne : pkg.tag ≠ context 2 := by rw [hpkg]; decide
      refine ⟨arm, ?_, hread, [pkg, arm], [], ?_, by simp [hpkg_ne, harm_ne]⟩
      · simp only [Bool.not_eq_true] at hsignature
        simp [transactionCarrier, harm, hsignature]
      · rw [Tlv.nodes_eq, harm, Tlv.nodesAll_cons, Tlv.nodes_eq arm]
        simp

/-! ## What is found -/

theorem eimTransactionIDFromResultTLV_of_search (h51 : tlv.tag ≠ tagEuiccPkg)
    (h52 : tlv.tag ≠ tagIpaEuiccData) (h54 : tlv.tag ≠ tagDownloadTrig) :
    eimTransactionIDFromResultTLV B tlv = (firstTransactionTag tlv.nodes).map Tlv.value := by
  have htrigger : ProfileDownloadTriggerResult.unmarshalBERTLV B tlv =
      .error (.unexpectedTag tlv.tag tagDownloadTrig) := by
    rw [ProfileDownloadTriggerResult.unmarshalBERTLV, expectTag, if_neg h54, error_bind]
  have hpackage : EuiccPackageResult.unmarshalBERTLV B tlv =
      .error (.unexpectedTag tlv.tag tagEuiccPkg) := by
    rw [EuiccPackageResult.unmarshalBERTLV, expectTag, if_neg h51, error_bind]
  rw [eimTransactionIDFromResultTLV, if_neg h52, htrigger, hpackage]
  exact firstContextPrimitive2_eq tlv

/-- Document order leads to the identifier of the carrier: where it has one, a [2] inside the fields
before it has the same value, and where it has none, the whole tree has no [2]. -/
def TransactionFirst (tlv carrier : Tlv) : Prop :=
  match carrier.first (context 2) with
  | some field => ∀ t, firstTransactionTag (Tlv.nodesAll
      (carrier.children.takeWhile fun t => t.tag ≠ context 2)) = some t → t.value = field.value
  | none => ∀ t ∈ tlv.nodes, t.tag ≠ context 2

theorem found_iff {tlv pkg carrier : Tlv} {rest : List Tlv} {transactionID : Option Bytes}
    (hcarries : Carries pkg carrier transactionID) (htag : tlv.tag ≠ context 2)
    (hchildren : tlv.children = pkg :: rest) :
    (firstTransactionTag tlv.nodes).map Tlv.value = transactionID ↔
      TransactionFirst tlv carrier := by
  rw [hcarries.read, TransactionFirst]
  cases hfield : carrier.first (context 2) with
  | none => simp [firstTransactionTag]
  | some field =>
      obtain ⟨front, after, hnodes, hfront⟩ := hcarries.fields_first
      have hskip : firstTransactionTag front = none := by
        simpa [firstTransactionTag] using hfront
      have hsearch : firstTransactionTag tlv.nodes = (firstTransactionTag (Tlv.nodesAll
          (carrier.children.takeWhile fun t => t.tag ≠ context 2))).or (some field) := by
        rw [Tlv.nodes_eq, hchildren, Tlv.nodesAll_cons, hnodes]
        simp only [firstTransactionTag] at hskip ⊢
        rw [List.find?_cons_of_neg (by simpa using htag), List.find?_append, List.find?_append,
          hskip, Option.none_or, List.find?_append, Tlv.find?_nodesAll_of_first hfield,
          Option.or_assoc, Option.or_assoc, Option.some_or]
      rw [hsearch]
      cases firstTransactionTag (Tlv.nodesAll
          (carrier.children.takeWhile fun t => t.tag ≠ context 2)) with
      | none => simp
      | some t => simp

/-- Where the identifier is looked up by document order, that order leads to it: to the field of the
package result under a SEQUENCE, to the [0] of an error under A0. -/
def TransactionReached (tlv : Tlv) : Prop :=
  (tlv.tag = tagSequence → ∀ pkg carrier, tlv.first tagEuiccPkg = some pkg →
    transactionCarrier pkg = some carrier → TransactionFirst tlv carrier) ∧
  (tlv.tag = contextConstructed 0 →
    (firstTransactionTag (Tlv.nodesAll tlv.children)).map Tlv.value =
      (tlv.first (context 0)).map Tlv.value)

theorem extracted_package {package : EuiccPackageResult} (htag : tlv.tag = tagEuiccPkg)
    (h : EuiccPackageResult.unmarshalBERTLV B tlv = .ok package) :
    eimTransactionIDFromResultTLV B tlv = euiccPackageTransactionID package := by
  have htrigger : ProfileDownloadTriggerResult.unmarshalBERTLV B tlv =
      .error (.unexpectedTag tlv.tag tagDownloadTrig) := by
    rw [ProfileDownloadTriggerResult.unmarshalBERTLV, expectTag, htag, if_neg (by decide),
      error_bind]
  rw [eimTransactionIDFromResultTLV, if_neg (by rw [htag]; decide), htrigger, h]

theorem exists_package_child (htag : tlv.tag = tagSequence) (h : isEimPackageResultTLV tlv = true) :
    ∃ pkg rest, tlv.children = pkg :: rest ∧ pkg.tag = tagEuiccPkg := by
  have hne : tagSequence ≠ tagEuiccPkg ∧ tagSequence ≠ tagIpaEuiccData ∧
      tagSequence ≠ tagDownloadTrig ∧ tagSequence ≠ contextConstructed 0 ∧
      tagSequence ≠ tagInteger := by decide
  cases hchildren : tlv.children with
  | nil => simp [isEimPackageResultTLV, htag, hne, hchildren] at h
  | cons pkg rest =>
      exact ⟨pkg, rest, rfl, by simpa [isEimPackageResultTLV, htag, hne, hchildren] using h⟩

/-- The alternatives of a result, with what was decoded. -/
inductive Selected (B : Bertlv) (tlv : Tlv) : EimPackageResultChoice → Prop
  | package {result : EuiccPackageResult} (htag : tlv.tag = tagEuiccPkg)
      (hread : EuiccPackageResult.unmarshalBERTLV B tlv = .ok result) :
      Selected B tlv (.euiccPackage result)
  | notifications {pkg : Tlv} {rest : List Tlv} {result : EuiccPackageResult}
      {notifications : Option (List PendingNotification)} (htag : tlv.tag = tagSequence)
      (hpkg : pkg.tag = tagEuiccPkg) (hchildren : tlv.children = pkg :: rest)
      (hread : EuiccPackageResult.unmarshalBERTLV B pkg = .ok result) :
      Selected B tlv (.eprAndNotifications (some result) notifications)
  | ipaEuiccData {response : IpaEuiccDataResponse} (htag : tlv.tag = tagIpaEuiccData)
      (hread : IpaEuiccDataResponse.unmarshalBERTLV B tlv = .ok response) :
      Selected B tlv (.ipaEuiccData response)
  | profileDownload {result : ProfileDownloadTriggerResult} (htag : tlv.tag = tagDownloadTrig)
      (hread : ProfileDownloadTriggerResult.unmarshalBERTLV B tlv = .ok result) :
      Selected B tlv (.profileDownload result)
  | error {error : EimPackageResultResponseError} (htag : tlv.tag = contextConstructed 0)
      (hread : EimPackageResultResponseError.unmarshalBERTLV B
        (.constructed tagSequence tlv.children) = .ok error) :
      Selected B tlv (.error error)
  | code {code : Int} (htag : tlv.tag = tagInteger) : Selected B tlv (.error ⟨none, code⟩)

theorem selected_notifications {choice : EimPackageResultChoice} (htag : tlv.tag = tagSequence)
    (hresult : isEimPackageResultTLV tlv = true)
    (h : EimPackageResult.unmarshalChoice B tlv = .ok choice) : Selected B tlv choice := by
  obtain ⟨pkg, rest, hchildren, hpkg⟩ := exists_package_child htag hresult
  have hfirst : tlv.first tagEuiccPkg = some pkg := by simp [Tlv.first, hchildren, hpkg]
  rw [EimPackageResult.unmarshalChoice, if_neg (by rw [htag]; decide), if_pos htag, hfirst] at h
  obtain ⟨package, hpackage, h⟩ := bind_eq_ok.mp h
  obtain ⟨notifications, -, heq⟩ := bind_eq_ok.mp h
  obtain rfl := Except.ok.inj heq
  obtain ⟨decoded, hdecoded, heq⟩ := bind_eq_ok.mp hpackage
  obtain rfl := Except.ok.inj heq
  exact .notifications htag hpkg hchildren hdecoded

theorem selected_of_unmarshalBERTLV {result : EimPackageResult}
    (h : EimPackageResult.unmarshalBERTLV B tlv = .ok result) :
    ∃ choice, result = ⟨choice, tlv⟩ ∧ Selected B tlv choice := by
  rw [EimPackageResult.unmarshalBERTLV] at h
  split at h
  next hresult =>
      obtain ⟨choice, hchoice, heq⟩ := bind_eq_ok.mp h
      refine ⟨choice, (Except.ok.inj heq).symm, ?_⟩
      have htags := hresult
      simp only [isEimPackageResultTLV, decide_eq_true_eq] at htags
      rcases htags with h51 | h52 | h54 | herror | hcode | hsequence
      · rw [EimPackageResult.unmarshalChoice, if_pos h51] at hchoice
        obtain ⟨package, hpackage, heq⟩ := bind_eq_ok.mp hchoice
        exact Except.ok.inj heq ▸ .package h51 hpackage
      · rw [EimPackageResult.unmarshalChoice, h52, if_neg (by decide), if_neg (by decide),
          if_pos rfl] at hchoice
        obtain ⟨response, hresponse, heq⟩ := bind_eq_ok.mp hchoice
        exact Except.ok.inj heq ▸ .ipaEuiccData h52 hresponse
      · rw [EimPackageResult.unmarshalChoice, h54, if_neg (by decide), if_neg (by decide),
          if_neg (by decide), if_pos rfl] at hchoice
        obtain ⟨download, hdownload, heq⟩ := bind_eq_ok.mp hchoice
        exact Except.ok.inj heq ▸ .profileDownload h54 hdownload
      · rw [EimPackageResult.unmarshalChoice, herror, if_neg (by decide), if_neg (by decide),
          if_neg (by decide), if_neg (by decide), if_pos rfl] at hchoice
        obtain ⟨error, hread, heq⟩ := bind_eq_ok.mp hchoice
        exact Except.ok.inj heq ▸ .error herror hread
      · rw [EimPackageResult.unmarshalChoice, hcode, if_neg (by decide), if_neg (by decide),
          if_neg (by decide), if_neg (by decide), if_neg (by decide)] at hchoice
        obtain ⟨code, -, heq⟩ := bind_eq_ok.mp hchoice
        exact Except.ok.inj heq ▸ .code hcode
      · exact selected_notifications hsequence.1 hresult hchoice
  next => cases h

theorem search_integer (hwf : tlv.WellFormed) (htag : tlv.tag = tagInteger) :
    (firstTransactionTag tlv.nodes).map Tlv.value = none := by
  cases tlv with
  | primitive tag value =>
      obtain rfl : tag = tagInteger := htag
      rfl
  | constructed tag children =>
      obtain rfl : tag = tagInteger := htag
      exact absurd hwf.2.1 (by decide)

theorem transactionID_of_error {children : List Tlv} {error : EimPackageResultResponseError}
    (h : EimPackageResultResponseError.unmarshalBERTLV B (.constructed tagSequence children) =
      .ok error) :
    error.eimTransactionID = (children.find? fun t => t.tag = context 0).map Tlv.value := by
  obtain ⟨_, -, h⟩ := bind_eq_ok.mp h
  obtain ⟨code, -, h⟩ := bind_eq_ok.mp h
  exact (congrArg _ (Except.ok.inj h)).symm

theorem transactionReached_of_tag (hsequence : tlv.tag ≠ tagSequence)
    (herror : tlv.tag ≠ contextConstructed 0) : TransactionReached tlv :=
  ⟨fun h => absurd h hsequence, fun h => absurd h herror⟩

/-- A package result with notifications has the package result in front. -/
theorem reached_notifications_iff {tlv pkg carrier : Tlv} {rest : List Tlv}
    {transactionID : Option Bytes} (hcarries : Carries pkg carrier transactionID)
    (htag : tlv.tag = tagSequence) (hpkg : pkg.tag = tagEuiccPkg)
    (hchildren : tlv.children = pkg :: rest) :
    (firstTransactionTag tlv.nodes).map Tlv.value = transactionID ↔ TransactionReached tlv := by
  have hfirst : tlv.first tagEuiccPkg = some pkg := by simp [Tlv.first, hchildren, hpkg]
  rw [found_iff hcarries (by rw [htag]; decide) hchildren]
  constructor
  · intro hreached
    refine ⟨fun _ pkg' carrier' hpkg' hcarrier' => ?_, fun h => absurd (htag.symm.trans h) (by decide)⟩
    obtain rfl := Option.some.inj (hfirst.symm.trans hpkg')
    obtain rfl := Option.some.inj (hcarries.carrier_eq.symm.trans hcarrier')
    exact hreached
  · intro hreached
    exact hreached.1 htag pkg carrier hfirst hcarries.carrier_eq

/-- An error under A0 keeps its identifier in [0]. -/
theorem reached_error_iff (htag : tlv.tag = contextConstructed 0) :
    (firstTransactionTag tlv.nodes).map Tlv.value = (tlv.first (context 0)).map Tlv.value ↔
      TransactionReached tlv := by
  have hnodes : firstTransactionTag tlv.nodes = firstTransactionTag (Tlv.nodesAll tlv.children) := by
    have hne : contextConstructed 0 ≠ context 2 := by decide
    rw [Tlv.nodes_eq, firstTransactionTag, firstTransactionTag, List.find?_cons_of_neg]
    simpa [htag] using hne
  rw [hnodes]
  exact ⟨fun h => ⟨fun hsequence => absurd (htag.symm.trans hsequence) (by decide), fun _ => h⟩,
    fun h => h.2 htag⟩

/-- **The transaction identifier.**  What is extracted from a result is the identifier of the
decoded structure, or nothing where it has none, just when document order leads to it. -/
theorem transaction_extracted_iff {tlv : Tlv} {result : EimPackageResult} (hwf : tlv.WellFormed)
    (h : EimPackageResult.unmarshalBERTLV B tlv = .ok result) :
    eimTransactionIDFromResultTLV B tlv = result.eimTransactionID ↔ TransactionReached tlv := by
  obtain ⟨choice, rfl, hselected⟩ := selected_of_unmarshalBERTLV h
  cases hselected with
  | package htag hread =>
      exact iff_of_true (extracted_package htag hread)
        (transactionReached_of_tag (by rw [htag]; decide) (by rw [htag]; decide))
  | notifications htag hpkg hchildren hread =>
      have hpkgWF := hwf.children
      rw [hchildren] at hpkgWF
      obtain ⟨carrier, hcarries⟩ := exists_carries hpkgWF.1 hread
      rw [eimTransactionIDFromResultTLV_of_search (by rw [htag]; decide) (by rw [htag]; decide)
        (by rw [htag]; decide)]
      exact reached_notifications_iff hcarries htag hpkg hchildren
  | ipaEuiccData htag hread =>
      refine iff_of_true ?_
        (transactionReached_of_tag (by rw [htag]; decide) (by rw [htag]; decide))
      rw [eimTransactionIDFromResultTLV, if_pos htag, hread]
      rfl
  | profileDownload htag hread =>
      refine iff_of_true ?_
        (transactionReached_of_tag (by rw [htag]; decide) (by rw [htag]; decide))
      rw [eimTransactionIDFromResultTLV, if_neg (by rw [htag]; decide), hread]
      rfl
  | error htag hread =>
      have hid : (EimPackageResult.mk (.error _) tlv).eimTransactionID = _ :=
        transactionID_of_error hread
      rw [hid, eimTransactionIDFromResultTLV_of_search (by rw [htag]; decide)
        (by rw [htag]; decide) (by rw [htag]; decide)]
      exact reached_error_iff htag
  | code htag =>
      rw [eimTransactionIDFromResultTLV_of_search (by rw [htag]; decide) (by rw [htag]; decide)
        (by rw [htag]; decide)]
      exact iff_of_true (search_integer hwf htag)
        (transactionReached_of_tag (by rw [htag]; decide) (by rw [htag]; decide))

/-- A listed eIM with its identifier type, reported together with notifications. -/
def sampleListing (transactionID : Option Bytes) : Tlv :=
  .constructed tagSequence [
    .constructed tagEuiccPkg [.constructed tagSequence [
      .constructed tagSequence ([utf8TLV (context 0) (text "eim"), .primitive (context 1) [0x01]] ++
        transactionID.toList.map (octetTLV (context 2)) ++
        [.primitive (context 3) [0x01], .constructed tagSequence [
          .constructed (contextConstructed 11) [.constructed tagSequence [
            .constructed tagSequence [utf8TLV (context 0) (text "eim"),
              .primitive (context 2) [0x02]]]]]]),
      octetTLV tagSignature [0xaa]]],
    .constructed tagNotificationList []]

def sampleListingResult (transactionID : Option Bytes) : EimPackageResult :=
  ⟨.eprAndNotifications (some (.ok ⟨⟨text "eim", 1, transactionID, 1,
      [⟨.constructed (contextConstructed 11) [.constructed tagSequence [
        .constructed tagSequence [utf8TLV (context 0) (text "eim"),
          .primitive (context 2) [0x02]]]]⟩]⟩, [0xaa]⟩)) (some []), sampleListing transactionID⟩

theorem transaction_extracted_iff_listing :
    EimPackageResult.unmarshalBERTLV .reference (sampleListing (some [0x07])) =
        .ok (sampleListingResult (some [0x07])) ∧
      (eimTransactionIDFromResultTLV .reference (sampleListing (some [0x07])) = some [0x07] ↔
        TransactionReached (sampleListing (some [0x07]))) := by
  have hread : EimPackageResult.unmarshalBERTLV .reference (sampleListing (some [0x07])) =
      .ok (sampleListingResult (some [0x07])) := by decide +kernel
  refine ⟨hread, transaction_extracted_iff ?_ hread⟩
  simp only [sampleListing, Tlv.WellFormed, Tlv.AllWellFormed, Option.toList_some, List.map_cons,
    List.map_nil, List.cons_append, List.nil_append, utf8TLV, octetTLV]
  decide

def sampleArmError : Tlv :=
  .constructed (contextConstructed 0) [.primitive (context 0) [0x07], .primitive tagInteger [0x01]]

/-- The identifier of an error under A0 is not found, and for a listing without an identifier the
type of the listed eIM is taken. -/
theorem transaction_not_extracted :
    EimPackageResult.unmarshalBERTLV .reference sampleArmError =
        .ok ⟨.error ⟨some [0x07], 1⟩, sampleArmError⟩ ∧
      eimTransactionIDFromResultTLV .reference sampleArmError = none ∧
      EimPackageResult.unmarshalBERTLV .reference (sampleListing none) =
        .ok (sampleListingResult none) ∧
      (sampleListingResult none).eimTransactionID = none ∧
      eimTransactionIDFromResultTLV .reference (sampleListing none) = some [0x02] := by
  decide +kernel

end Esipa

end OpenIotRsp
