import OpenIotRsp.Library.Outcome
import OpenIotRsp.Model.Asn1.IpaData

/-!
# Data objects

What each object of a BF52 response sets, and where the objects are looked for:
under the success alternative of the response, or under BF52 itself.
-/

namespace OpenIotRsp.Asn1

open Octets Ber Outcome

variable {B : Bertlv} {out out' data : IpaEuiccData} {child tlv : Tlv} {objects : List Tlv}

/-- The tags of `IpaEuiccData`. -/
def dataObjectTags : List Tag :=
  [tagEID, contextConstructed 0, context 1, contextConstructed 2, tagEUICCInfo1, tagEUICCInfo2,
    context 3, context 4, contextConstructed 5, contextConstructed 6, context 7, tagIPACapabilities,
    contextConstructed 9, tagProfileInfoList]

/-! ## One object -/

/-- What one object sets. -/
inductive Taken (B : Bertlv) (out : IpaEuiccData) (child : Tlv) : IpaEuiccData → Prop where
  | eid (htag : child.tag = tagEID) : Taken B out child { out with eid := child.value }
  | notifications {list : List PendingNotification} (htag : child.tag = contextConstructed 0)
      (hlist : PendingNotificationList.unmarshalBERTLV B child = .ok list) :
      Taken B out child { out with notificationsRaw := child, notifications := list }
  | defaultSMDPAddress (htag : child.tag = context 1) :
      Taken B out child { out with defaultSMDPAddress := child.value }
  | packageResults {results : List EuiccPackageResult} (htag : child.tag = contextConstructed 2)
      (hresults : unmarshalEuiccPackageResultList B child = .ok results) :
      Taken B out child { out with
        euiccPackageResultRaw := child
        euiccPackageResults := results
        profiles := out.profiles ++ profilesFromPackageResults B results }
  | euiccInfo1 (htag : child.tag = tagEUICCInfo1) :
      Taken B out child { out with
        euiccInfo1Raw := child
        euiccInfo1 := unmarshalEUICCInfo child }
  | euiccInfo2 (htag : child.tag = tagEUICCInfo2) :
      Taken B out child { out with
        euiccInfo2Raw := child
        euiccInfo2 := unmarshalEUICCInfo child }
  | rootSMDSAddress (htag : child.tag = context 3) :
      Taken B out child { out with rootSMDSAddress := child.value }
  | associationToken {token : Int} (htag : child.tag = context 4) :
      Taken B out child { out with associationToken := token }
  | eumCertificate (htag : child.tag = contextConstructed 5) :
      Taken B out child { out with eumCertificateRaw := child }
  | euiccCertificate (htag : child.tag = contextConstructed 6) :
      Taken B out child { out with euiccCertificateRaw := child }
  | transaction (htag : child.tag = context 7) :
      Taken B out child { out with eimTransactionID := child.value }
  | ipaCapabilities (htag : child.tag = tagIPACapabilities) :
      Taken B out child { out with ipaCapabilitiesRaw := child }
  | deviceInfo (htag : child.tag = contextConstructed 9) :
      Taken B out child { out with deviceInfoRaw := child }
  | profileList {decoded : ProfileInfoListResponse} (htag : child.tag = tagProfileInfoList)
      (hdecoded : ProfileInfoListResponse.unmarshalBERTLV B child = .ok decoded) :
      Taken B out child { out with
        profileInfoListPresent := true
        profiles := out.profiles ++ decoded.profiles }
  | unknown (htag : child.tag ∉ dataObjectTags) : Taken B out child out

theorem taken_of_unmarshalObject (h : IpaEuiccData.unmarshalObject B out child = .ok out') :
    Taken B out child out' := by
  rw [IpaEuiccData.unmarshalObject] at h
  rcases ite_eq_iff.mp h with ⟨htag, h⟩ | ⟨h1, h⟩
  · obtain rfl := Except.ok.inj h
    exact .eid htag
  rcases ite_eq_iff.mp h with ⟨htag, h⟩ | ⟨h2, h⟩
  · obtain ⟨list, hlist, h⟩ := bind_eq_ok.mp h
    obtain rfl := Except.ok.inj h
    exact .notifications htag hlist
  rcases ite_eq_iff.mp h with ⟨htag, h⟩ | ⟨h3, h⟩
  · obtain rfl := Except.ok.inj h
    exact .defaultSMDPAddress htag
  rcases ite_eq_iff.mp h with ⟨htag, h⟩ | ⟨h4, h⟩
  · obtain ⟨results, hresults, h⟩ := bind_eq_ok.mp h
    obtain rfl := Except.ok.inj h
    exact .packageResults htag hresults
  rcases ite_eq_iff.mp h with ⟨htag, h⟩ | ⟨h5, h⟩
  · obtain rfl := Except.ok.inj h
    exact .euiccInfo1 htag
  rcases ite_eq_iff.mp h with ⟨htag, h⟩ | ⟨h6, h⟩
  · obtain rfl := Except.ok.inj h
    exact .euiccInfo2 htag
  rcases ite_eq_iff.mp h with ⟨htag, h⟩ | ⟨h7, h⟩
  · obtain rfl := Except.ok.inj h
    exact .rootSMDSAddress htag
  rcases ite_eq_iff.mp h with ⟨htag, h⟩ | ⟨h8, h⟩
  · obtain ⟨token, -, h⟩ := bind_eq_ok.mp h
    obtain rfl := Except.ok.inj h
    exact .associationToken htag
  rcases ite_eq_iff.mp h with ⟨htag, h⟩ | ⟨h9, h⟩
  · obtain rfl := Except.ok.inj h
    exact .eumCertificate htag
  rcases ite_eq_iff.mp h with ⟨htag, h⟩ | ⟨h10, h⟩
  · obtain rfl := Except.ok.inj h
    exact .euiccCertificate htag
  rcases ite_eq_iff.mp h with ⟨htag, h⟩ | ⟨h11, h⟩
  · obtain rfl := Except.ok.inj h
    exact .transaction htag
  rcases ite_eq_iff.mp h with ⟨htag, h⟩ | ⟨h12, h⟩
  · obtain ⟨_, -, h⟩ := bind_eq_ok.mp h
    obtain rfl := Except.ok.inj h
    exact .ipaCapabilities htag
  rcases ite_eq_iff.mp h with ⟨htag, h⟩ | ⟨h13, h⟩
  · obtain rfl := Except.ok.inj h
    exact .deviceInfo htag
  rcases ite_eq_iff.mp h with ⟨htag, h⟩ | ⟨h14, h⟩
  · obtain ⟨decoded, hdecoded, h⟩ := bind_eq_ok.mp h
    obtain rfl := Except.ok.inj h
    exact .profileList htag hdecoded
  obtain rfl := Except.ok.inj h
  refine .unknown ?_
  simp [dataObjectTags, h1, h2, h3, h4, h5, h6, h7, h8, h9, h10, h11, h12, h13, h14]

theorem Taken.rawObjects (h : Taken B out child out') : out'.rawObjects = out.rawObjects := by
  cases h <;> rfl

/-! ## All objects -/

/-- What each object carries on from the objects before it holds of the whole response. -/
theorem unmarshal_invariant {P : List Tlv → IpaEuiccData → Prop} (hstart : P [] {})
    (hobject : ∀ done child out out' raw, P done out →
      Taken B { out with rawObjects := raw } child out' → P (done ++ [child]) out')
    (h : IpaEuiccData.unmarshal B tlv = .ok data) : P tlv.children data :=
  foldlM_invariant hstart
    (fun done child out out' hdone hround =>
      hobject done child out out' _ hdone (taken_of_unmarshalObject hround)) h

theorem rawObjects_of_unmarshal (h : IpaEuiccData.unmarshal B tlv = .ok data) :
    data.rawObjects = tlv.children := by
  refine (foldlM_invariant (P := fun done out => out.rawObjects = done) rfl ?_ h)
  intro done child out out' hdone hround
  rw [(taken_of_unmarshalObject hround).rawObjects, hdone]

/-- The data of a response is read from the response's data objects. -/
theorem unmarshal_of_response (h : IpaEuiccDataResponse.unmarshalBERTLV B tlv = .ok (.data data)) :
    ∃ content : Tlv, content.children = ipaEuiccDataObjects tlv ∧
      IpaEuiccData.unmarshal B content = .ok data := by
  obtain ⟨-, h⟩ := unit_bind_eq_ok.mp h
  rw [ipaEuiccDataObjects]
  rcases ite_eq_iff.mp h with ⟨-, h⟩ | ⟨hdata, h⟩
  · obtain ⟨error, -, h⟩ := bind_eq_ok.mp h
    cases h
  · obtain ⟨decoded, hdecoded, h⟩ := bind_eq_ok.mp h
    obtain rfl := IpaEuiccDataResponse.data.inj (Except.ok.inj h)
    exact ⟨_, (if_neg hdata).symm, hdecoded⟩

/-! ## The success alternative -/

/-- The objects under BF52. -/
def bareResponse (objects : List Tlv) : Tlv := .constructed tagIpaEuiccData objects

/-- The objects under the success alternative of BF52. -/
def choiceResponse (objects : List Tlv) : Tlv :=
  bareResponse [.constructed (contextConstructed 0) objects]

/-- Both fail, or both give the same data. -/
def SameData (r r' : Except Error IpaEuiccDataResponse) : Prop :=
  (¬ r.isOk ∧ ¬ r'.isOk) ∨ ∃ data, r = .ok (.data data) ∧ r' = .ok (.data data)

/-- A list of notifications that is the only object, and is empty or has a notification under the
tag of the list itself. -/
def TakenForChoice (objects : List Tlv) : Prop :=
  ∃ list, objects = [list] ∧ list.tag = contextConstructed 0 ∧
    (list.children = [] ∨ ∃ child ∈ list.children, child.tag = contextConstructed 0)

theorem not_isPending_of_dataObject (h : child.tag ∈ dataObjectTags)
    (hother : child.tag ≠ contextConstructed 0) : isPendingNotificationTLV child = false := by
  have htags : ∀ tag ∈ dataObjectTags, tag ≠ contextConstructed 0 →
      ¬ (tag = tagProfileInstall ∨ tag = tagSequence ∨ tag = tagNotificationList ∨
        tag = contextConstructed 1) := by decide
  exact decide_eq_false (htags child.tag h hother)

theorem isSuccessChoiceArm_of_objects (h : ∀ object ∈ objects, object.tag ∈ dataObjectTags) :
    isIpaEuiccDataSuccessChoiceArm (.constructed (contextConstructed 0) objects) = true := by
  cases objects with
  | nil => rfl
  | cons object rest =>
      by_cases hlist : object.tag = contextConstructed 0
      · simp [isIpaEuiccDataSuccessChoiceArm, hlist]
      · have hpending := not_isPending_of_dataObject (h object List.mem_cons_self) hlist
        simp [isIpaEuiccDataSuccessChoiceArm, hpending]

theorem first_integer_bareResponse (h : ∀ object ∈ objects, object.tag ∈ dataObjectTags) :
    (bareResponse objects).first tagInteger = none := by
  refine List.find?_eq_none.mpr fun object hobject hinteger => ?_
  have hmem := h object hobject
  rw [of_decide_eq_true hinteger] at hmem
  exact absurd hmem (by decide)

/-- A response without an INTEGER that unwraps to the objects is decoded from them. -/
theorem unmarshalBERTLV_of_unwrap (htag : tlv.tag = tagIpaEuiccData)
    (hunwrap : unwrapIpaEuiccDataResponseChoice tlv = (bareResponse objects, false))
    (hinteger : (bareResponse objects).first tagInteger = none) :
    IpaEuiccDataResponse.unmarshalBERTLV B tlv =
      (IpaEuiccData.unmarshal B (bareResponse objects)).map .data := by
  rw [IpaEuiccDataResponse.unmarshalBERTLV, expectTag, if_pos htag, hunwrap, ok_bind]
  simp only [hinteger]
  cases IpaEuiccData.unmarshal B (bareResponse objects) <;> rfl

theorem unmarshalBERTLV_choiceResponse (h : ∀ object ∈ objects, object.tag ∈ dataObjectTags) :
    IpaEuiccDataResponse.unmarshalBERTLV B (choiceResponse objects) =
      (IpaEuiccData.unmarshal B (bareResponse objects)).map .data :=
  unmarshalBERTLV_of_unwrap rfl (if_pos ⟨rfl, isSuccessChoiceArm_of_objects h⟩)
    (first_integer_bareResponse h)

theorem unmarshalBERTLV_bareResponse (h : ∀ object ∈ objects, object.tag ∈ dataObjectTags)
    (hlone : ∀ list, objects = [list] → list.tag = contextConstructed 0 →
      isIpaEuiccDataSuccessChoiceArm list = false) :
    IpaEuiccDataResponse.unmarshalBERTLV B (bareResponse objects) =
      (IpaEuiccData.unmarshal B (bareResponse objects)).map .data := by
  refine unmarshalBERTLV_of_unwrap rfl ?_ (first_integer_bareResponse h)
  cases objects with
  | nil => rfl
  | cons list rest =>
      cases rest with
      | cons object rest => rfl
      | nil =>
          have hmem := h list List.mem_cons_self
          have herror : list.tag ≠ contextConstructed 1 := fun htag =>
            absurd (htag ▸ hmem) (by decide)
          have hlist : ¬ (list.tag = contextConstructed 0 ∧
              isIpaEuiccDataSuccessChoiceArm list = true) := by
            rintro ⟨htag, harm⟩
            rw [hlone list rfl htag] at harm
            cases harm
          exact (if_neg hlist).trans (if_neg herror)

/-- A list of notifications is taken for the success alternative when it is empty or has one under
its own tag. -/
theorem isSuccessChoiceArm_of_notifications {list : Tlv}
    (hlist : (PendingNotificationList.unmarshalBERTLV B list).isOk) :
    isIpaEuiccDataSuccessChoiceArm list = true ↔
      list.children = [] ∨ ∃ child ∈ list.children, child.tag = contextConstructed 0 := by
  obtain ⟨notifications, hdecode⟩ := isOk_iff.mp hlist
  obtain ⟨-, hall⟩ := unit_bind_eq_ok.mp hdecode
  have hpending : ∀ child ∈ list.children, isPendingNotificationTLV child = true := by
    intro child hchild
    obtain ⟨notification, -, hnotification⟩ := exists_ok_of_mapM hall hchild
    obtain ⟨installation, -, hkind⟩ := bind_eq_ok.mp hnotification
    by_contra hnot
    rw [if_neg hnot] at hkind
    cases hkind
  rw [isIpaEuiccDataSuccessChoiceArm, decide_eq_true_iff, List.any_eq_true]
  refine or_congr_right (exists_congr fun child => and_congr_right fun hchild => ?_)
  simp [hpending child hchild]

theorem unmarshal_notifications {list : Tlv} (htag : list.tag = contextConstructed 0)
    (hlist : (PendingNotificationList.unmarshalBERTLV B list).isOk) :
    ∃ data, IpaEuiccData.unmarshal B (bareResponse [list]) = .ok data := by
  obtain ⟨notifications, hdecode⟩ := isOk_iff.mp hlist
  have hother : list.tag ≠ tagEID := by
    rw [htag]
    decide
  refine ⟨{ notifications := notifications, notificationsRaw := list, rawObjects := [list] }, ?_⟩
  rw [IpaEuiccData.unmarshal, bareResponse, Tlv.children_constructed, List.foldlM_cons,
    IpaEuiccData.unmarshalObject, if_neg hother, if_pos htag, hdecode]
  rfl

/-- A list is not among its own objects. -/
theorem ipaEuiccDataObjects_ne {list : Tlv} (htag : list.tag = contextConstructed 0)
    (harm : isIpaEuiccDataSuccessChoiceArm list = true) :
    ipaEuiccDataObjects (bareResponse [list]) ≠ [list] := by
  have hunwrap : unwrapIpaEuiccDataResponseChoice (bareResponse [list]) =
      (bareResponse list.children, false) := if_pos ⟨htag, harm⟩
  rw [ipaEuiccDataObjects, hunwrap]
  intro hsame
  rcases ite_eq_iff.mp hsame with ⟨-, hnil⟩ | ⟨-, hchildren⟩
  · cases hnil
  · cases list with
    | primitive tag value => cases hchildren
    | constructed tag children =>
        have hsize := congrArg sizeOf hchildren
        simp [bareResponse] at hsize
        omega

/-- **The success alternative.**  A response says the same with and without the tag of the success
alternative, unless its only object is a list of notifications that looks like that alternative. -/
theorem choice_transparent_iff (hobjects : ∀ object ∈ objects, object.tag ∈ dataObjectTags)
    (hlone : ∀ list, objects = [list] → list.tag = contextConstructed 0 →
      (PendingNotificationList.unmarshalBERTLV B list).isOk) :
    SameData (IpaEuiccDataResponse.unmarshalBERTLV B (choiceResponse objects))
        (IpaEuiccDataResponse.unmarshalBERTLV B (bareResponse objects)) ↔
      ¬ TakenForChoice objects := by
  constructor
  · rintro hsame ⟨list, rfl, htag, hform⟩
    have hlist := hlone list rfl htag
    have harm := (isSuccessChoiceArm_of_notifications hlist).mpr hform
    obtain ⟨data, hdata⟩ := unmarshal_notifications htag hlist
    rw [unmarshalBERTLV_choiceResponse hobjects, hdata] at hsame
    rcases hsame with ⟨hfails, -⟩ | ⟨data', hchoice, hbare⟩
    · exact hfails rfl
    · obtain rfl := IpaEuiccDataResponse.data.inj (Except.ok.inj hchoice)
      obtain ⟨content, hcontent, hread⟩ := unmarshal_of_response hbare
      have hraw := (rawObjects_of_unmarshal hread).symm.trans (rawObjects_of_unmarshal hdata)
      exact ipaEuiccDataObjects_ne htag harm (hcontent.symm.trans hraw)
  · intro hclear
    rw [unmarshalBERTLV_choiceResponse hobjects, unmarshalBERTLV_bareResponse hobjects]
    · cases IpaEuiccData.unmarshal B (bareResponse objects) with
      | error e => exact .inl ⟨Bool.false_ne_true, Bool.false_ne_true⟩
      | ok data => exact .inr ⟨data, rfl, rfl⟩
    · intro list hobject htag
      refine Bool.eq_false_iff.mpr fun harm => hclear ⟨list, hobject, htag, ?_⟩
      exact (isSuccessChoiceArm_of_notifications (hlone list hobject htag)).mp harm

/-! A list of one notification, an empty list, and a list with a notification under the tag of the
list. -/

def sampleNotifications (notifications : List Tlv) : Tlv :=
  .constructed (contextConstructed 0) notifications

theorem choice_transparent_iff_notification :
    SameData
        (IpaEuiccDataResponse.unmarshalBERTLV Bertlv.reference
          (choiceResponse [sampleNotifications [.constructed tagSequence []]]))
        (IpaEuiccDataResponse.unmarshalBERTLV Bertlv.reference
          (bareResponse [sampleNotifications [.constructed tagSequence []]])) ↔
      ¬ TakenForChoice [sampleNotifications [.constructed tagSequence []]] :=
  choice_transparent_iff (by decide) fun list hlist _ => by
    obtain rfl := List.singleton_injective hlist
    rfl

theorem not_sameData {r r' : Except Error IpaEuiccDataResponse} (hok : r.isOk) (hdiffer : r ≠ r') :
    ¬ SameData r r' := by
  rintro (⟨hfails, -⟩ | ⟨data, hr, hr'⟩)
  · exact hfails hok
  · exact hdiffer (hr.trans hr'.symm)

/-- An empty list of notifications is lost, and a nested one is unwrapped. -/
theorem choice_confused :
    (contextConstructed 0 ∈ dataObjectTags ∧
      (PendingNotificationList.unmarshalBERTLV Bertlv.reference (sampleNotifications [])).isOk ∧
      ¬ SameData
        (IpaEuiccDataResponse.unmarshalBERTLV Bertlv.reference
          (choiceResponse [sampleNotifications []]))
        (IpaEuiccDataResponse.unmarshalBERTLV Bertlv.reference
          (bareResponse [sampleNotifications []]))) ∧
    (PendingNotificationList.unmarshalBERTLV Bertlv.reference
        (sampleNotifications [sampleNotifications []])).isOk ∧
      ¬ SameData
        (IpaEuiccDataResponse.unmarshalBERTLV Bertlv.reference
          (choiceResponse [sampleNotifications [sampleNotifications []]]))
        (IpaEuiccDataResponse.unmarshalBERTLV Bertlv.reference
          (bareResponse [sampleNotifications [sampleNotifications []]])) := by
  refine ⟨⟨by decide, by decide +kernel, not_sameData ?_ ?_⟩, by decide +kernel, not_sameData ?_ ?_⟩
  all_goals decide +kernel

end OpenIotRsp.Asn1
