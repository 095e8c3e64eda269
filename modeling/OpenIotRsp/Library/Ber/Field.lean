import OpenIotRsp.Library.Ber.Codec

/-!
# Fields of a constructed TLV

A field is at most one child, known by its tag.  The lookup of a tag in a
concatenation of fields is the lookup in the one field that has it.
-/

namespace Ber

open Octets

/-- At most one well-formed child with the tag. -/
structure Field (tag : Tag) where
  tlv : Option Tlv
  tag_eq : ∀ t ∈ tlv, t.tag = tag
  wellFormed : ∀ t ∈ tlv, t.WellFormed

namespace Field

variable {tag tag' : Tag}

def children (f : Field tag) : List Tlv := f.tlv.toList

/-- A field that is present. -/
def of (t : Tlv) (htag : t.tag = tag) (ht : t.WellFormed) : Field tag where
  tlv := some t
  tag_eq := by simpa using htag
  wellFormed := by simpa using ht

/-- A primitive field that is present. -/
def primitive (tag : Tag) (htag : tag.Valid ∧ tag.isConstructed = false) (value : Bytes) :
    Field tag :=
  of (.primitive tag value) rfl htag

/-- A primitive field without contents, present when a flag is set. -/
def flag (tag : Tag) (htag : tag.Valid ∧ tag.isConstructed = false) (present : Bool) :
    Field tag where
  tlv := if present then some (.primitive tag []) else none
  tag_eq := by simp
  wellFormed := by simpa [Tlv.WellFormed] using fun _ => htag

theorem wellFormed_of_mem {f : Field tag} {t : Tlv} (ht : t ∈ f.children) : t.WellFormed :=
  f.wellFormed t (Option.mem_toList.mp ht)

@[simp]
theorem tlv_of {t : Tlv} (htag : t.tag = tag) (ht : t.WellFormed) :
    (of t htag ht).tlv = some t :=
  rfl

@[simp]
theorem tlv_primitive (htag : tag.Valid ∧ tag.isConstructed = false) (value : Bytes) :
    (primitive tag htag value).tlv = some (.primitive tag value) :=
  rfl

@[simp]
theorem isSome_flag (htag : tag.Valid ∧ tag.isConstructed = false) (present : Bool) :
    (flag tag htag present).tlv.isSome = present := by
  cases present <;> rfl

theorem find_self (f : Field tag) : (f.children.find? fun t => t.tag = tag) = f.tlv := by
  obtain ⟨tlv, htag, -⟩ := f
  cases tlv with
  | none => rfl
  | some t => simp [children, htag t rfl]

theorem find_ne (f : Field tag) (hne : tag ≠ tag') :
    (f.children.find? fun t => t.tag = tag') = none := by
  obtain ⟨tlv, htag, -⟩ := f
  cases tlv with
  | none => rfl
  | some t => simp [children, htag t rfl, hne]

end Field

end Ber
