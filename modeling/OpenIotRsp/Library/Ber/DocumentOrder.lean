import OpenIotRsp.Library.Ber.Tlv

/-!
# Document order

The nodes of a tree as they stand on the wire: each one before its children, and
the children from the first to the last.
-/

namespace Ber

namespace Tlv

mutual

def nodes : Tlv → List Tlv
  | primitive tag value => [primitive tag value]
  | constructed tag children => constructed tag children :: nodesAll children

def nodesAll : List Tlv → List Tlv
  | [] => []
  | t :: ts => nodes t ++ nodesAll ts

end

@[simp]
theorem nodesAll_nil : nodesAll [] = [] := rfl

@[simp]
theorem nodesAll_cons (t : Tlv) (ts : List Tlv) : nodesAll (t :: ts) = t.nodes ++ nodesAll ts := rfl

theorem nodes_eq (t : Tlv) : t.nodes = t :: nodesAll t.children := by
  cases t with
  | primitive tag value => rfl
  | constructed tag children => rfl

/-- A child with the tag is found first, unless a node inside the children before it has the tag. -/
theorem find?_nodesAll_of_first {ts : List Tlv} {tag : Tag} {field : Tlv}
    (h : ts.find? (fun t => t.tag = tag) = some field) :
    (nodesAll ts).find? (fun t => t.tag = tag) =
      ((nodesAll (ts.takeWhile fun t => t.tag ≠ tag)).find? fun t => t.tag = tag).or
        (some field) := by
  induction ts with
  | nil => cases h
  | cons t ts ih =>
      by_cases ht : t.tag = tag
      · obtain rfl : t = field := by simpa [ht] using h
        rw [nodesAll_cons, nodes_eq]
        simp [ht]
      · have hrest : ts.find? (fun t => t.tag = tag) = some field := by simpa [ht] using h
        rw [nodesAll_cons, List.find?_append, ih hrest, List.takeWhile_cons,
          if_pos (by simpa using ht), nodesAll_cons, List.find?_append, Option.or_assoc]

end Tlv

end Ber
