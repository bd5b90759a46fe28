import Mathlib.Data.BitVec
import Mathlib.Tactic.SplitIfs

/-!
# UEFI device paths

A device path is a sequence of nodes.  A node has a type, a sub-type and a length of two bytes, the
low one first, that counts these four bytes and the data behind them.  The last node is the end of the
path.
-/

namespace DevicePath

/-- A node of a device path. -/
structure Node where
  type : BitVec 8
  subType : BitVec 8
  data : List (BitVec 8)
deriving DecidableEq, Repr

def mediaDevicePath : BitVec 8 := 0x04#8

def mediaFilePath : BitVec 8 := 0x04#8

def endDevicePathType : BitVec 8 := 0x7f#8

def endEntireDevicePathSubType : BitVec 8 := 0xff#8

/-- Reads a node: the node and the bytes behind it. -/
def parseNode : List (BitVec 8) → Option (Node × List (BitVec 8))
  | type :: subType :: low :: high :: rest =>
    let length := low.toNat + 2 ^ 8 * high.toNat
    if 4 ≤ length ∧ length - 4 ≤ rest.length then
      some (⟨type, subType, rest.take (length - 4)⟩, rest.drop (length - 4))
    else none
  | _ => none

theorem length_of_parseNode {bytes rest : List (BitVec 8)} {node : Node}
    (h : parseNode bytes = some (node, rest)) : rest.length < bytes.length := by
  unfold parseNode at h
  split at h
  · dsimp only at h
    split_ifs at h
    rw [Option.some.injEq, Prod.mk.injEq] at h
    rw [← h.2, List.length_drop]
    simp only [List.length_cons]
    omega
  · cases h

/-- Reads the nodes up to the end of the path, which has no data: the nodes and the bytes behind the
end. -/
def parsePath (bytes : List (BitVec 8)) : Option (List Node × List (BitVec 8)) :=
  match _h : parseNode bytes with
  | none => none
  | some (node, rest) =>
    if node.type = endDevicePathType ∧ node.subType = endEntireDevicePathSubType then
      if node.data = [] then some ([], rest) else none
    else
      (parsePath rest).map fun r => (node :: r.1, r.2)
termination_by bytes.length
decreasing_by exact length_of_parseNode _h

/-- A node whose length is right is read back. -/
theorem parseNode_cons (type subType : BitVec 8) {low high : BitVec 8} (data : List (BitVec 8))
    (h : low.toNat + 2 ^ 8 * high.toNat = data.length + 4) (rest : List (BitVec 8)) :
    parseNode (type :: subType :: low :: high :: (data ++ rest)) =
      some (⟨type, subType, data⟩, rest) := by
  rw [parseNode, h, if_pos ⟨Nat.le_add_left _ _, by rw [List.length_append]; omega⟩, Nat.add_sub_cancel,
    List.take_left' rfl, List.drop_left' rfl]

/-- A node in front of a path. -/
theorem parsePath_cons {type : BitVec 8} (subType : BitVec 8) {low high : BitVec 8}
    {data : List (BitVec 8)} (h : low.toNat + 2 ^ 8 * high.toNat = data.length + 4)
    (hend : type ≠ endDevicePathType) (rest : List (BitVec 8)) :
    parsePath (type :: subType :: low :: high :: (data ++ rest)) =
      (parsePath rest).map fun r => (⟨type, subType, data⟩ :: r.1, r.2) := by
  have hnode := parseNode_cons type subType data h rest
  rw [parsePath]
  split
  · next hnone =>
    rw [hnode] at hnone
    cases hnone
  · next node rest' hsome =>
    rw [hnode, Option.some.injEq, Prod.mk.injEq] at hsome
    rw [← hsome.1, ← hsome.2, if_neg fun hboth => hend hboth.1]

/-- The end of a path. -/
theorem parsePath_end (rest : List (BitVec 8)) :
    parsePath (endDevicePathType :: endEntireDevicePathSubType :: 4#8 :: 0#8 :: rest) =
      some ([], rest) := by
  have hnode : parseNode (endDevicePathType :: endEntireDevicePathSubType :: 4#8 :: 0#8 :: rest) =
      some (⟨endDevicePathType, endEntireDevicePathSubType, []⟩, rest) :=
    parseNode_cons _ _ [] rfl rest
  rw [parsePath]
  split
  · next hnone =>
    rw [hnode] at hnone
    cases hnone
  · next node rest' hsome =>
    rw [hnode, Option.some.injEq, Prod.mk.injEq] at hsome
    rw [← hsome.1, ← hsome.2, if_pos ⟨rfl, rfl⟩, if_pos rfl]

end DevicePath
