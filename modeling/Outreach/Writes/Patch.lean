import Outreach.Value.Add

/-!
# Patches

A patch changes one entity: it sets fields and then increments fields. A field that is incremented
counts as zero when it is absent or blank, and an increment sees what the same patch has set.
`Patch.applyTo` makes the new document and leaves the old one as it is.
-/

namespace Outreach.Writes

/-- A change of one entity. -/
structure Patch where
  set : Fields
  inc : Fields
  deriving Inhabited

namespace Patch

/-- A patch that writes a whole document or some of its fields. -/
def ofFields (fields : Fields) : Patch := ⟨fields, []⟩

/-- A patch that only increments. -/
def ofIncrements (deltas : Fields) : Patch := ⟨[], deltas⟩

/-- The name that no entry of a patch can have when its entries are given one by one. -/
def takenName : String := "cls"

/-- A patch that sets entries given one by one. -/
def setting? (entries : Fields) : Option Patch :=
  if Keyed.has takenName entries then none else some (ofFields entries)

/-- A patch that increments by entries given one by one. -/
def adding? (deltas : Fields) : Option Patch :=
  if Keyed.has takenName deltas then none else some (ofIncrements deltas)

/-- The patch changes nothing. -/
def isEmpty (p : Patch) : Bool := p.set.isEmpty && p.inc.isEmpty

/-- Increments fields of a document one after the other. -/
def applyIncrements : Fields → Fields → Except AddFault Fields
  | [], document => .ok document
  | (name, delta) :: rest, document => do
    let sum ← ((Keyed.get? name document).getD .null).increase delta
    applyIncrements rest (Keyed.put name sum document)

/-- The document after the patch; no document counts as an empty one. -/
def applyTo (p : Patch) (document : Option Fields) : Except AddFault Fields :=
  applyIncrements p.inc (Keyed.putAll (document.getD []) p.set)

end Patch

/-- Applies patches one after the other. -/
def applyAll : List Patch → Option Fields → Except AddFault (Option Fields)
  | [], document => .ok document
  | p :: rest, document => do applyAll rest (some (← p.applyTo document))

end Outreach.Writes
