import Outreach.Writes.Report

/-!
# Document shelves

A shelf keeps documents by identifier in memory. Writes are applied in order; a document that is not
there is created by its first write. A patch that cannot be applied ends the call where it stands.
-/

namespace Outreach.Writes

/-- Documents by identifier, and the identifiers of every batch that came in. -/
structure Shelf where
  documents : List (String × Fields)
  received : List (List String)
  deriving Inhabited

namespace Shelf

/-- A shelf without documents. -/
def empty : Shelf := ⟨[], []⟩

/-- Applies one write to the documents. -/
def applyWrite (w : Write) (documents : List (String × Fields)) :
    Except AddFault (List (String × Fields)) := do
  .ok (Keyed.put w.id (← w.patch.applyTo (Keyed.get? w.id documents)) documents)

/-- Applies writes in order: the documents as far as it went, and the counts or the fault. -/
def applyWrites : List Write → List (String × Fields) → BulkResult →
    List (String × Fields) × Except AddFault BulkResult
  | [], documents, result => (documents, .ok result)
  | w :: rest, documents, result =>
    match applyWrite w documents with
    | .error fault => (documents, .error fault)
    | .ok next =>
      let result := if Keyed.has w.id documents then { result with modified := result.modified + 1 }
        else { result with inserted := result.inserted + 1 }
      applyWrites rest next result

/-- Takes a batch in. -/
def upsert (writes : List Write) (shelf : Shelf) : Shelf × Except AddFault BulkResult :=
  let (documents, result) := applyWrites writes shelf.documents ⟨0, 0, []⟩
  (⟨documents, shelf.received ++ [writes.map Write.id]⟩, result)

end Shelf

end Outreach.Writes
