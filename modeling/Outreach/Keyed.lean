/-!
# Keyed lists

Records, documents and rows are lists of named entries. The first entry of a name is the one that
counts, a new name goes to the end, and a name that is there keeps its place. Each operation is
described by what `get?` sees after it.
-/

namespace Outreach.Keyed

variable {α β : Type}

/-- The entry of a name. -/
def get? (name : String) : List (String × α) → Option α
  | [] => none
  | (key, entry) :: rest => if key = name then some entry else get? name rest

/-- The list has an entry of that name. -/
def has (name : String) (entries : List (String × α)) : Bool := (get? name entries).isSome

/-- The names in order. -/
def names (entries : List (String × α)) : List String := entries.map Prod.fst

/-- Replaces the entry of a name in place, or adds it at the end. -/
def put (name : String) (entry : α) : List (String × α) → List (String × α)
  | [] => [(name, entry)]
  | (key, old) :: rest =>
    if key = name then (key, entry) :: rest else (key, old) :: put name entry rest

/-- Puts the entries of the second list into the first, in order. -/
def putAll (entries updates : List (String × α)) : List (String × α) :=
  updates.foldl (fun acc update => put update.1 update.2 acc) entries

/-- Keeps the entries of the given names. -/
def restrict (kept : List String) (entries : List (String × α)) : List (String × α) :=
  entries.filter (kept.contains ·.1)

@[simp]
theorem get?_nil (name : String) : get? name ([] : List (String × α)) = none := rfl

@[simp]
theorem get?_put_self (name : String) (entry : α) (entries : List (String × α)) :
    get? name (put name entry entries) = some entry := by
  induction entries with
  | nil => simp [put, get?]
  | cons head rest ih =>
    by_cases same : head.1 = name <;> simp [put, get?, same, ih]

@[simp]
theorem get?_put_of_ne {name other : String} (different : other ≠ name) (entry : α)
    (entries : List (String × α)) : get? other (put name entry entries) = get? other entries := by
  induction entries with
  | nil => simp [put, get?, different.symm]
  | cons head rest ih => grind [put, get?]

end Outreach.Keyed
