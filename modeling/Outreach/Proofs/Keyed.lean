import Mathlib.Data.List.Nodup
import Outreach.Keyed

/-!
# Looking up names

What `get?` sees after each of the other operations on keyed lists.
-/

namespace Outreach.Keyed

variable {α β : Type}

theorem get?_cons (name key : String) (entry : α) (rest : List (String × α)) :
    get? name ((key, entry) :: rest) = if key = name then some entry else get? name rest := rfl

theorem get?_append (name : String) (first second : List (String × α)) :
    get? name (first ++ second) = (get? name first).or (get? name second) := by
  induction first with
  | nil => rfl
  | cons head rest ih =>
      rw [List.cons_append, get?_cons, get?_cons, ih]
      split <;> rfl

theorem get?_eq_none_iff {name : String} {entries : List (String × α)} :
    get? name entries = none ↔ name ∉ entries.map Prod.fst := by
  induction entries with
  | nil => simp
  | cons head rest ih =>
      rw [get?_cons]
      by_cases same : head.1 = name
      · simp [same]
      · simp [same, ih, Ne.symm same]

/-- With each name once, an entry is found under its name. -/
theorem get?_of_mem {name : String} {entry : α} {entries : List (String × α)}
    (distinct : (entries.map Prod.fst).Nodup) (entryMem : (name, entry) ∈ entries) :
    get? name entries = some entry := by
  induction entries with
  | nil => cases entryMem
  | cons head rest ih =>
      obtain ⟨fresh, distinctRest⟩ := List.nodup_cons.mp distinct
      rw [get?_cons]
      rcases List.mem_cons.mp entryMem with rfl | inRest
      · rw [if_pos rfl]
      · have other : head.1 ≠ name := by
          rintro rfl
          exact fresh (List.mem_map.mpr ⟨(head.1, entry), inRest, rfl⟩)
        rw [if_neg other, ih distinctRest inRest]

/-- The entry of an item among entries that are made of items with different names. -/
theorem get?_map_of_mem {items : List β} {name : β → String} (entry : β → α) {item : β}
    (distinct : (items.map name).Nodup) (itemMem : item ∈ items) :
    get? (name item) (items.map fun item => (name item, entry item)) = some (entry item) := by
  apply get?_of_mem
  · simpa [Function.comp_def] using distinct
  · exact List.mem_map.mpr ⟨item, itemMem, rfl⟩

/-- With each name once, an update takes precedence over what was there. -/
theorem get?_putAll {updates : List (String × α)} (distinct : (updates.map Prod.fst).Nodup)
    (name : String) (entries : List (String × α)) :
    get? name (putAll entries updates) = (get? name updates).or (get? name entries) := by
  induction updates generalizing entries with
  | nil => rfl
  | cons head rest ih =>
      obtain ⟨fresh, distinctRest⟩ := List.nodup_cons.mp distinct
      have later := ih distinctRest (put head.1 head.2 entries)
      rw [putAll, List.foldl_cons]
      rw [putAll] at later
      rw [later, get?_cons]
      by_cases same : head.1 = name
      · subst same
        rw [get?_eq_none_iff.mpr fresh]
        simp
      · rw [get?_put_of_ne (Ne.symm same), if_neg same]

/-! ## Entries whose names are kept -/

section Filter

variable (keep : String → Bool) {name : String}

theorem get?_filter (keeps : keep name = true) (entries : List (String × α)) :
    get? name (entries.filter (keep ·.1)) = get? name entries := by
  induction entries with
  | nil => rfl
  | cons head rest ih =>
      obtain ⟨key, entry⟩ := head
      by_cases same : key = name
      · simp [same, keeps, get?_cons]
      · rw [List.filter_cons, get?_cons, if_neg same]
        split
        · rw [get?_cons, if_neg same, ih]
        · exact ih

theorem get?_restrict {kept : List String} (keeps : name ∈ kept) (entries : List (String × α)) :
    get? name (restrict kept entries) = get? name entries :=
  get?_filter kept.contains (by simpa using keeps) entries

theorem filter_put_of_keep (keeps : keep name = true) (entry : α) (entries : List (String × α)) :
    (put name entry entries).filter (keep ·.1) = put name entry (entries.filter (keep ·.1)) := by
  induction entries with
  | nil => simp [put, keeps]
  | cons head rest ih =>
      obtain ⟨key, old⟩ := head
      by_cases same : key = name
      · simp [put, same, keeps]
      · cases kept : keep key <;> simp [put, same, kept, ih]

theorem filter_put_of_drop (drops : keep name = false) (entry : α) (entries : List (String × α)) :
    (put name entry entries).filter (keep ·.1) = entries.filter (keep ·.1) := by
  induction entries with
  | nil => simp [put, drops]
  | cons head rest ih =>
      obtain ⟨key, old⟩ := head
      by_cases same : key = name
      · simp [put, same, drops]
      · cases kept : keep key <;> simp [put, same, kept, ih]

theorem filter_putAll (entries updates : List (String × α)) :
    (putAll entries updates).filter (keep ·.1) =
    putAll (entries.filter (keep ·.1)) (updates.filter (keep ·.1)) := by
  induction updates generalizing entries with
  | nil => rfl
  | cons head rest ih =>
      have later := ih (put head.1 head.2 entries)
      rw [putAll, putAll] at later
      rw [putAll, putAll, List.foldl_cons, later]
      cases kept : keep head.1 with
      | true => rw [filter_put_of_keep keep kept, List.filter_cons, if_pos kept, List.foldl_cons]
      | false => rw [filter_put_of_drop keep kept, List.filter_cons, if_neg (by simp [kept])]

end Filter

end Outreach.Keyed
