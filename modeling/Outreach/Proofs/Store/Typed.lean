import Outreach.Proofs.Calendar.Days
import Outreach.Proofs.Store.Doubles
import Outreach.Proofs.Writes.Patches

/-!
# Values of the columns' types

Each kind of column is made for some values. A column stores a value when it keeps it; a column of
documents may keep another one that is equal to it. What a column stores survives a write of the
column, whether it assigns a value, increments a number or leaves the column alone, although the
write sees only what the cell reads as.
-/

namespace Outreach.Store

open Decimal

/-- The values that a kind of column is made for. The whole numbers in a column of doubles have
up to 53 binary digits, times show what a clock can show, and a member of a choice goes by its
value or by its name. -/
inductive ColumnKind.Takes : ColumnKind → Value → Prop
  | null (kind : ColumnKind) : Takes kind .null
  | text (s : String) : Takes .text (.text s)
  | float (x : Float) : Takes .real (.float x)
  | digits {i : Int} (few : i.natAbs ≤ 2 ^ 53) : Takes .real (.int i)
  | whole (i : Int) : Takes .whole (.int i)
  | time {t : DateTime} (wall : t.IsWallClock) : Takes .time (.time t)
  | list (items : List Value) : Takes .structured (.list items)
  | map (fields : Fields) : Takes .structured (.map fields)
  | member (choice : String) {members : List (String × String)} {entry : String × String}
      (entryMem : entry ∈ members) : Takes (.choice choice members) (.text entry.2)
  | name (choice : String) {members : List (String × String)} {entry : String × String}
      (entryMem : entry ∈ members) : Takes (.choice choice members) (.text entry.1)

/-- What a column of numbers can be incremented by. -/
structure ColumnKind.Adds (kind : ColumnKind) (delta : Value) : Prop where
  number : kind = .real ∨ kind = .whole
  takes : kind.Takes delta
  present : delta ≠ .null

theorem ColumnKind.Takes.number {value : Value} (takes : ColumnKind.real.Takes value) :
    value = .null ∨ ∃ x, IsDouble value x := by
  cases takes with
  | null => exact Or.inl rfl
  | float x => exact Or.inr ⟨x, .float x⟩
  | digits few => exact Or.inr ⟨_, .int few⟩

/-- A number can be incremented, and is a number again. -/
theorem ColumnKind.Adds.exists_increase {kind : ColumnKind} {value delta : Value}
    (adds : kind.Adds delta) (takes : kind.Takes value) : ∃ sum, value.increase delta = .ok sum ∧
      ((kind = .real → ∀ i, sum = .int i → i.natAbs ≤ 2 ^ 53) → kind.Takes sum) := by
  rcases adds with ⟨rfl | rfl, deltaTakes, present⟩
  · obtain ⟨d, isDouble⟩ := deltaTakes.number.resolve_left present
    obtain ⟨sum, sumEq, ⟨y, rfl⟩ | ⟨i, rfl⟩⟩ := Store.exists_increase takes.number isDouble
    · exact ⟨_, sumEq, fun _ => .float y⟩
    · exact ⟨_, sumEq, fun few => .digits (few rfl i rfl)⟩
  · cases deltaTakes with
    | null => exact absurd rfl present
    | whole j =>
        cases takes with
        | null => exact ⟨_, int_add 0 j, fun _ => .whole _⟩
        | whole i => exact ⟨_, increase_int i j, fun _ => .whole _⟩

/-- The members of a choice, each with its name and its value. -/
def ColumnKind.members : ColumnKind → List (String × String)
  | .choice _ members => members
  | _ => []

/-- A column whose values can be told from its cells: doubles and documents are required, and no two
members of a choice have the same name or the same value. -/
structure Column.Faithful (column : Column) : Prop where
  required : column.kind = .real ∨ column.kind = .structured → column.nullable = false
  names : (column.kind.members.map Prod.fst).Nodup
  values : (column.kind.members.map Prod.snd).Nodup

/-- In a column of whole numbers, what agrees with a number is that number. -/
theorem ColumnKind.Takes.eq_int {value : Value} {i : Int} (takes : ColumnKind.whole.Takes value)
    (agrees : value.agrees (.int i) = true) : value = .int i := by
  cases takes with
  | null => simp [Value.agrees, Value.sameNumber, Value.quantity?] at agrees
  | whole j => rw [int_agrees_iff.mp agrees]

/-- Numbers that agree are kept as the same double. -/
theorem ColumnKind.Takes.keeps_of_agrees {column : Column} {value kept : Value}
    {cell : Cell} {x : Float}
    (takes : ColumnKind.real.Takes value) (kind : column.kind = .real) (isDouble : IsDouble kept x)
    (agrees : value.agrees kept = true) (keeps : column.Keeps kept cell) :
    column.Keeps value cell := by
  obtain ⟨q, quantity⟩ : ∃ q, kept.quantity? = some q := by
    cases isDouble <;> exact ⟨_, rfl⟩
  rw [Value.agrees_of_quantity quantity] at agrees
  rcases takes.number with rfl | ⟨y, first⟩
  · cases agrees
  · exact first.keeps_of_sameNumber isDouble kind agrees keeps

/-- The cell is what the column keeps of the value. In a column of documents it may be what is kept
of another value that is equal to it. -/
def Column.Stores (column : Column) (value : Value) (cell : Cell) : Prop :=
  column.Keeps value cell ∨ column.kind = .structured ∧
    ∃ kept, value.agrees kept = true ∧ column.Keeps kept cell

/-- What the cell of a column that stores a value reads as: a number as a double, a document as the
one that is kept, and anything else in a form of which the same is kept again. -/
inductive Column.Shows (column : Column) (value : Value) (cell : Cell) : Value → Prop
  | plain {seen : Value} (noDouble : column.kind ≠ .real)
      (whole : column.kind = .whole → seen = value) (alike : seen.agrees seen = true)
      (again : ∀ next, column.kind.Takes next → next.agrees seen = true → column.Keeps next cell) :
      Shows column value cell seen
  | double (kind : column.kind = .real) {x : Float} (keeps : column.Keeps (.float x) cell)
      (number : (Value.float x).sameNumber value = true) : Shows column value cell (.float x)
  | document (kind : column.kind = .structured) {seen : Value} (matching : value.Matches seen)
      (keeps : column.Keeps seen cell) : Shows column value cell seen

section Columns

variable {column : Column} {value kept seen : Value} {cell : Cell}

/-! ## Reading back -/

/-- A column that keeps a null has an empty cell, unless it keeps documents. -/
theorem Column.Keeps.of_null (keeps : column.Keeps .null cell) (plain : column.kind ≠ .structured) :
    cell = none := by
  obtain ⟨prepared, place, preparedEq, bound⟩ := keeps
  cases kind : column.kind with
  | structured => exact absurd kind plain
  | text =>
      simp only [Column.prepare, kind, Except.ok.injEq] at preparedEq
      subst preparedEq
      simpa [bindCell, kind, keepPlain] using bound.symm
  | whole =>
      simp only [Column.prepare, kind, Except.ok.injEq] at preparedEq
      subst preparedEq
      simpa [bindCell, kind, keepPlain] using bound.symm
  | real =>
      simp only [Column.prepare, kind, keepReal, Except.ok.injEq] at preparedEq
      subst preparedEq
      simpa [bindCell, kind] using bound.symm
  | time =>
      simp only [Column.prepare, kind, Except.ok.injEq] at preparedEq
      subst preparedEq
      simpa [bindCell, kind] using bound.symm
  | choice choice members =>
      simp only [Column.prepare, kind, memberName, Except.ok.injEq] at preparedEq
      subst preparedEq
      simpa [bindCell, kind] using bound.symm

/-- A column of documents keeps them as they are. -/
theorem Column.Keeps.of_document (keeps : column.Keeps value cell)
    (kind : column.kind = .structured) (takes : column.kind.Takes value) : cell = some value := by
  obtain ⟨prepared, place, preparedEq, bound⟩ := keeps
  have same : keepStructured value = value := by
    rw [kind] at takes
    cases takes <;> rfl
  simp only [Column.prepare, kind] at preparedEq
  split at preparedEq
  · cases preparedEq
    rw [same] at bound
    simpa [bindCell, kind] using bound.symm
  · cases preparedEq

/-- Among items with different keys, the one with a key is found. -/
theorem find?_of_mem {items : List (String × String)} {key : String × String → String}
    (distinct : (items.map key).Nodup) {item : String × String} (itemMem : item ∈ items) :
    items.find? (fun other => decide (key other = key item)) = some item := by
  cases found : items.find? (fun other => decide (key other = key item)) with
  | none => exact absurd (List.find?_eq_none.mp found item itemMem) (by simp)
  | some other =>
      have sameKey : key other = key item := by simpa using List.find?_some found
      rw [List.inj_on_of_nodup_map distinct (List.mem_of_find?_eq_some found) itemMem sameKey]

section Choices

variable {choice : String} {members : List (String × String)}
    (kind : column.kind = .choice choice members)

include kind

/-- A column of choices keeps the name of a member. -/
theorem Column.Keeps.exists_member {s : String} (keeps : column.Keeps (.text s) cell)
    (takes : column.kind.Takes (.text s)) :
    ∃ entry ∈ members, cell = some (.text entry.1) ∧ Text.hasLoneSurrogate entry.1 = false := by
  obtain ⟨prepared, place, preparedEq, bound⟩ := keeps
  have named : ∃ entry ∈ members, prepared = some (.text entry.1) := by
    simp only [Column.prepare, kind, memberName] at preparedEq
    split at preparedEq
    · rename_i found
      exact ⟨_, List.mem_of_find?_eq_some found, (Except.ok.inj preparedEq).symm⟩
    · rename_i notFound
      rw [kind] at takes
      generalize valueEq : Value.text s = value at takes
      cases takes with
      | null => cases valueEq
      | member _ entryMem =>
          cases valueEq
          exact absurd (List.find?_eq_none.mp notFound _ entryMem) (by simp)
      | name _ entryMem =>
          cases valueEq
          exact ⟨_, entryMem, (Except.ok.inj preparedEq).symm⟩
  obtain ⟨entry, entryMem, rfl⟩ := named
  simp only [bindCell, kind] at bound
  split at bound
  · cases bound
  · rename_i encodable
    exact ⟨entry, entryMem, (Except.ok.inj bound).symm, by simpa using encodable⟩

/-- The name of a member reads as its value, of which the name is kept again. -/
theorem Column.Faithful.read_member (faithful : column.Faithful) {entry : String × String}
    (entryMem : entry ∈ members) (encodable : Text.hasLoneSurrogate entry.1 = false) :
    column.read (some (.text entry.1)) = .ok (.text entry.2) ∧
      column.Keeps (.text entry.2) (some (.text entry.1)) := by
  have names := faithful.names
  have values := faithful.values
  rw [kind] at names values
  have byName : members.find? (·.1 = entry.1) = some entry := find?_of_mem names entryMem
  have byValue : members.find? (·.2 = entry.2) = some entry := find?_of_mem values entryMem
  refine ⟨?_, some (.text entry.1), 0, ?_, ?_⟩
  · simp [Column.read, kind, byName]
  · simp [Column.prepare, kind, memberName, byValue]
  · simp [bindCell, kind, encodable, keepPlain]

/-- A column of choices reads the member that it keeps. -/
theorem Column.Keeps.shows_member {s : String} (keeps : column.Keeps (.text s) cell)
    (faithful : column.Faithful) (takes : column.kind.Takes (.text s))
    (read : column.read cell = .ok seen) : column.Shows value cell seen := by
  obtain ⟨entry, entryMem, rfl, encodable⟩ := keeps.exists_member kind takes
  obtain ⟨readMember, keepsMember⟩ := faithful.read_member kind entryMem encodable
  obtain rfl := Except.ok.inj (readMember.symm.trans read)
  refine .plain (by simp [kind]) (by simp [kind]) (by simp [Value.agrees]) ?_
  intro next _ agrees
  rw [Value.agrees_text_iff.mp agrees]
  exact keepsMember

end Choices

/-- What is read back of a column of doubles is the same number. -/
theorem Column.Keeps.shows_double (keeps : column.Keeps value cell) (kind : column.kind = .real)
    (takes : column.kind.Takes value) (present : cell ≠ none) (read : column.read cell = .ok seen) :
    column.Shows value cell seen := by
  rw [kind] at takes
  rcases takes.number with rfl | ⟨x, isDouble⟩
  · exact absurd (keeps.of_null (by simp [kind])) present
  · have cellEq := (isDouble.keeps_iff kind).mp keeps
    subst cellEq
    obtain ⟨y, yEq, same⟩ := cellOfFloat_eq_some present
    have number : x.isNaN = false := by
      by_contra undefined
      rw [Bool.not_eq_false] at undefined
      exact present (by rw [cellOfFloat, if_pos undefined])
    obtain ⟨p, position⟩ := exists_position number
    have sameNumber : (Value.float y).sameNumber (.float x) = true := by
      rcases eq_or_isZero_of_cell present same.symm with rfl | ⟨zero, otherZero⟩
      · exact Value.sameNumber_iff.mpr ⟨p, position, position⟩
      · rcases zero with rfl | rfl <;> rcases otherZero with rfl | rfl <;> rfl
    have seenEq : seen = .float y := by
      rw [yEq] at read
      simpa [Column.read, kind] using read.symm
    subst seenEq
    rw [← (IsDouble.float y).sameNumber_eq isDouble] at sameNumber
    refine .double kind ?_ sameNumber
    rw [(IsDouble.float y).keeps_iff kind, same]

/-- A column of documents reads the document that it keeps. -/
theorem Column.Stores.shows_document (stores : column.Stores value cell)
    (kind : column.kind = .structured)
    (takes : column.kind.Takes value) (read : column.read cell = .ok seen) :
    column.Shows value cell seen := by
  have ofKept {kept : Value} (keptTakes : column.kind.Takes kept) (matching : value.Matches kept)
      (keeps : column.Keeps kept cell) : column.Shows value cell seen := by
    rw [keeps.of_document kind keptTakes] at read
    obtain rfl : kept = seen := by simpa [Column.read, kind] using read
    exact .document kind matching keeps
  rcases stores with keeps | ⟨-, kept, agrees, keeps⟩
  · exact ofKept takes (.inl rfl) keeps
  · refine ofKept ?_ (.inr agrees) keeps
    rw [kind] at takes ⊢
    cases kept <;> cases takes <;>
      first
      | exact .null _
      | exact .list _
      | exact .map _
      | simp [Value.agrees, Value.sameNumber, Value.quantity?] at agrees

/-- What is read back of a column shows the value that it stores. -/
theorem Column.Stores.shows (stores : column.Stores value cell) (faithful : column.Faithful)
    (takes : column.kind.Takes value) (present : column.nullable = false → cell ≠ none)
    (read : column.read cell = .ok seen) : column.Shows value cell seen := by
  by_cases document : column.kind = .structured
  · exact stores.shows_document document takes read
  have keeps : column.Keeps value cell := stores.resolve_right fun other => document other.1
  by_cases real : column.kind = .real
  · exact keeps.shows_double real takes (present (faithful.required (.inl real))) read
  generalize kindEq : column.kind = kind at takes
  cases takes with
  | null =>
      have cellEq := keeps.of_null document
      rw [cellEq] at read
      obtain rfl := Except.ok.inj read
      refine .plain real (fun _ => rfl) (by simp [Value.agrees]) ?_
      intro next _ agrees
      rwa [Value.agrees_null_iff.mp agrees]
  | text s =>
      rw [keeps.of_text kindEq] at read
      obtain rfl : .text s = seen := by simpa [Column.read, kindEq] using read
      refine .plain real (fun _ => rfl) (by simp [Value.agrees]) ?_
      intro next _ agrees
      rwa [Value.agrees_text_iff.mp agrees]
  | whole i =>
      rw [keeps.of_int kindEq] at read
      obtain rfl : .int i = seen := by simpa [Column.read, kindEq] using read
      refine .plain real (fun _ => rfl) (int_agrees_iff.mpr rfl) ?_
      intro next nextTakes agrees
      rw [kindEq] at nextTakes
      rwa [nextTakes.eq_int agrees]
  | @time t wall =>
      have cellEq := keeps.of_time kindEq
      rw [cellEq] at read
      obtain rfl : .time t.naive = seen := by simpa [Column.read, kindEq] using read
      refine .plain real (by simp [kindEq]) (by simp [Value.agrees, DateTime.sameTime]) ?_
      intro next nextTakes agrees
      obtain ⟨u, rfl, same⟩ := Value.agrees_time_iff.mp agrees
      rw [kindEq] at nextTakes
      cases nextTakes with
      | time otherWall =>
          -- Without a zone only the same reading of the clock is the same time.
          rw [DateTime.eq_naive_of_sameTime otherWall wall same, cellEq]
          exact ⟨some (.time t.naive), 0, by simp [Column.prepare, kindEq, DateTime.naive],
            bindCell_of_noText 0 (.inr kindEq) (by simp)⟩
  | member choice entryMem =>
      exact keeps.shows_member kindEq faithful (kindEq ▸ .member choice entryMem) read
  | name choice entryMem =>
      exact keeps.shows_member kindEq faithful (kindEq ▸ .name choice entryMem) read
  | float x => exact absurd kindEq real
  | digits few => exact absurd kindEq real
  | list items => exact absurd kindEq document
  | map fields => exact absurd kindEq document

end Columns

/-! ## Writes -/

/-- What an update does to the cell of a column: it leaves the cell as it is, if the new value
agrees with the one that was read, and keeps the new value otherwise. -/
structure Column.Rewrites (column : Column) (seen next : Value) (cell written : Cell) : Prop where
  kept : next.agrees seen = true → written = cell
  put : next.agrees seen = false → column.Keeps next written

/-- What a patch has for a column is of the type of the column. -/
structure Column.Suits (column : Column) (p : Writes.Patch) : Prop where
  set : ∀ value, Keyed.get? column.name p.set = some value → column.kind.Takes value
  inc : ∀ delta, Keyed.get? column.name p.inc = some delta → column.kind.Adds delta

section Writes

variable {column : Column} {value seen next seenNext delta : Value} {cell written : Cell}
    {p : Writes.Patch}

/-- Two numbers that are the same are kept as the same double. -/
theorem ColumnKind.Takes.keeps_of_sameNumber {x : Float} (takes : column.kind.Takes value)
    (kind : column.kind = .real) (number : (Value.float x).sameNumber value = true)
    (keeps : column.Keeps (.float x) cell) : column.Keeps value cell := by
  rw [kind] at takes
  rcases takes.number with rfl | ⟨y, isDouble⟩
  · cases number
  · exact isDouble.keeps_of_sameNumber (.float x) kind (Value.sameNumber_symm number) keeps

/-- A column that is left alone still stores its value. -/
theorem Column.Stores.leave (stores : column.Stores value cell) (takes : column.kind.Takes value)
    (shows : column.Shows value cell seen) (rewrites : column.Rewrites seen seen cell written) :
    column.Stores value written := by
  cases agrees : seen.agrees seen with
  | true =>
      rw [rewrites.kept agrees]
      exact stores
  | false =>
      have keeps := rewrites.put agrees
      cases shows with
      | plain _ _ alike => rw [agrees] at alike; cases alike
      | double kind _ number => exact .inl (takes.keeps_of_sameNumber kind number keeps)
      | document kind matching =>
          rcases matching with rfl | same
          · exact .inl keeps
          · exact .inr ⟨kind, seen, same, keeps⟩

theorem Column.Suits.takes_base (suits : column.Suits p) (takes : column.kind.Takes value) :
    column.kind.Takes ((Keyed.get? column.name p.set).getD value) := by
  cases assigned : Keyed.get? column.name p.set with
  | none => exact takes
  | some base => exact suits.set base assigned

/-- What a patch makes of a value is of the type of the column again, unless a whole number has
grown too long. -/
theorem Column.Suits.takes_effect (suits : column.Suits p) (takes : column.kind.Takes value)
    (effect : p.effect column.name value = .ok next)
    (few : column.kind = .real → ∀ i, next = .int i → i.natAbs ≤ 2 ^ 53) :
    column.kind.Takes next := by
  have baseTakes := suits.takes_base takes
  unfold Writes.Patch.effect at effect
  cases incremented : Keyed.get? column.name p.inc with
  | none =>
      rw [incremented] at effect
      rwa [← Except.ok.inj effect]
  | some delta =>
      rw [incremented] at effect
      obtain ⟨sum, sumEq, sumTakes⟩ := (suits.inc delta incremented).exists_increase baseTakes
      obtain rfl := Except.ok.inj (sumEq.symm.trans effect)
      exact sumTakes few

/-- A column stores a value that is assigned to it. -/
theorem Column.Shows.assign (shows : column.Shows value cell seen) (takes : column.kind.Takes next)
    (rewrites : column.Rewrites seen next cell written) : column.Stores next written := by
  cases agrees : next.agrees seen with
  | false => exact .inl (rewrites.put agrees)
  | true =>
      rw [rewrites.kept agrees]
      cases shows with
      | plain _ _ _ again => exact .inl (again next takes agrees)
      | @double kind x keeps =>
          rw [kind] at takes
          exact .inl (takes.keeps_of_agrees kind (.float x) agrees keeps)
      | document kind _ keeps => exact .inr ⟨kind, seen, agrees, keeps⟩

/-- Of a number a batch sees the number itself or the double that it has been read back as. -/
theorem Column.Shows.rereads (shows : column.Shows value cell seen)
    (number : column.kind = .real ∨ column.kind = .whole) : Rereads value seen := by
  cases shows with
  | plain noDouble whole => exact .inl (whole (number.resolve_left noDouble))
  | double _ _ same => exact .inr ⟨_, rfl, same⟩
  | document kind => rcases number with other | other <;> rw [kind] at other <;> cases other

/-- A column of doubles stores a number that is incremented. -/
theorem Column.Stores.increase_double (stores : column.Stores value cell)
    (kind : column.kind = .real)
    (takes : column.kind.Takes value) (shows : column.Shows value cell seen)
    (adds : column.kind.Adds delta)
    (seenEq : seen.increase delta = .ok seenNext) (nextEq : value.increase delta = .ok next)
    (nextTakes : column.kind.Takes next) (rewrites : column.Rewrites seen seenNext cell written) :
    column.Stores next written := by
  have keepsValue : column.Keeps value cell := stores.resolve_right fun other => by
    rw [kind] at other
    cases other.1
  have deltaTakes := adds.takes
  rw [kind] at takes deltaTakes nextTakes
  obtain ⟨d, isDelta⟩ := deltaTakes.number.resolve_left adds.present
  have rereads : Rereads next seenNext := by
    refine (shows.rereads adds.number).increase takes.number isDelta seenEq nextEq ?_
    rintro i rfl
    cases nextTakes with
    | digits few => exact few
  cases agrees : seenNext.agrees seen with
  | false =>
      have keeps := rewrites.put agrees
      rcases rereads with rfl | ⟨x, rfl, number⟩
      · exact .inl keeps
      · exact .inl
          ((kind ▸ nextTakes : column.kind.Takes next).keeps_of_sameNumber kind number keeps)
  | true =>
      rw [rewrites.kept agrees]
      have matching : next.Matches value := rereads.matches.1.trans
        ((show seenNext.Matches seen from .inr agrees).trans (shows.rereads adds.number).matches.2)
      rcases matching with rfl | same
      · exact stores
      · rcases takes.number with rfl | ⟨x, isDouble⟩
        · rw [Value.agrees_null_iff.mp same]
          exact stores
        · exact .inl (nextTakes.keeps_of_agrees kind isDouble same keepsValue)

/-- A column stores a number that is incremented. -/
theorem Column.Stores.increase (stores : column.Stores value cell) (takes : column.kind.Takes value)
    (shows : column.Shows value cell seen) (adds : column.kind.Adds delta)
    (seenEq : seen.increase delta = .ok seenNext) (nextEq : value.increase delta = .ok next)
    (nextTakes : column.kind.Takes next) (rewrites : column.Rewrites seen seenNext cell written) :
    column.Stores next written := by
  rcases adds.number with kind | kind
  · exact stores.increase_double kind takes shows adds seenEq nextEq nextTakes rewrites
  · have sameSeen : seen = value := by
      cases shows with
      | plain _ whole => exact whole kind
      | double other => rw [kind] at other; cases other
      | document other => rw [kind] at other; cases other
    rw [sameSeen] at seenEq
    obtain rfl := Except.ok.inj (seenEq.symm.trans nextEq)
    exact shows.assign nextTakes rewrites

/-- A column that stores a value stores what a patch makes of it. -/
theorem Column.Stores.patch (stores : column.Stores value cell) (takes : column.kind.Takes value)
    (shows : column.Shows value cell seen) (suits : column.Suits p)
    (seenEq : p.effect column.name seen = .ok seenNext)
    (nextEq : p.effect column.name value = .ok next)
    (nextTakes : column.kind.Takes next) (rewrites : column.Rewrites seen seenNext cell written) :
    column.Stores next written := by
  unfold Writes.Patch.effect at seenEq nextEq
  cases assigned : Keyed.get? column.name p.set with
  | some base =>
      rw [assigned] at seenEq nextEq
      obtain rfl : seenNext = next := Except.ok.inj (seenEq.symm.trans nextEq)
      exact shows.assign nextTakes rewrites
  | none =>
      rw [assigned] at seenEq nextEq
      cases incremented : Keyed.get? column.name p.inc with
      | none =>
          rw [incremented] at seenEq nextEq
          obtain rfl := Except.ok.inj seenEq
          obtain rfl := Except.ok.inj nextEq
          exact stores.leave takes shows rewrites
      | some delta =>
          rw [incremented] at seenEq nextEq
          exact stores.increase takes shows (suits.inc delta incremented) seenEq nextEq
            nextTakes rewrites

end Writes

end Outreach.Store
