import Outreach.Proofs.Store.Verdicts
import Outreach.Proofs.Writes.Transparency

/-!
# A table behind a coalescer

A coalescer hands its batches to a table. The table refuses by identifier, and what it accepts of a
batch is what the coalescer counts as delivered. So a table has taken the delivered writes, batch by
batch, and for each identifier in the order in which they were queued.
-/

namespace Outreach.Store

open Writes (Write Rejection rejects RejectsById Coalescer Step LetterStore)

theorem rejects_iff {failed : List Rejection} {w : Write} :
    rejects failed w = true ↔ some w.ticket ∈ failed.map Rejection.ticket := by
  simp [rejects, Writes.lastReason?, List.find?_isSome]

section Verdicts

variable {clock : Clock} {t after : Table} {result : Writes.BulkResult}
  {marked : List (Write × Bool)}

/-- With different tickets, the table names exactly the writes that it refused. -/
theorem Verdicts.rejects_eq (verdicts : Verdicts clock t after result marked)
    (distinct : (marked.map (·.1.ticket)).Nodup) :
    ∀ verdict ∈ marked, rejects result.failed verdict.1 = !verdict.2 := by
  have named : result.failed.map Rejection.ticket = (refusedOf marked).map fun w =>
      some w.ticket := by
    simpa [Function.comp_def] using congrArg (List.map Prod.fst) verdicts.failed
  intro verdict verdictMem
  rw [Bool.eq_iff_iff, rejects_iff, named, List.mem_map]
  constructor
  · rintro ⟨w, wMem, sameTicket⟩
    obtain ⟨refused, refusedMem, rfl⟩ := List.mem_map.mp wMem
    obtain ⟨inMarked, isRefused⟩ := List.mem_filter.mp refusedMem
    have same := List.inj_on_of_nodup_map distinct inMarked verdictMem (Option.some.inj sameTicket)
    rw [← same]
    exact isRefused
  · intro isRefused
    exact ⟨verdict.1,
      List.mem_map.mpr ⟨verdict, List.mem_filter.mpr ⟨verdictMem, isRefused⟩, rfl⟩, rfl⟩

/-- A table refuses by identifier. -/
theorem Verdicts.rejectsById (verdicts : Verdicts clock t after result marked)
    (distinct : (marked.map (·.1.ticket)).Nodup) :
    RejectsById result.failed (marked.map Prod.fst) := by
  have named := verdicts.rejects_eq distinct
  unfold RejectsById
  rw [List.pairwise_map]
  refine verdicts.forGood.imp_of_mem
    fun {earlier later} earlierMem laterMem forGood sameId refused => ?_
  rw [named earlier earlierMem] at refused
  rw [named later laterMem, forGood sameId (by simpa using refused)]
  rfl

/-- What a table does not name, it has accepted. -/
theorem Verdicts.filter_eq_acceptedOf (verdicts : Verdicts clock t after result marked)
    (distinct : (marked.map (·.1.ticket)).Nodup) :
    (marked.map Prod.fst).filter (fun w => !rejects result.failed w) = acceptedOf marked := by
  rw [acceptedOf, List.filter_map]
  congr 1
  apply List.filter_congr
  intro verdict verdictMem
  simp [verdicts.rejects_eq distinct verdict verdictMem]

end Verdicts

/-- The step queues a write. -/
def QueuesWrite : Step → Prop
  | .enqueue .. => True
  | _ => False

theorem queuedBy_eq_nil {step : Step} (queuesNot : ¬ QueuesWrite step) (s : Coalescer) :
    s.queuedBy step = [] := by
  cases step with
  | enqueue => exact absurd trivial queuesNot
  | start | resume | fire | turn | finish => rfl

/-- A step that queues nothing, of a coalescer whose batches go to a table. -/
inductive TableStep (s : Coalescer) (t : Table) : Coalescer → Table → Prop
  | work (step : Step) (goesOn : ¬ step.EndsFlight) (queuesNot : ¬ QueuesWrite step) :
      TableStep s t (s.step step) t
  /-- The batch fails, or runs out of time, before anything is applied. -/
  | fail (now : Nat) (reason : String) (letters : LetterStore) :
      TableStep s t (s.step (.finish now (.raised reason) letters)) t
  /-- The table takes the batch in flight. -/
  | apply (now : Nat) (clock : Clock) (letters : LetterStore) {next : Table}
      {result : Writes.BulkResult} (flying : s.processor.flight ≠ [])
      (upserted : t.upsert clock s.processor.flight = (next, .ok result)) :
      TableStep s t (s.step (.finish now (.returned result) letters)) next

/-- Whatever a table answers to the batch in flight is a step. -/
theorem TableStep.sink {s : Coalescer} {t : Table} (now : Nat) (clock : Clock)
    (letters : LetterStore) (flying : s.processor.flight ≠ []) :
    TableStep s t (s.step (.finish now (t.sink clock s.processor.flight).1 letters))
      (t.sink clock s.processor.flight).2 := by
  cases upserted : t.upsert clock s.processor.flight with
  | mk next outcome =>
      cases outcome with
      | ok result =>
          have answer : t.sink clock s.processor.flight = (.returned result, next) := by
            simp only [Table.sink, upserted]
          rw [answer]
          exact .apply now clock letters flying upserted
      | error why =>
          have same : next = t := by
            unfold Table.upsert at upserted
            split at upserted
            · cases upserted
            · cases upserted
              rfl
          have answer : t.sink clock s.processor.flight = (.raised why.message, t) := by
            simp only [Table.sink, upserted, same]
          rw [answer]
          exact .fail now why.message letters

/-- The places and the orders of the writes are kept. -/
structure Regular (s : Coalescer) : Prop where
  guarded : s.Guarded
  accounted : s.processor.Accounted
  ordered : s.processor.InOrder
  byId : s.processor.InOrderById

theorem idle_regular (name : String) (config : Writes.Config) : Regular (.idle name config) :=
  ⟨Coalescer.idle_guarded name config, Writes.Processor.idle_accounted name config,
    List.Pairwise.nil, List.Pairwise.nil⟩

namespace Regular

variable {s : Coalescer}

theorem step_kept (regular : Regular s) (step : Step) : (s.step step).Guarded ∧
    (s.step step).processor.Accounted ∧ (s.step step).processor.InOrder :=
  Coalescer.run_induction (I := fun p => p.Accounted ∧ p.InOrder)
    (fun change holds => ⟨change.accounted holds.1, change.inOrder holds.1 holds.2⟩) [step]
    regular.guarded ⟨regular.accounted, regular.ordered⟩

theorem step_of_byId (regular : Regular s) {step : Step}
    (byId : (s.step step).processor.InOrderById) : Regular (s.step step) := by
  obtain ⟨guarded, accounted, ordered⟩ := regular.step_kept step
  exact ⟨guarded, accounted, ordered, byId⟩

/-- A step that ends no flight delivers nothing. -/
theorem step_goesOn (regular : Regular s) {step : Step} (goesOn : ¬ step.EndsFlight) :
    Regular (s.step step) ∧ (s.step step).processor.deliveries = s.processor.deliveries := by
  obtain ⟨byId, deliveriesEq⟩ :=
    Coalescer.step_of_not_endsFlight regular.guarded regular.accounted goesOn regular.byId
  exact ⟨regular.step_of_byId byId, deliveriesEq⟩

/-- The tickets of a flight are all different. -/
theorem flight_tickets (regular : Regular s) : (s.processor.flight.map Write.ticket).Nodup := by
  have ordered := regular.ordered
  unfold Writes.Processor.InOrder at ordered
  rw [List.map_append] at ordered
  exact (List.pairwise_append.mp ordered).1.imp fun less => Nat.ne_of_lt less

end Regular

/-- When the accepted writes have different identifiers, so have those that are
delivered or in flight. -/
theorem Regular.ids_nodup {s : Coalescer} (regular : Regular s)
    (distinct : (s.processor.accepted.map Write.id).Nodup) :
    (s.processor.deliveries.map Write.id ++ s.processor.flight.map Write.id).Nodup := by
  have places := regular.accounted.changes_perm.map Prod.fst
  rw [List.map_map, List.map_map] at places
  have placesDistinct : ((s.processor.places ++
      s.processor.lost.map Writes.DeadLetter.write).map Write.id).Nodup :=
      places.nodup_iff.mpr distinct
  rw [← List.map_append]
  apply (List.perm_append_comm.map Write.id).nodup_iff.mp
  refine placesDistinct.sublist (List.Sublist.map _ ?_)
  unfold Writes.Processor.places
  refine List.Sublist.trans ?_ (List.sublist_append_left _ _)
  refine List.Sublist.trans ?_ (List.sublist_append_left _ _)
  exact (List.sublist_append_right _ _).append_right _

/-- A write that is queued delivers nothing. -/
theorem Regular.enqueue {s : Coalescer} (regular : Regular s) {now : Nat} {id : String}
    {patch : Writes.Patch} {p : Writes.Processor}
    (queued : s.processor.enqueue now id patch = .ok p) :
    Regular { s with processor := p } ∧ p.deliveries = s.processor.deliveries ∧
      p.accepted.map Write.change = s.processor.accepted.map Write.change ++ [(id, patch)] := by
  have stepEq := Coalescer.step_enqueue_of_ok queued
  have goesOn : ¬ (Step.enqueue now id patch).EndsFlight := not_false
  obtain ⟨next, deliveriesEq⟩ := regular.step_goesOn goesOn
  have acceptedEq := Coalescer.step_accepted regular.guarded (.enqueue now id patch)
  have queuedBy : s.queuedBy (.enqueue now id patch) = [(id, patch)] := by
    simp [Coalescer.queuedBy, Coalescer.enqueue, queued, bind, Except.bind]
  rw [stepEq] at next deliveriesEq acceptedEq
  rw [queuedBy] at acceptedEq
  exact ⟨next, deliveriesEq, acceptedEq⟩

/-- Nothing of an identifier is delivered that was never queued for it. -/
theorem Regular.undelivered {s : Coalescer} (regular : Regular s) {id : String}
    (unused : id ∉ s.processor.accepted.map Write.id) :
    ∀ w ∈ s.processor.deliveries, w.id ≠ id := by
  intro w wMem own
  have place : w ∈ s.processor.places ++ s.processor.lost.map Writes.DeadLetter.write := by
    simp [Writes.Processor.places, wMem]
  have places := regular.accounted.changes_perm.map Prod.fst
  rw [Writes.map_fst_change, Writes.map_fst_change] at places
  exact unused (own ▸ places.subset (List.mem_map_of_mem place))

/-- The patches of an identifier are told by the changes. -/
theorem patches_of_changes (id : String) (writes : List Write) :
    (writes.filter (·.id = id)).map Write.patch =
      ((writes.map Write.change).filter (·.1 = id)).map Prod.snd := by
  rw [List.filter_map, List.map_map]
  rfl

/-- Nothing waits, and nothing was given up. -/
structure Drained (p : Writes.Processor) : Prop where
  queue : p.queue = []
  flight : p.flight = []
  deadLetters : p.deadLetters = []
  lost : p.lost = []

instance (p : Writes.Processor) : Decidable (Drained p) :=
  decidable_of_iff (p.queue = [] ∧ p.flight = [] ∧ p.deadLetters = [] ∧ p.lost = [])
    ⟨fun ⟨queue, flight, deadLetters, lost⟩ => ⟨queue, flight, deadLetters, lost⟩,
      fun ⟨queue, flight, deadLetters, lost⟩ => ⟨queue, flight, deadLetters, lost⟩⟩

theorem Drained.places_eq {p : Writes.Processor} (drained : Drained p) :
    p.places ++ p.lost.map Writes.DeadLetter.write = p.deliveries := by
  simp [Writes.Processor.places, drained.queue, drained.flight, drained.deadLetters, drained.lost]

/-- A drained processor has delivered what it accepted. -/
theorem Regular.deliveries_perm {s : Coalescer} (regular : Regular s)
    (drained : Drained s.processor) :
    (s.processor.deliveries.map Write.change).Perm (s.processor.accepted.map Write.change) := by
  have places := regular.accounted.changes_perm
  rwa [drained.places_eq] at places

/-- Nothing of the identifier waits, and nothing of it was given up. -/
structure SettledFor (id : String) (p : Writes.Processor) : Prop where
  waiting : ∀ w ∈ p.queue ++ p.flight, w.id ≠ id
  givenUp : ∀ letter ∈ p.deadLetters ++ p.lost, letter.write.id ≠ id

instance (id : String) (p : Writes.Processor) : Decidable (SettledFor id p) :=
  decidable_of_iff ((∀ w ∈ p.queue ++ p.flight, w.id ≠ id) ∧
    ∀ letter ∈ p.deadLetters ++ p.lost, letter.write.id ≠ id)
    ⟨fun ⟨waiting, givenUp⟩ => ⟨waiting, givenUp⟩, fun ⟨waiting, givenUp⟩ => ⟨waiting, givenUp⟩⟩

theorem Drained.settledFor {p : Writes.Processor} (drained : Drained p) (id : String) :
    SettledFor id p := by
  constructor <;> simp [drained.queue, drained.flight, drained.deadLetters, drained.lost]

/-- A write of a settled identifier that stands in some place was delivered. -/
theorem SettledFor.delivered {p : Writes.Processor} {w : Write} (settled : SettledFor w.id p)
    (wMem : w ∈ p.places ++ p.lost.map Writes.DeadLetter.write) : w ∈ p.deliveries := by
  simp only [Writes.Processor.places, List.mem_append, List.mem_map] at wMem
  rcases wMem with (((queued | flying) | delivered) | ⟨letter, dead, rfl⟩) | ⟨letter, lost, rfl⟩
  · exact absurd rfl (settled.waiting w (List.mem_append_left _ queued))
  · exact absurd rfl (settled.waiting w (List.mem_append_right _ flying))
  · exact delivered
  · exact absurd rfl (settled.givenUp letter (List.mem_append_left _ dead))
  · exact absurd rfl (settled.givenUp letter (List.mem_append_right _ lost))

/-- The changes of a settled identifier were delivered in the order in which they were queued. -/
theorem Regular.patches_eq_of_settled {s : Coalescer} (regular : Regular s) {id : String}
    (settled : SettledFor id s.processor) :
    (s.processor.deliveries.filter (·.id = id)).map Write.patch =
      (s.processor.accepted.filter (·.id = id)).map Write.patch := by
  have delivered := Writes.Processor.deliveries_eq_deliveredOf regular.accounted regular.byId id
  have all : s.processor.deliveredOf id = s.processor.accepted.filter (·.id = id) := by
    apply List.filter_congr
    intro w wMem
    obtain ⟨d, dMem, rfl⟩ := List.mem_map.mp (regular.accounted.places_perm.symm.subset wMem)
    rw [Bool.eq_iff_iff, decide_eq_true_iff, decide_eq_true_iff]
    refine and_iff_left_of_imp fun own => ?_
    have own : d.id = id := own
    subst own
    exact List.mem_map.mpr ⟨d, settled.delivered dMem, rfl⟩
  rw [← all, ← delivered, List.map_map]
  rfl

/-- A drained processor has delivered the changes of each identifier in the order in
which they were queued. -/
theorem Regular.patches_eq {s : Coalescer} (regular : Regular s) (drained : Drained s.processor)
    (id : String) : (s.processor.deliveries.filter (·.id = id)).map Write.patch =
      (s.processor.accepted.filter (·.id = id)).map Write.patch :=
  regular.patches_eq_of_settled (drained.settledFor id)

/-- What a step does to the deliveries and the table: nothing, or the table takes
what is delivered. -/
inductive Delivers (s : Coalescer) (t : Table) (s' : Coalescer) : Table → Prop
  | nothing (same : s'.processor.deliveries = s.processor.deliveries) : Delivers s t s' t
  | batch {clock : Clock} {marked : List (Write × Bool)} {final : Session}
      (markedEq : marked.map Prod.fst = s.processor.flight)
      (takesAll : (Session.start t).TakesAll clock marked final)
      (deliveriesEq : s'.processor.deliveries = s.processor.deliveries ++ acceptedOf marked) :
      Delivers s t s' final.table

theorem accepted_of_queuesNot {s : Coalescer} (regular : Regular s) {step : Step}
    (queuesNot : ¬ QueuesWrite step) : (s.step step).processor.accepted.map Write.change =
      s.processor.accepted.map Write.change := by
  rw [Coalescer.step_accepted regular.guarded step, queuedBy_eq_nil queuesNot, List.append_nil]

/-- A table that takes the batch in flight takes what is delivered of it. -/
theorem Regular.takesBatch {s : Coalescer} {t next : Table} {clock : Clock}
    {result : Writes.BulkResult} (regular : Regular s) (now : Nat) (letters : LetterStore)
    (flying : s.processor.flight ≠ [])
    (upserted : t.upsert clock s.processor.flight = (next, .ok result)) :
    ∃ marked final, marked.map Prod.fst = s.processor.flight ∧
      (Session.start t).TakesAll clock marked final ∧ final.table = next ∧
      Regular (s.step (.finish now (.returned result) letters)) ∧
      (s.step (.finish now (.returned result) letters)).processor.deliveries =
        s.processor.deliveries ++ acceptedOf marked := by
  obtain ⟨marked, final, markedEq, takesAll, rfl, rfl⟩ := upsert_eq_ok_iff.mp upserted
  have verdicts := verdicts_of_takesAll takesAll
  have distinct : (marked.map (·.1.ticket)).Nodup := by
    have tickets := regular.flight_tickets
    rwa [← markedEq, List.map_map] at tickets
  have rejectsById := verdicts.rejectsById distinct
  have delivered := verdicts.filter_eq_acceptedOf distinct
  rw [markedEq] at rejectsById delivered
  obtain ⟨byId, deliveriesEq⟩ := Coalescer.step_finish_returned regular.guarded now final.result
    letters flying rejectsById regular.byId
  rw [delivered] at deliveriesEq
  exact ⟨marked, final, markedEq, takesAll, rfl, regular.step_of_byId byId, deliveriesEq⟩

theorem TableStep.delivers {s s' : Coalescer} {t t' : Table} (step : TableStep s t s' t')
    (regular : Regular s) : Regular s' ∧ Delivers s t s' t' ∧
      s'.processor.accepted.map Write.change = s.processor.accepted.map Write.change := by
  cases step with
  | work step goesOn queuesNot =>
      obtain ⟨next, deliveriesEq⟩ := regular.step_goesOn goesOn
      exact ⟨next, .nothing deliveriesEq, accepted_of_queuesNot regular queuesNot⟩
  | fail now reason letters =>
      obtain ⟨byId, deliveriesEq⟩ :=
        Coalescer.step_finish_raised regular.guarded now reason letters regular.byId
      exact ⟨regular.step_of_byId byId, .nothing deliveriesEq,
        accepted_of_queuesNot regular not_false⟩
  | @apply now clock letters next result flying upserted =>
      obtain ⟨marked, final, markedEq, takesAll, rfl, regularNext, deliveriesEq⟩ :=
        regular.takesBatch now letters flying upserted
      exact ⟨regularNext, .batch markedEq takesAll deliveriesEq,
        accepted_of_queuesNot regular not_false⟩

theorem Session.TakesAll.schema_eq {s final : Session} {clock : Clock}
    {marked : List (Write × Bool)} (takesAll : s.TakesAll clock marked final) :
    final.table.schema = s.table.schema := by
  induction takesAll with
  | start => rfl
  | last before takes ih =>
      cases takes with
      | accepts _ applied => exact (applies_of_apply applied).1.schema_eq.trans ih
      | skips _ | refuses _ _ => exact ih

/-- A table keeps its columns. -/
theorem TableStep.schema_eq {s s' : Coalescer} {t t' : Table} (step : TableStep s t s' t')
    (regular : Regular s) :
    t'.schema = t.schema := by
  obtain ⟨-, delivers, -⟩ := step.delivers regular
  cases delivers with
  | nothing same => rfl
  | batch markedEq takesAll deliveriesEq => exact takesAll.schema_eq

end Outreach.Store
