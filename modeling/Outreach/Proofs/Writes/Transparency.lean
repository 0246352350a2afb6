import Mathlib.Data.List.Sort
import Outreach.Proofs.Writes.Order
import Outreach.Writes.Shelf

/-!
# Coalescing is transparent

A coalescer hands its batches to a shelf. The shelf may fail before it applies anything, and it may
refuse single writes, if it then refuses the later writes of that identifier in the batch as well.
In every such run each document is what its delivered writes make of it when they are applied
directly, one after the other, in the order in which they were queued: batches, attempts and the
times of flushes leave no trace.

The simulation rests on `InOrderById`: for each identifier, the delivered writes, the flight and the
queue together stand in the order of acceptance.
-/

namespace Outreach.Writes

/-! ## Applying one after the other -/

theorem applyAll_append (first second : List Patch) (document : Option Fields) :
    applyAll (first ++ second) document = applyAll first document >>= applyAll second := by
  induction first generalizing document with
  | nil => rfl
  | cons p rest ih =>
      simp only [List.cons_append, applyAll]
      cases p.applyTo document with
      | error fault => rfl
      | ok next => exact ih (some next)

namespace Shelf

theorem applyWrite_eq_ok_iff {w : Write} {documents next : List (String × Fields)} :
    applyWrite w documents = .ok next ↔
      ∃ document, w.patch.applyTo (Keyed.get? w.id documents) = .ok document ∧
        next = Keyed.put w.id document documents := by
  unfold applyWrite
  cases w.patch.applyTo (Keyed.get? w.id documents) with
  | error fault => simp [bind, Except.bind]
  | ok document => simp [bind, Except.bind, eq_comm]

/-- A shelf that applies writes without a fault does to each document what the writes of its
identifier do. -/
theorem applyAll_of_applyWrites {writes : List Write} {documents next : List (String × Fields)}
    {before after : BulkResult} (applied : applyWrites writes documents before = (next, .ok after))
    (id : String) :
    applyAll ((writes.filter (·.id = id)).map Write.patch) (Keyed.get? id documents) =
      .ok (Keyed.get? id next) := by
  induction writes generalizing documents before with
  | nil =>
      simp only [applyWrites, Prod.mk.injEq] at applied
      rw [← applied.1]
      rfl
  | cons w rest ih =>
      simp only [applyWrites] at applied
      cases first : applyWrite w documents with
      | error fault => simp [first] at applied
      | ok middle =>
          rw [first] at applied
          obtain ⟨document, patched, rfl⟩ := applyWrite_eq_ok_iff.mp first
          have later := ih applied
          by_cases same : w.id = id
          · subst same
            rw [Keyed.get?_put_self] at later
            simp only [List.filter_cons, decide_true, if_true, List.map_cons, applyAll, patched]
            exact later
          · rw [Keyed.get?_put_of_ne (Ne.symm same)] at later
            simpa [same] using later

theorem applyAll_of_upsert {writes : List Write} {shelf next : Shelf} {result : BulkResult}
    (applied : shelf.upsert writes = (next, .ok result)) (id : String) :
    applyAll ((writes.filter (·.id = id)).map Write.patch) (Keyed.get? id shelf.documents) =
      .ok (Keyed.get? id next.documents) := by
  simp only [upsert, Prod.mk.injEq] at applied
  obtain ⟨rfl, outcome⟩ := applied
  exact applyAll_of_applyWrites (Prod.ext rfl outcome) id

end Shelf

/-! ## Runs over a shelf -/

/-- Once a write of a batch is rejected, the later writes of its identifier are rejected too. -/
def RejectsById (failed : List Rejection) (batch : List Write) : Prop :=
  batch.Pairwise fun w later => w.id = later.id → rejects failed w → rejects failed later

/-- The step ends the flight. -/
def Step.EndsFlight : Step → Prop
  | .finish .. => True
  | _ => False

/-- What a coalescer over a shelf that was empty can reach. -/
inductive OverShelf (name : String) (config : Config) : Coalescer → Shelf → Prop
  | start : OverShelf name config (.idle name config) .empty
  /-- Nothing but the end of a flight changes the shelf. -/
  | work {s : Coalescer} {shelf : Shelf} (before : OverShelf name config s shelf) (step : Step)
      (goesOn : ¬ step.EndsFlight) : OverShelf name config (s.step step) shelf
  /-- The shelf fails, or runs out of time, before it applies anything. -/
  | fail {s : Coalescer} {shelf : Shelf} (before : OverShelf name config s shelf) (now : Nat)
      (reason : String) (letters : LetterStore) :
      OverShelf name config (s.step (.finish now (.raised reason) letters)) shelf
  /-- The shelf applies the writes of the flight that it does not reject, and
  none of them faults. -/
  | apply {s : Coalescer} {shelf next : Shelf} {result : BulkResult}
      (before : OverShelf name config s shelf) (now : Nat) (failed : List Rejection)
      (letters : LetterStore) (flying : s.processor.flight ≠ [])
      (byId : RejectsById failed s.processor.flight)
      (applied : shelf.upsert (s.processor.flight.filter fun w => !rejects failed w) =
        (next, .ok result)) :
      OverShelf name config
        (s.step (.finish now (.returned { result with failed := failed }) letters)) next

theorem OverShelf.exists_run {name : String} {config : Config} {s : Coalescer} {shelf : Shelf}
    (reached : OverShelf name config s shelf) :
    ∃ steps, s = (Coalescer.idle name config).run steps := by
  induction reached with
  | start => exact ⟨[], rfl⟩
  | work before step goesOn ih =>
      obtain ⟨steps, rfl⟩ := ih
      exact ⟨steps ++ [step], (Coalescer.run_concat steps step _).symm⟩
  | fail before now reason letters ih =>
      obtain ⟨steps, rfl⟩ := ih
      exact ⟨steps ++ [.finish now (.raised reason) letters], (Coalescer.run_concat ..).symm⟩
  | @apply s shelf next result before now failed letters flying byId applied ih =>
      obtain ⟨steps, rfl⟩ := ih
      exact ⟨steps ++ [.finish now (.returned { result with failed := failed }) letters],
        (Coalescer.run_concat ..).symm⟩

/-! ## Order for each identifier -/

/-- Of two writes of one identifier, this one was accepted first. -/
def Write.Precedes (w later : Write) : Prop := w.id = later.id → w.ticket < later.ticket

theorem pairwise_precedes_fresh {writes : List Write} :
    (writes.map Write.fresh).Pairwise Write.Precedes ↔ writes.Pairwise Write.Precedes :=
  List.pairwise_map

/-- What a batch delivers was accepted before what it fails, for each identifier. -/
theorem delivered_precedes_failed {failed : List Rejection} {batch : List Write}
    (ordered : batch.Pairwise Write.Precedes) (byId : RejectsById failed batch)
    {delivered rejected : Write} (deliveredMem : delivered ∈ batch) (rejectedMem : rejected ∈ batch)
    (kept : rejects failed delivered = false) (named : rejects failed rejected = true) :
    delivered.Precedes rejected := by
  induction batch with
  | nil => cases deliveredMem
  | cons first rest ih =>
      obtain ⟨firstOrdered, restOrdered⟩ := List.pairwise_cons.mp ordered
      obtain ⟨firstById, restById⟩ := List.pairwise_cons.mp byId
      rcases List.mem_cons.mp deliveredMem with rfl | deliveredRest
      · rcases List.mem_cons.mp rejectedMem with rfl | rejectedRest
        · rw [kept] at named
          cases named
        · exact firstOrdered rejected rejectedRest
      · rcases List.mem_cons.mp rejectedMem with rfl | rejectedRest
        · intro sameId
          have alsoNamed := firstById delivered deliveredRest sameId.symm named
          rw [kept] at alsoNamed
          cases alsoNamed
        · exact ih restOrdered restById deliveredRest rejectedRest

namespace Processor

/-- For each identifier the delivered writes, the flight and the queue stand in
the order of acceptance. -/
def InOrderById (p : Processor) : Prop :=
  (p.deliveries ++ p.flight ++ p.queue).Pairwise Write.Precedes

theorem accept_inOrderById {p : Processor} (id : String) (patch : Patch) (accounted : p.Accounted)
    (ordered : p.InOrderById) : (p.accept id patch).InOrderById := by
  simp only [InOrderById, accept, ← List.append_assoc]
  rw [List.pairwise_append]
  refine ⟨ordered, by simp, ?_⟩
  intro w wMem next nextMem _
  have nextEq : next = p.nextWrite id patch := by simpa using nextMem
  rw [nextEq]
  apply List.mem_range.mp
  apply accounted.tickets_perm.subset
  apply List.mem_map_of_mem
  simp only [List.mem_append, places] at wMem ⊢
  tauto

theorem take_inOrderById {p : Processor} (landed : p.flight = []) (ordered : p.InOrderById) :
    p.take.InOrderById := by
  have parts := List.take_append_drop p.config.batchSize p.queue
  unfold InOrderById at ordered ⊢
  rw [landed, List.append_nil, ← parts, ← pairwise_precedes_fresh] at ordered
  rw [← pairwise_precedes_fresh]
  simpa only [take, List.map_append, map_fresh_nextBatch, List.append_assoc] using ordered

/-- A batch that fails as a whole goes back to where it was. -/
theorem settle_raised_inOrderById {p : Processor} (letters : LetterStore) (reason : String)
    (ordered : p.InOrderById) : (p.settle letters (.raised reason)).2.InOrderById := by
  have returning := (p.retries_sublist p.flight (.raised reason)).append_right p.queue
  unfold InOrderById at ordered ⊢
  rw [List.append_assoc] at ordered
  simp only [settle_deliveries, settle_flight, settle_queue, deliveriesOf, List.append_nil]
  exact ordered.sublist (returning.append_left p.deliveries)

/-- Writes that come back do not fall behind delivered ones of their identifier. -/
theorem settle_returned_inOrderById {p : Processor} (letters : LetterStore) (result : BulkResult)
    (byId : RejectsById result.failed p.flight) (ordered : p.InOrderById) :
    (p.settle letters (.returned result)).2.InOrderById := by
  have deliveredMem : ∀ w ∈ deliveriesOf p.flight (.returned result),
      w ∈ p.flight ∧ rejects result.failed w = false := by
    intro w wMem
    rw [deliveriesOf_eq_filter] at wMem
    simpa [SinkOutcome.fails] using List.mem_filter.mp wMem
  have rejectedMem : ∀ w ∈ p.retries (failuresOf p.flight (.returned result)),
      w ∈ p.flight ∧ rejects result.failed w = true := by
    intro w wMem
    rw [retries_failuresOf] at wMem
    exact List.mem_filter.mp (List.mem_filter.mp wMem).1
  unfold InOrderById at ordered ⊢
  simp only [settle_deliveries, settle_flight, settle_queue, List.append_nil,
    List.pairwise_append, List.mem_append] at ordered ⊢
  obtain ⟨⟨deliveriesOrdered, flightOrdered, deliveriesFirst⟩, queueOrdered, frontFirst⟩ := ordered
  have deliveredOrdered : (deliveriesOf p.flight (.returned result)).Pairwise Write.Precedes := by
    rw [deliveriesOf_eq_filter]
    exact flightOrdered.filter _
  have rejectedOrdered :
      (p.retries (failuresOf p.flight (.returned result))).Pairwise Write.Precedes := by
    rw [retries_failuresOf]
    exact (flightOrdered.filter _).filter _
  refine ⟨⟨deliveriesOrdered, deliveredOrdered, ?_⟩, ⟨rejectedOrdered, queueOrdered, ?_⟩, ?_⟩
  · intro w wMem later laterMem
    exact deliveriesFirst w wMem later (deliveredMem later laterMem).1
  · intro w wMem later laterMem
    exact frontFirst w (Or.inr (rejectedMem w wMem).1) later laterMem
  · rintro w (oldMem | newMem) later (backMem | queueMem)
    · exact deliveriesFirst w oldMem later (rejectedMem later backMem).1
    · exact frontFirst w (Or.inl oldMem) later queueMem
    · obtain ⟨wFlight, kept⟩ := deliveredMem w newMem
      obtain ⟨laterFlight, named⟩ := rejectedMem later backMem
      exact delivered_precedes_failed flightOrdered byId wFlight laterFlight kept named
    · exact frontFirst w (Or.inr (deliveredMem w newMem).1) later queueMem

/-- The delivered writes of an identifier, as they were accepted and in the order of acceptance. -/
def deliveredOf (id : String) (p : Processor) : List Write :=
  p.accepted.filter fun w => w.id = id ∧ w.ticket ∈ p.deliveries.map Write.ticket

theorem Accounted.accepted_pairwise {p : Processor} (accounted : p.Accounted) :
    p.accepted.Pairwise fun w later => w.ticket < later.ticket := by
  rw [← List.pairwise_map (f := Write.ticket) (R := (· < ·)), accounted.tickets]
  exact List.pairwise_lt_range

/-- A delivered write was accepted. -/
theorem Accounted.fresh_mem_accepted {p : Processor} (accounted : p.Accounted) {w : Write}
    (wMem : w ∈ p.deliveries) : w.fresh ∈ p.accepted := by
  apply accounted.places_perm.subset
  apply List.mem_map_of_mem
  simp [places, wMem]

theorem Accounted.mem_deliveredOf_iff {p : Processor} (accounted : p.Accounted) (id : String)
    (w : Write) : w ∈ p.deliveredOf id ↔ ∃ d ∈ p.deliveries, d.id = id ∧ d.fresh = w := by
  simp only [deliveredOf, List.mem_filter, decide_eq_true_eq, List.mem_map]
  constructor
  · rintro ⟨wMem, wId, d, dMem, sameTicket⟩
    have distinct : (p.accepted.map Write.ticket).Nodup := by
      rw [accounted.tickets]
      exact List.nodup_range
    have same : d.fresh = w :=
      List.inj_on_of_nodup_map distinct (accounted.fresh_mem_accepted dMem) wMem sameTicket
    have dId : d.id = id := by rw [← wId, ← same, Write.fresh_id]
    exact ⟨d, dMem, dId, same⟩
  · rintro ⟨d, dMem, rfl, rfl⟩
    exact ⟨accounted.fresh_mem_accepted dMem, rfl, d, dMem, rfl⟩

/-- Writes of one identifier are delivered in the order of acceptance. -/
theorem deliveries_eq_deliveredOf {p : Processor} (accounted : p.Accounted)
    (ordered : p.InOrderById) (id : String) :
    (p.deliveries.filter (·.id = id)).map Write.fresh = p.deliveredOf id := by
  have deliveriesOrdered : p.deliveries.Pairwise Write.Precedes :=
    (List.pairwise_append.mp (List.pairwise_append.mp ordered).1).1
  have leftOrdered : ((p.deliveries.filter (·.id = id)).map Write.fresh).Pairwise
      fun w later => w.ticket < later.ticket := by
    rw [List.pairwise_map, List.pairwise_filter]
    refine deliveriesOrdered.imp fun {w later} precedes wId laterId => ?_
    simp only [decide_eq_true_eq] at wId laterId
    exact precedes (wId.trans laterId.symm)
  have rightOrdered : (p.deliveredOf id).Pairwise fun w later => w.ticket < later.ticket :=
    accounted.accepted_pairwise.filter _
  -- Both lists increase strictly in their tickets, so with the same writes they are equal.
  have : Std.Antisymm fun w later : Write => w.ticket < later.ticket :=
    ⟨fun _ _ first second => absurd second (by omega)⟩
  have : Std.Irrefl fun w later : Write => w.ticket < later.ticket :=
    ⟨fun _ => Nat.lt_irrefl _⟩
  apply leftOrdered.eq_of_mem_iff rightOrdered
  intro w
  rw [accounted.mem_deliveredOf_iff]
  simp only [List.mem_map, List.mem_filter, decide_eq_true_eq, and_assoc]

end Processor

/-! ## The simulation -/

namespace Coalescer

variable {s : Coalescer}

theorem Reaches.inOrderById {p : Processor} {t : Coalescer} (reaches : Reaches p t)
    (ordered : p.InOrderById) : t.processor.InOrderById := by
  cases reaches with
  | waits same _ =>
      rw [same]
      exact ordered
  | @takes q same landed waiting taken _ =>
      rw [taken]
      apply Processor.take_inOrderById landed
      rw [same]
      exact ordered

/-- A step that ends no flight keeps the order for each identifier and delivers nothing. -/
theorem step_of_not_endsFlight (guarded : s.Guarded) (accounted : s.processor.Accounted)
    {step : Step} (goesOn : ¬ step.EndsFlight) (ordered : s.processor.InOrderById) :
    (s.step step).processor.InOrderById ∧
      (s.step step).processor.deliveries = s.processor.deliveries := by
  have reaches := step_reaches guarded step
  have deliveriesEq := reaches.view_eq Processor.deliveries (fun _ _ _ => rfl) fun _ => rfl
  cases step with
  | enqueue now id patch =>
      simp only [worked] at reaches deliveriesEq
      cases queued : s.processor.enqueue now id patch with
      | error refusal =>
          rw [queued] at reaches deliveriesEq
          exact ⟨reaches.inOrderById ordered, deliveriesEq⟩
      | ok p =>
          rw [queued] at reaches deliveriesEq
          obtain ⟨_, _, rfl⟩ := Processor.enqueue_eq_ok_iff.mp queued
          rw [Processor.arm_sameWork now _] at reaches deliveriesEq
          exact ⟨reaches.inOrderById (Processor.accept_inOrderById id patch accounted ordered),
            deliveriesEq⟩
  | finish now outcome letters => exact absurd trivial goesOn
  | start | resume | fire | turn => exact ⟨reaches.inOrderById ordered, deliveriesEq⟩

/-- A batch that fails before anything is applied keeps the order and delivers nothing. -/
theorem step_finish_raised (guarded : s.Guarded) (now : Nat) (reason : String)
    (letters : LetterStore) (ordered : s.processor.InOrderById) :
    (s.step (.finish now (.raised reason) letters)).processor.InOrderById ∧
      (s.step (.finish now (.raised reason) letters)).processor.deliveries =
        s.processor.deliveries := by
  have reaches := step_reaches guarded (.finish now (.raised reason) letters)
  have deliveriesEq := reaches.view_eq Processor.deliveries (fun _ _ _ => rfl) fun _ => rfl
  simp only [worked] at reaches deliveriesEq
  by_cases unheld : s.holder = none
  · rw [if_pos unheld] at reaches deliveriesEq
    exact ⟨reaches.inOrderById ordered, deliveriesEq⟩
  · rw [if_neg unheld] at reaches deliveriesEq
    constructor
    · exact reaches.inOrderById (Processor.settle_raised_inOrderById letters reason ordered)
    · simpa [deliveriesOf] using deliveriesEq

/-- A batch that is rejected by identifier keeps the order and delivers the other writes. -/
theorem step_finish_returned (guarded : s.Guarded) (now : Nat) (result : BulkResult)
    (letters : LetterStore) (flying : s.processor.flight ≠ [])
    (byId : RejectsById result.failed s.processor.flight) (ordered : s.processor.InOrderById) :
    (s.step (.finish now (.returned result) letters)).processor.InOrderById ∧
      (s.step (.finish now (.returned result) letters)).processor.deliveries =
        s.processor.deliveries ++ s.processor.flight.filter fun w => !rejects result.failed w := by
  have reaches := step_reaches guarded (.finish now (.returned result) letters)
  have deliveriesEq := reaches.view_eq Processor.deliveries (fun _ _ _ => rfl) fun _ => rfl
  have held : s.holder ≠ none := mt guarded.mp flying
  simp only [worked, if_neg held] at reaches deliveriesEq
  constructor
  · exact reaches.inOrderById (Processor.settle_returned_inOrderById letters result byId ordered)
  · rw [deliveriesEq, Processor.settle_deliveries, deliveriesOf_eq_filter]
    rfl

end Coalescer

/-- Each document is what the delivered writes of its identifier make of no document. -/
def ShelfAgrees (p : Processor) (shelf : Shelf) : Prop :=
  ∀ id, applyAll ((p.deliveries.filter (·.id = id)).map Write.patch) none =
    .ok (Keyed.get? id shelf.documents)

theorem shelfAgrees_idle (name : String) (config : Config) :
    ShelfAgrees (.idle name config) .empty :=
  fun _ => rfl

/-- Applying newly delivered writes to the shelf is applying all delivered writes to no document. -/
theorem ShelfAgrees.upsert {p q : Processor} {shelf next : Shelf} {delivered : List Write}
    {result : BulkResult} (agrees : ShelfAgrees p shelf)
    (deliveriesEq : q.deliveries = p.deliveries ++ delivered)
    (applied : shelf.upsert delivered = (next, .ok result)) : ShelfAgrees q next := by
  intro id
  rw [deliveriesEq, List.filter_append, List.map_append, applyAll_append, agrees id]
  exact Shelf.applyAll_of_upsert applied id

namespace OverShelf

variable {name : String} {config : Config} {s : Coalescer} {shelf : Shelf}

theorem guarded (reached : OverShelf name config s shelf) : s.Guarded := by
  obtain ⟨steps, rfl⟩ := reached.exists_run
  exact Coalescer.run_guarded name config steps

theorem accounted (reached : OverShelf name config s shelf) : s.processor.Accounted := by
  obtain ⟨steps, rfl⟩ := reached.exists_run
  exact Coalescer.run_accounted name config steps

/-- The simulation: batches that are applied, failed or rejected leave the shelf where applying the
delivered writes one after the other leads. -/
theorem agrees (reached : OverShelf name config s shelf) :
    s.processor.InOrderById ∧ ShelfAgrees s.processor shelf := by
  induction reached with
  | start => exact ⟨List.Pairwise.nil, shelfAgrees_idle name config⟩
  | work before step goesOn ih =>
      obtain ⟨ordered, agrees⟩ := ih
      obtain ⟨nextOrdered, deliveriesEq⟩ :=
        Coalescer.step_of_not_endsFlight before.guarded before.accounted goesOn ordered
      constructor
      · exact nextOrdered
      · unfold ShelfAgrees
        rwa [deliveriesEq]
  | fail before now reason letters ih =>
      obtain ⟨ordered, agrees⟩ := ih
      obtain ⟨nextOrdered, deliveriesEq⟩ :=
        Coalescer.step_finish_raised before.guarded now reason letters ordered
      constructor
      · exact nextOrdered
      · unfold ShelfAgrees
        rwa [deliveriesEq]
  | @apply s shelf next result before now failed letters flying byId applied ih =>
      obtain ⟨ordered, agrees⟩ := ih
      obtain ⟨nextOrdered, deliveriesEq⟩ :=
        Coalescer.step_finish_returned before.guarded now { result with failed := failed } letters
          flying byId ordered
      exact ⟨nextOrdered, agrees.upsert deliveriesEq applied⟩

theorem applyAll_deliveredOf (reached : OverShelf name config s shelf) (id : String) :
    applyAll ((s.processor.deliveredOf id).map Write.patch) none =
      .ok (Keyed.get? id shelf.documents) := by
  obtain ⟨ordered, agrees⟩ := reached.agrees
  rw [← Processor.deliveries_eq_deliveredOf reached.accounted ordered, List.map_map]
  exact agrees id

/-- Coalescing is transparent: at every moment of every run over a shelf each document is the
fold of the patches of its delivered writes, in the order in which they were queued. So two
runs that deliver the same patches end with the same documents, however they were batched,
tried again and timed. -/
theorem documents_eq_fold (reached : OverShelf name config s shelf) :
    (∀ id, applyAll ((s.processor.deliveredOf id).map Write.patch) none =
      .ok (Keyed.get? id shelf.documents)) ∧
    ∀ {otherName otherConfig} {t : Coalescer} {other : Shelf},
      OverShelf otherName otherConfig t other →
      (∀ id, (s.processor.deliveredOf id).map Write.patch =
        (t.processor.deliveredOf id).map Write.patch) →
      ∀ id, Keyed.get? id shelf.documents = Keyed.get? id other.documents := by
  constructor
  · exact reached.applyAll_deliveredOf
  · intro otherName otherConfig t other otherReached samePatches id
    have left := reached.applyAll_deliveredOf id
    have right := otherReached.applyAll_deliveredOf id
    rw [samePatches id, right] at left
    exact (Except.ok.inj left).symm

/-- What a shelf holds once a rejected write of `"a"` was tried again together with a later one. -/
def retriedShelf : Shelf :=
  ⟨[("b", []), ("a", [("visits", .int 3)])], [["b"], ["a", "a"]]⟩

theorem retriedShelf_document_eq_fold :
    ∃ s, OverShelf "writes" Coalescer.smallBatches s retriedShelf ∧
      applyAll ((s.processor.deliveredOf "a").map Write.patch) none =
        .ok (some [("visits", .int 3)]) := by
  have queued := ((OverShelf.start : OverShelf "writes" Coalescer.smallBatches _ _).work
    (.enqueue 0 "a" (.ofFields [("visits", .int 1)])) not_false).work
    (.enqueue 0 "b" (.ofFields [])) not_false
  have rejected : OverShelf "writes" Coalescer.smallBatches _ ⟨[("b", [])], [["b"]]⟩ :=
    @apply _ _ _ _ _ ⟨1, 0, []⟩ (queued.work (.start 0 .flush) not_false) 1
      [⟨some 0, "a", "locked"⟩] .working (List.cons_ne_nil _ _) (by unfold RejectsById; decide) rfl
  have behind := (rejected.work (.enqueue 1 "a" (.ofIncrements [("visits", .int 2)]))
    not_false).work (.start 2 .flush) not_false
  have retried : OverShelf "writes" Coalescer.smallBatches _ retriedShelf :=
    @apply _ _ _ _ _ ⟨1, 1, []⟩ behind 3 [] .working (List.cons_ne_nil _ _)
      (by unfold RejectsById; decide) rfl
  exact ⟨_, retried, retried.documents_eq_fold.1 "a"⟩

end OverShelf

end Outreach.Writes
