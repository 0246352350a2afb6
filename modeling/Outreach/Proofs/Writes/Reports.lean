import Outreach.Proofs.Writes.Attempts

/-!
# What a report tells

The report of a flush sorts the writes of its batch into those that were delivered, those that are
tried again and those that were given up. A write is found in the answer of the store by its own
ticket, so entries that are repeated, come in any order or name other writes make no difference, and
the last entry of a write gives its reason. Dead letters are stored reason by reason: the reasons in
the order in which the batch first shows them, the writes of one reason in the order of the batch.
-/

namespace Outreach.Writes

/-! ## Reasons -/

/-- The reason that an outcome gives for a write: that of the whole batch, or that of the last entry
which names the write. -/
inductive SinkOutcome.Gives (w : Write) : SinkOutcome → String → Prop
  | batch (reason : String) : Gives w (.raised reason) reason
  | entry {result : BulkResult} {before after : List Rejection} {id reason : String}
      (entries : result.failed = before ++ ⟨some w.ticket, id, reason⟩ :: after)
      (last : ∀ rejection ∈ after, rejection.ticket ≠ some w.ticket) :
      Gives w (.returned result) reason

theorem lastReason?_eq_some_iff {ticket : Nat} {failed : List Rejection} {reason : String} :
    lastReason? ticket failed = some reason ↔ ∃ before id after,
      failed = before ++ ⟨some ticket, id, reason⟩ :: after ∧
        ∀ rejection ∈ after, rejection.ticket ≠ some ticket := by
  simp only [lastReason?, Option.map_eq_some_iff, List.find?_eq_some_iff_append, beq_iff_eq]
  constructor
  · rintro ⟨⟨named, id, given⟩, ⟨named_eq, after, before, reversed, others⟩, reason_eq⟩
    cases named_eq
    cases reason_eq
    refine ⟨before.reverse, id, after.reverse, ?_, ?_⟩
    · rw [← List.reverse_reverse failed, reversed]
      simp
    · intro rejection rejectionMem
      simpa using others rejection (List.mem_reverse.mp rejectionMem)
  · rintro ⟨before, id, after, rfl, others⟩
    refine ⟨⟨some ticket, id, reason⟩, ⟨rfl, after.reverse, before.reverse, by simp, ?_⟩, rfl⟩
    intro rejection rejectionMem
    simpa using others rejection (List.mem_reverse.mp rejectionMem)

/-- The failures of a batch are its writes with the reasons that the outcome gives for them. -/
theorem mem_failuresOf_iff {batch : List Write} {outcome : SinkOutcome} {w : Write}
    {reason : String} :
    (w, reason) ∈ failuresOf batch outcome ↔ w ∈ batch ∧ outcome.Gives w reason := by
  cases outcome with
  | raised given =>
      simp only [failuresOf, List.mem_map, Prod.mk.injEq]
      constructor
      · rintro ⟨other, otherMem, rfl, rfl⟩
        exact ⟨otherMem, .batch given⟩
      · rintro ⟨wMem, gives⟩
        cases gives
        exact ⟨w, wMem, rfl, rfl⟩
  | returned result =>
      simp only [failuresOf, List.mem_filterMap, Option.map_eq_some_iff, Prod.mk.injEq,
        lastReason?_eq_some_iff]
      constructor
      · rintro ⟨other, otherMem, given, ⟨before, id, after, entries, last⟩, rfl, rfl⟩
        exact ⟨otherMem, .entry entries last⟩
      · rintro ⟨wMem, gives⟩
        cases gives with
        | entry entries last => exact ⟨w, wMem, reason, ⟨_, _, _, entries, last⟩, rfl, rfl⟩

/-- An outcome does not fail a write if the call returned and none of its entries
is that very write. -/
theorem fails_eq_false_iff {outcome : SinkOutcome} {w : Write} : outcome.fails w = false ↔
    ∃ result, outcome = .returned result ∧
      ∀ rejection ∈ result.failed, rejection.ticket ≠ some w.ticket := by
  cases outcome with
  | raised reason => simp [SinkOutcome.fails]
  | returned result => simp [SinkOutcome.fails, rejects, lastReason?]

/-! ## The order of dead letters -/

/-- The place of a dead letter among the letters of one batch: letters of the same reason stand in
the order of the batch, and otherwise the reason counts that the batch shows first. -/
def DeadLetter.StoredBefore (batch : List Write) (letters : List DeadLetter)
    (a b : DeadLetter) : Prop :=
  if a.reason = b.reason then [a.write, b.write].Sublist batch
  else ∃ first ∈ letters, first.reason = a.reason ∧
    ∀ other ∈ letters, other.reason = b.reason → [first.write, other.write].Sublist batch

/-- There is a group for the reason of each failure, with all failures of that reason. -/
theorem mem_groupByReason_iff {failed : List (Write × String)} {group : String × List Write} :
    group ∈ groupByReason failed ↔ ∃ failure ∈ failed,
      group = (failure.2, (failed.filter (·.2 = failure.2)).map Prod.fst) := by
  simp only [groupByReason, List.mem_map, List.mem_eraseDups]
  constructor
  · rintro ⟨_, ⟨failure, failureMem, rfl⟩, rfl⟩
    exact ⟨failure, failureMem, rfl⟩
  · rintro ⟨failure, failureMem, rfl⟩
    exact ⟨failure.2, ⟨failure, failureMem, rfl⟩, rfl⟩

/-- The groups stand in the order in which the failures first show their reasons. -/
theorem groupByReason_pairwise (failed : List (Write × String)) :
    (groupByReason failed).Pairwise fun group later => group.1 ≠ later.1 ∧
      ∃ first ∈ failed, first.2 = group.1 ∧
        ∀ other ∈ failed, other.2 = later.1 → [first, other].Sublist failed := by
  -- The groups after the first come from a filtered list, so the induction is on the length.
  induction lengthEq : failed.length using Nat.strongRecOn generalizing failed with
  | ind size ih =>
      cases failed with
      | nil => exact .nil
      | cons head rest =>
          have shorter : (rest.filter (·.2 ≠ head.2)).length < size := by
            have := List.length_filter_le (fun failure => decide (failure.2 ≠ head.2)) rest
            simp only [List.length_cons] at lengthEq
            omega
          have otherReason {later : String × List Write}
              (laterMem : later ∈ groupByReason (rest.filter (·.2 ≠ head.2))) :
              later.1 ≠ head.2 := by
            obtain ⟨failure, failureMem, rfl⟩ := mem_groupByReason_iff.mp laterMem
            simpa using (List.mem_filter.mp failureMem).2
          rw [groupByReason_cons]
          apply List.pairwise_cons.mpr
          constructor
          · intro later laterMem
            have different := otherReason laterMem
            refine ⟨Ne.symm different, head, List.mem_cons_self, rfl, ?_⟩
            intro other otherMem sameReason
            rcases List.mem_cons.mp otherMem with rfl | inRest
            · exact absurd sameReason (Ne.symm different)
            · exact (List.singleton_sublist.mpr inRest).cons_cons head
          · refine (ih _ shorter _ rfl).imp_of_mem fun {group later} _ laterMem taken => ?_
            obtain ⟨different, first, firstMem, firstReason, before⟩ := taken
            have kept : (rest.filter (·.2 ≠ head.2)).Sublist (head :: rest) :=
              List.filter_sublist.trans (List.sublist_cons_self head rest)
            refine ⟨different, first, kept.subset firstMem, firstReason, ?_⟩
            intro other otherMem sameReason
            have notHead : other.2 ≠ head.2 := sameReason ▸ otherReason laterMem
            rcases List.mem_cons.mp otherMem with rfl | inRest
            · exact absurd rfl notHead
            · have inKept : other ∈ rest.filter (·.2 ≠ head.2) :=
                List.mem_filter.mpr ⟨inRest, by simpa using notHead⟩
              exact (before other inKept sameReason).trans kept

/-- What a dead letter says of its write. -/
def DeadLetter.failure (letter : DeadLetter) : Write × String := (letter.write, letter.reason)

/-- The letters of a group are about failures of its reason. -/
theorem mem_letters_iff {failed : List (Write × String)} {reason : String} {letter : DeadLetter} :
    letter ∈ ((failed.filter (·.2 = reason)).map Prod.fst).map (DeadLetter.mk · reason) ↔
      letter.reason = reason ∧ letter.failure ∈ failed := by
  obtain ⟨w, given⟩ := letter
  simp only [List.mem_map, List.mem_filter, decide_eq_true_eq, DeadLetter.mk.injEq,
    DeadLetter.failure]
  constructor
  · rintro ⟨_, ⟨failure, ⟨failureMem, rfl⟩, rfl⟩, rfl, rfl⟩
    exact ⟨rfl, failureMem⟩
  · rintro ⟨rfl, failureMem⟩
    exact ⟨w, ⟨(w, given), ⟨failureMem, rfl⟩, rfl⟩, rfl, rfl⟩

theorem mem_lettersOf_groupByReason {failed : List (Write × String)} {letter : DeadLetter} :
    letter ∈ lettersOf (groupByReason failed) ↔ letter.failure ∈ failed := by
  simp only [lettersOf, List.mem_flatMap, mem_groupByReason_iff]
  constructor
  · rintro ⟨_, ⟨failure, -, rfl⟩, letterMem⟩
    exact (mem_letters_iff.mp letterMem).2
  · intro failureMem
    exact ⟨_, ⟨_, failureMem, rfl⟩, mem_letters_iff.mpr ⟨rfl, failureMem⟩⟩

/-- Dead letters are stored reason by reason. -/
theorem lettersOf_groupByReason_pairwise (failed : List (Write × String)) :
    (lettersOf (groupByReason failed)).Pairwise
      (DeadLetter.StoredBefore (failed.map Prod.fst) (lettersOf (groupByReason failed))) := by
  conv => arg 2; rw [lettersOf]
  rw [List.pairwise_flatMap]
  constructor
  · intro group groupMem
    obtain ⟨failure, -, rfl⟩ := mem_groupByReason_iff.mp groupMem
    rw [List.pairwise_map, List.pairwise_iff_forall_sublist]
    intro a b ordered
    rw [DeadLetter.StoredBefore, if_pos rfl]
    exact ordered.trans (List.filter_sublist.map Prod.fst)
  · refine (groupByReason_pairwise failed).imp_of_mem
      fun {group later} groupMem laterMem taken => ?_
    obtain ⟨different, first, firstMem, firstReason, before⟩ := taken
    obtain ⟨failure, -, rfl⟩ := mem_groupByReason_iff.mp groupMem
    obtain ⟨other, -, rfl⟩ := mem_groupByReason_iff.mp laterMem
    intro a aMem b bMem
    have aReason : a.reason = failure.2 := (mem_letters_iff.mp aMem).1
    have bReason : b.reason = other.2 := (mem_letters_iff.mp bMem).1
    rw [DeadLetter.StoredBefore, aReason, bReason, if_neg different]
    refine ⟨⟨first.1, first.2⟩, mem_lettersOf_groupByReason.mpr firstMem, firstReason, ?_⟩
    intro letter letterMem sameReason
    exact (before letter.failure (mem_lettersOf_groupByReason.mp letterMem) sameReason).map Prod.fst

/-! ## Reports -/

/-- How bad an outcome is. -/
def FlushOutcome.severity : FlushOutcome → Nat
  | .empty => 0
  | .delivered => 1
  | .retrying => 2
  | .deadLettered => 3

namespace Report

/-- Some write of the batch ended in this way. -/
def Has (r : Report) : FlushOutcome → Prop
  | .empty => False
  | .delivered => r.delivered ≠ []
  | .retrying => r.retrying ≠ []
  | .deadLettered => r.deadLettered ≠ []

/-- The tag of a report is the worst that happened to a write of the batch. -/
theorem severity_le_outcome {r : Report} {ending : FlushOutcome} (has : r.Has ending) :
    ending.severity ≤ r.outcome.severity := by
  unfold outcome
  cases ending with
  | empty => exact has.elim
  | delivered =>
      have some : r.delivered.isEmpty = false := by simpa [Has] using has
      cases r.deadLettered.isEmpty <;> cases r.retrying.isEmpty <;>
        simp [some, FlushOutcome.severity]
  | retrying =>
      have some : r.retrying.isEmpty = false := by simpa [Has] using has
      cases r.deadLettered.isEmpty <;> simp [some, FlushOutcome.severity]
  | deadLettered =>
      have some : r.deadLettered.isEmpty = false := by simpa [Has] using has
      simp [some, FlushOutcome.severity]

/-- The tag of a report on some writes is what happened to one of them. -/
theorem has_outcome {r : Report} (some : r.delivered ++ r.retrying ++ r.deadLettered ≠ []) :
    r.Has r.outcome := by
  unfold outcome
  split
  · rename_i given
    simpa [Has] using given
  · rename_i noneGiven
    split
    · rename_i tried
      simpa [Has] using tried
    · rename_i noneTried
      split
      · rename_i delivered
        simpa [Has] using delivered
      · rename_i noneDelivered
        simp_all

/-- What a report tells of the batch that `p` has in flight, when the store answers with an outcome
and the flush leaves `settled` behind. -/
structure Tells (r : Report) (p : Processor) (outcome : SinkOutcome) (settled : Processor) :
    Prop where
  /-- Each write of the batch is there once. -/
  distinct : (p.flight.map Write.ticket).Nodup
  partition : (r.delivered ++ r.retrying ++ r.deadLettered).Perm p.flight
  delivered : ∀ w ∈ p.flight, w ∈ r.delivered ↔ ∃ result, outcome = .returned result ∧
    ∀ rejection ∈ result.failed, rejection.ticket ≠ some w.ticket
  /-- The attempts of a write count the batches that it has been in, with this one. -/
  attempts : ∀ w ∈ p.flight, p.attemptsOf w.ticket = w.attempts
  retrying : ∀ w ∈ p.flight, w ∉ r.delivered → (w ∈ r.retrying ↔ w.attempts < p.config.maxAttempts)
  delivered_sublist : r.delivered.Sublist p.flight
  retrying_sublist : r.retrying.Sublist p.flight
  /-- The queue of `p` holds what the batch has left there and what came in since. -/
  queue : settled.queue = r.retrying ++ p.queue
  letters : ∃ letters, settled.deadLetters = p.deadLetters ++ letters ∧
    letters.map DeadLetter.write = r.deadLettered ∧
    (∀ letter ∈ letters, outcome.Gives letter.write letter.reason) ∧
    letters.Pairwise (DeadLetter.StoredBefore p.flight letters)
  storedOnce : settled.deadTickets.Nodup
  error : r.error.isSome ↔ ∀ result, outcome = .returned result → result.failed ≠ []
  outcome_has : r.Has r.outcome
  outcome_worst : ∀ ending, r.Has ending → ending.severity ≤ r.outcome.severity

end Report

namespace Processor

variable {p : Processor} {outcome : SinkOutcome}

/-- The report gives up the writes whose dead letters are stored. -/
theorem map_write_lettersOf (groups : List (String × List Write)) :
    (lettersOf groups).map DeadLetter.write = groups.flatMap Prod.snd := by
  simp [lettersOf, List.map_flatMap, Function.comp_def]

theorem Accounted.deadTickets_nodup (accounted : p.Accounted) : p.deadTickets.Nodup := by
  have distinct : ((p.places ++ p.lost.map DeadLetter.write).map Write.ticket).Nodup :=
    accounted.tickets_perm.symm.nodup List.nodup_range
  have stored : (p.deadLetters.map DeadLetter.write).Sublist
      (p.places ++ p.lost.map DeadLetter.write) :=
    (List.sublist_append_right _ _).trans (List.sublist_append_left _ _)
  simpa [deadTickets, Function.comp_def] using distinct.sublist (stored.map Write.ticket)

/-- The dead letters of a batch, with their reasons and in their order. -/
theorem letters_exhausted (p : Processor) (outcome : SinkOutcome) :
    let letters := lettersOf (p.exhausted (failuresOf p.flight outcome))
    (∀ letter ∈ letters, outcome.Gives letter.write letter.reason) ∧
      letters.Pairwise (DeadLetter.StoredBefore p.flight letters) := by
  intro letters
  constructor
  · intro letter letterMem
    have failure := List.mem_of_mem_filter (mem_lettersOf_groupByReason.mp letterMem)
    exact (mem_failuresOf_iff.mp failure).2
  · have inBatch : (((failuresOf p.flight outcome).filter fun f => !p.hasAttemptsLeft f.1).map
        Prod.fst).Sublist p.flight := by
      apply (List.filter_sublist.map Prod.fst).trans
      rw [map_fst_failuresOf]
      exact List.filter_sublist
    refine (lettersOf_groupByReason_pairwise _).imp fun {a b} before => ?_
    unfold DeadLetter.StoredBefore at before ⊢
    split
    · rename_i sameReason
      rw [if_pos sameReason] at before
      exact before.trans inBatch
    · rename_i different
      rw [if_neg different] at before
      obtain ⟨first, firstMem, firstReason, others⟩ := before
      exact ⟨first, firstMem, firstReason, fun other otherMem sameReason =>
        (others other otherMem sameReason).trans inBatch⟩

/-- The report of a batch tells what happened to it. -/
theorem report_tells (kept : p.WellKept) (flying : p.flight ≠ []) (outcome : SinkOutcome) :
    (p.report outcome).Tells p outcome (p.settle .working outcome).2 := by
  have settledAccounted : (p.settle .working outcome).2.Accounted :=
    settle_accounted .working outcome flying kept.accounted
  have deadLettered : (lettersOf (p.exhausted (failuresOf p.flight outcome))).map DeadLetter.write =
      (p.report outcome).deadLettered := map_write_lettersOf _
  have partition : ((p.report outcome).delivered ++ (p.report outcome).retrying ++
      (p.report outcome).deadLettered).Perm p.flight := by
    rw [← deadLettered]
    exact (List.perm_append_comm.append_right _).trans (p.parts_perm p.flight outcome)
  have delivers (w : Write) (wMem : w ∈ p.flight) :
      w ∈ (p.report outcome).delivered ↔ outcome.fails w = false := by
    simp [report, deliveriesOf_eq_filter, wMem]
  constructor
  case distinct =>
    have ordered := kept.ordered
    rw [InOrder, List.map_append] at ordered
    exact (List.pairwise_append.mp ordered).1.imp fun less => Nat.ne_of_lt less
  case partition => exact partition
  case delivered =>
    intro w wMem
    rw [delivers w wMem, fails_eq_false_iff]
  case attempts =>
    intro w wMem
    exact kept.counted.counts w (List.mem_append_left _ wMem)
  case retrying =>
    intro w wMem undelivered
    rw [delivers w wMem, Bool.not_eq_false] at undelivered
    simp [report, retries_failuresOf, wMem, undelivered, hasAttemptsLeft]
  case delivered_sublist =>
    simp only [report, deliveriesOf_eq_filter]
    exact List.filter_sublist
  case retrying_sublist => exact p.retries_sublist p.flight outcome
  case queue => rfl
  case letters =>
    obtain ⟨gives, ordered⟩ := p.letters_exhausted outcome
    exact ⟨_, settle_deadLetters .working outcome p, deadLettered, gives, ordered⟩
  case storedOnce => exact settledAccounted.deadTickets_nodup
  case error =>
    cases outcome with
    | raised reason => simp [report, errorOf]
    | returned result => simp [report, errorOf]
  case outcome_has =>
    apply Report.has_outcome
    intro noWrite
    rw [noWrite] at partition
    exact flying partition.symm.eq_nil
  case outcome_worst => exact fun ending has => Report.severity_le_outcome has

end Processor

namespace Coalescer

/-- A flush report tells exactly what happened. In every run, whenever a flush ends with an answer
of the store and its dead letters can be stored, its caller gets a report that sorts the writes of
the batch: those that the store has not failed were delivered, of the others those with attempts
left are back at the head of the queue in their order, and each of the rest is stored once as a dead
letter, with its reason. -/
theorem finish_tells (name : String) (config : Config) (steps : List Step) {caller : Caller}
    (held : ((idle name config).run steps).holder = some caller) (now : Nat)
    (outcome : SinkOutcome) :
    let s := (idle name config).run steps
    ∃ report settled, report.Tells s.processor outcome settled ∧
      s.step (.finish now outcome .working) =
        deliver now caller (some report) { s with processor := settled, holder := none } := by
  intro s
  have kept : s.processor.WellKept := run_wellKept name config steps
  have flying : s.processor.flight ≠ [] := by
    intro landed
    rw [(run_guarded name config steps).mpr landed] at held
    cases held
  refine ⟨_, _, Processor.report_tells kept flying outcome, ?_⟩
  simp only [step, finish, show s.holder = some caller from held]
  rfl

/-- Two writes have failed twice when a batch takes them again together with two new ones, and
another write comes in while it is in flight. -/
def mixedFlight : List Step :=
  [.enqueue 0 "a" (.ofFields []), .enqueue 0 "b" (.ofFields []), .start 0 .flush,
    .finish 1 (.raised "down") .working, .start 1 .flush, .finish 2 (.raised "down") .working,
    .enqueue 2 "a" (.ofFields []), .enqueue 2 "c" (.ofFields []), .start 3 .flush,
    .enqueue 4 "d" (.ofFields [])]

/-- The store names three writes of the batch, one of them twice, and one that it does not know. -/
def mixedAnswer : SinkOutcome :=
  .returned ⟨1, 0, [⟨some 1, "b", "taken"⟩, ⟨some 0, "a", "bad"⟩, ⟨none, "foreign", "unknown"⟩,
    ⟨some 2, "a", "late"⟩, ⟨some 0, "a", "worse"⟩]⟩

/-- The first two writes are given up, each for the last reason that names it; of the other two one
is tried again and one was delivered. -/
theorem mixedFlight_told :
    let s := (idle "writes" .standard).run mixedFlight
    s.holder = some (.call 2) ∧
      (∃ report settled, report.Tells s.processor mixedAnswer settled ∧
        s.step (.finish 5 mixedAnswer .working) =
          deliver 5 (.call 2) (some report) { s with processor := settled, holder := none }) ∧
      (s.step (.finish 5 mixedAnswer .working)).processor.deadLetters.map
          (fun letter => (letter.write.ticket, letter.reason)) = [(0, "worse"), (1, "taken")] ∧
      (s.step (.finish 5 mixedAnswer .working)).processor.queue.map Write.ticket = [2, 4] := by
  have held : ((idle "writes" .standard).run mixedFlight).holder = some (.call 2) := by decide
  exact ⟨held, finish_tells "writes" .standard mixedFlight held 5 mixedAnswer, by decide, by decide⟩

end Coalescer

end Outreach.Writes
