import OpenDove.TransferRuns

/-!
# What a mass transfer has transferred when it reports success

Every object that was collected at the start or accepted later waits, is unconfirmed or was sent, so
a transfer that reports success has sent all of them, and each was confirmed since. This depends on
the surroundings: no send raises, no acknowledgement refuses an object, a delta does not take the
place of one that waits, and the objects of a synchronous stage fit the one window of it that is
sent.
-/

namespace OpenDove.DPSDomainMassTransfer

variable {self after : DPSDomainMassTransfer} {stage : TransferStage}

/-! ## The stages are drained -/

/-- The objects of a synchronous stage fit its window. -/
def Fits (self : DPSDomainMassTransfer) (stage : TransferStage) : Prop :=
  stage.synchronous = true → (self.transfer stage).toSend.size ≤
    stage.unackedMax - (self.transfer stage).unacked.size

/-- While the transfer has not failed, nothing waits in a stage that it has passed. -/
def Drained (self : DPSDomainMassTransfer) : Prop :=
  self.valid = true →
    ∀ stage : TransferStage, self.transferStage ≤ stage.number ∨ (self.transfer stage).toSend = ∅

theorem lookup_first {sets : TransferSets} {key : TransferKey} {entry : TransferEntry}
    {rest : List (Sigma fun _ : TransferKey => TransferEntry)}
    (entries : sets.toSend.entries = ⟨key, entry⟩ :: rest) :
    sets.toSend.lookup key = some entry := by
  simp [AList.lookup, entries]

theorem toSend_popItems {count : Nat} {sets : TransferSets} (enough : sets.toSend.size ≤ count) :
    (popItems count sets).toSend = ∅ := by
  induction count generalizing sets with
  | zero => exact Dict.size_eq_zero.mp (Nat.le_zero.mp enough)
  | succ count ih =>
    rw [popItems]
    split
    next none => exact AList.ext none
    next key entry _ entries =>
      have fewer := Dict.size_erase_of_mem sets.toSend key entry (lookup_first entries)
      exact ih (by dsimp only; omega)

/-- An object that is moved is unconfirmed. -/
theorem of_unacked_popItems {count : Nat} {sets : TransferSets}
    (none : (popItems count sets).unacked = ∅) :
    sets.unacked = ∅ ∧ (count = 0 ∨ sets.toSend = ∅) := by
  constructor
  · refine Dict.eq_empty_iff_lookup.mpr fun queryId => AList.lookup_eq_none.mpr fun unconfirmed => ?_
    have still := mem_unacked_popItems count unconfirmed
    rw [none] at still
    exact AList.notMem_empty queryId still
  · cases count with
    | zero => exact .inl rfl
    | succ count =>
      rw [popItems] at none
      split at none
      next noEntries => exact .inr (AList.ext noEntries)
      next key entry _ _ =>
        have empty := AList.notMem_empty (β := fun _ => UnackedEntry) entry.queryId
        rw [← none] at empty
        exact absurd (mem_unacked_popItems count ((AList.mem_insert _).mpr (.inl rfl))) empty

/-- If nothing is unconfirmed after the window is filled, nothing waits. -/
theorem toSend_fillWindow (none : ((self.fillWindow stage).transfer stage).unacked = ∅) :
    ((self.fillWindow stage).transfer stage).toSend = ∅ := by
  simp only [fillWindow, setSets, Function.update_self] at none ⊢
  obtain ⟨free, full | done⟩ := of_unacked_popItems none
  · have room : 0 < stage.unackedMax := by cases stage <;> decide
    rw [Dict.size_eq_zero.mpr free] at full ⊢
    exact toSend_popItems (by omega)
  · exact toSend_popItems (by rw [Dict.size_eq_zero.mpr done]; exact Nat.zero_le _)

theorem Fits.toSend_fillWindow (fits : self.Fits stage) (isSync : stage.synchronous = true) :
    ((self.fillWindow stage).transfer stage).toSend = ∅ := by
  simp only [fillWindow, setSets, Function.update_self]
  exact toSend_popItems (le_min (fits isSync) le_rfl)

section Pass

variable {send : TransferStage → Nat → SendOutcome}

theorem toSend_sendWindow (self : DPSDomainMassTransfer) (stage : TransferStage) :
    ((self.sendWindow send stage).transfer stage).toSend =
      ((self.fillWindow stage).transfer stage).toSend :=
  sendObjects_keeps send (fun after => (after.transfer stage).toSend = _)
    (fun _ _ _ _ _ sends same => sends.toSend.trans same) rfl _

theorem Sends.alive {queryId : Nat} {record : UnackedEntry} {outcome : SendOutcome}
    (sends : Sends stage queryId record outcome self after) (valid : after.valid = true) :
    self.valid = true := by
  by_contra failed
  cases (sends.valid (Bool.eq_false_iff.mpr failed)).symm.trans valid

theorem valid_of_sendWindow : (self.sendWindow send stage).valid = true → self.valid = true :=
  sendObjects_keeps send (fun after => after.valid = true → self.valid = true)
    (fun _ _ _ _ _ sends alive valid => alive (sends.alive valid))
    (fun valid : (self.fillWindow stage).valid = true => valid) _

/-- If no send raises, an asynchronous stage has unconfirmed objects when it has sent some. -/
theorem unacked_sendWindow (quiet : ∀ stage queryId, send stage queryId ≠ .raised)
    (isAsync : stage.synchronous = false)
    (some : ((self.fillWindow stage).transfer stage).unacked ≠ ∅)
    (valid : (self.sendWindow send stage).valid = true) :
    ((self.sendWindow send stage).transfer stage).unacked ≠ ∅ := by
  intro none
  refine some (Dict.eq_empty_iff_lookup.mpr fun queryId => AList.lookup_eq_none.mpr fun held => ?_)
  have kept : (self.sendWindow send stage).valid = true →
      queryId ∈ ((self.sendWindow send stage).transfer stage).unacked := by
    refine sendObjects_keeps send (fun after => after.valid = true →
      queryId ∈ (after.transfer stage).unacked) ?_ (fun _ => held) _
    intro before after number _ _ sends kept valid
    by_cases same : queryId = number
    · subst same
      rcases sends.unacked with inserted | ⟨-, failed | ⟨-, raised | ⟨isSync, -⟩⟩⟩
      · exact inserted ▸ (AList.mem_insert _).mpr (.inl rfl)
      · cases failed.symm.trans valid
      · exact absurd raised (quiet stage queryId)
      · cases isSync.symm.trans isAsync
    · exact sends.mem_unacked (.inr same) (kept (sends.alive valid))
  have still := kept valid
  rw [none] at still
  exact AList.notMem_empty queryId still

theorem fits_of_visits (fits : ∀ stage, self.Fits stage) (visits : Visits stage self after)
    (empty : stage.synchronous = true → (after.transfer stage).toSend = ∅) (other : TransferStage) :
    after.Fits other := by
  by_cases same : other = stage
  · subst same
    exact fun isSync => (empty isSync).symm ▸ Nat.zero_le _
  · rw [Fits, visits.2 other same]
    exact fits other

/-- A pass in which no send raises passes only stages that it drains. -/
theorem Drained.pass (drained : self.Drained) (fits : ∀ stage, self.Fits stage)
    (quiet : ∀ stage queryId, send stage queryId ≠ .raised) (fuel : Nat) :
    (transferObjects send fuel self).1.Drained := by
  refine (pass_keeps send (fun after => after.Drained ∧ ∀ stage, after.Fits stage) ?_ ?_
    ⟨drained, fits⟩ fuel).1.1
  · rintro self stage here ⟨held, fits⟩ none
    have visits := visits_fillWindow self stage
    have empty := toSend_fillWindow none
    have fitsAfter := fits_of_visits fits visits fun _ => empty
    exact ⟨fun valid => (visits.passes (·.toSend = ∅) here (held valid)).2 empty, fitsAfter⟩
  · rintro self stage here ⟨held, fits⟩ some
    have visits := visits_sendWindow send self stage
    have passes (valid : (self.sendWindow send stage).valid = true) :=
      visits.passes (·.toSend = ∅) here (held (valid_of_sendWindow valid))
    have empty (isSync : stage.synchronous = true) :
        ((self.sendWindow send stage).transfer stage).toSend = ∅ :=
      (toSend_sendWindow self stage).trans ((fits stage).toSend_fillWindow isSync)
    have fitsAfter := fits_of_visits fits visits empty
    refine ⟨⟨fun valid => (passes valid).1, fitsAfter⟩, fun valid none => ?_⟩
    have isSync : stage.synchronous = true := by
      by_contra isAsync
      exact unacked_sendWindow quiet (Bool.eq_false_iff.mpr isAsync) some valid none
    exact ⟨fun _ => (passes valid).2 (empty isSync), fitsAfter⟩

end Pass

/-! ## The objects are tracked -/

section Objects

variable (objects : TransferStage → Dict TransferKey TransferEntry)
  (owner : Nat → TransferStage × TransferObject)

/-- An object was collected at the start or accepted later. -/
def Known (history : List TransferObservation) (stage : TransferStage) (entry : TransferEntry) :
    Prop :=
  (∃ key, (objects stage).lookup key = some entry) ∨ .accepted stage entry ∈ history

/-- Query numbers belong to their owners, no send raises, and an acknowledgement confirms an object
or asks for it again. -/
def Orderly : TransferObservation → Prop
  | .sent stage queryId object outcome => owner queryId = (stage, object) ∧ outcome ≠ .raised
  | .acked _ status => status = 0 ∨ status = dpsErrorRetry
  | .accepted stage entry => owner entry.queryId = (stage, entry.object)
  | .finished _ => True

/-- An object waits, is unconfirmed or was sent. -/
def Located (self : DPSDomainMassTransfer) (stage : TransferStage) (entry : TransferEntry) : Prop :=
  (∃ key, (self.transfer stage).toSend.lookup key = some entry) ∨
    entry.queryId ∈ (self.transfer stage).unacked ∨
    ∃ outcome, .sent stage entry.queryId entry.object outcome ∈ self.history

/-- Query numbers tell the objects apart, and as long as the transfer has not failed, it knows where
each object is. -/
structure Tracked (state : DPSDomainMassTransfer) : Prop where
  waiting : ∀ stage key entry, (state.transfer stage).toSend.lookup key = some entry →
    owner entry.queryId = (stage, entry.object)
  inFlight : ∀ stage queryId record, (state.transfer stage).unacked.lookup queryId = some record →
    owner queryId = (stage, record.object)
  orderly : ∀ observation ∈ state.history, Orderly owner observation
  mapped : ∀ queryId ∈ state.queryIDMapping, ∃ stage object outcome,
    .sent stage queryId object outcome ∈ state.history
  known : ∀ stage entry, Known objects state.history stage entry →
    owner entry.queryId = (stage, entry.object) ∧ (state.valid = true → state.Located stage entry)

variable {objects owner}

theorem Located.observe {entry : TransferEntry} (located : self.Located stage entry)
    (observation : TransferObservation) : (self.observe observation).Located stage entry := by
  rcases located with waits | flies | ⟨outcome, sent⟩
  · exact .inl waits
  · exact .inr (.inl flies)
  · exact .inr (.inr ⟨outcome, List.mem_cons_of_mem _ sent⟩)

theorem transfer_setSets (self : DPSDomainMassTransfer) (stage other : TransferStage)
    (sets : TransferSets) : (self.setSets stage sets).transfer other =
      if other = stage then sets else self.transfer other :=
  Function.update_apply ..

/-- What is taken from the first set goes to the second one, under its number. -/
theorem lookup_popItems (count : Nat) (sets : TransferSets) :
    (∀ key entry, (popItems count sets).toSend.lookup key = some entry →
      sets.toSend.lookup key = some entry) ∧
    (∀ queryId record, (popItems count sets).unacked.lookup queryId = some record →
      sets.unacked.lookup queryId = some record ∨
        ∃ key entry, sets.toSend.lookup key = some entry ∧ entry.queryId = queryId ∧
          entry.object = record.object) ∧
    ∀ key entry, sets.toSend.lookup key = some entry →
      (popItems count sets).toSend.lookup key = some entry ∨
        entry.queryId ∈ (popItems count sets).unacked := by
  induction count generalizing sets with
  | zero => exact ⟨fun _ _ => id, fun _ _ => .inl, fun _ _ => .inl⟩
  | succ count ih =>
    rw [popItems]
    split
    · exact ⟨fun _ _ => id, fun _ _ => .inl, fun _ _ => .inl⟩
    next key entry rest entries =>
    have first := lookup_first entries
    obtain ⟨waits, flies, stays⟩ := ih
      { toSend := sets.toSend.erase key
        unacked := sets.unacked.insert entry.queryId ⟨entry.objId, entry.object, 0⟩ }
    refine ⟨fun other found isFound => Dict.lookup_of_erase (waits _ _ isFound),
      fun queryId record isFound => ?_, fun other found isFound => ?_⟩
    · rcases flies _ _ isFound with old | ⟨other, found, isOther, same⟩
      · rw [Dict.lookup_insert] at old
        split at old
        next same =>
          obtain rfl := Option.some.inj old
          exact .inr ⟨key, entry, first, same.symm, rfl⟩
        next => exact .inl old
      · exact .inr ⟨other, found, Dict.lookup_of_erase isOther, same⟩
    · by_cases same : other = key
      · subst same
        obtain rfl := Option.some.inj (first.symm.trans isFound)
        exact .inr (mem_unacked_popItems _ ((AList.mem_insert _).mpr (.inl rfl)))
      · exact stays other found (by rw [Dict.lookup_erase, if_neg same, isFound])

/-- A step tracks the objects if it keeps those that it knew and adds those that it accepts. -/
theorem Tracked.keeps (tracked : Tracked objects owner self) (newer : List TransferObservation)
    (history : after.history = newer ++ self.history)
    (isOrderly : ∀ observation ∈ newer, Orderly owner observation)
    (alive : after.valid = true → self.valid = true)
    (mapped : ∀ queryId ∈ after.queryIDMapping, queryId ∈ self.queryIDMapping ∨
      ∃ stage object outcome, .sent stage queryId object outcome ∈ newer)
    (waiting : ∀ stage key entry, (after.transfer stage).toSend.lookup key = some entry →
      (self.transfer stage).toSend.lookup key = some entry ∨ .accepted stage entry ∈ newer)
    (inFlight : ∀ stage queryId record, (after.transfer stage).unacked.lookup queryId = some record →
      owner queryId = (stage, record.object))
    (located : after.valid = true → ∀ stage entry, owner entry.queryId = (stage, entry.object) →
      .accepted stage entry ∈ newer ∨ self.Located stage entry → after.Located stage entry) :
    Tracked objects owner after := by
  have orderly (observation) (observed : observation ∈ after.history) :
      Orderly owner observation := by
    rw [history, List.mem_append] at observed
    exact observed.elim (isOrderly _) (tracked.orderly _)
  refine ⟨fun stage key entry found => ?_, inFlight, orderly, fun queryId isMapped => ?_,
    fun stage entry known => ?_⟩
  · rcases waiting stage key entry found with found | accepted
    · exact tracked.waiting stage key entry found
    · exact isOrderly _ accepted
  · rw [history]
    rcases mapped queryId isMapped with isMapped | ⟨stage, object, outcome, sent⟩
    · obtain ⟨stage, object, outcome, sent⟩ := tracked.mapped queryId isMapped
      exact ⟨stage, object, outcome, List.mem_append_right newer sent⟩
    · exact ⟨stage, object, outcome, List.mem_append_left _ sent⟩
  · rw [Known, history, List.mem_append, or_left_comm] at known
    rcases known with accepted | known
    · have owned := isOrderly _ accepted
      exact ⟨owned, fun valid => located valid stage entry owned (.inl accepted)⟩
    · obtain ⟨owned, isLocated⟩ := tracked.known stage entry known
      exact ⟨owned, fun valid => located valid stage entry owned (.inr (isLocated (alive valid)))⟩

theorem Tracked.fillWindow (held : Tracked objects owner self) (stage : TransferStage) :
    Tracked objects owner (self.fillWindow stage) := by
  obtain ⟨count, filled⟩ : ∃ count, self.fillWindow stage =
      self.setSets stage (popItems count (self.transfer stage)) := ⟨_, rfl⟩
  obtain ⟨waits, flies, stays⟩ := lookup_popItems count (self.transfer stage)
  rw [filled]
  refine held.keeps [] rfl (List.forall_mem_nil _) id (fun _ => .inl)
    (fun other key entry found => .inl ?_) (fun other queryId record found => ?_)
    fun _ other entry _ located => ?_
  · rw [transfer_setSets] at found
    split at found
    next same => exact same ▸ waits key entry found
    next => exact found
  · rw [transfer_setSets] at found
    split at found
    next same =>
      subst same
      rcases flies queryId record found with old | ⟨key, entry, waited, rfl, isObject⟩
      · exact held.inFlight other queryId record old
      · exact isObject ▸ held.waiting other key entry waited
    next => exact held.inFlight other queryId record found
  · have old := located.resolve_left List.not_mem_nil
    rw [Located, transfer_setSets]
    split
    next same =>
      subst same
      rcases old with ⟨key, waited⟩ | flew | sent
      · exact (stays key entry waited).imp (⟨key, ·⟩) .inl
      · exact .inr (.inl (mem_unacked_popItems count flew))
      · exact .inr (.inr sent)
    next => exact old

theorem Tracked.sends (held : Tracked objects owner self) {queryId : Nat} {record : UnackedEntry}
    {outcome : SendOutcome} (quiet : outcome ≠ .raised)
    (found : (self.transfer stage).unacked.lookup queryId = some record)
    (sends : Sends stage queryId record outcome self after) : Tracked objects owner after := by
  have owned := held.inFlight stage queryId record found
  have waits (other) : (after.transfer other).toSend = (self.transfer other).toSend := by
    by_cases same : other = stage
    · exact same ▸ sends.toSend
    · rw [sends.others other same]
  have inFlight (other number isRecord)
      (isFound : (after.transfer other).unacked.lookup number = some isRecord) :
      owner number = (other, isRecord.object) := by
    by_cases same : other = stage
    · subst same
      rcases sends.unacked with inserted | ⟨erased, -⟩
      · rw [inserted, Dict.lookup_insert] at isFound
        split at isFound
        next isThis =>
          obtain rfl := Option.some.inj isFound
          exact isThis ▸ owned
        next => exact held.inFlight other number isRecord isFound
      · exact held.inFlight other number isRecord (Dict.lookup_of_erase (erased ▸ isFound))
    · exact held.inFlight other number isRecord (sends.others other same ▸ isFound)
  rcases sends.history with sent | ⟨failed, same⟩
  · refine held.keeps [.sent stage queryId record.object outcome] sent
      (List.forall_mem_singleton.mpr ⟨owned, quiet⟩) sends.alive (fun number isMapped => ?_)
      (fun other key entry isFound => .inl (waits other ▸ isFound)) inFlight
      fun _ other entry isOwner located => ?_
    · refine (sends.mapped number isMapped).imp_right ?_
      rintro ⟨rfl, -⟩
      exact ⟨stage, record.object, outcome, List.mem_singleton_self _⟩
    · rw [Located, sent, waits]
      rcases located.resolve_left (by simp) with waited | flew | ⟨ended, before⟩
      · exact .inl waited
      · by_cases isThis : other = stage ∧ entry.queryId = queryId
        · obtain ⟨rfl, rfl⟩ := isThis
          obtain ⟨-, isObject⟩ := Prod.mk.inj (owned.symm.trans isOwner)
          exact .inr (.inr ⟨outcome, isObject ▸ List.mem_cons_self⟩)
        · exact .inr (.inl (sends.mem_unacked (not_and_or.mp isThis) flew))
      · exact .inr (.inr ⟨ended, List.mem_cons_of_mem _ before⟩)
  · refine held.keeps [] same (List.forall_mem_nil _) sends.alive (fun number isMapped => .inl ?_)
      (fun other key entry isFound => .inl (waits other ▸ isFound)) inFlight
      fun valid => by cases failed.symm.trans valid
    refine (sends.mapped number isMapped).resolve_right ?_
    rintro ⟨-, sent⟩
    exact List.cons_ne_self _ _ (sent.symm.trans same)

theorem Tracked.pass {send : TransferStage → Nat → SendOutcome} (tracked : Tracked objects owner self)
    (quiet : ∀ stage queryId, send stage queryId ≠ .raised) (fuel : Nat) :
    Tracked objects owner (transferObjects send fuel self).1 := by
  have atStage {self : DPSDomainMassTransfer} (held : Tracked objects owner self) (number : Nat) :
      Tracked objects owner { self with transferStage := number } :=
    ⟨held.waiting, held.inFlight, held.orderly, held.mapped, held.known⟩
  refine (pass_keeps send _ (fun _ _ _ held _ => atStage (held.fillWindow _) _) ?_ tracked fuel).1
  intro self stage _ held _
  have sent : Tracked objects owner (self.sendWindow send stage) :=
    sendObjects_keeps send _ (fun _ _ _ _ found sends held => held.sends (quiet _ _) found sends)
      (held.fillWindow stage) _
  exact ⟨sent, fun _ _ => atStage sent _⟩

/-- No send of a pass raises and the synchronous stages fit when it begins, an acknowledgement
confirms an object or asks for it again, and a delta has a number of its own and a key under which
no object waits. -/
def Regular (owner : Nat → TransferStage × TransferObject) (self : DPSDomainMassTransfer) :
    TransferEvent → Prop
  | .delta _ stage key entry => owner entry.queryId = (stage, entry.object) ∧
    (self.transfer stage).toSend.lookup key = none
  | .ack _ status => status = 0 ∨ status = dpsErrorRetry
  | .thread _ _ send => (∀ stage queryId, send stage queryId ≠ .raised) ∧ ∀ stage, self.Fits stage

section Changes

variable (tracked : Tracked objects owner self)

include tracked

theorem Tracked.delta {domainValid : Bool} {key : TransferKey} {entry : TransferEntry}
    (regular : self.Regular owner (.delta domainValid stage key entry)) :
    Tracked objects owner (self.registerDelta domainValid stage key entry).1 := by
  obtain ⟨owned, free⟩ := regular
  unfold registerDelta
  split_ifs
  · have waits (other key') : AList.lookup key' ((self.setSets stage { self.transfer stage with
        toSend := (self.transfer stage).toSend.insert key entry }).transfer other).toSend =
          if other = stage ∧ key' = key then some entry
          else (self.transfer other).toSend.lookup key' := by
      rw [transfer_setSets]
      by_cases same : other = stage
      · simp only [same, if_true, Dict.lookup_insert, true_and]
      · simp only [same, if_false, false_and]
    have unacked (other) : ((self.setSets stage { self.transfer stage with
        toSend := (self.transfer stage).toSend.insert key entry }).transfer other).unacked =
          (self.transfer other).unacked := by
      rw [transfer_setSets]
      split
      next same => rw [same]
      next => rfl
    refine tracked.keeps [.accepted stage entry] rfl (List.forall_mem_singleton.mpr owned) id
      (fun _ => .inl) (fun other key' entry' found => ?_) (fun other queryId record found => ?_)
      fun _ other entry' _ located => ?_
    · have isFound := (waits other key').symm.trans found
      split_ifs at isFound with isNew
      · obtain ⟨rfl, rfl⟩ := isNew
        obtain rfl := Option.some.inj isFound
        exact .inr (List.mem_singleton_self _)
      · exact .inl isFound
    · exact tracked.inFlight other queryId record ((congrArg _ (unacked other)).symm.trans found)
    · rcases located with accepted | ⟨key', waited⟩ | flew | ⟨outcome, sent⟩
      · cases List.mem_singleton.mp accepted
        exact .inl ⟨key, (waits stage key).trans (if_pos ⟨rfl, rfl⟩)⟩
      · refine .inl ⟨key', (waits other key').trans ?_⟩
        rw [if_neg, waited]
        rintro ⟨rfl, rfl⟩
        cases free.symm.trans waited
      · exact .inr (.inl ((unacked other).symm ▸ flew))
      · exact .inr (.inr ⟨outcome, List.mem_cons_of_mem _ sent⟩)
  · exact tracked

theorem Tracked.ack {queryId status : Nat} (regular : self.Regular owner (.ack queryId status)) :
    Tracked objects owner (self.transferAck queryId status) := by
  have observed : ∀ observation ∈ [TransferObservation.acked queryId status],
      Orderly owner observation := List.forall_mem_singleton.mpr regular
  have old {stage entry} (located : .accepted stage entry ∈
      [TransferObservation.acked queryId status] ∨ self.Located stage entry) :
      self.Located stage entry := located.resolve_left (by simp)
  unfold transferAck
  split_ifs with mapped again
  · refine tracked.keeps [.acked queryId status] rfl observed id (fun _ => .inl)
      (fun _ _ _ => .inl) tracked.inFlight fun _ other entry _ located => ?_
    exact (old located).observe _
  · refine tracked.keeps [.acked queryId status] rfl observed id (fun _ => .inl)
      (fun other key entry found => .inl ?_) (fun other number record found => ?_)
      fun _ other entry owned located => ?_
    · dsimp only [observe] at found
      split at found <;> exact found
    · dsimp only [observe] at found
      split at found
      · exact tracked.inFlight other number record found
      · exact tracked.inFlight other number record (Dict.lookup_of_erase found)
    · rcases old located with ⟨key, waited⟩ | flew | ⟨outcome, sent⟩
      · refine .inl ⟨key, ?_⟩
        dsimp only [observe]
        split <;> exact waited
      · by_cases isThis : entry.queryId = queryId
        · obtain ⟨isStage, object, outcome, sent⟩ := tracked.mapped queryId mapped
          have same := (tracked.orderly _ sent).1
          rw [← isThis] at same sent
          obtain ⟨rfl, rfl⟩ := Prod.mk.inj (owned.symm.trans same)
          exact .inr (.inr ⟨outcome, List.mem_cons_of_mem _ sent⟩)
        · refine .inr (.inl ?_)
          dsimp only [observe]
          split
          · exact flew
          · exact AList.mem_erase.mpr ⟨isThis, flew⟩
      · exact .inr (.inr ⟨outcome, List.mem_cons_of_mem _ sent⟩)
  · exact tracked

/-- The callback is told of success. -/
theorem Tracked.report :
    Tracked objects owner { self.observe (.finished true) with invokedCallback := true } :=
  tracked.keeps [.finished true] rfl (List.forall_mem_singleton.mpr trivial) id (fun _ => .inl)
    (fun _ _ _ => .inl) tracked.inFlight fun _ _ _ _ located =>
      (located.resolve_left (by simp)).observe _

end Changes

theorem pass_drains (held : Tracked objects owner self ∧ self.Drained)
    {domainValid nodeIsUp : Bool} {send : TransferStage → Nat → SendOutcome}
    (regular : self.Regular owner (.thread domainValid nodeIsUp send)) :
    let pass := transferObjects send (TransferStage.finished + 1) { self with timer := false }
    Tracked objects owner pass.1 ∧ pass.1.Drained := by
  obtain ⟨tracked, drained⟩ := held
  have started : Tracked objects owner { self with timer := false } :=
    ⟨tracked.waiting, tracked.inFlight, tracked.orderly, tracked.mapped, tracked.known⟩
  have waiting : Drained { self with timer := false } := drained
  exact ⟨started.pass regular.1 _, waiting.pass regular.2 regular.1 _⟩

/-- While passes are made, the objects are tracked and the stages that are passed are drained. -/
theorem tracked_next (held : self.timer = true → Tracked objects owner self ∧ self.Drained)
    (event : TransferEvent) (regular : self.Regular owner event) (running : (self.step event).timer) :
    Tracked objects owner (self.step event) ∧ (self.step event).Drained := by
  cases event with
  | delta domainValid stage key entry =>
    have before : self.timer = true := by
      dsimp only [step, registerDelta] at running
      split_ifs at running <;> exact running
    obtain ⟨tracked, drained⟩ := held before
    refine ⟨tracked.delta regular, ?_⟩
    dsimp only [step, registerDelta]
    split_ifs
    · intro valid other
      by_cases same : other = stage
      · exact .inl (same ▸ min_le_left ..)
      · simpa [setSets, observe, same] using (drained valid other).imp_left .inr
    · exact drained
  | ack queryId status =>
    have before : self.timer = true := by
      dsimp only [step, transferAck] at running
      split_ifs at running <;> exact running
    obtain ⟨tracked, drained⟩ := held before
    refine ⟨tracked.ack regular, ?_⟩
    dsimp only [step, transferAck]
    split_ifs
    · exact drained
    · intro valid other
      refine (drained valid other).imp_right fun empty => ?_
      dsimp only [observe]
      split <;> exact empty
    · exact drained
  | thread domainValid nodeIsUp send =>
    have pass (before : self.timer = true) := pass_drains (held before) regular
    dsimp only [step, transferThread] at running ⊢
    split_ifs at running ⊢ with before
    · exact pass before
    · exact ⟨(pass before).1.report, (pass before).2⟩
    · obtain ⟨tracked, drained⟩ := pass before
      exact ⟨⟨tracked.waiting, tracked.inFlight, tracked.orderly, tracked.mapped, tracked.known⟩,
        drained⟩
    · cases running
    · cases before running

end Objects

/-! ## Success is reported -/

/-- The step calls the finish callback with success. -/
def Reports (self : DPSDomainMassTransfer) (event : TransferEvent) : Prop :=
  self.invokedCallback = false ∧ (self.step event).invokedCallback = true

instance (self : DPSDomainMassTransfer) (event : TransferEvent) : Decidable (self.Reports event) :=
  inferInstanceAs (Decidable (_ ∧ _))

/-- An object was sent and confirmed: the send returned status 0, or the object was acknowledged with
status 0. -/
def Delivered (history : List TransferObservation) (stage : TransferStage)
    (entry : TransferEntry) : Prop :=
  if stage.synchronous then .sent stage entry.queryId entry.object .ok ∈ history
  else (∃ outcome ≠ .raised, .sent stage entry.queryId entry.object outcome ∈ history) ∧
    .acked entry.queryId 0 ∈ history

/-- Success is reported by a pass that finishes. -/
theorem Reports.pass {event : TransferEvent} (reports : self.Reports event) :
    self.timer = true ∧ self.valid = true ∧ ∃ domainValid nodeIsUp send,
      event = .thread domainValid nodeIsUp send ∧
        let pass := transferObjects send (TransferStage.finished + 1) { self with timer := false }
        pass.2 = true ∧
          self.step event = { pass.1.observe (.finished true) with invokedCallback := true } := by
  obtain ⟨silent, called⟩ := reports
  cases event with
  | delta domainValid stage key entry =>
    dsimp only [step, registerDelta] at called
    split_ifs at called <;> cases silent.symm.trans called
  | ack queryId status =>
    dsimp only [step, transferAck] at called
    split_ifs at called <;> cases silent.symm.trans called
  | thread domainValid nodeIsUp send =>
    have sent (self : DPSDomainMassTransfer) (stage : TransferStage)
        (silent : self.invokedCallback = false) :
        (self.sendWindow send stage).invokedCallback = false :=
      sendObjects_keeps send (·.invokedCallback = false)
        (fun _ _ _ _ _ sends => sends.reported.trans)
        (show (self.fillWindow stage).invokedCallback = false from silent) _
    have still : (transferObjects send (TransferStage.finished + 1)
        { self with timer := false }).1.invokedCallback = false :=
      (pass_keeps send (·.invokedCallback = false) (fun _ _ _ silent _ => silent)
        (fun self stage _ silent _ => ⟨sent self stage silent, fun _ _ => sent self stage silent⟩)
        (show ({ self with timer := false } : DPSDomainMassTransfer).invokedCallback = false from
          silent) _).1
    dsimp only [step, transferThread] at called ⊢
    split_ifs at called ⊢ with running alive finished told
    · cases still.symm.trans told
    · simp only [Bool.and_eq_true] at alive
      exact ⟨running, alive.1.1, domainValid, nodeIsUp, send, rfl, finished, rfl⟩
    · cases still.symm.trans called
    · cases silent.symm.trans called
    · cases silent.symm.trans called

/-- An object that was sent and is not unsettled was settled. -/
theorem exists_settles {queryId : Nat} {object : TransferObject} {outcome : SendOutcome}
    {history : List TransferObservation} (sent : .sent stage queryId object outcome ∈ history)
    (settled : ¬Unsettled stage queryId history) :
    ∃ observation ∈ history, Settles stage queryId observation := by
  induction history with
  | nil => cases sent
  | cons observation older ih =>
    by_cases settles : Settles stage queryId observation
    · exact ⟨observation, List.mem_cons_self, settles⟩
    · have before : .sent stage queryId object outcome ∈ older := by
        refine (List.mem_cons.mp sent).resolve_left fun isSent => settled ?_
        exact ⟨settles, .inl ⟨object, outcome, isSent.symm⟩⟩
      obtain ⟨found, listed, settles⟩ := ih before fun open' => settled ⟨‹_›, .inr open'⟩
      exact ⟨found, List.mem_cons_of_mem _ listed, settles⟩

/-- In an orderly history an object that was sent and settled was delivered. -/
theorem Tracked.delivered {objects : TransferStage → Dict TransferKey TransferEntry}
    {owner : Nat → TransferStage × TransferObject} (tracked : Tracked objects owner self)
    {entry : TransferEntry} {outcome : SendOutcome}
    (sent : .sent stage entry.queryId entry.object outcome ∈ self.history)
    (settled : ¬Unsettled stage entry.queryId self.history) :
    Delivered self.history stage entry := by
  obtain ⟨owned, quiet⟩ := tracked.orderly _ sent
  obtain ⟨observation, listed, settles⟩ := exists_settles sent settled
  have isOrderly := tracked.orderly _ listed
  cases observation with
  | sent other number object ended =>
    obtain ⟨rfl, rfl, raised | ⟨isSync, rfl⟩⟩ := settles
    · exact absurd raised isOrderly.2
    · obtain ⟨-, rfl⟩ := Prod.mk.inj (isOrderly.1.symm.trans owned)
      rw [Delivered, if_pos isSync]
      exact listed
  | acked number status =>
    obtain ⟨rfl, isAsync, noRetry⟩ := settles
    obtain rfl := isOrderly.resolve_right noRetry
    rw [Delivered, if_neg (by rw [isAsync]; nofun)]
    exact ⟨⟨outcome, quiet, sent⟩, listed⟩
  | accepted => exact settles.elim
  | finished => exact settles.elim

/-- In a regular run, when success is reported, every object that was collected at the start and
every delta that was accepted has been sent and confirmed, and both sets of every stage are
empty. -/
theorem reported_transfer_is_complete (objects : TransferStage → Dict TransferKey TransferEntry)
    (owner : Nat → TransferStage × TransferObject)
    (owned : ∀ stage key entry, (objects stage).lookup key = some entry →
      owner entry.queryId = (stage, entry.object))
    (events : List TransferEvent) (event : TransferEvent)
    (regular : Admissible step (Regular owner) (transferStart objects) (events ++ [event]))
    (reports : (run step (transferStart objects) events).Reports event) :
    let after := run step (transferStart objects) (events ++ [event])
    (∀ stage entry, Known objects after.history stage entry →
      Delivered after.history stage entry) ∧
    ∀ stage, (after.transfer stage).toSend = ∅ ∧ (after.transfer stage).unacked = ∅ := by
  intro after
  obtain ⟨running, valid, domainValid, nodeIsUp, send, rfl, finished, ended⟩ := reports.pass
  have held : Tracked objects owner (run step (transferStart objects) events) ∧
      (run step (transferStart objects) events).Drained := by
    refine run_invariant (fun self => self.timer = true → Tracked objects owner self ∧ self.Drained)
      (fun _ event held met => tracked_next held event met) (fun _ => ⟨?_, ?_⟩)
      regular.of_append running
    · refine ⟨owned, fun _ _ _ found => ?_, List.forall_mem_nil _, List.forall_mem_nil _,
        fun stage entry known => ?_⟩
      · cases (AList.lookup_empty _).symm.trans found
      · obtain ⟨key, collected⟩ := known.resolve_right List.not_mem_nil
        exact ⟨owned stage key entry collected, fun _ => .inl ⟨key, collected⟩⟩
    · exact fun _ stage => .inl (show 1 ≤ stage.number by cases stage <;> decide)
  obtain ⟨tracked, drained⟩ := pass_drains held regular.last
  have inOrder : InOrder { run step (transferStart objects) events with timer := false } :=
    inOrder_run objects events
  have accounted : Accounted { run step (transferStart objects) events with timer := false } :=
    accounted_run objects events running
  obtain ⟨alive, ends⟩ := inOrder.finished send accounted valid finished
  have isAfter : after = _ := (run_append ..).trans ended
  have empty (stage : TransferStage) : (after.transfer stage).toSend = ∅ := by
    rw [isAfter]
    exact (drained alive stage).resolve_left (ends stage).1.not_ge
  have confirmed (stage : TransferStage) : (after.transfer stage).unacked = ∅ := by
    rw [isAfter]
    exact (ends stage).2.1
  refine ⟨fun stage entry known => ?_, fun stage => ⟨empty stage, confirmed stage⟩⟩
  have trackedAfter : Tracked objects owner after := isAfter ▸ tracked.report
  have validAfter : after.valid = true := by
    rw [isAfter]
    exact alive
  have settled : ¬Unsettled stage entry.queryId after.history := by
    rw [isAfter]
    rintro ⟨-, ⟨_, _, isSent⟩ | older⟩
    · cases isSent
    · exact (ends stage).2.2 _ older
  obtain ⟨-, located⟩ := trackedAfter.known stage entry known
  rcases located validAfter with ⟨key, waits⟩ | flies | ⟨outcome, sent⟩
  · rw [empty] at waits
    cases (AList.lookup_empty _).symm.trans waits
  · rw [confirmed] at flies
    exact absurd flies (AList.notMem_empty _)
  · exact trackedAfter.delivered sent settled

section Examples

/-- A section of policies. -/
def exampleSection : TransferEntry := ⟨.key (.part 0), .policies [] true, 1⟩

/-- A tunnel without addresses. -/
def exampleTunnel : TransferEntry :=
  ⟨.key (.tunnel 7 0 (.v4 1)), .tunnel 0 true (.create .inet (.v4 1) 0) [], 2⟩

/-- A VNID that is added while the transfer is going on. -/
def exampleDelta : TransferEntry := ⟨.vnid 8, .vnids [8] true, 3⟩

/-- A domain with a section of policies and a tunnel. -/
def exampleObjects : TransferStage → Dict TransferKey TransferEntry
  | .policies => (∅ : Dict TransferKey TransferEntry).insert (.part 0) exampleSection
  | .tunnels => (∅ : Dict TransferKey TransferEntry).insert (.tunnel 7 0 (.v4 1)) exampleTunnel
  | _ => ∅

/-- The objects of the query numbers. -/
def exampleOwner : Nat → TransferStage × TransferObject
  | 1 => (.policies, exampleSection.object)
  | 2 => (.tunnels, exampleTunnel.object)
  | _ => (.vnids, exampleDelta.object)

/-- A pass in which every send succeeds. -/
def examplePass : TransferEvent := .thread true true fun _ _ => .ok

/-- A VNID is added before the first pass; the tunnel is acknowledged at its second attempt. -/
def exampleEvents : List TransferEvent :=
  [.delta true .vnids (.query 3) exampleDelta, examplePass, .ack 2 dpsErrorRetry, examplePass,
    .ack 2 0]

theorem exampleObjects_are_delivered :
    let after := run step (transferStart exampleObjects) (exampleEvents ++ [examplePass])
    Known exampleObjects after.history .vnids exampleDelta ∧
      Delivered after.history .vnids exampleDelta ∧
      Delivered after.history .policies exampleSection ∧
      Delivered after.history .tunnels exampleTunnel := by
  have quiet : ∀ (stage : TransferStage) (queryId : Nat),
      (fun (_ : TransferStage) (_ : Nat) => SendOutcome.ok) stage queryId ≠ .raised := nofun
  have delivered := (reported_transfer_is_complete exampleObjects exampleOwner ?_ exampleEvents
    examplePass ⟨⟨rfl, rfl⟩, ⟨quiet, ?_⟩, .inr rfl, ⟨quiet, ?_⟩, .inl rfl, ⟨quiet, ?_⟩, trivial⟩
    (by decide)).1
  · have accepted : Known exampleObjects (run step (transferStart exampleObjects)
        (exampleEvents ++ [examplePass])).history .vnids exampleDelta := .inr (by decide)
    exact ⟨accepted, delivered _ _ accepted, delivered _ _ (.inl ⟨.part 0, rfl⟩),
      delivered _ _ (.inl ⟨.tunnel 7 0 (.v4 1), rfl⟩)⟩
  · intro stage key entry found
    cases stage <;> simp only [exampleObjects, Dict.lookup_insert, AList.lookup_empty] at found <;>
      first | cases found | skip
    all_goals
      split at found <;> cases found
      rfl
  iterate 3
    intro stage
    unfold Fits
    cases stage <;> decide

/-- A tunnel whose send raised counts as transferred. -/
theorem raised_send_is_reported_as_success :
    let start := transferStart exampleObjects
    let event := TransferEvent.thread true true fun stage _ =>
      if stage = .tunnels then .raised else .ok
    start.Reports event ∧ Known exampleObjects (start.step event).history .tunnels exampleTunnel ∧
      ¬Delivered (start.step event).history .tunnels exampleTunnel := by
  refine ⟨by decide, .inl ⟨.tunnel 7 0 (.v4 1), rfl⟩, fun delivered => ?_⟩
  have acked := delivered.2
  revert acked
  decide

end Examples

end OpenDove.DPSDomainMassTransfer
