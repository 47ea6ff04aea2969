import OpenDove.MassTransfer
import OpenDove.Runs

/-!
# Runs of a mass transfer

Deltas, acknowledgements and passes of the transfer thread, in any order. As long as the transfer
has not failed, every object that was sent is unconfirmed still, or has been settled since: it was
confirmed, or its send raised. So nothing else is left when a pass finishes.
-/

namespace OpenDove.DPSDomainMassTransfer

variable {self after : DPSDomainMassTransfer} {stage : TransferStage}
  (send : TransferStage → Nat → SendOutcome)

/-- What reaches a transfer. -/
inductive TransferEvent where
  | delta (domainValid : Bool) (stage : TransferStage) (key : TransferKey) (entry : TransferEntry)
  | ack (queryId status : Nat)
  | thread (domainValid nodeIsUp : Bool) (send : TransferStage → Nat → SendOutcome)

def step (self : DPSDomainMassTransfer) : TransferEvent → DPSDomainMassTransfer
  | .delta domainValid stage key entry => (self.registerDelta domainValid stage key entry).1
  | .ack queryId status => self.transferAck queryId status
  | .thread domainValid nodeIsUp send => self.transferThread domainValid nodeIsUp send

/-- `transfer_start`, with the objects it collects. -/
def transferStart (objects : TransferStage → Dict TransferKey TransferEntry) :
    DPSDomainMassTransfer :=
  { create with transferStage := 1, transfer := fun stage => ⟨objects stage, ∅⟩, timer := true }

/-- What a send of the send loop may do: it gives up an object that was tried too often, or it sends
the object and keeps it in flight, confirms it or drops it. -/
structure Sends (stage : TransferStage) (queryId : Nat) (record : UnackedEntry)
    (outcome : SendOutcome) (before after : DPSDomainMassTransfer) : Prop where
  current : after.transferStage = before.transferStage
  reported : after.invokedCallback = before.invokedCallback
  others : ∀ other, other ≠ stage → after.transfer other = before.transfer other
  toSend : (after.transfer stage).toSend = (before.transfer stage).toSend
  valid : before.valid = false → after.valid = false
  history : after.history = .sent stage queryId record.object outcome :: before.history ∨
    after.valid = false ∧ after.history = before.history
  mapped : ∀ other ∈ after.queryIDMapping, other ∈ before.queryIDMapping ∨ other = queryId ∧
    after.history = .sent stage queryId record.object outcome :: before.history
  unacked : (after.transfer stage).unacked = (before.transfer stage).unacked.insert queryId
      { record with tries := record.tries + 1 } ∨
    (after.transfer stage).unacked = (before.transfer stage).unacked.erase queryId ∧
      (after.valid = false ∨ after.history =
        .sent stage queryId record.object outcome :: before.history ∧
          (outcome = .raised ∨ stage.synchronous = true ∧ outcome = .ok))

theorem sendObject_cases (self : DPSDomainMassTransfer) (stage : TransferStage) (queryId : Nat)
    (outcome : SendOutcome) : (self.sendObject stage queryId outcome).1 = self ∨
      ∃ record, (self.transfer stage).unacked.lookup queryId = some record ∧
        Sends stage queryId record outcome self (self.sendObject stage queryId outcome).1 := by
  simp only [sendObject]
  cases found : (self.transfer stage).unacked.lookup queryId with
  | none => exact .inl rfl
  | some record =>
    refine .inr ⟨record, rfl, ?_⟩
    dsimp only
    split
    · constructor <;> simp +contextual [setSets, Function.update_of_ne]
    · cases isSync : stage.synchronous <;> cases outcome <;> constructor <;>
        simp +contextual [setSets, observe, Function.update_of_ne, isSync]

/-- The other unconfirmed objects stay so. -/
theorem Sends.mem_unacked {queryId number : Nat} {record : UnackedEntry} {outcome : SendOutcome}
    {other : TransferStage} (sends : Sends stage queryId record outcome self after)
    (differs : other ≠ stage ∨ number ≠ queryId)
    (unconfirmed : number ∈ (self.transfer other).unacked) :
    number ∈ (after.transfer other).unacked := by
  by_cases same : other = stage
  · subst same
    have isOther := differs.resolve_left fun differs => differs rfl
    rcases sends.unacked with inserted | ⟨erased, -⟩
    · exact inserted ▸ (AList.mem_insert _).mpr (.inr unconfirmed)
    · exact erased ▸ AList.mem_erase.mpr ⟨isOther, unconfirmed⟩
  · exact sends.others other same ▸ unconfirmed

/-- What every send keeps, the send loop keeps. -/
theorem sendObjects_keeps (keeps : DPSDomainMassTransfer → Prop)
    (sends : ∀ before after queryId record,
      (before.transfer stage).unacked.lookup queryId = some record →
      Sends stage queryId record (send stage queryId) before after → keeps before → keeps after)
    (holds : keeps self) (queryIds : List Nat) : keeps (self.sendObjects stage send queryIds) := by
  induction queryIds generalizing self with
  | nil => exact holds
  | cons queryId queryIds ih =>
    have first : keeps (self.sendObject stage queryId (send stage queryId)).1 := by
      rcases sendObject_cases self stage queryId (send stage queryId) with same | ⟨record, found, sent⟩
      · rwa [same]
      · exact sends self _ queryId record found sent holds
    simp only [sendObjects]
    split
    · exact ih first
    · exact first

/-- The window of a stage is filled and sent. -/
def sendWindow (self : DPSDomainMassTransfer) (stage : TransferStage) : DPSDomainMassTransfer :=
  let filled := self.fillWindow stage
  filled.sendObjects stage send ((filled.transfer stage).unacked.keys.insertionSort (· ≤ ·))

/-- What the visits of the stages keep, a pass keeps. A pass that finishes is behind the last
stage. -/
theorem pass_keeps (keeps : DPSDomainMassTransfer → Prop)
    (passes : ∀ self stage, self.transferStage = stage.number → keeps self →
      ((self.fillWindow stage).transfer stage).unacked = ∅ →
      keeps { self.fillWindow stage with transferStage := self.transferStage + 1 })
    (sends : ∀ self stage, self.transferStage = stage.number → keeps self →
      ((self.fillWindow stage).transfer stage).unacked ≠ ∅ →
      let sent := self.sendWindow send stage
      keeps sent ∧ (sent.valid = true → (sent.transfer stage).unacked = ∅ →
        keeps { sent with transferStage := sent.transferStage + 1 }))
    (holds : keeps self) (fuel : Nat) :
    let pass := transferObjects send fuel self
    keeps pass.1 ∧ (pass.2 → (self.valid = true → pass.1.valid = true) ∧
      TransferStage.ofNumber pass.1.transferStage = none) := by
  induction fuel generalizing self with
  | zero => exact ⟨holds, nofun⟩
  | succ fuel ih =>
    rw [transferObjects]
    cases found : TransferStage.ofNumber self.transferStage with
    | none => exact ⟨holds, fun _ => ⟨id, found⟩⟩
    | some stage =>
      have here : self.transferStage = stage.number := by
        unfold TransferStage.ofNumber at found
        split at found <;> cases found <;> assumption
      dsimp only
      split
      next none => exact ih (passes self stage here holds (Dict.size_eq_zero.mp none))
      next some =>
        have sent := sends self stage here holds fun none => some (Dict.size_eq_zero.mpr none)
        split_ifs with invalid none
        · exact ⟨sent.1, nofun⟩
        · have valid : (self.sendWindow send stage).valid = true := by
            simpa [sendWindow] using invalid
          refine (ih (sent.2 valid (Dict.size_eq_zero.mp none))).imp_right fun finishes finished => ?_
          exact ⟨fun _ => (finishes finished).1 valid, (finishes finished).2⟩
        · exact ⟨sent.1, nofun⟩

/-! ## Sends are accounted for -/

/-- An observation ends the sending of an object: its send raised or was confirmed at once, or it is
acknowledged. -/
def Settles (stage : TransferStage) (queryId : Nat) : TransferObservation → Prop
  | .sent other number _ outcome => other = stage ∧ number = queryId ∧
    (outcome = .raised ∨ stage.synchronous = true ∧ outcome = .ok)
  | .acked number status => number = queryId ∧ stage.synchronous = false ∧ status ≠ dpsErrorRetry
  | .accepted .. | .finished .. => False

/-- An object was sent, and neither its last send nor anything since has settled it. -/
def Unsettled (stage : TransferStage) (queryId : Nat) : List TransferObservation → Prop
  | [] => False
  | observation :: older => ¬Settles stage queryId observation ∧
    ((∃ object outcome, observation = .sent stage queryId object outcome) ∨
      Unsettled stage queryId older)

/-- While the transfer has not failed, what is not settled is in the second set. -/
def Accounted (self : DPSDomainMassTransfer) : Prop :=
  ∀ stage queryId, Unsettled stage queryId self.history →
    self.valid = false ∨ queryId ∈ (self.transfer stage).unacked

theorem Accounted.quiet (accounted : self.Accounted) (history : after.history = self.history)
    (fails : self.valid = false → after.valid = false)
    (keeps : ∀ stage queryId, queryId ∈ (self.transfer stage).unacked →
      after.valid = false ∨ queryId ∈ (after.transfer stage).unacked) : after.Accounted := by
  intro stage queryId unsettled
  rcases accounted stage queryId (history ▸ unsettled) with failed | unconfirmed
  · exact .inl (fails failed)
  · exact keeps stage queryId unconfirmed

theorem Accounted.observed (accounted : self.Accounted) {observation : TransferObservation}
    (history : after.history = observation :: self.history)
    (fails : self.valid = false → after.valid = false)
    (keeps : ∀ stage queryId, ¬Settles stage queryId observation →
      (∃ object outcome, observation = .sent stage queryId object outcome) ∨
        queryId ∈ (self.transfer stage).unacked →
      after.valid = false ∨ queryId ∈ (after.transfer stage).unacked) : after.Accounted := by
  intro stage queryId unsettled
  rw [history] at unsettled
  obtain ⟨open', sent | older⟩ := unsettled
  · exact keeps stage queryId open' (.inl sent)
  · rcases accounted stage queryId older with failed | unconfirmed
    · exact .inl (fails failed)
    · exact keeps stage queryId open' (.inr unconfirmed)

/-- Objects that are moved into the second set join those that are there. -/
theorem mem_unacked_popItems (count : Nat) {sets : TransferSets} {queryId : Nat}
    (unconfirmed : queryId ∈ sets.unacked) : queryId ∈ (popItems count sets).unacked := by
  induction count generalizing sets with
  | zero => exact unconfirmed
  | succ count ih =>
    rw [popItems]
    split
    · exact unconfirmed
    · exact ih ((AList.mem_insert _).mpr (.inr unconfirmed))

theorem Accounted.fillWindow (accounted : self.Accounted) (stage : TransferStage) :
    (self.fillWindow stage).Accounted := by
  refine accounted.quiet rfl id fun other queryId unconfirmed => .inr ?_
  by_cases same : other = stage
  · subst same
    simpa [DPSDomainMassTransfer.fillWindow, setSets] using mem_unacked_popItems _ unconfirmed
  · simpa [DPSDomainMassTransfer.fillWindow, setSets, same] using unconfirmed

theorem Sends.accounted {queryId : Nat} {record : UnackedEntry} {outcome : SendOutcome}
    (sends : Sends stage queryId record outcome self after) (accounted : self.Accounted) :
    after.Accounted := by
  rcases sends.history with sent | ⟨failed, same⟩
  · refine accounted.observed sent sends.valid fun other number open' known => ?_
    by_cases isThis : other = stage ∧ number = queryId
    · obtain ⟨rfl, rfl⟩ := isThis
      rcases sends.unacked with inserted | ⟨-, failed | ⟨-, ended⟩⟩
      · exact .inr (inserted ▸ (AList.mem_insert _).mpr (.inl rfl))
      · exact .inl failed
      · exact absurd ⟨rfl, rfl, ended⟩ open'
    · refine .inr (sends.mem_unacked (not_and_or.mp isThis) (known.resolve_left ?_))
      rintro ⟨_, _, same⟩
      cases same
      exact isThis ⟨rfl, rfl⟩
  · exact fun _ _ _ => .inl failed

theorem Accounted.pass (accounted : self.Accounted) (fuel : Nat) :
    (transferObjects send fuel self).1.Accounted := by
  refine (pass_keeps send _ (fun _ _ _ held _ => held.fillWindow _) ?_ accounted fuel).1
  intro self stage _ held _
  have sent : (self.sendWindow send stage).Accounted :=
    sendObjects_keeps send _ (fun _ _ _ _ _ sends => sends.accounted) (held.fillWindow stage) _
  exact ⟨sent, fun _ _ => sent⟩

/-! ## The stages are left in order -/

/-- Nothing is unconfirmed before the current stage. -/
def InOrder (self : DPSDomainMassTransfer) : Prop :=
  0 < self.transferStage ∧
    ∀ stage : TransferStage, self.transferStage ≤ stage.number ∨ (self.transfer stage).unacked = ∅

/-- One stage was worked on. -/
def Visits (stage : TransferStage) (self after : DPSDomainMassTransfer) : Prop :=
  after.transferStage = self.transferStage ∧
    ∀ other, other ≠ stage → after.transfer other = self.transfer other

/-- What holds of the stages that were passed still does, and of one more if the current one is
passed. -/
theorem Visits.passes (visits : Visits stage self after) (done : TransferSets → Prop)
    (here : self.transferStage = stage.number)
    (passed : ∀ other : TransferStage,
      self.transferStage ≤ other.number ∨ done (self.transfer other)) :
    (∀ other : TransferStage, after.transferStage ≤ other.number ∨ done (after.transfer other)) ∧
    (done (after.transfer stage) → ∀ other : TransferStage,
      after.transferStage + 1 ≤ other.number ∨ done (after.transfer other)) := by
  obtain ⟨current, others⟩ := visits
  refine ⟨fun other => ?_, fun isDone other => ?_⟩ <;> by_cases same : other = stage
  · exact .inl (same ▸ (current.trans here).le)
  · exact current ▸ others other same ▸ passed other
  · exact .inr (same ▸ isDone)
  · refine current ▸ others other same ▸ (passed other).imp_left fun le => lt_of_le_of_ne le ?_
    rw [here]
    cases other <;> cases stage <;> first | exact absurd rfl same | decide

theorem visits_fillWindow (self : DPSDomainMassTransfer) (stage : TransferStage) :
    Visits stage self (self.fillWindow stage) :=
  ⟨rfl, fun _ differs => Function.update_of_ne differs ..⟩

theorem visits_sendWindow (self : DPSDomainMassTransfer) (stage : TransferStage) :
    Visits stage self (self.sendWindow send stage) := by
  refine sendObjects_keeps send _ ?_ (visits_fillWindow self stage) _
  intro before after _ _ _ sends visits
  exact ⟨sends.current.trans visits.1, fun other differs =>
    (sends.others other differs).trans (visits.2 other differs)⟩

theorem InOrder.pass (inOrder : self.InOrder) (fuel : Nat) :
    let pass := transferObjects send fuel self
    pass.1.InOrder ∧ (pass.2 → (self.valid = true → pass.1.valid = true) ∧
      TransferStage.ofNumber pass.1.transferStage = none) := by
  refine pass_keeps send _ ?_ ?_ inOrder fuel
  · intro self stage here held none
    exact ⟨Nat.succ_pos _, ((visits_fillWindow self stage).passes (·.unacked = ∅) here held.2).2 none⟩
  · intro self stage here held _
    have visits := visits_sendWindow send self stage
    obtain ⟨stays, passes⟩ := visits.passes (·.unacked = ∅) here held.2
    exact ⟨⟨visits.1 ▸ held.1, stays⟩, fun _ none => ⟨Nat.succ_pos _, passes none⟩⟩

/-- Behind the last stage every stage has been passed. -/
theorem number_lt_of_finished (started : 0 < self.transferStage)
    (finished : TransferStage.ofNumber self.transferStage = none) (stage : TransferStage) :
    stage.number < self.transferStage := by
  by_contra le
  have high : self.transferStage ≤ 6 := (not_lt.mp le).trans (by cases stage <;> decide)
  interval_cases self.transferStage <;> cases finished

theorem InOrder.next (inOrder : self.InOrder) (event : TransferEvent) :
    (self.step event).InOrder := by
  cases event with
  | delta domainValid stage key entry =>
    dsimp only [step, registerDelta]
    split_ifs
    · refine ⟨lt_min (by cases stage <;> decide) inOrder.1, fun other => ?_⟩
      by_cases same : other = stage
      · exact .inl (same ▸ min_le_left ..)
      · simpa [setSets, observe, same] using (inOrder.2 other).imp_left .inr
    · exact inOrder
  | ack queryId status =>
    dsimp only [step, transferAck]
    split_ifs
    · exact inOrder
    · refine ⟨inOrder.1, fun stage => (inOrder.2 stage).imp_right fun empty => ?_⟩
      dsimp only [observe]
      split <;> simp only [empty]
      rfl
    · exact inOrder
  | thread domainValid nodeIsUp send =>
    have pass := InOrder.pass send (show InOrder { self with timer := false } from inOrder)
    dsimp only [step, transferThread]
    split_ifs
    iterate 3 exact (pass _).1
    · exact ⟨inOrder.1, fun _ => .inr rfl⟩
    · exact inOrder

/-- While passes are made, the sends are accounted for. -/
theorem accounted_next (accounted : self.timer = true → self.Accounted) (event : TransferEvent) :
    (self.step event).timer = true → (self.step event).Accounted := by
  cases event with
  | delta domainValid stage key entry =>
    dsimp only [step, registerDelta]
    split_ifs
    · refine fun running => (accounted running).observed rfl id fun other queryId _ known => .inr ?_
      have unconfirmed := known.resolve_left nofun
      by_cases same : other = stage
      · subst same
        simpa [setSets, observe] using unconfirmed
      · simpa [setSets, observe, same] using unconfirmed
    · exact accounted
  | ack queryId status =>
    dsimp only [step, transferAck]
    split_ifs with mapped again
    · exact fun running => (accounted running).observed rfl id fun _ _ _ known =>
        .inr (known.resolve_left nofun)
    · refine fun running => (accounted running).observed rfl id fun stage number open' known => .inr ?_
      have unconfirmed := known.resolve_left nofun
      dsimp only [observe]
      split
      next => exact unconfirmed
      next isAsync =>
        refine AList.mem_erase.mpr ⟨?_, unconfirmed⟩
        rintro rfl
        exact open' ⟨rfl, by simpa using isAsync, again⟩
    · exact accounted
  | thread domainValid nodeIsUp send =>
    have pass (running) := Accounted.pass send (show Accounted { self with timer := false } from
      accounted running) (TransferStage.finished + 1)
    dsimp only [step, transferThread]
    split_ifs with running
    · exact fun _ => pass running
    · exact fun _ => (pass running).observed rfl id fun _ _ _ known => .inr (known.resolve_left nofun)
    · exact fun _ => pass running
    · exact nofun
    · exact accounted

section Runs

variable (objects : TransferStage → Dict TransferKey TransferEntry) (events : List TransferEvent)

theorem inOrder_run : (run step (transferStart objects) events).InOrder :=
  List.foldlRecOn events step ⟨Nat.one_pos, fun _ => .inr rfl⟩
    fun _ held event _ => InOrder.next held event

theorem accounted_run (running : (run step (transferStart objects) events).timer = true) :
    (run step (transferStart objects) events).Accounted :=
  List.foldlRecOn (motive := fun self => self.timer = true → self.Accounted) events step
    (fun _ _ _ => False.elim) (fun _ held event _ => accounted_next held event) running

end Runs

/-- When a pass finishes, the transfer has not failed, all stages are passed, nothing is unconfirmed
and every send is settled. -/
theorem InOrder.finished (inOrder : self.InOrder) (accounted : self.Accounted)
    (valid : self.valid = true) {fuel : Nat} (finished : (transferObjects send fuel self).2) :
    let pass := transferObjects send fuel self
    pass.1.valid = true ∧ ∀ stage : TransferStage, stage.number < pass.1.transferStage ∧
      (pass.1.transfer stage).unacked = ∅ ∧
      ∀ queryId, ¬Unsettled stage queryId pass.1.history := by
  intro pass
  obtain ⟨ordered, ends⟩ := inOrder.pass send fuel
  obtain ⟨alive, behind⟩ := ends finished
  refine ⟨alive valid, fun stage => ?_⟩
  have passed := number_lt_of_finished ordered.1 behind stage
  have empty : (pass.1.transfer stage).unacked = ∅ :=
    (ordered.2 stage).resolve_left passed.not_ge
  refine ⟨passed, empty, fun queryId unsettled => ?_⟩
  rcases accounted.pass send fuel stage queryId unsettled with failed | unconfirmed
  · cases failed.symm.trans (alive valid)
  · rw [empty] at unconfirmed
    cases unconfirmed

/-- In every run, with any outcomes of the sends, nothing is unconfirmed in a stage that the
transfer has passed, and when a pass of the thread finishes, nothing is unconfirmed in any stage and
every object that was sent has been confirmed since its last send, or this send raised. -/
theorem finished_transfer_is_confirmed
    (objects : TransferStage → Dict TransferKey TransferEntry) (events : List TransferEvent) :
    let self := run step (transferStart objects) events
    let pass := transferObjects send (TransferStage.finished + 1) self
    self.InOrder ∧ (self.timer = true → self.valid = true → pass.2 →
      (∀ stage, (pass.1.transfer stage).unacked = ∅) ∧
        ∀ stage queryId, ¬Unsettled stage queryId pass.1.history) := by
  intro self pass
  have inOrder := inOrder_run objects events
  refine ⟨inOrder, fun running valid finished => ?_⟩
  have ends := (inOrder.finished send (accounted_run objects events running) valid finished).2
  exact ⟨fun stage => (ends stage).2.1, fun stage => (ends stage).2.2⟩

end OpenDove.DPSDomainMassTransfer
