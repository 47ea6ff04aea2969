import OpenDove.ReplicationHandler

/-!
# Every replicated request is answered

A request that is entered with query ids which nobody else uses owns them until it is answered.
Every tick of the timer visits it at least once, so that it is answered after three ticks at most,
however many replicas it has. A request without a query id is never visited.
-/

namespace OpenDove

variable {ticks : Int} {target : RequestId} {request : DPSReplicationRequest}
  {tracker : DPSDomainReplicationTracker} (events : List HandlerEvent) (event : HandlerEvent)
  (queryId : Nat) (items : List Nat)

namespace DPSDomainReplicationTracker

/-- Every tracked request owns all its query ids, and no others. -/
structure Owns (s : DPSDomainReplicationTracker) : Prop where
  sound : ∀ queryId self, s.serverQueryIDHash.lookup queryId = some self →
    queryId ∈ (s.request self).queryIds
  complete : ∀ queryId self, s.serverQueryIDHash.lookup queryId = some self →
    ∀ other ∈ (s.request self).queryIds, s.serverQueryIDHash.lookup other = some self

/-- A request that was not answered yet and waits for at most the given number of ticks. -/
structure Pending (s : DPSDomainReplicationTracker) (target : RequestId) (ticks : Int) : Prop where
  unsent : (s.request target).replyMessage ≠ none
  outstanding : (s.request target).queryIds.keys ≠ []
  tracked : ∀ queryId ∈ (s.request target).queryIds,
    s.serverQueryIDHash.lookup queryId = some target
  soon : (s.request target).timerExpirationCount ≤ ticks

/-- A request is answered, or will be within the given number of ticks. -/
def Fate (s : DPSDomainReplicationTracker) (target : RequestId) (ticks : Int) : Prop :=
  s.answers target ≠ [] ∨ s.Pending target ticks

theorem removed_mem {succeeded : Nat → Prop} {outcome : RequestOutcome}
    (allowed : outcome.Allowed request succeeded) {queryId : Nat}
    (removed : queryId ∈ outcome.listRemove) : queryId ∈ request.queryIds := by
  cases allowed with
  | waits _ _ _ _ own => exact (own queryId removed).1
  | answers _ _ _ all _ => exact (all queryId).mp removed

section Settle

variable {s : DPSDomainReplicationTracker} {self : RequestId} {queryId : Nat}
  {outcome : RequestOutcome} {succeeded : Nat → Prop}

/-- The query ids that a request gives up are its own. -/
theorem Owns.lookup_of_removed (owns : s.Owns)
    (found : s.serverQueryIDHash.lookup queryId = some self)
    (allowed : outcome.Allowed (s.request self) succeeded) {other : Nat}
    (removed : other ∈ outcome.listRemove) : s.serverQueryIDHash.lookup other = some self :=
  owns.complete queryId self found other (removed_mem allowed removed)

theorem Owns.settle (owns : s.Owns) (found : s.serverQueryIDHash.lookup queryId = some self)
    (allowed : outcome.Allowed (s.request self) succeeded) : (s.settle self outcome).Owns := by
  have own : (s.settle self outcome).request self = outcome.request := Function.update_self ..
  -- A query id that is still tracked was not given up.
  have kept : ∀ {other target}, (s.settle self outcome).serverQueryIDHash.lookup other = some target →
      other ∉ outcome.listRemove ∧ s.serverQueryIDHash.lookup other = some target := by
    intro other target still
    rw [lookup_settle] at still
    split at still
    · cases still
    · next stays => exact ⟨stays, still⟩
  have waits : ∀ {other}, (s.settle self outcome).serverQueryIDHash.lookup other = some self →
      ∀ id, id ∈ outcome.request.queryIds ↔
        id ∈ (s.request self).queryIds ∧ id ∉ outcome.listRemove := by
    intro other still
    cases allowed with
    | waits _ _ rest _ _ => exact rest
    | answers _ _ _ all _ =>
      exact absurd ((all other).mpr (owns.sound other self (kept still).2)) (kept still).1
  constructor
  · intro other target still
    by_cases same : target = self
    · subst same
      rw [own]
      exact (waits still other).mpr ⟨owns.sound other target (kept still).2, (kept still).1⟩
    · have unchanged : (s.settle self outcome).request target = s.request target :=
        Function.update_of_ne same ..
      rw [unchanged]
      exact owns.sound other target (kept still).2
  · intro other target still id inside
    rw [lookup_settle]
    by_cases same : target = self
    · subst same
      rw [own] at inside
      obtain ⟨before, stays⟩ := (waits still id).mp inside
      rw [if_neg stays]
      exact owns.complete other target (kept still).2 id before
    · have unchanged : (s.settle self outcome).request target = s.request target :=
        Function.update_of_ne same ..
      rw [unchanged] at inside
      have lookup := owns.complete other target (kept still).2 id inside
      rw [if_neg, lookup]
      intro removed
      have lookup' := owns.lookup_of_removed found allowed removed
      exact same (Option.some.inj (lookup.symm.trans lookup'))

/-- A routine of another request. -/
theorem Pending.settle_other (pending : s.Pending target ticks) (owns : s.Owns)
    (found : s.serverQueryIDHash.lookup queryId = some self)
    (allowed : outcome.Allowed (s.request self) succeeded) (differs : target ≠ self) :
    (s.settle self outcome).Pending target ticks := by
  have unchanged : (s.settle self outcome).request target = s.request target :=
    Function.update_of_ne differs ..
  constructor
  · rw [unchanged]
    exact pending.unsent
  · rw [unchanged]
    exact pending.outstanding
  · rw [unchanged]
    intro id inside
    have lookup := pending.tracked id inside
    rw [lookup_settle, if_neg, lookup]
    intro removed
    have lookup' := owns.lookup_of_removed found allowed removed
    exact differs (Option.some.inj (lookup.symm.trans lookup'))
  · rw [unchanged]
    exact pending.soon

/-- A routine of the request itself answers it, or leaves it pending with its new count. -/
theorem Pending.settle_self (pending : s.Pending self ticks)
    (allowed : outcome.Allowed (s.request self) succeeded) :
    (s.settle self outcome).answers self ≠ [] ∨
      outcome.request.replyMessage ≠ none ∧
        (s.settle self outcome).Pending self outcome.request.timerExpirationCount := by
  have own : (s.settle self outcome).request self = outcome.request := Function.update_self ..
  cases allowed with
  | waits silent still rest nonempty _ =>
    refine .inr ⟨still ▸ pending.unsent, ?_⟩
    constructor
    · rw [own, still]
      exact pending.unsent
    · rw [own]
      exact nonempty pending.outstanding
    · rw [own]
      intro id inside
      obtain ⟨before, stays⟩ := (rest id).mp inside
      rw [lookup_settle, if_neg stays]
      exact pending.tracked id before
    · rw [own]
  | answers error sends closed all success =>
    left
    obtain ⟨message, unsent⟩ := Option.ne_none_iff_exists'.mp pending.unsent
    rw [answers_settle, if_pos rfl, sends, unsent]
    simp

end Settle

/-- What a loop over query ids asks of the routine of each round: it is allowed, and while it
waits, the count does not grow. -/
structure Patient (routine : DPSReplicationRequest → RequestOutcome) (succeeded : Nat → Prop) :
    Prop where
  allowed : ∀ request, (routine request).Allowed request succeeded
  count : ∀ request, (routine request).request.replyMessage ≠ none →
    (routine request).request.timerExpirationCount ≤ request.timerExpirationCount

theorem patient_reply (error : Nat) :
    Patient (·.processReplicationReply queryId error)
      (fun other => other = queryId ∧ error = dpsErrorNone) where
  allowed := fun request => request.processReplicationReply_allowed queryId error
  count := by
    intro request unsent
    unfold DPSReplicationRequest.processReplicationReply at unsent ⊢
    by_cases success : error = dpsErrorNone
    · by_cases known : (request.queryIds.lookup queryId).isSome
      · simp only [success, known, if_true] at unsent ⊢
        split at unsent
        · exact absurd rfl unsent
        · next more =>
          rw [if_neg more]
          simp [DPSReplicationRequest.timerExpirationMax]
      · simp only [success, known, if_true, Bool.false_eq_true, if_false] at unsent ⊢
        split at unsent
        · exact absurd rfl unsent
        · next more =>
          rw [if_neg more]
    · rw [if_neg success] at unsent
      exact absurd rfl unsent

/-- While the timer waits, it counts down and stays positive. -/
theorem timer_waits (unsent : request.timer.request.replyMessage ≠ none) :
    request.timer.request.timerExpirationCount = request.timerExpirationCount - 1 ∧
      1 ≤ request.timer.request.timerExpirationCount := by
  unfold DPSReplicationRequest.timer at unsent ⊢
  dsimp only at unsent ⊢
  split at unsent
  · exact absurd rfl unsent
  · next positive =>
    rw [if_neg positive]
    refine ⟨rfl, ?_⟩
    dsimp only
    omega

theorem patient_timer : Patient (·.timer) (fun _ => False) where
  allowed := fun request => request.timer_allowed _
  count := fun request unsent => by
    have counted := (timer_waits unsent).1
    omega

section Rounds

variable {s : DPSDomainReplicationTracker} {target : RequestId} {ticks : Int}
  {routine : DPSReplicationRequest → RequestOutcome} {succeeded : Nat → Prop}

theorem Owns.onRequest (owns : s.Owns) (queryId : Nat) (patient : Patient routine succeeded) :
    (s.onRequest queryId routine).Owns := by
  unfold DPSDomainReplicationTracker.onRequest
  split
  · exact owns
  · next self found => exact owns.settle found (patient.allowed _)

theorem answered_onRequest (answered : s.answers target ≠ []) :
    (s.onRequest queryId routine).answers target ≠ [] := by
  unfold DPSDomainReplicationTracker.onRequest
  split
  · exact answered
  · rw [answers_settle]
    exact List.append_ne_nil_of_left_ne_nil answered _

theorem Fate.onRequest (fate : s.Fate target ticks) (owns : s.Owns) (queryId : Nat)
    (patient : Patient routine succeeded) : (s.onRequest queryId routine).Fate target ticks := by
  rcases fate with answered | pending
  · exact .inl (answered_onRequest queryId answered)
  · unfold DPSDomainReplicationTracker.onRequest
    split
    · exact .inr pending
    · next self found =>
      by_cases same : target = self
      · subst same
        refine (pending.settle_self (patient.allowed _)).imp_right fun ⟨unsent, after⟩ => ?_
        exact { after with soon := after.soon.trans ((patient.count _ unsent).trans pending.soon) }
      · exact .inr (pending.settle_other owns found (patient.allowed _) same)

end Rounds

section Ticks

variable {s : DPSDomainReplicationTracker} {target : RequestId} {ticks : Int}

theorem Owns.timerLoop (owns : s.Owns) (items : List Nat) :
    (items.foldl (fun s queryId => s.onRequest queryId (·.timer)) s).Owns :=
  List.foldlRecOn items _ owns fun _ owns item _ => owns.onRequest item patient_timer

theorem Fate.timerLoop (fate : s.Fate target ticks) (owns : s.Owns) (items : List Nat) :
    (items.foldl (fun s queryId => s.onRequest queryId (·.timer)) s).Fate target ticks := by
  induction items generalizing s with
  | nil => exact fate
  | cons item items ih =>
    exact ih (fate.onRequest owns item patient_timer)
      (owns.onRequest item patient_timer)

theorem answered_timerLoop (answered : s.answers target ≠ []) :
    (items.foldl (fun s queryId => s.onRequest queryId (·.timer)) s).answers target ≠ [] :=
  List.foldlRecOn (motive := fun s => answers s target ≠ []) items _ answered
    fun _ answered item _ => answered_onRequest item answered

/-- A tick that visits one of the query ids of a pending request brings its answer nearer. -/
theorem Pending.timerLoop (pending : s.Pending target ticks) (owns : s.Owns) {queryId : Nat}
    (outstanding : queryId ∈ (s.request target).queryIds) (items : List Nat)
    (visited : queryId ∈ items) :
    (items.foldl (fun s queryId => s.onRequest queryId (·.timer)) s).answers target ≠ [] ∨
      (items.foldl (fun s queryId => s.onRequest queryId (·.timer)) s).Pending target (ticks - 1) ∧
        2 ≤ ticks := by
  induction items generalizing s with
  | nil => cases visited
  | cons item items ih =>
    rw [List.foldl_cons]
    have owns' := owns.onRequest item patient_timer
    by_cases own : s.serverQueryIDHash.lookup item = some target
    · -- The request itself is visited.
      have visit : s.onRequest item (·.timer) = s.settle target (s.request target).timer := by
        unfold DPSDomainReplicationTracker.onRequest
        rw [own]
      rw [visit] at owns' ⊢
      rcases pending.settle_self (patient_timer.allowed _) with answered | ⟨unsent, after⟩
      · exact .inl (answered_timerLoop items answered)
      · obtain ⟨counted, positive⟩ := timer_waits unsent
        have soon := pending.soon
        have nearer : (s.settle target (s.request target).timer).Pending target (ticks - 1) :=
          { after with soon := after.soon.trans (by omega) }
        refine (Fate.timerLoop (.inr nearer) owns' items).imp_right fun later => ⟨later, ?_⟩
        omega
    · have still : (s.onRequest item (·.timer)).Pending target ticks ∧
          (s.onRequest item (·.timer)).request target = s.request target := by
        unfold DPSDomainReplicationTracker.onRequest
        split
        · exact ⟨pending, rfl⟩
        · next self found =>
          have differs : target ≠ self := fun same => own (same ▸ found)
          exact ⟨pending.settle_other owns found (patient_timer.allowed _) differs,
            Function.update_of_ne differs ..⟩
      refine ih still.1 owns' (still.2 ▸ outstanding) ?_
      rcases List.mem_cons.mp visited with rfl | later
      · exact absurd (pending.tracked queryId outstanding) own
      · exact later

/-- A whole tick. -/
theorem Pending.timer (pending : s.Pending target ticks) (owns : s.Owns) :
    s.timer.answers target ≠ [] ∨ s.timer.Pending target (ticks - 1) ∧ 2 ≤ ticks := by
  obtain ⟨queryId, outstanding⟩ := List.exists_mem_of_ne_nil _ pending.outstanding
  refine pending.timerLoop owns outstanding _ ?_
  exact (Dict.mem_iff_lookup ..).mpr ⟨target, pending.tracked queryId outstanding⟩

end Ticks

section Add

variable {s after : DPSDomainReplicationTracker} {queryIdList : List Nat}
  {replyMessage : Option Nat}

/-- What the tracker is after a request was entered. -/
theorem of_add (entered : s.addReplicationRequest queryIdList replyMessage = some after) :
    after.sent = s.sent ∧ (∀ self, self ≠ s.nextRequest → after.request self = s.request self) ∧
      after.request s.nextRequest = .create queryIdList replyMessage ∧
      ∀ queryId, after.serverQueryIDHash.lookup queryId =
        if queryId ∈ queryIdList then some s.nextRequest
        else s.serverQueryIDHash.lookup queryId := by
  unfold addReplicationRequest at entered
  split at entered
  · cases entered
  · obtain rfl := Option.some.inj entered
    refine ⟨rfl, fun self differs => ?_, ?_, fun queryId => ?_⟩
    · exact Function.update_of_ne differs ..
    · exact Function.update_self ..
    · exact Dict.lookup_foldl_insert ..

theorem mem_create :
    queryId ∈ (DPSReplicationRequest.create queryIdList replyMessage).queryIds ↔
      queryId ∈ queryIdList := by
  rw [← AList.lookup_isSome, DPSReplicationRequest.create, Dict.lookup_foldl_insert]
  split
  · next inside => simp [inside]
  · next outside =>
    simp only [outside, iff_false]
    exact fun found => by cases found

variable (created : s.Created) (fresh : ∀ queryId ∈ queryIdList, queryId ∉ s.serverQueryIDHash)
  (entered : s.addReplicationRequest queryIdList replyMessage = some after)

include created fresh entered

theorem Owns.add (owns : s.Owns) : after.Owns := by
  obtain ⟨-, others, own, lookup⟩ := of_add entered
  have older : ∀ {queryId self}, s.serverQueryIDHash.lookup queryId = some self →
      self ≠ s.nextRequest := fun found => Nat.ne_of_lt (created.tracked _ _ found)
  have tracked : ∀ {queryId self}, s.serverQueryIDHash.lookup queryId = some self →
      queryId ∉ queryIdList := fun found inside =>
    fresh _ inside ((Dict.mem_iff_lookup ..).mpr ⟨_, found⟩)
  constructor
  · intro queryId self found
    rw [lookup] at found
    split at found
    · next inside =>
      obtain rfl := Option.some.inj found
      rw [own]
      exact (mem_create queryId).mpr inside
    · rw [others self (older found)]
      exact owns.sound queryId self found
  · intro queryId self found other inside
    rw [lookup] at found ⊢
    split at found
    · obtain rfl := Option.some.inj found
      rw [own] at inside
      rw [if_pos ((mem_create other).mp inside)]
    · rw [others self (older found)] at inside
      have before := owns.complete queryId self found other inside
      rw [if_neg (tracked before), before]

theorem Pending.add (pending : s.Pending target ticks) : after.Pending target ticks := by
  obtain ⟨-, others, -, lookup⟩ := of_add entered
  obtain ⟨queryId, outstanding⟩ := List.exists_mem_of_ne_nil _ pending.outstanding
  have older : target ≠ s.nextRequest :=
    Nat.ne_of_lt (created.tracked _ _ (pending.tracked queryId outstanding))
  have same := others target older
  constructor
  · rw [same]
    exact pending.unsent
  · rw [same]
    exact pending.outstanding
  · rw [same]
    intro id inside
    have before := pending.tracked id inside
    rw [lookup, if_neg, before]
    exact fun new => fresh id new ((Dict.mem_iff_lookup ..).mpr ⟨target, before⟩)
  · rw [same]
    exact pending.soon

end Add

end DPSDomainReplicationTracker

namespace DPSReplicationTracker

open DPSDomainReplicationTracker

section Runs

variable {s : DPSReplicationTracker} {target : RequestId} {ticks : Int}

/-- Every event that draws fresh query ids keeps the tracker in order. -/
theorem step_tracker (fresh : s.FreshIds event) (created : s.tracker.Created)
    (owns : s.tracker.Owns) : (s.step event).tracker.Created ∧ (s.step event).tracker.Owns := by
  cases event with
  | generate msgDomainId transactionType replyMessage =>
    rcases s.generate_cases msgDomainId transactionType replyMessage with
      ⟨-, same⟩ | ⟨status, dpsNodes, chosen, entered⟩
    · rw [same]
      exact ⟨created, owns⟩
    · simp only [FreshIds, chosen] at fresh
      have added := created.step (.add (generateQueryIds dpsNodes.length s.queryId).1
        (some replyMessage))
      simp only [DPSDomainReplicationTracker.step, entered, Option.getD_some] at added
      exact ⟨added, owns.add created fresh entered⟩
  | reply queryId error =>
    exact ⟨created.step (.reply queryId error),
      owns.onRequest queryId (patient_reply queryId error)⟩
  | tick => exact ⟨created.step .tick, owns.timerLoop _⟩
  | environment => exact ⟨created, owns⟩

/-- A request that was answered stays so. -/
theorem answered_step (answered : s.tracker.answers target ≠ []) :
    (s.step event).tracker.answers target ≠ [] := by
  cases event with
  | generate msgDomainId transactionType replyMessage =>
    rcases s.generate_cases msgDomainId transactionType replyMessage with
      ⟨-, same⟩ | ⟨status, dpsNodes, -, entered⟩
    · rw [same]
      exact answered
    · unfold answers
      rw [(of_add entered).1]
      exact answered
  | reply queryId error => exact answered_onRequest queryId answered
  | tick => exact answered_timerLoop _ answered
  | environment => exact answered

theorem answered_run (answered : s.tracker.answers target ≠ []) :
    (run step s events).tracker.answers target ≠ [] := by
  induction events generalizing s with
  | nil => exact answered
  | cons event events ih =>
    exact ih (answered_step event answered)

theorem fate_step (fresh : s.FreshIds event) (created : s.tracker.Created) (owns : s.tracker.Owns)
    (pending : s.tracker.Pending target ticks) : (s.step event).tracker.Fate target ticks := by
  cases event with
  | generate msgDomainId transactionType replyMessage =>
    right
    rcases s.generate_cases msgDomainId transactionType replyMessage with
      ⟨-, same⟩ | ⟨status, dpsNodes, chosen, entered⟩
    · rw [same]
      exact pending
    · simp only [FreshIds, chosen] at fresh
      exact pending.add created fresh entered
  | reply queryId error =>
    exact Fate.onRequest (.inr pending) owns queryId (patient_reply queryId error)
  | tick => exact Fate.timerLoop (.inr pending) owns _
  | environment => exact .inr pending

/-- A pending request is answered once enough ticks have come. -/
theorem answered_of_ticks (created : s.tracker.Created) (owns : s.tracker.Owns)
    (pending : s.tracker.Pending target ticks) (positive : 1 ≤ ticks)
    (fresh : Admissible step FreshIds s events)
    (enough : ticks ≤ (events.countP HandlerEvent.isTick : Int)) :
    (run step s events).tracker.answers target ≠ [] := by
  induction events generalizing s ticks with
  | nil =>
    simp only [List.countP_nil, Nat.cast_zero] at enough
    omega
  | cons event events ih =>
    obtain ⟨created', owns'⟩ := step_tracker event fresh.1 created owns
    by_cases tick : event.isTick
    · rw [List.countP_cons_of_pos tick, Nat.cast_succ] at enough
      have ticked : (s.step event).tracker = s.tracker.timer := by
        cases event <;> first | rfl | cases tick
      rcases pending.timer owns with answered | ⟨nearer, more⟩
      · exact answered_run events (ticked ▸ answered)
      · exact ih created' owns' (ticked ▸ nearer) (by omega) fresh.2 (by omega)
    · rw [List.countP_cons_of_neg tick] at enough
      rcases fate_step event fresh.1 created owns pending with answered | pending'
      · exact answered_run events answered
      · exact ih created' owns' pending' positive fresh.2 enough

/-- A request that is accepted with a query id waits for three ticks at most. -/
theorem pending_of_add {after : DPSDomainReplicationTracker} {queryIdList : List Nat}
    {replyMessage : Nat}
    (entered : tracker.addReplicationRequest queryIdList (some replyMessage) = some after)
    (nonempty : queryIdList ≠ []) : after.Pending tracker.nextRequest 3 := by
  obtain ⟨-, -, own, lookup⟩ := of_add entered
  constructor
  · rw [own]
    exact Option.some_ne_none replyMessage
  · rw [own]
    obtain ⟨queryId, inside⟩ := List.exists_mem_of_ne_nil _ nonempty
    exact List.ne_nil_of_mem ((mem_create queryId).mpr inside)
  · rw [own]
    intro queryId inside
    rw [lookup, if_pos ((mem_create queryId).mp inside)]
  · rw [own]
    exact le_rfl

/-- A request without query ids is visited by no tick. -/
theorem silent_timerLoop
    (untracked : ∀ queryId, tracker.serverQueryIDHash.lookup queryId ≠ some target)
    (silent : tracker.answers target = []) :
    let after := items.foldl (fun s queryId => s.onRequest queryId (·.timer)) tracker
    (∀ queryId, after.serverQueryIDHash.lookup queryId ≠ some target) ∧
      after.answers target = [] := by
  refine List.foldlRecOn (motive := fun s => (∀ queryId, (serverQueryIDHash s).lookup queryId ≠
    some target) ∧ answers s target = []) items _ ⟨untracked, silent⟩ ?_
  rintro tracker ⟨untracked, silent⟩ item -
  unfold onRequest
  split
  · exact ⟨untracked, silent⟩
  · next self found =>
    have differs : target ≠ self := fun same => untracked item (same ▸ found)
    refine ⟨fun queryId still => untracked queryId (Dict.lookup_of_eraseAll still), ?_⟩
    rw [answers_settle, if_neg differs, List.append_nil]
    exact silent

/-- Nor by any number of ticks. -/
theorem silent_ticks (count : Nat)
    (untracked : ∀ queryId, s.tracker.serverQueryIDHash.lookup queryId ≠ some target)
    (silent : s.tracker.answers target = []) :
    (run step s (List.replicate count .tick)).tracker.answers target = [] := by
  induction count generalizing s with
  | zero => exact silent
  | succ count ih =>
    obtain ⟨untracked', silent'⟩ :=
      silent_timerLoop s.tracker.serverQueryIDHash.keys untracked silent
    have rest := ih (s := s.step .tick) untracked' silent'
    rw [List.replicate_succ]
    exact rest

end Runs

/-- A request that the handler accepts is answered after three ticks of the timer, whatever else
happens, exactly if there is a node to send it to. The query ids that requests draw are not
those of outstanding replicas. -/
theorem accepted_request_is_answered_iff (start : DPSReplicationTracker)
    (empty : start.tracker = .initial) (before : List HandlerEvent)
    (freshBefore : Admissible step FreshIds start before)
    (msgDomainId : Nat) (transactionType : TransactionType) (replyMessage : Nat)
    (fresh : (run step start before).FreshIds
      (.generate msgDomainId transactionType replyMessage))
    (accepted : ((run step start before).replicationQueryIDGenerate msgDomainId transactionType
      replyMessage).2.1 = dpsErrorNone) :
    let s := run step start before
    let t := s.step (.generate msgDomainId transactionType replyMessage)
    (∀ after, Admissible step FreshIds t after → 3 ≤ after.countP HandlerEvent.isTick →
      (run step t after).tracker.answers s.tracker.nextRequest ≠ []) ↔
        s.Replicates msgDomainId transactionType := by
  intro s t
  have ordered : s.tracker.Created ∧ s.tracker.Owns := by
    refine run_invariant (fun s : DPSReplicationTracker => s.tracker.Created ∧ s.tracker.Owns)
      (fun _ event ordered fresh => step_tracker event fresh ordered.1 ordered.2) ?_ freshBefore
    rw [empty]
    refine ⟨Created.initial, ?_, ?_⟩
    · intro queryId self found
      cases found
    · intro queryId self found
      cases found
  obtain ⟨created, owns⟩ := ordered
  rcases s.generate_cases msgDomainId transactionType replyMessage with
    ⟨refused, -⟩ | ⟨status, dpsNodes, chosen, entered⟩
  · rw [show (s.replicationQueryIDGenerate msgDomainId transactionType replyMessage).2.1 =
      dpsErrorNone from accepted] at refused
    cases refused
  · rw [← nodes_ne_nil_iff chosen]
    constructor
    · -- Without a node three ticks pass without an answer.
      intro answered none
      subst none
      obtain ⟨sent, -, -, lookup⟩ := of_add entered
      have untracked : ∀ queryId,
          t.tracker.serverQueryIDHash.lookup queryId ≠ some s.tracker.nextRequest := by
        intro queryId found
        rw [lookup queryId] at found
        exact absurd (created.tracked queryId _ found) (Nat.lt_irrefl _)
      have silent : t.tracker.answers s.tracker.nextRequest = [] := by
        unfold answers
        rw [sent]
        exact created.unanswered
      exact answered (List.replicate 3 .tick) ⟨True.intro, True.intro, True.intro, True.intro⟩
        (by decide) (silent_ticks 3 untracked silent)
    · intro nonempty after freshAfter enough
      obtain ⟨created', owns'⟩ := step_tracker _ fresh created owns
      have nonempty' : (generateQueryIds dpsNodes.length s.queryId).1 ≠ [] := by
        intro none
        have length := length_generateQueryIds dpsNodes.length s.queryId
        rw [none, List.length_nil] at length
        exact nonempty (List.eq_nil_of_length_eq_zero length.symm)
      exact answered_of_ticks after created' owns' (pending_of_add entered nonempty') (by omega)
        freshAfter (by exact_mod_cast enough)

/-- A server with a local node and two domains: 7 is hosted there and forwarded to another server, 8
is neither. -/
def twoDomains : DPSReplicationTracker where
  tracker := .initial
  cluster :=
    ((Cluster.initial.nodeUpdateLocal .inet (.v4 1) 902 0 0).startThreads.nodeAddDomain 0 7 1).1
  forwardNodes := ((∅ : Dict Nat (Dict IPValue IPAddressLocation)).insert 8 ∅).insert 7
    ((∅ : Dict IPValue IPAddressLocation).insert (.v4 2) (.create .inet (.v4 2) 902))
  queryId := 1

/-- A request for domain 7 has a replica at each server, and the one forwarded to does not reply. -/
theorem accepted_request_is_answered_iff_two_replicas :
    (twoDomains.replicationQueryIDGenerate 7 .normal 42).2.2.2 = [1, 2] ∧
      (run step (twoDomains.step (.generate 7 .normal 42))
        [.tick, .reply 1 0, .tick, .tick]).tracker.answers 0 ≠ [] :=
  ⟨by decide +kernel, (accepted_request_is_answered_iff twoDomains rfl [] True.intro 7 .normal 42
    (by decide +kernel) (by decide +kernel)).mpr (.inr ⟨_, rfl, nofun⟩)
    [.tick, .reply 1 0, .tick, .tick] (by decide +kernel) (by decide)⟩

/-- A replicated request for the forwarded domain: the choice of nodes says retry, the request is
accepted, and no number of ticks answers it. -/
theorem accepted_request_is_never_answered :
    twoDomains.replicationDetermineDPSNodes 7 .replication = some (dpsErrorRetry, []) ∧
    (twoDomains.replicationQueryIDGenerate 7 .replication 42).2.1 = dpsErrorNone ∧
    ∀ count, (run step (twoDomains.step (.generate 7 .replication 42))
      (List.replicate count .tick)).tracker.answers 0 = [] := by
  refine ⟨by decide +kernel, by decide +kernel, fun count => silent_ticks count ?_ ?_⟩
  · intro queryId found
    have none : (twoDomains.step (.generate 7 .replication 42)).tracker.serverQueryIDHash = ∅ := rfl
    rw [none] at found
    cases found
  · decide +kernel

/-! ## The verdict of the choice of nodes -/

/-- The choice of nodes decides that the client must retry: it says so, or it raises because the
domain or the local node is not there yet. -/
def retries (s : DPSReplicationTracker) (msgDomainId : Nat) (transactionType : TransactionType) :
    Bool :=
  (s.replicationDetermineDPSNodes msgDomainId transactionType).all (·.1 = dpsErrorRetry)

/-- The client is told to retry whenever the choice of nodes decides so, and nothing is tracked for
it, exactly for requests that are not replications of a domain with nodes to forward to. -/
theorem retry_verdict_reaches_client_iff (s : DPSReplicationTracker) (msgDomainId : Nat)
    (transactionType : TransactionType) (replyMessage : Nat) :
    (s.retries msgDomainId transactionType →
      (s.replicationQueryIDGenerate msgDomainId transactionType replyMessage).2.1 = dpsErrorRetry ∧
      (s.replicationQueryIDGenerate msgDomainId transactionType
        replyMessage).1.tracker.serverQueryIDHash = s.tracker.serverQueryIDHash) ↔
    (transactionType = .replication →
      ∀ forward ∈ s.forwardNodes.lookup msgDomainId, Dict.size forward = 0) := by
  constructor
  · rintro relayed rfl forward found
    by_contra forwards
    have verdict : s.replicationDetermineDPSNodes msgDomainId .replication =
        some (dpsErrorRetry, []) := by
      simp only [replicationDetermineDPSNodes, show s.forwardNodes.lookup msgDomainId = _ from found]
      exact if_pos (Nat.pos_of_ne_zero forwards)
    have status := (relayed (by simp [retries, verdict])).1
    simp [replicationQueryIDGenerate, verdict, generateQueryIds,
      DPSDomainReplicationTracker.addReplicationRequest, dpsErrorNone, dpsErrorRetry] at status
  · intro unforwarded retries
    unfold replicationQueryIDGenerate
    cases chosen : s.replicationDetermineDPSNodes msgDomainId transactionType with
    | none => exact ⟨rfl, rfl⟩
    | some choice =>
      obtain ⟨status, dpsNodes⟩ := choice
      have verdict : status = dpsErrorRetry := by
        simpa [DPSReplicationTracker.retries, chosen] using retries
      have mapped : ∀ {α : Type} {found : Option α} {nodes : α → List ReplicationTarget},
          found.map (fun item => (dpsErrorNone, nodes item)) = some (status, dpsNodes) →
          status = dpsErrorNone := by
        intro α found nodes same
        obtain ⟨item, -, same⟩ := Option.map_eq_some_iff.mp same
        exact (congrArg Prod.fst same).symm
      have none : status = dpsErrorNone := by
        unfold replicationDetermineDPSNodes at chosen
        split at chosen
        · exact mapped chosen
        · split at chosen
          · exact (congrArg Prod.fst (Option.some.inj chosen)).symm
          · next forward known =>
            rw [if_neg (by simp [unforwarded rfl forward known])] at chosen
            exact mapped chosen
        · exact mapped chosen
        · exact (congrArg Prod.fst (Option.some.inj chosen)).symm
      rw [none] at verdict
      cases verdict

/-- A replicated request for the forwarded domain is accepted, although the choice of nodes decides
that the client must retry. -/
theorem retry_verdict_is_overwritten :
    twoDomains.retries 7 .replication ∧
      (twoDomains.replicationQueryIDGenerate 7 .replication 42).2.1 ≠ dpsErrorRetry := by
  decide +kernel

end DPSReplicationTracker

end OpenDove
