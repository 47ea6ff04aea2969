import OpenDove.Dictionary
import OpenDove.Runs

/-!
# Replicated requests

A client request that is replicated waits for a reply from every replica. The tracker maps the
query ids of all outstanding replicas to their requests. Replies, timer ticks and the deletion of
the tracker all work on that map, and each of them can send the reply to the client.

A request object is a number, and the tracker maps the number to the fields of the object. What is
sent to clients is kept in order, with the request that sent it.
-/

namespace OpenDove

/-- `dps_error_none`. -/
def dpsErrorNone : Nat := 0
/-- `dps_error_retry`. -/
def dpsErrorRetry : Nat := 16
/-- `DOVE_STATUS_INVALID_DOMAIN`. -/
def doveStatusInvalidDomain : Nat := 15

/-- `DPSReplicationRequest`. The reply message is a handle of the message to the client, and is
gone once it is sent. -/
structure DPSReplicationRequest where
  timerExpirationCount : Int
  queryIds : Dict Nat Unit
  replyMessage : Option Nat

/-- What a routine of a request does: the request after it, the query ids it gives up, and the
message it sends with its status. -/
structure RequestOutcome where
  request : DPSReplicationRequest
  listRemove : List Nat
  sends : Option (Nat × Nat)

namespace DPSReplicationRequest

/-- `Timer_Expiration_Count`. -/
def timerExpirationMax : Int := 3

/-- The constructor. -/
def create (queryIdList : List Nat) (replyMessage : Option Nat) : DPSReplicationRequest :=
  { timerExpirationCount := timerExpirationMax
    queryIds := queryIdList.foldl (fun ids queryId => ids.insert queryId ()) ∅
    replyMessage }

variable (request : DPSReplicationRequest)

/-- Send the reply, if it is not sent yet, and give up query ids. -/
def answer (error : Nat) (listRemove : List Nat) : RequestOutcome :=
  { request := { request with replyMessage := none }
    listRemove
    sends := request.replyMessage.map fun message => (message, error) }

/-- `process_replication_reply` of a request. -/
def processReplicationReply (queryId error : Nat) : RequestOutcome :=
  if error = dpsErrorNone then
    let (request, listRemove) :=
      if (request.queryIds.lookup queryId).isSome then
        ({ request with
            queryIds := request.queryIds.erase queryId
            timerExpirationCount := request.timerExpirationCount - timerExpirationMax }, [queryId])
      else (request, [])
    if Dict.size request.queryIds = 0 then
      { request with timerExpirationCount := 0 }.answer error listRemove
    else { request, listRemove, sends := none }
  else { request with queryIds := ∅ }.answer error request.queryIds.keys

/-- `timer` of a request. The query ids stay in the request. -/
def timer : RequestOutcome :=
  let request := { request with timerExpirationCount := request.timerExpirationCount - 1 }
  if request.timerExpirationCount ≤ 0 then request.answer dpsErrorRetry request.queryIds.keys
  else { request, listRemove := [], sends := none }

end DPSReplicationRequest

/-- A reference to a request object. -/
abbrev RequestId := Nat

/-- One call of `send_message_and_free`. -/
structure SentReply where
  request : RequestId
  message : Nat
  error : Nat
  deriving DecidableEq, Repr

/-- `DPSDomainReplicationTracker`. `request` gives the fields of the request objects; those from
`nextRequest` on have not been created. -/
structure DPSDomainReplicationTracker where
  serverQueryIDHash : Dict Nat RequestId
  request : RequestId → DPSReplicationRequest
  nextRequest : RequestId
  sent : List SentReply

namespace DPSDomainReplicationTracker

/-- A tracker without requests. -/
def initial : DPSDomainReplicationTracker :=
  { serverQueryIDHash := ∅, request := fun _ => .create [] none, nextRequest := 0, sent := [] }

/-- `max_replication_requests`. -/
def maxReplicationRequests : Nat := 4000

variable (s : DPSDomainReplicationTracker)

/-- `add_replication_request`. A query id that is in use is taken over: the exception for it is
caught where it is raised. -/
def addReplicationRequest (queryIdList : List Nat) (replyMessage : Option Nat) :
    Option DPSDomainReplicationTracker :=
  if queryIdList.length > maxReplicationRequests then none
  else
    some { s with
      request := Function.update s.request s.nextRequest (.create queryIdList replyMessage)
      nextRequest := s.nextRequest + 1
      serverQueryIDHash := queryIdList.foldl
        (fun table queryId => table.insert queryId s.nextRequest) s.serverQueryIDHash }

/-- Record what a routine of a request did, and remove the query ids it gave up. -/
def settle (self : RequestId) (outcome : RequestOutcome) : DPSDomainReplicationTracker :=
  { s with
    request := Function.update s.request self outcome.request
    serverQueryIDHash := s.serverQueryIDHash.eraseAll outcome.listRemove
    sent := s.sent ++ (outcome.sends.map fun (message, error) =>
      { request := self, message, error : SentReply }).toList }

/-- Run a routine of the request that waits for a query id, if there is one. -/
def onRequest (queryId : Nat) (routine : DPSReplicationRequest → RequestOutcome) :
    DPSDomainReplicationTracker :=
  match s.serverQueryIDHash.lookup queryId with
  | none => s
  | some self => s.settle self (routine (s.request self))

/-- `process_replication_reply` of the tracker. -/
def processReplicationReply (s : DPSDomainReplicationTracker) (queryId error : Nat) :
    DPSDomainReplicationTracker :=
  s.onRequest queryId (·.processReplicationReply queryId error)

/-- `delete`: every outstanding query id is answered with an error. -/
def delete : DPSDomainReplicationTracker :=
  { s.serverQueryIDHash.keys.foldl
      (fun s queryId => s.processReplicationReply queryId doveStatusInvalidDomain) s with
    serverQueryIDHash := ∅ }

/-- `timer`: the loop visits a request once for each of its outstanding query ids. -/
def timer (s : DPSDomainReplicationTracker) : DPSDomainReplicationTracker :=
  s.serverQueryIDHash.keys.foldl (fun s queryId => s.onRequest queryId (·.timer)) s

/-- The replies that a request has sent, by their status. -/
def answers (self : RequestId) : List Nat :=
  (s.sent.filter (·.request = self)).map (·.error)

end DPSDomainReplicationTracker

/-- What can happen to a tracker. -/
inductive ReplicationEvent where
  | add (queryIdList : List Nat) (replyMessage : Option Nat)
  | reply (queryId error : Nat)
  | tick
  | delete
  deriving DecidableEq

/-- One event. A request with too many query ids is turned away. -/
def DPSDomainReplicationTracker.step (s : DPSDomainReplicationTracker) :
    ReplicationEvent → DPSDomainReplicationTracker
  | .add queryIdList replyMessage => (s.addReplicationRequest queryIdList replyMessage).getD s
  | .reply queryId error => s.processReplicationReply queryId error
  | .tick => s.timer
  | .delete => s.delete

/-! ## What a routine can do -/

/-- A routine of a request either waits on, having given up only query ids whose success it just
saw, or answers. An answer gives up all query ids, and is a success only if they all
succeeded. -/
inductive RequestOutcome.Allowed (request : DPSReplicationRequest) (succeeded : Nat → Prop) :
    RequestOutcome → Prop
  | waits {outcome : RequestOutcome} (silent : outcome.sends = none)
      (open' : outcome.request.replyMessage = request.replyMessage)
      (rest : ∀ queryId, queryId ∈ outcome.request.queryIds ↔
        queryId ∈ request.queryIds ∧ queryId ∉ outcome.listRemove)
      (nonempty : request.queryIds.keys ≠ [] → outcome.request.queryIds.keys ≠ [])
      (own : ∀ queryId ∈ outcome.listRemove, queryId ∈ request.queryIds ∧ succeeded queryId) :
      Allowed request succeeded outcome
  | answers {outcome : RequestOutcome} (error : Nat)
      (sends : outcome.sends = request.replyMessage.map fun message => (message, error))
      (closed : outcome.request.replyMessage = none)
      (all : ∀ queryId, queryId ∈ outcome.listRemove ↔ queryId ∈ request.queryIds)
      (success : error = dpsErrorNone → ∀ queryId ∈ request.queryIds, succeeded queryId) :
      Allowed request succeeded outcome

variable {items : List Nat} {succeeded' : Nat → Prop} {table : Dict Nat Unit}
  (request : DPSReplicationRequest) (s : DPSDomainReplicationTracker) (self : RequestId)
  (queryId : Nat)

theorem RequestOutcome.Allowed.mono {request : DPSReplicationRequest} {succeeded : Nat → Prop}
    {outcome : RequestOutcome} (allowed : outcome.Allowed request succeeded)
    (more : ∀ queryId, succeeded queryId → succeeded' queryId) :
    outcome.Allowed request succeeded' := by
  cases allowed with
  | waits silent still rest nonempty own =>
    exact .waits silent still rest nonempty fun queryId removed =>
      ⟨(own queryId removed).1, more queryId (own queryId removed).2⟩
  | answers error sends closed all success =>
    exact .answers error sends closed all fun none queryId inside =>
      more queryId (success none queryId inside)

namespace DPSReplicationRequest

theorem keys_eq_nil_iff : table.keys = [] ↔ ∀ key, key ∉ table := by
  rw [List.eq_nil_iff_forall_not_mem]
  rfl

theorem size_eq_zero_iff : Dict.size table = 0 ↔ table.keys = [] := by
  unfold Dict.size AList.keys List.keys
  rw [List.length_eq_zero_iff, List.map_eq_nil_iff]

theorem processReplicationReply_allowed (error : Nat) :
    RequestOutcome.Allowed request (fun other => other = queryId ∧ error = dpsErrorNone)
      (request.processReplicationReply queryId error) := by
  unfold processReplicationReply
  split
  · next success =>
    by_cases known : (request.queryIds.lookup queryId).isSome
    · have member : queryId ∈ request.queryIds := AList.lookup_isSome.mp known
      simp only [known, if_true]
      split
      · next last =>
        -- The last outstanding replica has succeeded.
        have only : ∀ other ∈ request.queryIds, other = queryId := by
          intro other inside
          by_contra differs
          have left := keys_eq_nil_iff.mp (size_eq_zero_iff.mp last) other
          exact left (AList.mem_erase.mpr ⟨differs, inside⟩)
        refine .answers error rfl rfl ?_ ?_
        · intro other
          refine ⟨fun removed => ?_, fun inside => ?_⟩
          · rw [List.mem_singleton.mp removed]
            exact member
          · exact List.mem_singleton.mpr (only other inside)
        · exact fun _ other inside => ⟨only other inside, success⟩
      · next more =>
        refine .waits rfl rfl ?_ ?_ ?_
        · intro other
          simp [AList.mem_erase, and_comm]
        · exact fun _ none => more (size_eq_zero_iff.mpr none)
        · intro other removed
          obtain rfl := List.mem_singleton.mp removed
          exact ⟨member, rfl, success⟩
    · simp only [known, Bool.false_eq_true, if_false]
      split
      · next none =>
        have empty := keys_eq_nil_iff.mp (size_eq_zero_iff.mp none)
        refine .answers error rfl rfl ?_ ?_
        · intro other
          refine ⟨fun removed => ?_, fun inside => absurd inside (empty other)⟩
          cases removed
        · exact fun _ other inside => absurd inside (empty other)
      · next more =>
        refine .waits rfl rfl ?_ id ?_
        · intro other
          simp
        · intro other removed
          cases removed
  · next failure =>
    refine .answers error rfl rfl (fun other => Iff.rfl) ?_
    exact fun success => absurd success failure

theorem timer_allowed (succeeded : Nat → Prop) :
    RequestOutcome.Allowed request succeeded request.timer := by
  unfold timer
  dsimp only
  split
  · refine .answers dpsErrorRetry rfl rfl (fun other => Iff.rfl) ?_
    intro success
    cases success
  · refine .waits rfl rfl ?_ id ?_
    · intro other
      simp
    · intro other removed
      cases removed

end DPSReplicationRequest

/-! ## Runs -/

namespace DPSDomainReplicationTracker

/-- The requests that the tracker knows or that sent a reply exist. -/
structure Created (s : DPSDomainReplicationTracker) : Prop where
  tracked : ∀ queryId self, s.serverQueryIDHash.lookup queryId = some self → self < s.nextRequest
  sent : ∀ reply ∈ s.sent, reply.request < s.nextRequest

theorem answers_settle (other : RequestId) (outcome : RequestOutcome) :
    (s.settle self outcome).answers other =
      s.answers other ++ if other = self then (outcome.sends.map Prod.snd).toList else [] := by
  unfold answers settle
  cases outcome.sends with
  | none => simp
  | some reply =>
    by_cases same : other = self
    · subst same
      simp [List.filter_append]
    · have differs : ¬ self = other := fun equal => same equal.symm
      simp [List.filter_append, same, differs]

theorem lookup_settle (outcome : RequestOutcome) (queryId : Nat) :
    (s.settle self outcome).serverQueryIDHash.lookup queryId =
      if queryId ∈ outcome.listRemove then none else s.serverQueryIDHash.lookup queryId :=
  Dict.lookup_eraseAll ..

namespace Created

variable {s : DPSDomainReplicationTracker}

variable (created : s.Created)

include created

theorem settle {self : RequestId} (known : self < s.nextRequest)
    (outcome : RequestOutcome) : (s.settle self outcome).Created where
  tracked := fun queryId other found => created.tracked queryId other (Dict.lookup_of_eraseAll found)
  sent := by
    intro reply inside
    rcases List.mem_append.mp inside with before | now
    · exact created.sent reply before
    · cases sends : outcome.sends with
      | none => simp [sends] at now
      | some message =>
        simp only [sends, Option.map_some, Option.toList_some, List.mem_singleton] at now
        rw [now]
        exact known

theorem onRequest
    (routine : DPSReplicationRequest → RequestOutcome) : (s.onRequest queryId routine).Created := by
  unfold DPSDomainReplicationTracker.onRequest
  split
  · exact created
  · next self found => exact created.settle (created.tracked queryId self found) _

theorem foldl
    {body : DPSDomainReplicationTracker → Nat → DPSDomainReplicationTracker}
    (round : ∀ s : DPSDomainReplicationTracker, s.Created → ∀ item, (body s item).Created) :
    (items.foldl body s).Created :=
  List.foldlRecOn items body created fun s created item _ => round s created item

theorem step (event : ReplicationEvent) : (s.step event).Created := by
  cases event with
  | add queryIdList replyMessage =>
    unfold DPSDomainReplicationTracker.step addReplicationRequest
    dsimp only
    split
    · exact created
    · constructor
      · intro queryId self found
        simp only [Option.getD_some, Dict.lookup_foldl_insert] at found ⊢
        split at found
        · rw [← Option.some.inj found]
          exact Nat.lt_succ_self _
        · exact Nat.lt_succ_of_lt (created.tracked queryId self found)
      · exact fun reply inside => Nat.lt_succ_of_lt (created.sent reply inside)
  | reply queryId error => exact created.onRequest queryId (·.processReplicationReply queryId error)
  | tick => exact foldl created fun s created queryId => created.onRequest queryId (·.timer)
  | delete =>
    have answered : (s.serverQueryIDHash.keys.foldl (fun s queryId =>
        s.processReplicationReply queryId doveStatusInvalidDomain) s).Created :=
      foldl created fun s created queryId =>
        created.onRequest queryId (·.processReplicationReply queryId doveStatusInvalidDomain)
    constructor
    · intro queryId self found
      cases found
    · exact answered.sent

/-- A request that does not exist yet has sent nothing. -/
theorem unanswered : s.answers s.nextRequest = [] := by
  unfold answers
  rw [List.filter_eq_nil_iff.mpr, List.map_nil]
  intro reply inside
  have older := created.sent reply inside
  simpa using Nat.ne_of_lt older

omit created

theorem initial : DPSDomainReplicationTracker.initial.Created := by
  constructor
  · intro queryId self found
    cases found
  · intro reply inside
    cases inside

end Created

/-- A request with its query ids, of which the given ones have succeeded. As long as it is open,
the ones that have not succeeded are outstanding; once it is answered, none is tracked. -/
structure Tracked (s : DPSDomainReplicationTracker) (target : RequestId) (queryIdList : List Nat)
    (succeeded : Nat → Prop) : Prop where
  created : target < s.nextRequest
  hosted : ∀ queryId ∈ queryIdList, s.serverQueryIDHash.lookup queryId = none ∨
    s.serverQueryIDHash.lookup queryId = some target ∧ queryId ∈ (s.request target).queryIds
  owned : ∀ queryId, s.serverQueryIDHash.lookup queryId = some target → queryId ∈ queryIdList
  waiting : (s.request target).replyMessage ≠ none → ∀ queryId ∈ queryIdList,
    queryId ∈ (s.request target).queryIds ∨ succeeded queryId
  once : s.answers target = [] ∨
    (∃ error, s.answers target = [error] ∧
      (error = dpsErrorNone → ∀ queryId ∈ queryIdList, succeeded queryId)) ∧
    ∀ queryId ∈ queryIdList, s.serverQueryIDHash.lookup queryId = none

namespace Tracked

variable {s : DPSDomainReplicationTracker} {self : RequestId} {queryIdList : List Nat}
  {succeeded : Nat → Prop}

variable (tracked : s.Tracked self queryIdList succeeded)

include tracked

theorem mono
    (more : ∀ queryId, succeeded queryId → succeeded' queryId) :
    s.Tracked self queryIdList succeeded' where
  created := tracked.created
  hosted := tracked.hosted
  owned := tracked.owned
  waiting := fun still queryId inside =>
    (tracked.waiting still queryId inside).imp_right (more queryId)
  once := tracked.once.imp_right fun ⟨⟨error, answered, success⟩, gone⟩ =>
    ⟨⟨error, answered, fun none queryId inside => more queryId (success none queryId inside)⟩, gone⟩

/-- A routine of another request. -/
theorem settle_other {other : RequestId}
    (differs : other ≠ self) (outcome : RequestOutcome) :
    (s.settle other outcome).Tracked self queryIdList succeeded := by
  have same : (s.settle other outcome).request self = s.request self :=
    Function.update_of_ne differs.symm ..
  have answers : (s.settle other outcome).answers self = s.answers self := by
    rw [answers_settle, if_neg differs.symm, List.append_nil]
  constructor
  · exact tracked.created
  · intro queryId inside
    rw [lookup_settle, same]
    split
    · exact .inl rfl
    · exact tracked.hosted queryId inside
  · intro queryId found
    exact tracked.owned queryId (Dict.lookup_of_eraseAll found)
  · rw [same]
    exact tracked.waiting
  · rw [answers]
    refine tracked.once.imp_right fun ⟨answered, gone⟩ => ⟨answered, fun queryId inside => ?_⟩
    rw [lookup_settle, gone queryId inside, ite_self]

/-- A routine of the request itself, which runs only while it is not answered. -/
theorem settle_self
    (unanswered : s.answers self = []) {outcome : RequestOutcome}
    (allowed : outcome.Allowed (s.request self) succeeded) :
    (s.settle self outcome).Tracked self queryIdList succeeded := by
  have request : (s.settle self outcome).request self = outcome.request :=
    Function.update_self ..
  have answers : (s.settle self outcome).answers self = (outcome.sends.map Prod.snd).toList := by
    rw [answers_settle, if_pos rfl, unanswered, List.nil_append]
  cases allowed with
  | waits silent still rest nonempty own =>
    constructor
    · exact tracked.created
    · intro queryId inside
      rw [lookup_settle, request]
      split
      · exact .inl rfl
      · next kept =>
        refine (tracked.hosted queryId inside).imp_right fun ⟨found, outstanding⟩ => ?_
        exact ⟨found, (rest queryId).mpr ⟨outstanding, kept⟩⟩
    · intro queryId found
      exact tracked.owned queryId (Dict.lookup_of_eraseAll found)
    · rw [request, still]
      intro unsent queryId inside
      rcases tracked.waiting unsent queryId inside with outstanding | success
      · by_cases removed : queryId ∈ outcome.listRemove
        · exact .inr (own queryId removed).2
        · exact .inl ((rest queryId).mpr ⟨outstanding, removed⟩)
      · exact .inr success
    · left
      rw [answers, silent]
      rfl
  | answers error sends closed all success =>
    have gone : ∀ queryId ∈ queryIdList,
        (s.settle self outcome).serverQueryIDHash.lookup queryId = none := by
      intro queryId inside
      rw [lookup_settle]
      rcases tracked.hosted queryId inside with free | ⟨_, outstanding⟩
      · rw [free, ite_self]
      · rw [if_pos ((all queryId).mpr outstanding)]
    constructor
    · exact tracked.created
    · exact fun queryId inside => .inl (gone queryId inside)
    · exact fun queryId found => tracked.owned queryId (Dict.lookup_of_eraseAll found)
    · rw [request, closed]
      exact fun unsent => absurd rfl unsent
    · rw [answers, sends]
      cases message : (s.request self).replyMessage with
      | none => exact .inl rfl
      | some handle =>
        refine .inr ⟨⟨error, rfl, ?_⟩, gone⟩
        intro none queryId inside
        have unsent : (s.request self).replyMessage ≠ .none := by simp [message]
        exact (tracked.waiting unsent queryId inside).elim (success none queryId) id

theorem onRequest (routine : DPSReplicationRequest → RequestOutcome)
    (allowed : ∀ request, (routine request).Allowed request succeeded) :
    (s.onRequest queryId routine).Tracked self queryIdList succeeded := by
  unfold DPSDomainReplicationTracker.onRequest
  split
  · exact tracked
  · next other found =>
    by_cases same : other = self
    · subst same
      refine tracked.settle_self (tracked.once.resolve_right ?_) (allowed _)
      rintro ⟨-, gone⟩
      rw [gone queryId (tracked.owned queryId found)] at found
      cases found
    · exact tracked.settle_other same _

/-- Another request with other query ids. -/
theorem add (others : List Nat)
    (replyMessage : Option Nat) (apart : ∀ queryId ∈ others, queryId ∉ queryIdList) :
    (s.step (.add others replyMessage)).Tracked self queryIdList succeeded := by
  unfold step addReplicationRequest
  dsimp only
  split
  · exact tracked
  · have differs : self ≠ s.nextRequest := Nat.ne_of_lt tracked.created
    have elsewhere : ∀ queryId ∈ queryIdList, queryId ∉ others :=
      fun queryId inside other => apart queryId other inside
    dsimp only [Option.getD_some]
    constructor
    · exact Nat.lt_succ_of_lt tracked.created
    · intro queryId inside
      simp only [Dict.lookup_foldl_insert, elsewhere queryId inside, if_false,
        Function.update_of_ne differs]
      exact tracked.hosted queryId inside
    · intro queryId found
      simp only [Dict.lookup_foldl_insert] at found
      split at found
      · exact absurd (Option.some.inj found).symm differs
      · exact tracked.owned queryId found
    · simp only [Function.update_of_ne differs]
      exact tracked.waiting
    · refine tracked.once.imp_right fun ⟨answered, gone⟩ => ⟨answered, fun queryId inside => ?_⟩
      simp only [Dict.lookup_foldl_insert, elsewhere queryId inside, if_false]
      exact gone queryId inside

theorem foldl
    (routine : Nat → DPSReplicationRequest → RequestOutcome)
    (allowed : ∀ queryId request, (routine queryId request).Allowed request succeeded) :
    (items.foldl (fun s queryId => s.onRequest queryId (routine queryId)) s).Tracked self
      queryIdList succeeded := by
  induction items generalizing s with
  | nil => exact tracked
  | cons queryId items ih =>
    exact ih (tracked.onRequest queryId (routine queryId) (allowed queryId))

/-- One event. A reply with success adds its query id to those that have succeeded. -/
theorem step (event : ReplicationEvent)
    (apart : ∀ others replyMessage, event = .add others replyMessage →
      ∀ queryId ∈ others, queryId ∉ queryIdList) :
    (s.step event).Tracked self queryIdList
      (fun queryId => succeeded queryId ∨ event = .reply queryId dpsErrorNone) := by
  have later := tracked.mono fun queryId success =>
    Or.inl (b := event = .reply queryId dpsErrorNone) success
  cases event with
  | add others replyMessage => exact later.add others replyMessage (apart others replyMessage rfl)
  | reply queryId error =>
    refine later.onRequest queryId (·.processReplicationReply queryId error) fun request => ?_
    refine (request.processReplicationReply_allowed queryId error).mono ?_
    rintro other ⟨rfl, rfl⟩
    exact .inr rfl
  | tick => exact later.foldl (fun _ => (·.timer)) fun _ request => request.timer_allowed _
  | delete =>
    have answered : (s.serverQueryIDHash.keys.foldl (fun s queryId =>
        s.processReplicationReply queryId doveStatusInvalidDomain) s).Tracked self queryIdList
        (fun queryId => succeeded queryId ∨ ReplicationEvent.delete = .reply queryId dpsErrorNone) := by
      refine later.foldl (fun queryId => (·.processReplicationReply queryId doveStatusInvalidDomain))
        fun queryId request => ?_
      refine (request.processReplicationReply_allowed queryId doveStatusInvalidDomain).mono ?_
      rintro other ⟨-, success⟩
      cases success
    constructor
    · exact answered.created
    · exact fun queryId _ => .inl rfl
    · intro queryId found
      cases found
    · exact answered.waiting
    · exact answered.once.imp_right fun ⟨once, _⟩ => ⟨once, fun queryId _ => rfl⟩

/-- A whole run. -/
theorem run (events : List ReplicationEvent)
    (apart : ∀ others replyMessage, .add others replyMessage ∈ events →
      ∀ queryId ∈ others, queryId ∉ queryIdList) :
    (run DPSDomainReplicationTracker.step s events).Tracked self queryIdList
      (fun queryId => succeeded queryId ∨ .reply queryId dpsErrorNone ∈ events) := by
  induction events generalizing s succeeded with
  | nil => exact tracked.mono fun _ success => .inl success
  | cons event events ih =>
    have next := tracked.step event fun others replyMessage added =>
      apart others replyMessage (added ▸ List.mem_cons_self)
    have rest := ih next fun others replyMessage later =>
      apart others replyMessage (List.mem_cons_of_mem _ later)
    refine rest.mono ?_
    rintro queryId ((success | now) | later)
    · exact .inl success
    · exact .inr (now ▸ List.mem_cons_self)
    · exact .inr (List.mem_cons_of_mem _ later)

end Tracked

/-- A new request waits for all its query ids. -/
theorem tracked_add {s : DPSDomainReplicationTracker} (created : s.Created) (queryIdList : List Nat)
    (replyMessage : Option Nat) (fits : queryIdList.length ≤ maxReplicationRequests) :
    (s.step (.add queryIdList replyMessage)).Tracked s.nextRequest queryIdList fun _ => False := by
  have outstanding : ∀ queryId ∈ queryIdList,
      queryId ∈ (DPSReplicationRequest.create queryIdList replyMessage).queryIds := by
    intro queryId inside
    refine AList.lookup_isSome.mp ?_
    simp [DPSReplicationRequest.create, Dict.lookup_foldl_insert, inside]
  unfold step addReplicationRequest
  simp only [Nat.not_lt.mpr fits, if_false, Option.getD_some]
  constructor
  · exact Nat.lt_succ_self _
  · intro queryId inside
    right
    rw [Dict.lookup_foldl_insert, if_pos inside]
    refine ⟨rfl, ?_⟩
    simp only [Function.update_self]
    exact outstanding queryId inside
  · intro queryId found
    simp only [Dict.lookup_foldl_insert] at found
    split at found
    · next inside => exact inside
    · exact absurd (created.tracked queryId _ found) (Nat.lt_irrefl _)
  · simp only [Function.update_self]
    exact fun _ queryId inside => .inl (outstanding queryId inside)
  · exact .inl created.unanswered

/-- A request is answered at most once. It is answered with success only if a reply with success
came for each of its query ids. Once it is answered, none of them is tracked. The query ids of
requests that come later are others. -/
theorem replicated_request_is_answered_once (before after : List ReplicationEvent)
    (queryIdList : List Nat) (replyMessage : Option Nat)
    (fits : queryIdList.length ≤ maxReplicationRequests)
    (apart : ∀ others otherMessage, .add others otherMessage ∈ after →
      ∀ queryId ∈ others, queryId ∉ queryIdList) :
    let self := (run step initial before).nextRequest
    let s := run step initial (before ++ .add queryIdList replyMessage :: after)
    (s.answers self).length ≤ 1 ∧
      (dpsErrorNone ∈ s.answers self →
        ∀ queryId ∈ queryIdList, .reply queryId dpsErrorNone ∈ after) ∧
      (s.answers self ≠ [] → ∀ queryId ∈ queryIdList, queryId ∉ s.serverQueryIDHash) := by
  intro self s
  have created : (run step initial before).Created :=
    List.foldlRecOn before step Created.initial fun _ created event _ => created.step event
  have tracked : s.Tracked self queryIdList
      (fun queryId => False ∨ .reply queryId dpsErrorNone ∈ after) := by
    have rest := (tracked_add created queryIdList replyMessage fits).run after apart
    simpa only [self, s, run, List.foldl_append, List.foldl_cons] using rest
  rcases tracked.once with unanswered | ⟨⟨error, answered, success⟩, gone⟩
  · simp [unanswered]
  · refine ⟨by simp [answered], ?_, ?_⟩
    · intro positive queryId inside
      rw [answered, List.mem_singleton] at positive
      exact (success positive.symm queryId inside).resolve_left id
    · intro _ queryId inside member
      obtain ⟨other, found⟩ := (Dict.mem_iff_lookup ..).mp member
      rw [gone queryId inside] at found
      cases found

/-- Two replicas: the first replies twice, the timer answers with retry, and the second comes too
late. -/
theorem replicated_request_is_answered_once_two_replicas :
    let s := run step initial [.add [7, 8] (some 1), .reply 7 0, .reply 7 0, .reply 9 3, .tick,
      .reply 8 0, .delete]
    (s.answers 0).length ≤ 1 :=
  (replicated_request_is_answered_once [] [.reply 7 0, .reply 7 0, .reply 9 3, .tick, .reply 8 0,
    .delete] [7, 8] (some 1) (by decide) (by simp)).1

/-! ## The number of outstanding query ids -/

/-- The number of outstanding query ids. -/
def outstanding (s : DPSDomainReplicationTracker) : Nat := Dict.size s.serverQueryIDHash

/-- The query ids of a new request are none of the outstanding ones, and there is room for all of
them, unless the request alone has too many. -/
def HasRoom (s : DPSDomainReplicationTracker) : ReplicationEvent → Prop
  | .add queryIdList _ => maxReplicationRequests < queryIdList.length ∨
      s.outstanding + queryIdList.length ≤ maxReplicationRequests ∧
        ∀ queryId ∈ queryIdList, queryId ∉ s.serverQueryIDHash
  | _ => True

instance (s : DPSDomainReplicationTracker) (event : ReplicationEvent) :
    Decidable (s.HasRoom event) := by
  cases event <;> unfold HasRoom <;> infer_instance

theorem outstanding_onRequest (routine : DPSReplicationRequest → RequestOutcome) :
    (s.onRequest queryId routine).outstanding ≤ s.outstanding := by
  unfold onRequest
  split
  · exact le_rfl
  · refine List.foldlRecOn (motive := fun table => Dict.size table ≤ s.outstanding) _ _ le_rfl ?_
    exact fun table fits key _ => Nat.le_trans (Dict.size_erase_le table key) fits

theorem outstanding_step (event : ReplicationEvent)
    (bounded : s.outstanding ≤ maxReplicationRequests) (room : s.HasRoom event) :
    (s.step event).outstanding ≤ maxReplicationRequests := by
  cases event with
  | add queryIdList replyMessage =>
    simp only [step, addReplicationRequest]
    split
    · exact bounded
    · next fits =>
      exact Nat.le_trans (Dict.size_foldl_insert_le ..) (room.resolve_left fits).1
  | reply queryId error => exact Nat.le_trans (s.outstanding_onRequest queryId _) bounded
  | tick =>
    refine List.foldlRecOn (motive := fun t => outstanding t ≤ maxReplicationRequests) _ _ bounded ?_
    exact fun t bounded queryId _ => Nat.le_trans (t.outstanding_onRequest queryId _) bounded
  | delete => exact Nat.zero_le _

/-- In a run whose requests bring only new query ids, as many as there is room for, the outstanding
query ids never exceed the maximum, and a request with an outstanding query id is refused. -/
theorem outstanding_query_ids_are_bounded (events : List ReplicationEvent)
    (admissible : Admissible step HasRoom initial events) :
    (run step initial events).outstanding ≤ maxReplicationRequests ∧
    ∀ before queryIdList replyMessage, events = before ++ [.add queryIdList replyMessage] →
      (∃ queryId ∈ queryIdList, queryId ∈ (run step initial before).serverQueryIDHash) →
      (run step initial before).addReplicationRequest queryIdList replyMessage = none := by
  refine ⟨run_invariant (outstanding · ≤ maxReplicationRequests) outstanding_step
    (Nat.zero_le _) admissible, ?_⟩
  rintro before queryIdList replyMessage rfl ⟨queryId, listed, taken⟩
  refine if_pos (admissible.last.resolve_right ?_)
  exact fun fresh => fresh.2 queryId listed taken

/-- Requests with one query id each, all different. -/
def singles (count : Nat) : List ReplicationEvent := (List.range count).map (.add [·] none)

theorem outstanding_singles (count : Nat) : (run step initial (singles count)).outstanding = count ∧
    ∀ queryId ∈ (run step initial (singles count)).serverQueryIDHash, queryId < count := by
  induction count with
  | zero => exact ⟨rfl, fun queryId inside => absurd inside (AList.notMem_empty queryId)⟩
  | succ count ih =>
    have last : run step initial (singles (count + 1)) =
        (run step initial (singles count)).step (.add [count] none) := by
      simp [singles, List.range_succ, run]
    rw [last]
    have fresh : (run step initial (singles count)).serverQueryIDHash.lookup count = none :=
      AList.lookup_eq_none.mpr fun inside => Nat.lt_irrefl count (ih.2 count inside)
    refine ⟨(Dict.size_insert_of_notMem _ _ _ fresh).trans (congrArg (· + 1) ih.1), ?_⟩
    intro queryId inside
    rcases (AList.mem_insert _).mp inside with rfl | before
    · exact Nat.lt_succ_self queryId
    · exact Nat.lt_succ_of_lt (ih.2 queryId before)

theorem outstanding_query_ids_are_bounded_two_requests :
    (run step initial [.add [1, 2] (some 7), .tick, .add [3] none]).outstanding ≤
      maxReplicationRequests :=
  (outstanding_query_ids_are_bounded _ (by decide)).1

/-- One request after the other passes the maximum, and a request with an outstanding query id is
accepted and takes it over. -/
theorem outstanding_query_ids_exceed_maximum :
    maxReplicationRequests < (run step initial (singles 4001)).outstanding ∧
    (run step initial [.add [1] none]).serverQueryIDHash.lookup 1 = some 0 ∧
    (run step initial [.add [1] none, .add [1] none]).serverQueryIDHash.lookup 1 = some 1 := by
  refine ⟨?_, rfl, rfl⟩
  rw [(outstanding_singles 4001).1]
  decide

end DPSDomainReplicationTracker

end OpenDove
