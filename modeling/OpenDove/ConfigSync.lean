import OpenDove.Runs
import Mathlib.Data.List.Perm.Subperm

/-!
# Configuration sync

The leader follows the chain of configuration changes of the controller. A pass starts behind the
recorded version; each round asks for one version, whose answer names the next version of the chain
and, unless it is blank, an object to fetch and to apply through the local REST handler. The version
is recorded in three ways: directly for a blank change, through the heartbeat of the local node for
a deleted object, and by the local handler from the body of an object that is put.

A round is given the answers it may ask for. An answer that is no JSON object, or a field that is
missing or of another type, is `none`.
-/

namespace OpenDove

/-- The fields of the answer to a version query. -/
structure VersionResponse where
  nextChange : Option Int
  uri : Option String
  method : Option String
  deriving DecidableEq, Repr

/-- The fields of the body of a target that are read here. -/
structure TargetBody where
  createVersion : Option Int
  changeVersion : Option Int
  isTombstone : Option Int
  deriving DecidableEq, Repr

/-- What a round finds: whether the node may sync, the answers of the controller to the version
query and to the target request, which may both fail, whether the local handler applies the
request, and whether its reply arrives. -/
structure SyncAnswers where
  dcsRoleAssigned : Bool
  localNodeLeader : Bool
  controllerLocal : Bool
  versionQuery : Option (Option VersionResponse)
  targetUriGet : Option (Option TargetBody)
  applied : Bool
  answered : Bool
  deriving DecidableEq, Repr

/-- Where the sync thread is: between passes, or in one with its local variables. -/
inductive SyncPhase where
  | idle
  | following (versionStart version nextVersion : Int)
  deriving DecidableEq, Repr

/-- The version that the process records, the one of the cluster objects, and the sync thread. -/
structure ConfigSync where
  clusterConfigVersion : Int
  dmcConfigVersion : Int
  phase : SyncPhase
  deriving DecidableEq, Repr

/-- What a round did with a change of the chain. -/
inductive FollowedChange where
  | blank (version : Int)
  | applied (version : Int)
  | skipped (version : Int)
  deriving DecidableEq, Repr

namespace FollowedChange

def isSkipped : FollowedChange → Bool
  | .blank _ | .applied _ => false
  | .skipped _ => true

def version : FollowedChange → Int
  | .blank version | .applied version | .skipped version => version

end FollowedChange

/-- The end of a round: the state, whether the pass goes on, what became of the change, and the
version that was recorded. -/
structure SyncRound where
  sync : ConfigSync
  more : Bool
  change : FollowedChange
  record : Option Int

/-- A number read into an `int`. -/
def toInt (number : Int) : Int :=
  number.bmod (2 ^ 32)

/-- The next version, which is written even if the parsing fails later, and the target if it does
not. -/
def versionRespParser (nextVersion : Int) (response : Option VersionResponse) :
    Int × Option (String × String) :=
  match response with
  | none => (nextVersion, none)
  | some response =>
    match response.nextChange, response.uri, response.method with
    | none, _, _ => (nextVersion, none)
    | some next, some uri, some method => (toInt next, some (uri, method))
    | some next, _, _ => (toInt next, none)

variable (body : Option TargetBody)

def deleteIndicatedInReq : Bool :=
  match body.bind TargetBody.isTombstone with
  | none => false
  | some deleted => toInt deleted ≠ 0

/-- The body with its change version replaced. `json_object_update` is given two integers, which are
no objects, so that it fails and the body stays as it is. -/
def updateChangeVersionToCurrent (_version : Int) : Option TargetBody :=
  body

/-- The version that the local handler finds in a body: `dps_rest_sync_version_get_from_req`. -/
def versionGetFromReq : Option Int :=
  match body with
  | none => none
  | some body =>
    match body.createVersion, body.changeVersion with
    | some _, some change => some (toInt change)
    | _, _ => none

namespace ConfigSync

variable (sync : ConfigSync) (version : Int)

/-- `Node_Heartbeat` for the local node. -/
def nodeHeartbeat : ConfigSync × Option Int :=
  if sync.dmcConfigVersion < version then
    ({ sync with clusterConfigVersion := version, dmcConfigVersion := version }, some version)
  else (sync, none)

/-- The target of a change is deleted: the version is recorded whatever the local handler says. -/
def syncDelete (answers : SyncAnswers) : SyncRound :=
  let (recorded, record) := sync.nodeHeartbeat version
  ⟨recorded, true, if answers.applied then .applied version else .skipped version, record⟩

/-- The target of a change is put: the local handler records the version of the body. -/
def syncPut (body : Option TargetBody) (answers : SyncAnswers) : SyncRound :=
  if answers.applied then
    match versionGetFromReq body with
    | some change =>
      let (recorded, record) := sync.nodeHeartbeat change
      ⟨recorded, answers.answered, .applied version, record⟩
    | none => ⟨sync, answers.answered, .applied version, none⟩
  else ⟨sync, false, .skipped version, none⟩

/-- The part of a round that acts on the target of a change. A target that cannot be fetched, or a
method that is not known, is passed over. -/
def syncTarget (versionStart version : Int) (uri method : String) (answers : SyncAnswers) :
    SyncRound :=
  if uri = "" then
    if version > versionStart then
      ⟨{ sync with clusterConfigVersion := version }, true, .blank version, some version⟩
    else ⟨sync, true, .blank version, none⟩
  else if method ≠ "DELETE" ∧ method ≠ "GET" then ⟨sync, true, .skipped version, none⟩
  else
    match answers.targetUriGet with
    | none => ⟨sync, true, .skipped version, none⟩
    | some body =>
      if method = "DELETE" ∨ deleteIndicatedInReq body then sync.syncDelete version answers
      else sync.syncPut version (updateChangeVersionToCurrent body version) answers

/-- A round after the version query was answered. -/
def syncChange (versionStart version nextVersion : Int) (response : Option VersionResponse)
    (answers : SyncAnswers) : SyncRound :=
  match (versionRespParser nextVersion response).2 with
  | none => ⟨sync, true, .skipped version, none⟩
  | some (uri, method) => sync.syncTarget versionStart version uri method answers

/-- The node may sync. -/
def Syncs (answers : SyncAnswers) : Prop :=
  answers.dcsRoleAssigned ∧ answers.localNodeLeader ∧ answers.controllerLocal = false

instance (answers : SyncAnswers) : Decidable (Syncs answers) :=
  inferInstanceAs (Decidable (_ ∧ _))

end ConfigSync

/-- What happens: a pass begins, or it does another round. -/
inductive SyncEvent where
  | pass
  | round (answers : SyncAnswers)
  deriving DecidableEq, Repr

/-- The sync with the changes that all its passes have followed, in order. -/
structure SyncHistory where
  sync : ConfigSync
  followed : List FollowedChange
  deriving DecidableEq, Repr

namespace SyncHistory

def initial (version : Int) : SyncHistory :=
  ⟨⟨version, version, .idle⟩, []⟩

/-- The local variables of a round whose version query is answered, and the answer. -/
structure Turn where
  versionStart : Int
  version : Int
  nextVersion : Int
  response : Option VersionResponse

variable (history : SyncHistory)

/-- The round of a pass on a node that may sync and whose version query is answered. -/
def turn (answers : SyncAnswers) : Option Turn :=
  match history.sync.phase with
  | .idle => none
  | .following versionStart version nextVersion =>
    if ConfigSync.Syncs answers then
      answers.versionQuery.map fun response => ⟨versionStart, version, nextVersion, response⟩
    else none

/-- What a round does with its change. -/
def syncRound (turn : Turn) (answers : SyncAnswers) : SyncRound :=
  history.sync.syncChange turn.versionStart turn.version turn.nextVersion turn.response answers

/-- The version that follows in the chain. -/
def Turn.next (turn : Turn) : Int :=
  (versionRespParser turn.nextVersion turn.response).1

/-- `dps_rest_sync_process`, a round at a time. -/
def step : SyncEvent → SyncHistory
  | .pass =>
    match history.sync.phase with
    | .idle =>
      let version := toInt history.sync.clusterConfigVersion + 1
      { history with sync := { history.sync with phase := .following version version 0 } }
    | .following _ _ _ => history
  | .round answers =>
    match history.turn answers with
    | none => { history with sync := { history.sync with phase := .idle } }
    | some turn =>
      let round := history.syncRound turn answers
      let phase := if round.more then .following turn.versionStart turn.next turn.next else .idle
      ⟨{ round.sync with phase := phase }, history.followed ++ [round.change]⟩

/-- A change was followed, but neither applied nor blank, in this pass or an earlier one. -/
def Missed (followed : List FollowedChange) (version : Int) : Prop :=
  .skipped version ∈ followed ∧
    ∀ change ∈ followed, change.version = version → change.isSkipped = true

/-- A version is recorded only if no change up to it was missed, and the chain does not go on with
changes up to it. -/
def Honours : SyncEvent → Prop
  | .pass => True
  | .round answers => ∀ turn ∈ history.turn answers,
    let round := history.syncRound turn answers
    ∀ recorded ∈ round.record,
      recorded < turn.next ∧ ∀ change ∈ history.followed ++ [round.change],
        Missed (history.followed ++ [round.change]) change.version → recorded < change.version

/-- An answer names a target that is fetched; a target that is to be deleted is applied with
success, and the body of one that is put carries no version that the chain still leads to. -/
def MeetsTarget (turn : Turn) (answers : SyncAnswers) (uri method : String) : Prop :=
  uri = "" ∨ (method = "DELETE" ∨ method = "GET") ∧
    match answers.targetUriGet with
    | none => False
    | some body =>
      if method = "DELETE" ∨ deleteIndicatedInReq body then answers.applied = true
      else ∀ change ∈ versionGetFromReq body, change < turn.next

/-- Every answer to a version query can be parsed, its target meets the condition, and it leads to a
later version, but not past a change that was missed. -/
def Meets : SyncEvent → Prop
  | .pass => True
  | .round answers => ∀ turn ∈ history.turn answers,
    turn.version < turn.next ∧
    (∀ change ∈ history.followed, Missed history.followed change.version →
      change.version ≤ turn.version ∨ turn.next ≤ change.version) ∧
    match (versionRespParser turn.nextVersion turn.response).2 with
    | none => False
    | some (uri, method) => MeetsTarget turn answers uri method

instance (followed : List FollowedChange) (version : Int) : Decidable (Missed followed version) :=
  inferInstanceAs (Decidable (_ ∧ _))

instance (turn : Turn) (answers : SyncAnswers) (uri method : String) :
    Decidable (MeetsTarget turn answers uri method) := by
  unfold MeetsTarget
  cases answers.targetUriGet <;> infer_instance

instance (history : SyncHistory) (event : SyncEvent) : Decidable (history.Meets event) :=
  match event with
  | .pass => inferInstanceAs (Decidable True)
  | .round answers =>
    have (turn : Turn) : Decidable
        (match (versionRespParser turn.nextVersion turn.response).2 with
          | none => False
          | some (uri, method) => MeetsTarget turn answers uri method) := by
      cases (versionRespParser turn.nextVersion turn.response).2 <;> infer_instance
    inferInstanceAs (Decidable (∀ turn ∈ history.turn answers, _))

instance (history : SyncHistory) (event : SyncEvent) : Decidable (history.Honours event) := by
  cases event <;> unfold Honours <;> infer_instance

variable {history : SyncHistory} {turn : Turn} {answers : SyncAnswers} {uri method : String}
  {followed : List FollowedChange} {change : FollowedChange} {version : Int}

/-- What a change that was followed does to the versions that were missed. -/
theorem missed_concat (missed : Missed (followed ++ [change]) version) :
    (version = change.version ∧ change.isSkipped = true) ∨
      version ≠ change.version ∧ Missed followed version := by
  obtain ⟨listed, skipped⟩ := missed
  by_cases same : version = change.version
  · exact .inl ⟨same, skipped change (by simp) same.symm⟩
  · refine .inr ⟨same, (List.mem_append.mp listed).resolve_right fun isLast => same ?_, ?_⟩
    · rw [← List.mem_singleton.mp isLast]
      rfl
    · exact fun other earlier => skipped other (List.mem_append_left _ earlier)

/-- The least version that the sync may follow next: the version of the round in a pass, and the one
that a pass starts with between passes. -/
def frontier (history : SyncHistory) : Int :=
  match history.sync.phase with
  | .idle => toInt history.sync.clusterConfigVersion + 1
  | .following _ version _ => version

/-- What is recorded lies before the next version to follow, and what was missed does not. -/
structure Clean (history : SyncHistory) : Prop where
  inRange : -2 ^ 31 ≤ history.frontier
  behind : toInt history.sync.clusterConfigVersion < history.frontier
  ahead : ∀ version, Missed history.followed version → history.frontier ≤ version

theorem le_toInt (number : Int) : -2 ^ 31 ≤ toInt number :=
  Int.le_bmod (by decide)

theorem toInt_le {number : Int} (inRange : -2 ^ 31 ≤ number) : toInt number ≤ number := by
  unfold toInt
  rw [Int.bmod_def]
  omega

theorem frontier_of_turn (current : history.turn answers = some turn) :
    history.frontier = turn.version := by
  unfold SyncHistory.turn at current
  unfold frontier
  cases phase : history.sync.phase with
  | idle => simp [phase] at current
  | following versionStart version nextVersion =>
    simp only [phase] at current ⊢
    split at current
    · obtain ⟨_, -, rfl⟩ := Option.map_eq_some_iff.mp current
      rfl
    · cases current

theorem le_versionGetFromReq {body : Option TargetBody}
    (found : versionGetFromReq body = some version) : -2 ^ 31 ≤ version := by
  unfold versionGetFromReq at found
  split at found
  · cases found
  · split at found
    · exact Option.some.inj found ▸ le_toInt _
    · cases found

/-- A round follows its version. It skips it only if it ends the pass without a record, and what it
records is no version that the chain still leads to. -/
structure Safe (sync : ConfigSync) (turn : Turn) (round : SyncRound) : Prop where
  follows : round.change.version = turn.version
  kept : round.change.isSkipped = false ∨ round.more = false ∧ round.record = none
  recorded : round.sync.clusterConfigVersion = round.record.getD sync.clusterConfigVersion
  bounded : ∀ recorded ∈ round.record, -2 ^ 31 ≤ recorded ∧ recorded < turn.next

variable (sync : ConfigSync) {more : Bool}

theorem safe_unrecorded (follows : change.version = turn.version)
    (kept : change.isSkipped = false ∨ more = false) : Safe sync turn ⟨sync, more, change, none⟩ :=
  ⟨follows, kept.imp_right fun ends => ⟨ends, rfl⟩, rfl, nofun⟩

theorem safe_nodeHeartbeat (follows : change.version = turn.version)
    (kept : change.isSkipped = false) (inRange : -2 ^ 31 ≤ version)
    (earlier : version < turn.next) : let heartbeat := sync.nodeHeartbeat version
    Safe sync turn ⟨heartbeat.1, more, change, heartbeat.2⟩ := by
  unfold ConfigSync.nodeHeartbeat
  split
  · refine ⟨follows, .inl kept, rfl, ?_⟩
    rintro _ ⟨⟩
    exact ⟨inRange, earlier⟩
  · exact safe_unrecorded sync follows (.inl kept)

section Round

variable (inRange : -2 ^ 31 ≤ turn.version) (advances : turn.version < turn.next)

include inRange advances

theorem safe_syncTarget (meets : MeetsTarget turn answers uri method) :
    Safe sync turn (sync.syncTarget turn.versionStart turn.version uri method answers) := by
  unfold ConfigSync.syncTarget
  by_cases blank : uri = ""
  · rw [if_pos blank]
    by_cases later : turn.version > turn.versionStart
    · rw [if_pos later]
      refine ⟨rfl, .inl rfl, rfl, ?_⟩
      rintro _ ⟨⟩
      exact ⟨inRange, advances⟩
    · rw [if_neg later]
      exact safe_unrecorded sync rfl (.inl rfl)
  · obtain ⟨known, target⟩ := meets.resolve_left blank
    have supported : ¬(method ≠ "DELETE" ∧ method ≠ "GET") := fun unknown =>
      known.elim unknown.1 unknown.2
    rw [if_neg blank, if_neg supported]
    cases fetched : answers.targetUriGet with
    | none =>
      rw [fetched] at target
      exact target.elim
    | some body =>
      simp only [fetched] at target ⊢
      by_cases isDelete : method = "DELETE" ∨ deleteIndicatedInReq body
      · rw [if_pos isDelete] at target ⊢
        simp only [ConfigSync.syncDelete, target, if_true]
        exact safe_nodeHeartbeat sync rfl rfl inRange advances
      · rw [if_neg isDelete] at target ⊢
        simp only [ConfigSync.syncPut, updateChangeVersionToCurrent]
        cases answers.applied with
        | false => exact safe_unrecorded sync rfl (.inr rfl)
        | true =>
          cases found : versionGetFromReq body with
          | none => exact safe_unrecorded sync rfl (.inl rfl)
          | some version =>
            refine safe_nodeHeartbeat sync rfl rfl ?_ (target version found)
            exact le_versionGetFromReq found

end Round

/-- Under the condition a round is safe, and what is missed after it is its own version, if it ends
the pass, or lies behind the next one. -/
theorem Clean.round (clean : history.Clean) (current : history.turn answers = some turn)
    (meets : history.Meets (.round answers)) :
    let round := history.syncRound turn answers
    Safe history.sync turn round ∧
      ∀ version, Missed (history.followed ++ [round.change]) version →
        (version = turn.version ∧ round.more = false ∧ round.record = none) ∨
          turn.next ≤ version := by
  have here := frontier_of_turn current
  obtain ⟨advances, leads, target⟩ := meets turn current
  have safe : Safe history.sync turn (history.syncRound turn answers) := by
    unfold syncRound ConfigSync.syncChange
    cases parsed : (versionRespParser turn.nextVersion turn.response).2 with
    | none =>
      rw [parsed] at target
      exact target.elim
    | some named =>
      rw [parsed] at target
      exact safe_syncTarget history.sync (here ▸ clean.inRange) advances target
  refine ⟨safe, fun version missed => ?_⟩
  rcases missed_concat missed with ⟨same, skipped⟩ | ⟨differs, earlier⟩
  · exact .inl ⟨same.trans safe.follows, safe.kept.resolve_left (by simp [skipped])⟩
  · right
    have from' : turn.version ≤ version := here ▸ clean.ahead version earlier
    have passed : version ≤ turn.version ∨ turn.next ≤ version := leads _ earlier.1 earlier
    rw [safe.follows] at differs
    omega

theorem Clean.step (clean : history.Clean) {event : SyncEvent} (meets : history.Meets event) :
    (history.step event).Clean := by
  cases event with
  | pass =>
    cases phase : history.sync.phase with
    | idle =>
      simp only [SyncHistory.step, phase]
      obtain ⟨inRange, behind, ahead⟩ := clean
      simp only [frontier, phase] at inRange behind ahead
      exact ⟨inRange, behind, ahead⟩
    | following versionStart version nextVersion =>
      simp only [SyncHistory.step, phase]
      exact clean
  | round answers =>
    cases current : history.turn answers with
    | none =>
      simp only [SyncHistory.step, current]
      refine ⟨?_, Int.lt_succ _, fun version missed => ?_⟩
      · exact (le_toInt _).trans (Int.le_of_lt (Int.lt_succ _))
      · exact Int.le_trans clean.behind (clean.ahead version missed)
    | some turn =>
      obtain ⟨safe, missed⟩ := clean.round current meets
      obtain ⟨advances, -⟩ := meets turn current
      have inRange := clean.inRange
      have behind := clean.behind
      rw [frontier_of_turn current] at inRange behind
      have recorded :
          toInt (history.syncRound turn answers).sync.clusterConfigVersion < turn.next := by
        rw [safe.recorded]
        cases record : (history.syncRound turn answers).record with
        | none => exact behind.trans advances
        | some version =>
          obtain ⟨inRange, earlier⟩ := safe.bounded version record
          exact (toInt_le inRange).trans_lt earlier
      simp only [SyncHistory.step, current]
      cases goesOn : (history.syncRound turn answers).more with
      | true =>
        refine ⟨inRange.trans advances.le, recorded, fun version is => ?_⟩
        refine (missed version is).resolve_left fun ended => ?_
        rw [goesOn] at ended
        cases ended.2.1
      | false =>
        refine ⟨(le_toInt _).trans (Int.le_of_lt (Int.lt_succ _)), Int.lt_succ _,
          fun version is => ?_⟩
        rcases missed version is with ⟨rfl, -, unrecorded⟩ | later
        · have kept := safe.recorded
          rw [unrecorded] at kept
          exact kept ▸ behind
        · exact recorded.trans_le later

theorem Clean.honours (clean : history.Clean) {event : SyncEvent} (meets : history.Meets event) :
    history.Honours event := by
  cases event with
  | pass => exact True.intro
  | round answers =>
    intro turn current round recorded written
    obtain ⟨safe, missed⟩ := clean.round current meets
    have earlier := (safe.bounded recorded written).2
    refine ⟨earlier, fun change _ is => ?_⟩
    rcases missed change.version is with ⟨-, -, unrecorded⟩ | later
    · rw [unrecorded] at written
      cases written
    · exact earlier.trans_le later

/-- In every run in which the answers can be parsed and lead on, but not past a change that was
missed, targets are fetched, deletions are applied with success and bodies carry no version that the
chain still leads to, a version is recorded only when every change that any pass followed up to it
was applied. -/
theorem recorded_versions_skip_no_change (version : Int) (events : List SyncEvent)
    (meets : Admissible step Meets (initial version) events) :
    Admissible step Honours (initial version) events := by
  apply Admissible.imp Clean ?_ ?_ ?_ meets
  · exact fun history event clean meets => clean.step meets
  · exact fun history event clean meets => clean.honours meets
  · refine ⟨(le_toInt _).trans (Int.le_of_lt (Int.lt_succ _)), Int.lt_succ _, ?_⟩
    exact fun _ missed => absurd missed.1 List.not_mem_nil

/-- The answers of a round on the leader. -/
def roundOf (next : Int) (method : String) (target : Option (Option TargetBody)) (applied : Bool) :
    SyncEvent :=
  .round ⟨true, true, false, some (some ⟨some next, some "/domains/1", some method⟩), target,
    applied, applied⟩

/-- A put, a deletion, and a put that fails; the next pass follows the change that failed again, and
then records the version after it. -/
theorem put_and_deletion_skip_no_change :
    Admissible step Honours (initial 0)
      [.pass, roundOf 2 "GET" (some (some ⟨some 1, some 1, none⟩)) true,
        roundOf 3 "DELETE" (some none) true,
        roundOf 4 "GET" (some (some ⟨some 1, some 3, none⟩)) false, .pass,
        roundOf 4 "GET" (some (some ⟨some 1, some 3, none⟩)) true,
        roundOf 5 "GET" (some (some ⟨some 1, some 4, none⟩)) true] :=
  recorded_versions_skip_no_change 0 _ (by decide)

/-- A target that cannot be fetched is passed over, and the next version is recorded. -/
theorem target_that_fails_is_skipped :
    ¬∀ (version : Int) (events : List SyncEvent),
      Admissible step Honours (initial version) events := by
  intro always
  have honoured := always 0
    [.pass, roundOf 2 "GET" none true, roundOf 3 "GET" (some (some ⟨some 1, some 2, none⟩)) true]
  revert honoured
  decide

/-- The versions that the rounds of a pass ask for. -/
def queries (history : SyncHistory) : List SyncAnswers → List Int
  | [] => []
  | answers :: rounds =>
    match history.sync.phase with
    | .idle => []
    | .following _ version _ =>
      if ConfigSync.Syncs answers then version :: (history.step (.round answers)).queries rounds
      else []

/-- A round that does not end the pass goes on with a later version. -/
def Advances (history : SyncHistory) : SyncEvent → Prop
  | .pass => True
  | .round answers => ∀ turn ∈ history.turn answers,
    (history.syncRound turn answers).more = true → turn.version < turn.next

instance (history : SyncHistory) (event : SyncEvent) : Decidable (history.Advances event) := by
  cases event <;> unfold Advances <;> infer_instance

theorem queries_of_idle (isIdle : history.sync.phase = .idle) (rounds : List SyncAnswers) :
    history.queries rounds = [] := by
  cases rounds with
  | nil => rfl
  | cons answers rounds => simp only [queries, isIdle]

/-- A round with an answer ends the pass or goes on with the next version. -/
theorem phase_round (current : history.turn answers = some turn) :
    (history.step (.round answers)).sync.phase = .idle ∨
      (history.syncRound turn answers).more = true ∧
        (history.step (.round answers)).sync.phase =
          .following turn.versionStart turn.next turn.next := by
  simp only [step, current]
  cases (history.syncRound turn answers).more with
  | false => exact .inl rfl
  | true => exact .inr ⟨rfl, rfl⟩

/-- Rounds that go on with later versions ask for ever later versions. -/
theorem queries_increase (rounds : List SyncAnswers)
    (advances : Admissible step Advances history (rounds.map .round)) :
    (history.queries rounds).Pairwise (· < ·) ∧ ∀ versionStart version nextVersion,
      history.sync.phase = .following versionStart version nextVersion →
        ∀ query ∈ history.queries rounds, version ≤ query := by
  induction rounds generalizing history with
  | nil => simp [queries]
  | cons answers rounds ih =>
    cases phase : history.sync.phase with
    | idle => simp [queries_of_idle phase]
    | following versionStart version nextVersion =>
      by_cases syncs : ConfigSync.Syncs answers
      · have later : ∀ query ∈ (history.step (.round answers)).queries rounds, version < query := by
          cases current : history.turn answers with
          | none => simp [queries_of_idle, step, current]
          | some turn =>
            have asked : version = turn.version := by
              simpa only [frontier, phase] using frontier_of_turn current
            rcases phase_round current with isIdle | ⟨more, goesOn⟩
            · simp [queries_of_idle isIdle]
            · intro query asks
              have after : turn.version < turn.next := advances.1 turn current more
              have reached := (ih advances.2).2 _ _ _ goesOn query asks
              exact asked ▸ after.trans_le reached
        simp only [queries, phase, if_pos syncs]
        refine ⟨List.pairwise_cons.mpr ⟨later, (ih advances.2).1⟩, ?_⟩
        rintro _ _ _ ⟨⟩ query asked
        rcases List.mem_cons.mp asked with rfl | more
        · exact Int.le_refl _
        · exact Int.le_of_lt (later query more)
      · simp [queries, phase, syncs]

/-- A pass that always goes on with a later version asks for no version twice, and so for no more
versions than the controller has. -/
theorem pass_asks_for_no_version_twice (history : SyncHistory) (rounds : List SyncAnswers)
    (advances : Admissible step Advances (history.step .pass) (rounds.map .round)) :
    ((history.step .pass).queries rounds).Nodup ∧ ∀ versions : List Int,
      (history.step .pass).queries rounds ⊆ versions →
        ((history.step .pass).queries rounds).length ≤ versions.length := by
  have distinct := (queries_increase rounds advances).1.imp Int.ne_of_lt
  exact ⟨distinct, fun versions within => (List.subperm_of_subset distinct within).length_le⟩

/-- The answers of a round on the leader to a version query, for a blank change. -/
def blankRound (response : Option VersionResponse) : SyncAnswers :=
  ⟨true, true, false, some response, none, false, false⟩

/-- Three blank changes, each of which leads to a later one. -/
theorem blank_changes_are_asked_once :
    let rounds := [blankRound (some ⟨some 4, some "", some "GET"⟩),
      blankRound (some ⟨some 6, some "", some "GET"⟩),
      blankRound (some ⟨some 7, some "", some "GET"⟩)]
    ((initial 0).step .pass).queries rounds = [1, 4, 6] ∧
      (((initial 0).step .pass).queries rounds).Nodup :=
  ⟨by decide, (pass_asks_for_no_version_twice (initial 0) _ (by decide)).1⟩

/-- Answers that cannot be parsed leave the next version as it was. -/
theorem malformed_answers_repeat_a_version :
    ¬(((initial 0).step .pass).queries [blankRound none, blankRound none, blankRound none]).Nodup :=
  by decide

end SyncHistory

end OpenDove
