import OpenDove.EndpointEvents

/-!
# Lookups find live endpoints

An entry in one of the maps of a domain is meant to lead to an endpoint that still exists. The
maps are written by five classes that do not look at the old entry, so the property rests on an
invariant: every endpoint in a map, and every endpoint that takes part in a pending conflict, is
valid and belongs to the domain.

Deletion removes an endpoint from every conflict, but a conflict also remembers an owner, and
gives it the address back when it completes. The invariant is kept by every event that does not
complete a conflict for an endpoint that is gone.
-/

namespace OpenDove

namespace Directory

/-- An endpoint is a valid one of a domain. -/
def Lives (dir : Directory) (domain : DomainId) (endpoint : EndpointId) : Prop :=
  (dir.endpoint endpoint).valid = true ∧ (dir.endpoint endpoint).domain = domain

/-- Every endpoint in a map of a domain or in a pending conflict is a valid endpoint of that domain,
the maps agree with the endpoints' own attributes, and the domains that wait for a timeout are
queued under their numbers. -/
structure Live (number : DomainId → Nat) (dir : Directory) : Prop extends
    Pending number (fun domain _ conflict => ∀ endpoint, endpoint ∈ conflict.endpointsClaim ∨
      endpoint ∈ conflict.endpointsRegistered → dir.Lives domain endpoint) dir where
  mac : ∀ {domain vMac endpoint}, (dir.domainTables domain).findMAC vMac = some endpoint →
    dir.Lives domain endpoint ∧ (dir.endpoint endpoint).vMac = vMac
  ip : ∀ {domain value endpoint}, (dir.domainTables domain).findIP value = some endpoint →
    dir.Lives domain endpoint ∧ value ∈ (dir.endpoint endpoint).vIPSet
  fresh : ∀ {endpoint}, dir.nextEndpoint ≤ endpoint → (dir.endpoint endpoint).valid = false

/-- A registration completes a conflict only for its own endpoint or for a valid one. -/
def RegistersSoundly (dir : Directory) (domain : DomainId) (endpoint : EndpointId)
    (vIPVal : IPValue) : Prop :=
  ∀ conflict ∈ (dir.conflicts domain).lookup vIPVal,
    (conflict.endpointRegister endpoint).endpointsClaim = [] →
    ∀ winner ∈ (conflict.endpointRegister endpoint).winner,
      winner = endpoint ∨ (dir.endpoint winner).valid = true

/-- A timeout completes conflicts only for valid endpoints. -/
def TimesOutSoundly (dir : Directory) : Prop :=
  ∀ domain ∈ dir.conflictRequests.values, ∀ conflict ∈ (dir.conflicts domain).values,
    conflict.retry = 0 → ∀ winner ∈ conflict.winner, (dir.endpoint winner).valid = true

instance (dir : Directory) (domain : DomainId) (endpoint : EndpointId) (vIPVal : IPValue) :
    Decidable (dir.RegistersSoundly domain endpoint vIPVal) :=
  inferInstanceAs (Decidable (∀ conflict ∈ _, _))

instance (dir : Directory) : Decidable dir.TimesOutSoundly :=
  inferInstanceAs (Decidable (∀ domain ∈ _, _))

theorem RegistersSoundly.same {dir after : Directory} {domain : DomainId} {endpoint : EndpointId}
    {vIPVal : IPValue} (same : SameLives dir after)
    (sound : dir.RegistersSoundly domain endpoint vIPVal) :
    after.RegistersSoundly domain endpoint vIPVal := by
  intro conflict pending settled winner chosen
  rw [same.valid]
  exact sound conflict (same.conflicts ▸ pending) settled winner chosen

theorem SameLives.lives {dir after : Directory} {domain : DomainId} {endpoint : EndpointId}
    (same : SameLives dir after) (lives : dir.Lives domain endpoint) :
    after.Lives domain endpoint := by
  unfold Lives
  rw [same.valid, same.domain]
  exact lives

namespace Live

variable {number : DomainId → Nat} {dir after : Directory} (live : Live number dir)

include live

variable (domain : DomainId) (self endpoint : EndpointId) (vIPVal value : IPValue)
  (conflict : ConflictDetectionvIP) (dvg : DvgId) (vnid : Nat) (clientType : ClientType)
  (tunnel : TunnelId) (vIP : Option VirtualIP)

theorem delete : Live number (dir.delete self) := by
  cases valid : (dir.endpoint self).valid with
  | false => rwa [delete_of_dead dir self valid]
  | true =>
    obtain ⟨core, held, macs, ips, -, -, conflicts, next, requests⟩ := delete_effect dir self valid
    have other {e : EndpointId} (distinct : e ≠ self) :
        ((dir.delete self).endpoint e).toEndpointCore = (dir.endpoint e).toEndpointCore := by
      rw [core, if_neg distinct]
    have lives {domain : DomainId} {e : EndpointId} (lives : dir.Lives domain e)
        (distinct : e ≠ self) : (dir.delete self).Lives domain e := by
      unfold Lives
      rwa [other distinct]
    refine ⟨⟨?_, requests ▸ live.queued⟩, ?_, ?_, ?_⟩
    · intro domain value conflict pending endpoint involved
      obtain ⟨before, earlier, rfl⟩ := delete_pending dir self valid pending
      split at involved
      · simp only [ConflictDetectionvIP.endpointDelete, List.mem_filter, decide_eq_true_eq]
          at involved
        exact lives (live.pending earlier endpoint (involved.imp And.left And.left))
          (involved.elim And.right And.right)
      · next elsewhere =>
        have home := live.pending earlier endpoint involved
        refine lives home ?_
        rintro rfl
        exact elsewhere home.2.symm
    · intro domain vMac endpoint found
      rw [macs] at found
      split at found
      · cases found
      · next elsewhere =>
        obtain ⟨home, key⟩ := live.mac found
        have distinct : endpoint ≠ self := by
          rintro rfl
          exact elsewhere ⟨home.2.symm, key.symm⟩
        exact ⟨lives home distinct, by rw [other distinct, key]⟩
    · intro domain value endpoint found
      rw [ips] at found
      split at found
      · cases found
      · next elsewhere =>
        obtain ⟨home, holds⟩ := live.ip found
        have distinct : endpoint ≠ self := by
          rintro rfl
          exact elsewhere ⟨home.2.symm, holds⟩
        exact ⟨lives home distinct, (held _ _).mpr ⟨distinct, holds⟩⟩
    · intro endpoint unused
      rw [core]
      split
      · rfl
      · exact live.fresh (next ▸ unused)

/-- A step that deletes and creates nothing, if its new entries are right. -/
theorem keep (same : SameLives dir after)
    (ips : ∀ domain value e, (after.domainTables domain).findIP value = some e →
      value ∈ (after.endpoint e).vIPSet ∧ dir.Lives domain e) :
    Live number after where
  toPending := live.toPending.same same.conflicts same.conflictRequests
    fun _ _ _ right e involved => same.lives (right e involved)
  mac found := by
    rw [same.vMac]
    exact (live.mac (same.macs _ _ ▸ found)).imp_left same.lives
  ip found := (ips _ _ _ found).symm.imp_left same.lives
  fresh unused := by
    rw [same.valid]
    exact live.fresh (same.nextEndpoint ▸ unused)

theorem vIPAdd (vIP : VirtualIP) (alive : (dir.endpoint self).valid = true) :
    Live number (dir.vIPAdd self vIP) := by
  refine live.keep (.ofAddresses ((AddressesOnly.refl dir).vIPAdd self vIP))
    fun domain value e found => ?_
  rw [vIPAdd_domainIP] at found
  rw [vIPAdd_vIPSet]
  split at found
  · next here =>
    obtain ⟨rfl, rfl⟩ := here
    obtain rfl := Option.some.inj found
    simp [Lives, alive]
  · obtain ⟨home, holds⟩ := live.ip found
    refine ⟨?_, home⟩
    split
    · next same =>
      subst same
      exact (VIPSet.mem_add ..).mpr (Or.inr holds)
    · exact holds

theorem vIPDel (vIP : VirtualIP) : Live number (dir.vIPDel self vIP) := by
  refine live.keep (.ofAddresses ((AddressesOnly.refl dir).vIPDel self vIP))
    fun domain value e found => ?_
  rw [vIPDel_domainIP] at found
  split at found
  · cases found
  · next kept =>
    obtain ⟨home, holds⟩ := live.ip found
    refine ⟨(mem_vIPDel ..).mpr ⟨?_, holds⟩, home⟩
    rintro ⟨rfl, rfl⟩
    exact kept ⟨⟨holds, home.2.symm⟩, rfl⟩

/-- A step that touches neither addresses nor their maps. -/
theorem frame (same : SamePlaces dir after) : Live number after := by
  refine live.keep same.toSameLives fun domain value e found => ?_
  rw [same.domainTables] at found
  rw [same.vIPSet]
  exact (live.ip found).symm

/-- A move to another VNID or tunnel gives up addresses together with their entries. -/
theorem moved {self : EndpointId} {dvg : DvgId} {attributes : EndpointCore}
    (same : SameLives dir after) (moved : dir.Moved self dvg attributes after) :
    Live number after := by
  refine live.keep same fun domain value e found => ?_
  rw [moved.domainIPs] at found
  split at found
  · cases found
  · next stays =>
    obtain ⟨here, holds⟩ := live.ip found
    refine ⟨(moved.members _ _).mpr ⟨?_, holds⟩, here⟩
    rintro ⟨rfl, leaves⟩
    exact stays ⟨here.2.symm, leaves, holds⟩

theorem vmotion : Live number (dir.vmotion self dvg vnid clientType tunnel) :=
  live.moved ((SameLives.refl dir).vmotion ..) (vmotion_moved ..)

theorem updateArrive : Live number (dir.updateArrive self dvg vnid clientType) :=
  live.moved ((SameLives.refl dir).updateArrive ..) (updateArrive_effect ..).1

theorem update (transactionType : TransactionType) (version : Nat) (operation : UpdateOperation)
    (vIP : Option VirtualIP) (alive : (dir.endpoint self).valid = true) :
    Live number
      (dir.update self dvg vnid clientType transactionType version operation vIP).1 := by
  have arrived := live.updateArrive self dvg vnid clientType
  have stays := ((SameLives.refl dir).updateArrive self dvg vnid clientType).valid self
  refine update_preserves dir self dvg vnid clientType transactionType version operation vIP arrived
    frame (fun mid vIP same _ => ?_) (fun _ vIP live => live.vIPDel self vIP)
    fun _ live => live.delete self
  exact (arrived.frame same).vIPAdd self vIP (by rw [same.valid, stays, alive])

theorem create {domain : DomainId} {dvg : DvgId} {vnid : Nat} {clientType : ClientType}
    {tunnel : TunnelId} {vMac : Mac} {vIP : Option VirtualIP} {version : Nat}
    (created : dir.create domain dvg vnid clientType tunnel vMac vIP version = some after) :
    Live number after := by
  obtain ⟨core, held, macs, ips, -, next, conflicts, requests⟩ := create_effect dir created
  -- a valid endpoint is older than the new one
  have older {e : EndpointId} (alive : (dir.endpoint e).valid = true) : e ≠ dir.nextEndpoint := by
    rintro rfl
    rw [live.fresh le_rfl] at alive
    cases alive
  have same {e : EndpointId} (alive : (dir.endpoint e).valid = true) :
      (after.endpoint e).toEndpointCore = (dir.endpoint e).toEndpointCore := by
    rw [core, if_neg (older alive)]
  have lives {domain : DomainId} {e : EndpointId} (lives : dir.Lives domain e) :
      after.Lives domain e := by
    unfold Lives
    rwa [same lives.1]
  have born : after.Lives domain dir.nextEndpoint := by
    unfold Lives
    rw [core, if_pos rfl]
    exact ⟨rfl, rfl⟩
  refine ⟨live.toPending.same conflicts requests fun _ _ _ right e involved =>
    lives (right e involved), ?_, ?_, ?_⟩
  · intro other mac e found
    rw [macs] at found
    split at found
    · next here =>
      cases found
      refine ⟨here.1 ▸ born, ?_⟩
      rw [core, if_pos rfl]
      exact here.2.symm
    · obtain ⟨home, key⟩ := live.mac found
      exact ⟨lives home, by rw [same home.1, key]⟩
  · intro other value e found
    rw [ips] at found
    split at found
    · next here =>
      cases found
      exact ⟨here.1 ▸ born, (held _ _).mpr ((if_pos rfl).mpr here.2)⟩
    · obtain ⟨home, holds⟩ := live.ip found
      exact ⟨lives home, (held _ _).mpr ((if_neg (older home.1)).mpr holds)⟩
  · intro e unused
    rw [next] at unused
    rw [core, if_neg (Nat.ne_of_gt unused)]
    exact live.fresh (Nat.le_of_succ_le unused)

/-! ### Conflicts -/

theorem eraseConflict :
    Live number (dir.setConflicts domain ((dir.conflicts domain).erase value)) :=
  ⟨live.toPending.erase domain value, live.mac, live.ip, live.fresh⟩

theorem insertConflict
    (parties : ∀ endpoint, endpoint ∈ conflict.endpointsClaim ∨
      endpoint ∈ conflict.endpointsRegistered → dir.Lives domain endpoint) :
    Live number (dir.setConflicts domain ((dir.conflicts domain).insert value conflict)) :=
  ⟨live.toPending.insert domain value parties, live.mac, live.ip, live.fresh⟩

theorem queue : Live number
    { dir with conflictRequests := dir.conflictRequests.insert (number domain) domain } :=
  ⟨live.toPending.queue domain, live.mac, live.ip, live.fresh⟩

theorem endpointClaimVIP (sendFails : Bool) (home : dir.Lives domain endpoint) :
    Live number
      (dir.endpointClaimVIP domain (number domain) endpoint vIPVal sendFails).1 := by
  refine endpointClaimVIP_preserves _ _ _ _ _ _ (fun _ => live) (fun before origin => ?_)
    fun _ live => live.queue domain
  refine live.insertConflict domain vIPVal _ fun other involved => ?_
  simp only [ConflictDetectionvIP.endpointClaim, List.mem_insert_iff, or_assoc] at involved
  obtain rfl | earlier := involved
  · exact home
  · obtain rfl | pending := origin
    · simp [ConflictDetectionvIP.create] at earlier
    · exact live.pending pending other earlier

theorem vIPDelExcept (endpoints : List EndpointId) (kept : Option EndpointId) (vIP : VirtualIP) :
    Live number (dir.vIPDelExcept endpoints kept vIP) :=
  AddressesOnly.vIPDelExcept_rule endpoints kept vIP live fun _ e _ live _ => live.vIPDel e vIP

theorem complete
    (registered : ∀ endpoint, endpoint ∈ conflict.endpointsRegistered →
      (dir.endpoint endpoint).valid = true)
    (sound : ∀ endpoint, conflict.winner = some endpoint → (dir.endpoint endpoint).valid = true) :
    Live number (dir.complete conflict) := by
  have first : Live number (dir.completeRegistered conflict) := by
    unfold Directory.completeRegistered
    split
    · exact live
    · next endpoint single => exact live.vIPAdd endpoint _ (registered endpoint (by simp [single]))
    · exact live.vIPDelExcept ..
  have kept := ((AddressesOnly.refl dir).completeRegistered conflict).vIPDelExcept
    conflict.endpointsClaim conflict.winner conflict.vIP
  have second := first.vIPDelExcept conflict.endpointsClaim conflict.winner conflict.vIP
  unfold Directory.complete
  cases chosen : conflict.winner with
  | none => 
    rw [chosen] at second
    exact second
  | some winner =>
    rw [chosen] at second kept
    refine second.vIPAdd winner _ ?_
    rw [kept.core winner]
    exact sound winner chosen

/-- The registration of a live endpoint, if a conflict it completes has a live winner. -/
theorem endpointRegisterVIP (home : dir.Lives domain endpoint)
    (sound : dir.RegistersSoundly domain endpoint vIPVal) :
    Live number (dir.endpointRegisterVIP domain endpoint vIPVal) := by
  unfold Directory.endpointRegisterVIP
  split
  · exact live
  · next conflict pending =>
    have parties (other : EndpointId)
        (involved : other ∈ (conflict.endpointRegister endpoint).endpointsClaim ∨
          other ∈ (conflict.endpointRegister endpoint).endpointsRegistered) :
        dir.Lives domain other := by
      simp only [ConflictDetectionvIP.endpointRegister, List.mem_filter, List.mem_insert_iff]
        at involved
      obtain claims | rfl | earlier := involved
      · exact live.pending pending other (Or.inl claims.1)
      · exact home
      · exact live.pending pending other (Or.inr earlier)
    dsimp only
    split
    · next settled =>
      refine (live.complete _ (fun other member => (parties other (Or.inr member)).1)
        fun winner chosen => ?_).eraseConflict ..
      obtain rfl | valid := sound conflict pending settled winner chosen
      · exact home.1
      · exact valid
    · exact live.insertConflict domain vIPVal _ parties

/-! ### Timeouts -/

/-- A timeout of one conflict, if it does not complete for a dead winner. -/
theorem conflictTimeout
    (sound : ∀ conflict, (dir.conflicts domain).lookup vIPVal = some conflict →
      conflict.retry = 0 → ∀ winner, conflict.winner = some winner →
        (dir.endpoint winner).valid = true) : Live number (dir.conflictTimeout domain vIPVal) := by
  unfold Directory.conflictTimeout
  split
  · exact live
  · next conflict pending =>
    split
    · next timedOut =>
      exact (live.complete _ (fun other member => (live.pending pending other (Or.inr member)).1)
        (sound conflict pending timedOut)).eraseConflict ..
    · exact live.insertConflict domain vIPVal _ fun other involved =>
        live.pending pending other involved

theorem dequeue (domainId : Nat) :
    Live number { dir with conflictRequests := dir.conflictRequests.erase domainId } :=
  ⟨live.toPending.dequeue domainId, live.mac, live.ip, live.fresh⟩

theorem conflictDetectionTimeout (sound : dir.TimesOutSoundly) :
    Live number dir.conflictDetectionTimeout := by
  refine conflictDetectionTimeout_preserves number dir (fun _ _ => live.queued) live ?_
    (fun _ domainId live => live.dequeue domainId) (fun _ domain live => live.queue domain)
  intro mid domainId domain value held waiting core untouched
  refine held.conflictTimeout domain value fun conflict pending timedOut winner chosen => ?_
  rw [core winner]
  exact sound domain ((Dict.mem_values ..).mpr ⟨domainId, waiting⟩) conflict
    ((Dict.mem_values ..).mpr ⟨value, untouched ▸ pending⟩) timedOut winner chosen

/-! ### Deletions and updates -/

theorem shrinks {new : TunnelId → Prop} (shrunk : Shrinks new dir after) : Live number after :=
  shrunk.preserves (Live number) (fun _ endpoint live => live.delete endpoint)
    (fun _ _ _ live => live.frame (.lists ..)) live

/-- The endpoint for which an update claims its address is valid and not the update's own. -/
theorem claimant {a : Announcement} {claimant : EndpointId}
    (conflicts : dir.claimant a = some claimant) :
    dir.Lives a.domain claimant ∧
      claimant ≠ (dir.announced a).getD dir.nextEndpoint := by
  obtain ⟨held, different⟩ := Option.filter_eq_some_iff.mp conflicts
  obtain ⟨-, found⟩ := (EndpointTables.lookup_endpointHashIP ..).mp held
  obtain ⟨home, -⟩ := live.ip found
  refine ⟨home, ?_⟩
  cases known : dir.announced a with
  | some endpoint =>
    rintro rfl
    simp [known] at different
  | none =>
    rintro rfl
    rw [Option.getD_none, Lives, live.fresh le_rfl] at home
    cases home.1

/-- An update, if a conflict that its registration completes is won by its endpoint or by a valid
one. -/
theorem announce (a : Announcement) (own : number a.domain = a.domainId)
    (sound : a.registers →
      dir.RegistersSoundly a.domain ((dir.announced a).getD dir.nextEndpoint) a.vIPVal) :
    Live number (dir.announce a) := by
  let self := (dir.announced a).getD dir.nextEndpoint
  let Known (mid : Directory) : Prop := mid.Lives a.domain self
  refine announce_steps
    (I := fun mid => Live number mid ∧ (dir.announced a = some self → Known mid) ∧
      (a.registers → mid.RegistersSoundly a.domain self a.vIPVal))
    (K := fun mid => Live number mid ∧
      (a.registers → Known mid ∧ mid.RegistersSoundly a.domain self a.vIPVal))
    dir a (fun _ => ⟨live, fun known => (live.mac known).1, sound⟩) ?_ ?_ ?_ ?_ ?_ ?_ ?_
  · intro claimant conflicts
    obtain ⟨home, other⟩ := live.claimant conflicts
    obtain ⟨⟨endpoints, -⟩, -⟩ := endpointClaimVIP_frame dir a.domain a.domainId claimant a.vIPVal
      a.raises
    refine ⟨own ▸ live.endpointClaimVIP a.domain claimant a.vIPVal a.raises home,
      fun known => ?_, fun _ conflict pending settled => ?_⟩
    · dsimp only [Known, Lives]
      rw [endpoints]
      exact (live.mac known).1
    · exact absurd settled (undecided_endpointClaimVIP _ _ _ _ _ _ other conflict pending)
  · intro claimed after held unknown next created
    obtain ⟨core, -, -, -, -, -, conflicts, -⟩ := create_effect claimed created
    have new : self = claimed.nextEndpoint := by simp [self, unknown, next]
    refine ⟨held.1.create created, fun registers =>
      ⟨?_, fun conflict pending settled winner chosen => ?_⟩⟩
    · dsimp only [Known, Lives]
      rw [core, if_pos new]
      exact ⟨rfl, rfl⟩
    · refine (held.2.2 registers conflict (conflicts ▸ pending) settled winner chosen).imp_right ?_
      intro valid
      rw [core]
      split
      · rfl
      · exact valid
  · intro claimed endpoint held known hosted
    have same := (SameLives.refl claimed).vmotion endpoint a.dvg a.vnid a.clientType a.tunnel
    exact ⟨held.1.vmotion .., fun known => same.lives (held.2.1 known),
      fun registers => (held.2.2 registers).same same⟩
  · intro mid endpoint held known
    have itself : self = endpoint := by simp [self, known]
    have home := held.2.1 (itself ▸ known)
    refine ⟨held.1.update _ _ _ _ _ _ _ _ (itself ▸ home.1), fun registers => ?_⟩
    have same := (SameLives.refl mid).updateAdd endpoint a.dvg a.vnid a.clientType a.transactionType
      a.version (dir.announcedVIP a) registers.2
    exact ⟨same.lives home, (held.2.2 registers).same same⟩
  · intro mid held registers
    obtain ⟨home, sound⟩ := held.2 registers
    exact held.1.endpointRegisterVIP a.domain self a.vIPVal home sound
  · exact fun mid held => held.1
  · exact fun mid held => held.1

end Live

/-- Deletions open no conflicts. -/
theorem Shrinks.pending {new : TunnelId → Prop} {start after : Directory}
    (shrunk : Shrinks new start after) {domain : DomainId} {value : IPValue}
    {conflict : ConflictDetectionvIP}
    (pending : (after.conflicts domain).lookup value = some conflict) :
    ∃ before, (start.conflicts domain).lookup value = some before := by
  refine shrunk.preserves (fun dir => ∀ conflict, (dir.conflicts domain).lookup value = some conflict →
    ∃ before, (start.conflicts domain).lookup value = some before) ?_ ?_
    (fun conflict pending => ⟨conflict, pending⟩) conflict pending
  · intro dir endpoint held conflict pending
    cases valid : (dir.endpoint endpoint).valid with
    | false => exact held conflict (delete_of_dead dir endpoint valid ▸ pending)
    | true =>
      obtain ⟨before, earlier, -⟩ := delete_pending dir endpoint valid pending
      exact held before earlier
  · exact fun dir tunnel _ held => held

end Directory

namespace Collection

/-- The condition on an event: if it completes a conflict, then for its own endpoint or for a
valid one. An update completes the conflict over its address if it leaves no claim; while
such a conflict is pending, it must not take its tunnel's address from another client, which
deletes endpoints on the way. -/
def CompletesSoundly (s : Collection) : EndpointEvent → Prop
  | .update request _ =>
    ∀ domain ∈ s.domainHash.lookup request.domainId,
      request.operation = .add ∨ request.operation = .vipAdd →
      vIPVal request ∈ s.directory.conflicts domain →
      s.takesAddress request = false ∧
        s.directory.RegistersSoundly domain
          (((s.directory.domainTables domain).findMAC request.vMac).getD s.directory.nextEndpoint)
          (vIPVal request)
  | .register domain vMac vIPVal =>
    ∀ endpoint ∈ (s.directory.domainTables domain).findMAC vMac,
      s.directory.RegistersSoundly domain endpoint vIPVal
  | .conflictTimeout => s.directory.TimesOutSoundly
  | .deleteEndpoint _ | .deleteTunnel _ | .expirationTimeout | .claim .. => True

instance (s : Collection) : (event : EndpointEvent) → Decidable (s.CompletesSoundly event)
  | .update .. => inferInstanceAs (Decidable (∀ domain ∈ _, _))
  | .register .. => inferInstanceAs (Decidable (∀ endpoint ∈ _, _))
  | .conflictTimeout => inferInstanceAs (Decidable (Directory.TimesOutSoundly _))
  | .deleteEndpoint _ | .deleteTunnel _ | .expirationTimeout | .claim .. =>
    inferInstanceAs (Decidable True)

section Run

variable {keysOrder : KeysOrder} {s : Collection}

/-- An update that completes conflicts soundly keeps the maps of every domain live. -/
theorem live_endpointUpdate {request : EndpointUpdateRequest} {sendFails : Bool}
    (live : s.directory.Live s.statics.domainNumber)
    (sound : s.CompletesSoundly (.update request sendFails)) :
    (endpointUpdate keysOrder s request sendFails).1.directory.Live s.statics.domainNumber := by
  refine endpointUpdate_preserves keysOrder s request sendFails live
    (fun _ _ shrunk live => live.shrinks shrunk) fun mid target found grown live => ?_
  refine live.announce _ (congrFun grown.2.domainNumber target.domain).symm fun registers => ?_
  obtain ⟨domainFound, -⟩ := updateLookup_ok found
  intro conflict pending
  obtain ⟨before, earlier⟩ := grown.1.pending pending
  obtain ⟨keeps, sound⟩ := sound target.domain domainFound registers.2
    ((Dict.mem_iff_lookup ..).mpr ⟨before, earlier⟩)
  obtain same | same := updateLookup_still found keeps
  all_goals
    rw [same] at pending ⊢
    exact sound conflict pending

/-- Every event that completes conflicts soundly keeps the maps of every domain live. -/
theorem live_step {event : EndpointEvent} (live : s.directory.Live s.statics.domainNumber)
    (sound : s.CompletesSoundly event) :
    (endpointStep keysOrder s event).directory.Live
      (endpointStep keysOrder s event).statics.domainNumber := by
  rw [(endpointStep_statics keysOrder s event).domainNumber]
  refine endpointStep_preserves keysOrder s live (fun shrunk live => live.shrinks shrunk)
    (fun _ _ live => live.frame (.lists ..)) ?_ ?_ ?_ ?_
  · rintro request sendFails rfl
    exact live_endpointUpdate live sound
  · intro domain vIPVal endpoint fails found
    exact live.endpointClaimVIP domain endpoint vIPVal fails (live.ip found).1
  · rintro domain vMac vIPVal endpoint rfl found
    exact live.endpointRegisterVIP domain endpoint vIPVal (live.mac found).1
      (sound endpoint found)
  · rintro rfl
    exact live.conflictDetectionTimeout sound

/-- A server without endpoints has live maps. -/
theorem live_of_empty (empty : s.directory = .empty) :
    s.directory.Live s.statics.domainNumber := by
  rw [empty]
  refine ⟨⟨?_, ?_⟩, ?_, ?_, ?_⟩ <;> simp [Directory.empty, Endpoint.unallocated]

/-- Lookups never find a dead endpoint: in every state that a run reaches from a server without
endpoints, if its events complete conflicts soundly, every entry of the three maps of every
domain leads to a valid endpoint that has the MAC address or holds the address of the entry. -/
theorem lookups_find_live_endpoints (keysOrder : KeysOrder) (start : Collection)
    (empty : start.directory = .empty) (events : List EndpointEvent)
    (sound : Admissible (endpointStep keysOrder) CompletesSoundly start events)
    (reached : List EndpointEvent) (initial : reached <+: events) (domain : DomainId) :
    let dir := (run (endpointStep keysOrder) start reached).directory
    let tables := dir.domainTables domain
    (∀ vMac endpoint, tables.endpointHashMAC.lookup vMac = some endpoint →
      (dir.endpoint endpoint).valid = true ∧ (dir.endpoint endpoint).vMac = vMac) ∧
    ∀ family value endpoint, (tables.endpointHashIP family).lookup value = some endpoint →
      (dir.endpoint endpoint).valid = true ∧ value ∈ (dir.endpoint endpoint).vIPSet := by
  obtain ⟨rest, rfl⟩ := initial
  have live := run_invariant (fun s => s.directory.Live s.statics.domainNumber)
    (fun _ _ live sound => live_step live sound) (live_of_empty empty) sound.of_append
  refine ⟨fun vMac endpoint found => ?_, fun family value endpoint found => ?_⟩
  · exact (live.mac found).imp_left And.left
  · obtain ⟨-, found⟩ := (EndpointTables.lookup_endpointHashIP ..).mp found
    exact (live.ip found).imp_left And.left

/-- Two machines announce the address of a third one, which is deleted after their conflict has
completed. -/
theorem lookups_find_live_endpoints_twoSwitches :
    let events := [.update (machineUpdate 1 1 .add 10) false,
      .update (machineUpdate 2 2 .add 10) false, .update (machineUpdate 2 3 .add 10) false,
      .conflictTimeout, .conflictTimeout, .conflictTimeout, .deleteEndpoint 0]
    let dir := (run (endpointStep .listed) twoSwitches events).directory
    (dir.endpoint 0).valid = false ∧
    ∀ vMac endpoint, (dir.domainTables 0).endpointHashMAC.lookup vMac = some endpoint →
      (dir.endpoint endpoint).valid = true ∧ (dir.endpoint endpoint).vMac = vMac :=
  ⟨by decide +kernel,
    (lookups_find_live_endpoints .listed twoSwitches twoSwitches_directory _ (by decide +kernel) _
      (List.prefix_refl _) 0).1⟩

/-- Without the condition a lookup finds a dead endpoint. Machine 1 holds an address which two
others announce. It is deleted while the conflict is pending, and the third timeout gives
the address back to it. -/
theorem lookup_finds_dead_endpoint :
    twoSwitches.directory = .empty ∧
    let dir := (run (endpointStep .listed) twoSwitches
      [.update (machineUpdate 1 1 .add 10) false, .update (machineUpdate 2 2 .add 10) false,
        .update (machineUpdate 2 3 .add 10) false, .deleteEndpoint 0,
        .conflictTimeout, .conflictTimeout, .conflictTimeout]).directory
    ((dir.domainTables 0).endpointHashIP .inet).lookup (.v4 10) = some 0 ∧
      (dir.endpoint 0).valid = false :=
  ⟨twoSwitches_directory, by decide +kernel⟩

end Run

end Collection

end OpenDove
