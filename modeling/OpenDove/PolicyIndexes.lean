import OpenDove.RegistryRuns

/-!
# The three indexes of policies

A policy stands in its domain under both VNIDs, in its source VNID under the destination, and in its
destination VNID under the source. This module has the requests that add, change and delete policies,
and what it means that the three indexes agree. A deletion, whether of one policy or of all those of
a VNID, is shown to take the same pairs out of all three; a policy from a VNID to itself is the
exception, since its deletion raises half way.
-/

namespace OpenDove

open Function

namespace Collection

/-! ## Requests -/

variable (s : Collection) (trafficType : TrafficType) (domainId : Nat)

/-- `Policy.update`. -/
def policyModify (self : PolicyId) (ttl action : Nat) : Collection :=
  let policy := s.policy self
  let s := { s with
    policy := Function.update s.policy self
      { policy with ttl, actionConnectivity := policyConnectivity policy.type action } }
  if (s.domain policy.domain).active then
    s.onPending fun p =>
      { p with policyUpdateQueue := p.policyUpdateQueue ++ [(policy.srcDvg, policy.trafficType)] }
  else s

/-- One of the two lookups of a VNID in `Policy_Add`. A VNID that is missing is created, but the
variable for it stays unbound. -/
def policyAddVnid (domain : DomainId) (vnid : Nat) : Collection × DOVEStatus × Option DvgId :=
  match (s.domain domain).dvgHash.lookup vnid with
  | some dvg => (s, .ok, some dvg)
  | none =>
    let (s, status) := s.dvgAdd domainId vnid
    (s, status, none)

/-- The end of `Policy_Add`: the policy is changed if the domain has it, and created otherwise,
which raises if one of the variables is unbound. -/
def policyAddEntry (domain : DomainId) (src dst : Nat) (srcDvg dstDvg : Option DvgId)
    (ttl action : Nat) : Collection × DOVEStatus :=
  match ((s.domain domain).policyHashDVG trafficType).lookup (src, dst) with
  | some policy =>
    let s := s.policyModify policy ttl action
    s.registerPolicy domain (s.policy policy) true
  | none =>
    match srcDvg, dstDvg with
    | some srcDvg, some dstDvg =>
      match s.policyCreate domain trafficType typeConnectivity srcDvg dstDvg ttl action with
      | none => (s, .noResources)
      | some after => after.registerPolicy domain (after.policy s.nextPolicy) true
    | _, _ => (s, .noResources)

/-- `Policy_Add`. -/
def policyAdd (policyType src dst ttl action : Nat) : Collection × DOVEStatus :=
  match s.domainHash.lookup domainId with
  | none => (s, .invalidDomain)
  | some domain =>
    match s.policyAddVnid domainId domain src with
    | (s, .ok, srcDvg) =>
      match s.policyAddVnid domainId domain dst with
      | (s, .ok, dstDvg) =>
        if policyType ≠ typeConnectivity then (s, .notSupported)
        else s.policyAddEntry trafficType domain src dst srcDvg dstDvg ttl action
      | (s, status, _) => (s, status)
    | (s, status, _) => (s, status)

/-- `Policy_Delete`. An exception of the policy's destructor is swallowed. -/
def policyDeleteRequest (src dst : Nat) : Collection × DOVEStatus :=
  match s.domainHash.lookup domainId with
  | none => (s, .ok)
  | some domain =>
    match ((s.domain domain).policyHashDVG trafficType).lookup (src, dst) with
    | none => (s, .ok)
    | some policy =>
      let (s, status) := s.registerPolicy domain (s.policy policy) false
      ((s.policyDelete policy).1, status)

end Collection

/-! ## What the indexes say -/

/-- The pair of numbers under which a domain has a policy, from the VNID at one end and the key it
has the policy under. -/
def PolicyEnd.pair : PolicyEnd → Nat → Nat → Nat × Nat
  | .source, own, other => (own, other)
  | .destination, own, other => (other, own)

/-- The VNID at one end of a pair. -/
def PolicyEnd.own : PolicyEnd → Nat × Nat → Nat
  | .source, pair => pair.1
  | .destination, pair => pair.2

/-- The key under which the VNID at one end has the policy of a pair. -/
def PolicyEnd.other : PolicyEnd → Nat × Nat → Nat
  | .source, pair => pair.2
  | .destination, pair => pair.1

variable {domain : DomainId} {trafficType : TrafficType} {domainId vnid other : Nat} {dvg : DvgId}
  {pair : Nat × Nat} {side : PolicyEnd} {policy : PolicyId}

@[simp] theorem PolicyEnd.own_pair : side.own (side.pair vnid other) = vnid := by
  cases side <;> rfl

@[simp] theorem PolicyEnd.other_pair : side.other (side.pair vnid other) = other := by
  cases side <;> rfl

theorem PolicyEnd.pair_own_other (side : PolicyEnd) (pair : Nat × Nat) :
    side.pair (side.own pair) (side.other pair) = pair := by
  cases side <;> rfl

namespace Registry

/-- The VNID that a handled domain has under a number. -/
def dvgAt (r : Registry) (domainId vnid : Nat) : Option DvgId :=
  (r.domainHash.lookup domainId).bind fun domain => (r.domain domain).dvgHash.lookup vnid

/-- The handled domains and their VNIDs know their places. -/
structure Seated (r : Registry) : Prop where
  domain : ∀ {domainId domain}, r.domainHash.lookup domainId = some domain →
    (r.domain domain).uniqueId = domainId
  dvg : ∀ {domainId vnid dvg}, r.dvgAt domainId vnid = some dvg →
    r.domainHash.lookup domainId = some (r.dvg dvg).domain ∧ (r.dvg dvg).uniqueId = vnid

variable {r : Registry}

theorem dvgAt_of_lookup (known : r.domainHash.lookup domainId = some domain) (vnid : Nat) :
    r.dvgAt domainId vnid = (r.domain domain).dvgHash.lookup vnid := by
  rw [dvgAt, known, Option.bind_some]

theorem Placed.seated (placed : r.Placed) : r.Seated where
  domain known := (placed.domain known).1
  dvg {domainId vnid dvg} found := by
    obtain ⟨domain, known, found⟩ := Option.bind_eq_some_iff.mp found
    rw [(placed.dvg known found).1]
    exact ⟨known, rfl⟩

/-- A VNID object stands for one number in one domain. -/
theorem Seated.dvg_inj (seated : r.Seated) {domainId' vnid' : Nat}
    (found : r.dvgAt domainId vnid = some dvg) (found' : r.dvgAt domainId' vnid' = some dvg) :
    domainId = domainId' ∧ vnid = vnid' := by
  obtain ⟨known, number⟩ := seated.dvg found
  obtain ⟨known', number'⟩ := seated.dvg found'
  exact ⟨(seated.domain known).symm.trans (seated.domain known'), number.symm.trans number'⟩

end Registry

/-- Where a policy belongs. -/
structure PolicyPlace where
  domain : DomainId
  trafficType : TrafficType
  key : Nat × Nat
  srcDvg : DvgId
  dstDvg : DvgId

/-- What there is one policy for: the number of a domain, a type of traffic, and a pair of VNIDs. -/
abbrev PolicyKey := Nat × TrafficType × (Nat × Nat)

/-- The place of a policy is that of its key. -/
structure PolicyPlace.Fits (place : PolicyPlace) (r : Registry) (key : PolicyKey) : Prop where
  domain : r.domainHash.lookup key.1 = some place.domain
  ofType : place.trafficType = key.2.1
  pair : place.key = key.2.2
  source : r.dvgAt key.1 key.2.2.1 = some place.srcDvg
  destination : r.dvgAt key.1 key.2.2.2 = some place.dstDvg

theorem PolicyPlace.Fits.key_eq {place : PolicyPlace} {r : Registry} {key key' : PolicyKey}
    (fits : place.Fits r key) (fits' : place.Fits r key') (seated : r.Seated) : key = key' :=
  Prod.ext ((seated.domain fits.domain).symm.trans (seated.domain fits'.domain))
    (Prod.ext (fits.ofType.symm.trans fits'.ofType) (fits.pair.symm.trans fits'.pair))

/-- The three indexes of the policies of handled domains, that of the domains and those of the VNIDs
at both ends, with what they depend on. -/
@[ext] structure PolicyBook where
  registry : Registry
  index : Option PolicyEnd × PolicyKey → Option PolicyId
  place : PolicyId → PolicyPlace
  valid : PolicyId → Bool
  next : PolicyId

namespace PolicyBook

/-- One of the indexes has another policy, or none, for a key. -/
def write (b : PolicyBook) (entry : Option PolicyEnd × PolicyKey) (policy : Option PolicyId) :
    PolicyBook :=
  { b with index := update b.index entry policy }

/-- A new policy is entered into all three indexes. -/
def file (b : PolicyBook) (key : PolicyKey) (place : PolicyPlace) : PolicyBook where
  registry := b.registry
  index entry := if entry.2 = key then some b.next else b.index entry
  place := update b.place b.next place
  valid := update b.valid b.next true
  next := b.next + 1

/-- The indexes agree, and what is in them is a policy of its key. The policy of a VNID to itself
may be left over at an end. -/
structure Indexed (b : PolicyBook) : Prop where
  seated : b.registry.Seated
  agree : ∀ key side, b.index (some side, key) = b.index (none, key) ∨
    key.2.2.1 = key.2.2.2 ∧ b.index (none, key) = none
  fits : ∀ {which key policy}, b.index (which, key) = some policy →
    (b.place policy).Fits b.registry key ∧ policy < b.next
  valid : ∀ {key policy}, b.index (none, key) = some policy → b.valid policy = true

/-- A change that takes policies of one VNID out of the indexes. -/
structure Emptied (domainId vnid : Nat) (before after : PolicyBook) : Prop where
  registry : after.registry = before.registry
  indexed : after.Indexed
  index : ∀ key, after.index (none, key) = before.index (none, key) ∨
    after.index (none, key) = none ∧ key.1 = domainId ∧ (key.2.2.1 = vnid ∨ key.2.2.2 = vnid)

variable {b mid after : PolicyBook} {key : PolicyKey}

theorem Emptied.refl (indexed : b.Indexed) : Emptied domainId vnid b b :=
  ⟨rfl, indexed, fun _ => Or.inl rfl⟩

theorem Emptied.trans (first : Emptied domainId vnid b mid) (second : Emptied domainId vnid mid after) :
    Emptied domainId vnid b after where
  registry := second.registry.trans first.registry
  indexed := second.indexed
  index key := by
    rcases second.index key with same | gone
    · rw [same]
      exact first.index key
    · exact Or.inr gone

theorem Emptied.index_none (emptied : Emptied domainId vnid b after)
    (nothing : b.index (none, key) = none) : after.index (none, key) = none :=
  (emptied.index key).elim (·.trans nothing) And.left

namespace Indexed

variable (indexed : b.Indexed)

include indexed

/-- Taking a policy out of the indexes, and marking it as invalid. -/
theorem remove (fits : (b.place policy).Fits b.registry key)
    {index : Option PolicyEnd × PolicyKey → Option PolicyId} {valid : PolicyId → Bool}
    (own : index (none, key) = none)
    (ends : ∀ side, index (some side, key) = none ∨
      key.2.2.1 = key.2.2.2 ∧ index (some side, key) = b.index (some side, key))
    (rest : ∀ which other, other ≠ key → index (which, other) = b.index (which, other))
    (marked : ∀ other, other ≠ policy → valid other = b.valid other) :
    { b with index, valid }.Indexed := by
  have before : ∀ {which other found}, index (which, other) = some found →
      b.index (which, other) = some found := by
    intro which other found isFound
    by_cases here : other = key
    · subst here
      cases which with
      | none => rw [own] at isFound; cases isFound
      | some side =>
        rcases ends side with nothing | ⟨-, same⟩
        · rw [nothing] at isFound
          cases isFound
        · exact same.symm.trans isFound
    · exact (rest which other here).symm.trans isFound
  refine ⟨indexed.seated, fun other side => ?_, fun found => indexed.fits (before found), ?_⟩
  · by_cases here : other = key
    · subst here
      exact (ends side).imp (·.trans own.symm) fun stale => ⟨stale.1, own⟩
    · dsimp only
      rw [rest _ other here, rest _ other here]
      exact indexed.agree other side
  · intro other found isFound
    have isOther : found ≠ policy := by
      rintro rfl
      have same := (indexed.fits (before isFound)).1.key_eq fits indexed.seated
      subst same
      exact Option.some_ne_none _ (isFound.symm.trans own)
    exact (marked found isOther).trans (indexed.valid (before isFound))

theorem file {place : PolicyPlace} (fits : place.Fits b.registry key) :
    (b.file key place).Indexed := by
  refine ⟨indexed.seated, fun other side => ?_, fun {which other found} isFound => ?_,
    fun {other found} isFound => ?_⟩
  · by_cases here : other = key
    · left
      simp only [PolicyBook.file, here, if_true]
    · simp only [PolicyBook.file, here, if_false]
      exact indexed.agree other side
  · dsimp only [PolicyBook.file] at isFound ⊢
    split at isFound
    · next here =>
      subst here
      obtain rfl := Option.some.inj isFound
      rw [update_self]
      exact ⟨fits, Nat.lt_succ_self _⟩
    · obtain ⟨fits, older⟩ := indexed.fits isFound
      rw [update_of_ne older.ne]
      exact ⟨fits, older.trans (Nat.lt_succ_self _)⟩
  · dsimp only [PolicyBook.file] at isFound ⊢
    split at isFound
    · obtain rfl := Option.some.inj isFound
      exact update_self ..
    · rw [update_of_ne (indexed.fits isFound).2.ne]
      exact indexed.valid isFound

/-- A change of the registry that moves none of the VNIDs that policies are for. -/
theorem reseat {registry : Registry} (seated : registry.Seated)
    {index : Option PolicyEnd × PolicyKey → Option PolicyId}
    (own : ∀ key, index (none, key) = b.index (none, key))
    (ends : ∀ side key, index (some side, key) = b.index (some side, key) ∨
      index (some side, key) = none ∧ b.index (none, key) = none)
    (domainHash : registry.domainHash = b.registry.domainHash)
    (dvgs : ∀ {which key policy}, index (which, key) = some policy →
      registry.dvgAt key.1 key.2.2.1 = b.registry.dvgAt key.1 key.2.2.1 ∧
      registry.dvgAt key.1 key.2.2.2 = b.registry.dvgAt key.1 key.2.2.2) :
    { b with registry, index }.Indexed := by
  have before : ∀ {which key policy}, index (which, key) = some policy →
      b.index (which, key) = some policy := by
    intro which key policy found
    cases which with
    | none => exact (own key).symm.trans found
    | some side =>
      rcases ends side key with same | ⟨nothing, -⟩
      · exact same.symm.trans found
      · rw [nothing] at found
        cases found
  refine ⟨seated, fun key side => ?_, fun {which key policy} found => ?_, fun found =>
    indexed.valid (before found)⟩
  · dsimp only
    rw [own]
    rcases ends side key with same | ⟨nothing, nothing'⟩
    · rw [same]
      exact indexed.agree key side
    · exact Or.inl (nothing.trans nothing'.symm)
  · obtain ⟨⟨domain, ofType, pair, source, destination⟩, older⟩ := indexed.fits (before found)
    obtain ⟨sameSource, sameDestination⟩ := dvgs found
    exact ⟨⟨domainHash ▸ domain, ofType, pair, sameSource.trans source,
      sameDestination.trans destination⟩, older⟩

end Indexed

end PolicyBook

/-! ## The indexes of a server -/

/-- Where a policy belongs. -/
def Policy.place (policy : Policy) : PolicyPlace where
  domain := policy.domain
  trafficType := policy.trafficType
  key := policy.key
  srcDvg := policy.srcDvg
  dstDvg := policy.dstDvg

namespace Collection

open PolicyBook

/-- The policy that a domain has for a pair of VNIDs. -/
def policyAt (s : Collection) (domain : DomainId) (trafficType : TrafficType) (pair : Nat × Nat) :
    Option PolicyId :=
  ((s.domain domain).policyHashDVG trafficType).lookup pair

/-- The policy that a VNID has under the number of another one. -/
def endAt (s : Collection) (dvg : DvgId) (side : PolicyEnd) (trafficType : TrafficType)
    (other : Nat) : Option PolicyId :=
  ((s.dvg dvg).policies side trafficType).lookup other

/-- The policy that one of the indexes has for a key. -/
def policyIndex (s : Collection) : Option PolicyEnd × PolicyKey → Option PolicyId
  | (none, domainId, trafficType, pair) =>
    (s.registry.domainHash.lookup domainId).bind fun domain => s.policyAt domain trafficType pair
  | (some side, domainId, trafficType, pair) =>
    (s.registry.dvgAt domainId (side.own pair)).bind fun dvg =>
      s.endAt dvg side trafficType (side.other pair)

/-- The indexes of policies of a server. -/
def book (s : Collection) : PolicyBook where
  registry := s.registry
  index := s.policyIndex
  place policy := (s.policy policy).place
  valid policy := (s.policy policy).valid
  next := s.nextPolicy

variable {s after : Collection} {key : PolicyKey}

theorem index_none (known : s.domainHash.lookup domainId = some domain) :
    s.book.index (none, domainId, trafficType, pair) = s.policyAt domain trafficType pair :=
  congrArg (Option.bind · fun domain => s.policyAt domain trafficType pair) known

theorem index_some (found : s.registry.dvgAt domainId vnid = some dvg) (side : PolicyEnd)
    (trafficType : TrafficType) (other : Nat) :
    s.book.index (some side, domainId, trafficType, side.pair vnid other) =
      s.endAt dvg side trafficType other := by
  dsimp only [book, policyIndex]
  rw [PolicyEnd.own_pair, PolicyEnd.other_pair, found, Option.bind_some]

/-- A change that leaves the maps and all policies alone. -/
theorem book_congr (registry : after.registry = s.registry) (hash : after.policyAt = s.policyAt)
    (ends : after.endAt = s.endAt) (policy : ∀ policy, (after.policy policy).place =
      (s.policy policy).place ∧ (after.policy policy).valid = (s.policy policy).valid)
    (next : after.nextPolicy = s.nextPolicy) : after.book = s.book := by
  refine PolicyBook.ext registry (funext fun entry => ?_) (funext fun self => (policy self).1)
    (funext fun self => (policy self).2) next
  obtain ⟨_ | side, key⟩ := entry
  · simp only [book, policyIndex, registry, hash]
  · simp only [book, policyIndex, registry, ends]

/-- A change outside the configuration is none of the indexes. -/
theorem Settled.book (settled : Settled s after) : after.book = s.book := by
  have domains := congrFun (congrArg Configuration.domain settled)
  have dvgs := congrFun (congrArg Configuration.dvg settled)
  have policies : after.policy = s.policy := congrArg Configuration.policy settled
  refine book_congr settled.registry (funext₃ fun domain trafficType pair => ?_)
    (funext fun dvg => funext₃ fun side trafficType other => ?_) (fun _ => policies ▸ ⟨rfl, rfl⟩)
    (congrArg Configuration.nextPolicy settled)
  · exact congrArg (fun d : DomainConfiguration => (d.policyHashDVG trafficType).lookup pair)
      (domains domain)
  · cases side
    · exact congrArg (fun g : VnidConfiguration => (g.policySource trafficType).lookup other)
        (dvgs dvg)
    · exact congrArg (fun g : VnidConfiguration => (g.policyDestination trafficType).lookup other)
        (dvgs dvg)

/-! ## What the single writes do -/

/-- A change of attributes of a VNID that the indexes do not depend on. -/
theorem book_modifyDvg (change : DVG → DVG)
    (record : (change (s.dvg dvg)).record = (s.dvg dvg).record)
    (policies : (change (s.dvg dvg)).policies = (s.dvg dvg).policies) :
    (s.modifyDvg dvg change).book = s.book := by
  refine book_congr (registry_modifyDvg dvg change record) rfl
    (funext fun dvg' => funext₃ fun side trafficType other => ?_) (fun _ => ⟨rfl, rfl⟩) rfl
  exact update_keeps (fun g : DVG => (g.policies side trafficType).lookup other) s.dvg
    (by rw [policies]) dvg'

section Writes

variable (seated : s.registry.Seated)

include seated

/-- Replacing the policy of a pair in a domain. -/
theorem book_setPolicy (known : s.domainHash.lookup domainId = some domain)
    {table : Dict (Nat × Nat) PolicyId}
    (same : ∀ other ≠ pair, table.lookup other = s.policyAt domain trafficType other) :
    (s.modifyDomain domain fun d =>
      { d with policyHashDVG := Function.update d.policyHashDVG trafficType table }).book =
      s.book.write (none, domainId, trafficType, pair) (table.lookup pair) := by
  refine PolicyBook.ext (registry_modifyDomain domain _ rfl) (funext fun entry => ?_) rfl rfl rfl
  obtain ⟨_ | side, number, trafficType', pair'⟩ := entry
  · dsimp only [book, PolicyBook.write, policyIndex]
    by_cases here : (number, trafficType', pair') = (domainId, trafficType, pair)
    · cases here
      simp [known, policyAt, modifyDomain, registry]
    · rw [Function.update_of_ne fun equal => here (congrArg Prod.snd equal)]
      refine Option.bind_congr fun domain' known' => ?_
      by_cases sameDomain : domain' = domain
      · subst sameDomain
        have sameNumber : number = domainId := (seated.domain known').symm.trans (seated.domain known)
        by_cases sameType : trafficType' = trafficType
        · subst sameType sameNumber
          have other : pair' ≠ pair := fun equal => here (by rw [equal])
          simpa [policyAt, modifyDomain] using same pair' other
        · simp [policyAt, modifyDomain, sameType]
      · simp [policyAt, modifyDomain, sameDomain]
  · dsimp only [book, PolicyBook.write, policyIndex]
    rw [Function.update_of_ne (by simp), registry_modifyDomain domain _ rfl]
    rfl

/-- Replacing one of the policy tables of a VNID. -/
theorem index_setPolicies (found : s.registry.dvgAt domainId vnid = some dvg) (side : PolicyEnd)
    (trafficType : TrafficType) (table : Dict Nat PolicyId) (which : Option PolicyEnd)
    (key : PolicyKey) :
    (s.modifyDvg dvg fun g => g.setPolicies side trafficType table).book.index (which, key) =
      if which = some side ∧ key.1 = domainId ∧ key.2.1 = trafficType ∧ side.own key.2.2 = vnid
      then table.lookup (side.other key.2.2) else s.book.index (which, key) := by
  obtain ⟨number, trafficType', pair⟩ := key
  cases which with
  | none => rfl
  | some side' =>
    dsimp only [book, policyIndex]
    rw [registry_modifyDvg dvg _ (by simp)]
    cases found' : s.registry.dvgAt number (side'.own pair) with
    | none =>
      rw [if_neg]
      · rfl
      · rintro ⟨⟨⟩, rfl, rfl, rfl⟩
        exact Option.some_ne_none _ (found.symm.trans found')
    | some dvg' =>
      simp only [Option.bind_some, endAt, modifyDvg]
      by_cases same : dvg' = dvg
      · subst same
        obtain ⟨rfl, own⟩ := seated.dvg_inj found found'
        cases side <;> cases side' <;> by_cases sameType : trafficType' = trafficType <;>
          simp_all [DVG.policies, DVG.setPolicies]
      · rw [update_of_ne same, if_neg]
        rintro ⟨⟨⟩, rfl, rfl, rfl⟩
        exact same (Option.some.inj (found'.symm.trans found))

/-- Replacing the policy of a key at one end. -/
theorem book_setPolicies (found : s.registry.dvgAt domainId vnid = some dvg)
    {table : Dict Nat PolicyId}
    (same : ∀ key ≠ other, table.lookup key = s.endAt dvg side trafficType key) :
    (s.modifyDvg dvg fun g => g.setPolicies side trafficType table).book =
      s.book.write (some side, domainId, trafficType, side.pair vnid other) (table.lookup other) := by
  refine PolicyBook.ext (registry_modifyDvg dvg _ (by simp)) (funext fun entry => ?_) rfl rfl rfl
  obtain ⟨which, number, trafficType', pair⟩ := entry
  refine (index_setPolicies seated found side trafficType table which _).trans ?_
  dsimp only [PolicyBook.write]
  split
  · next here =>
    obtain ⟨rfl, rfl, rfl, own⟩ := here
    obtain ⟨far, rfl⟩ : ∃ far, pair = side.pair vnid far :=
      ⟨side.other pair, own ▸ (side.pair_own_other pair).symm⟩
    rw [PolicyEnd.other_pair]
    by_cases equal : far = other
    · subst equal
      rw [update_self]
    · rw [same far equal, update_of_ne]
      · exact (index_some found ..).symm
      · intro sameEntry
        have sameOther := congrArg (fun entry => side.other entry.2.2.2) sameEntry
        simp only [PolicyEnd.other_pair] at sameOther
        exact equal sameOther
  · next elsewhere =>
    rw [update_of_ne]
    intro equal
    simp only [Prod.mk.injEq] at equal
    obtain ⟨rfl, rfl, rfl, equal⟩ := equal
    exact elsewhere ⟨rfl, rfl, rfl, by rw [equal, PolicyEnd.own_pair]⟩

/-- `Domain.policy_del`. -/
theorem domainPolicyDel_book (known : s.domainHash.lookup domainId = some domain)
    (policy : PolicyId) :
    (s.domainPolicyDel domain policy).book = s.book.write (none, domainId,
      (s.policy policy).trafficType, (s.policy policy).key) none :=
  (book_setPolicy seated known fun _ different => AList.lookup_erase_ne different).trans
    (congrArg (s.book.write _) (AList.lookup_erase _ _))

variable (found : s.registry.dvgAt domainId vnid = some dvg)

include found

/-- A VNID forgets a policy. -/
theorem book_erase (side : PolicyEnd) (trafficType : TrafficType) (other : Nat) :
    (s.modifyDvg dvg fun g => g.setPolicies side trafficType
      ((g.policies side trafficType).erase other)).book =
      s.book.write (some side, domainId, trafficType, side.pair vnid other) none :=
  (book_setPolicies seated found fun _ different => AList.lookup_erase_ne different).trans
    (congrArg (s.book.write _) (AList.lookup_erase _ _))

/-- A VNID records a policy. -/
theorem book_insert (side : PolicyEnd) (trafficType : TrafficType) (other : Nat)
    (policy : PolicyId) :
    (s.modifyDvg dvg fun g => g.setPolicies side trafficType
      ((g.policies side trafficType).insert other policy)).book =
      s.book.write (some side, domainId, trafficType, side.pair vnid other) (some policy) :=
  (book_setPolicies seated found fun _ different => AList.lookup_insert_ne different).trans
    (congrArg (s.book.write _) (AList.lookup_insert _))

/-- `DVG.policy_del_src` and `DVG.policy_del_dst`. -/
theorem dvgPolicyDel_book (side : PolicyEnd) (trafficType : TrafficType) (other : Nat) :
    (s.dvgPolicyDel dvg side other trafficType).book =
      s.book.write (some side, domainId, trafficType, side.pair vnid other) none := by
  rw [← book_erase seated found]
  cases side
  · exact ((Settled.refl _).policyUpdate dvg trafficType).book
  · rfl

end Writes

theorem book_mark (s : Collection) (self : PolicyId) :
    { s with
      policy := Function.update s.policy self { s.policy self with valid := false } }.book =
      { s.book with valid := Function.update s.book.valid self false } :=
  PolicyBook.ext rfl rfl (funext (update_keeps Policy.place s.policy rfl))
    (funext fun other => Function.apply_update (fun _ => Policy.valid) s.policy self _ other) rfl

/-- `Policy.delete` of a policy from a VNID to itself raises after it has marked the policy. -/
theorem policyDelete_self_book (self : PolicyId)
    (same : (s.policy self).srcDvg = (s.policy self).dstDvg) :
    (s.policyDelete self).1.book =
      { s.book with valid := Function.update s.book.valid self false } := by
  by_cases valid : (s.policy self).valid = true
  · simp only [policyDelete, if_pos valid, if_pos same]
    exact s.book_mark self
  · simp only [policyDelete, if_neg valid]
    have invalid : s.book.valid self = false := Bool.eq_false_iff.mpr valid
    rw [← invalid, update_eq_self]

/-- The end of `Policy.delete`, where the policy is taken out of the three indexes. -/
theorem unlink_book (seated : s.registry.Seated) {src dst : Nat} {srcDvg dstDvg : DvgId}
    {self : PolicyId} (known : s.domainHash.lookup domainId = some domain)
    (ofType : (s.policy self).trafficType = trafficType) (pair : (s.policy self).key = (src, dst))
    (source : s.registry.dvgAt domainId src = some srcDvg)
    (destination : s.registry.dvgAt domainId dst = some dstDvg) :
    let mid := s.dvgPolicyDel dstDvg .destination (s.dvg srcDvg).uniqueId trafficType
    ((mid.dvgPolicyDel srcDvg .source (mid.dvg dstDvg).uniqueId trafficType).domainPolicyDel domain
      self).book =
      { s.book with
        index := fun entry => if entry.2 = (domainId, trafficType, src, dst) then none
          else s.book.index entry } := by
  intro mid
  have first : mid.book = s.book.write (some .destination, domainId, trafficType, src, dst) none := by
    rw [← (seated.dvg source).2]
    exact dvgPolicyDel_book seated destination ..
  have registry : mid.registry = s.registry := congrArg PolicyBook.registry first
  have second : (mid.dvgPolicyDel srcDvg .source (mid.dvg dstDvg).uniqueId trafficType).book =
      mid.book.write (some .source, domainId, trafficType, src, dst) none := by
    rw [← registry] at seated source destination
    rw [← (seated.dvg destination).2]
    exact dvgPolicyDel_book seated source ..
  generalize mid.dvgPolicyDel srcDvg .source _ _ = last at second ⊢
  rw [first] at second
  have place : (last.policy self).place = (s.policy self).place := congrArg (·.place self) second
  have registry' : last.registry = s.registry := congrArg PolicyBook.registry second
  have known' : last.registry.domainHash.lookup domainId = some domain := registry' ▸ known
  have ofType' : (last.policy self).trafficType = trafficType :=
    (congrArg PolicyPlace.trafficType place).trans ofType
  have pair' : (last.policy self).key = (src, dst) := (congrArg PolicyPlace.key place).trans pair
  rw [domainPolicyDel_book (registry' ▸ seated) known', second, ofType', pair']
  refine PolicyBook.ext rfl (funext fun entry => ?_) rfl rfl rfl
  obtain ⟨_ | _ | _, key⟩ := entry <;> by_cases here : key = (domainId, trafficType, src, dst) <;>
    simp [PolicyBook.write, here]

/-- `Policy.delete` of a valid policy between two VNIDs. -/
theorem policyDelete_book (seated : s.registry.Seated) {self : PolicyId}
    (fits : (s.policy self).place.Fits s.registry key) (valid : (s.policy self).valid = true)
    (different : key.2.2.1 ≠ key.2.2.2) :
    (s.policyDelete self).1.book =
      { s.book with
        index := fun entry => if entry.2 = key then none else s.book.index entry
        valid := Function.update s.book.valid self false } := by
  obtain ⟨domainId, trafficType, src, dst⟩ := key
  obtain ⟨known, rfl, pair, source, destination⟩ := fits
  have distinct : (s.policy self).srcDvg ≠ (s.policy self).dstDvg := by
    intro same
    have source : _ = some (s.policy self).srcDvg := source
    rw [same] at source
    exact different (seated.dvg_inj source destination).2
  simp only [policyDelete, if_pos valid, if_neg distinct]
  have place := congrArg (·.place self) (s.book_mark self)
  refine (unlink_book (s := { s with
    policy := Function.update s.policy self { s.policy self with valid := false } }) seated known
    (congrArg PolicyPlace.trafficType place) ((congrArg PolicyPlace.key place).trans pair) source
    destination).trans ?_
  rw [s.book_mark]
  rfl

/-! ## Deleting the policies of a VNID -/

section Deletion

variable (indexed : s.book.Indexed) (found : s.registry.dvgAt domainId vnid = some dvg)

include indexed found

/-- One round of the loops in `DVG.delete` over the policies of a VNID. -/
theorem policyRound_emptied (known : s.endAt dvg side trafficType other = some policy) :
    let after := (((s.domainPolicyDel (s.dvg dvg).domain policy).modifyDvg dvg fun g =>
      g.setPolicies side trafficType ((g.policies side trafficType).erase other)).policyDelete
        policy).1
    Emptied domainId vnid s.book after.book ∧
      after.book.index (none, domainId, trafficType, side.pair vnid other) = none := by
  intro after
  have seated : s.registry.Seated := indexed.seated
  obtain ⟨fits, -⟩ := indexed.fits ((index_some found side trafficType other).trans known)
  obtain ⟨key, isKey⟩ : ∃ key, (domainId, trafficType, side.pair vnid other) = key := ⟨_, rfl⟩
  have touches : key.1 = domainId ∧ (key.2.2.1 = vnid ∨ key.2.2.2 = vnid) := by
    subst isKey
    cases side
    · exact ⟨rfl, Or.inl rfl⟩
    · exact ⟨rfl, Or.inr rfl⟩
  have erased : ((s.domainPolicyDel (s.dvg dvg).domain policy).modifyDvg dvg fun g =>
      g.setPolicies side trafficType ((g.policies side trafficType).erase other)).book =
      (s.book.write (none, key) none).write (some side, key) none := by
    have first := domainPolicyDel_book seated (seated.dvg found).1 policy
    have ofType : (s.policy policy).trafficType = trafficType := fits.ofType
    have pair : (s.policy policy).key = side.pair vnid other := fits.pair
    have registry := s.domainPolicyDel_registry (s.dvg dvg).domain policy
    rw [ofType, pair, isKey] at first
    rw [book_erase (registry ▸ seated) (registry ▸ found), isKey]
    exact congrArg (·.write (some side, key) none) first
  rw [isKey] at fits ⊢
  have isAfter : after = (Collection.policyDelete _ policy).1 := rfl
  clear_value after
  generalize ((s.domainPolicyDel (s.dvg dvg).domain policy).modifyDvg dvg fun g => _) = mid
    at erased isAfter
  have registry : mid.registry = s.registry := congrArg PolicyBook.registry erased
  have place : (mid.policy policy).place = (s.policy policy).place :=
    congrArg (·.place policy) erased
  obtain ⟨index, isAfter, own, ends, rest⟩ : ∃ index,
      after.book = { s.book with index, valid := Function.update s.book.valid policy false } ∧
      index (none, key) = none ∧
      (∀ side, index (some side, key) = none ∨
        key.2.2.1 = key.2.2.2 ∧ index (some side, key) = s.book.index (some side, key)) ∧
      ∀ which other, other ≠ key → index (which, other) = s.book.index (which, other) := by
    subst isAfter
    by_cases self : key.2.2.1 = key.2.2.2
    · have same : (mid.policy policy).place.srcDvg = (mid.policy policy).place.dstDvg := by
        rw [place]
        exact Option.some.inj (fits.source.symm.trans (self ▸ fits.destination))
      have deleted := mid.policyDelete_self_book policy same
      rw [erased] at deleted
      refine ⟨_, deleted, by simp [write], fun side' => ?_, fun which other different => ?_⟩
      · by_cases sameSide : side' = side
        · simp [write, sameSide]
        · simp [write, sameSide, self]
      · simp [write, different]
    · have valid : (mid.policy policy).valid = true := by
        have same := (indexed.agree key side).resolve_right fun stale => self stale.1
        refine (congrArg (·.valid policy) erased).trans (indexed.valid (same.symm.trans ?_))
        rw [← isKey, index_some found, known]
      have deleted := policyDelete_book (registry ▸ seated) (place ▸ registry ▸ fits) valid self
      rw [erased] at deleted
      refine ⟨_, deleted, by simp, fun side' => Or.inl (by simp), fun which other different => ?_⟩
      simp [write, different]
  rw [isAfter]
  refine ⟨⟨rfl, indexed.remove fits own ends rest fun _ different =>
    update_of_ne different .., fun other => ?_⟩, own⟩
  by_cases here : other = key
  · exact Or.inr ⟨here ▸ own, here ▸ touches⟩
  · exact Or.inl (rest none other here)

/-- What one end does not have, the domain does not have. -/
theorem index_none_of_end (absent : s.endAt dvg side trafficType other = none) :
    s.book.index (none, domainId, trafficType, side.pair vnid other) = none := by
  have nothing := (index_some found side trafficType other).trans absent
  exact (indexed.agree _ side).elim (fun same => same.symm.trans nothing) And.right

/-- The loop of `DVG.delete` over one policy table of a VNID, for one key. -/
theorem policyKey_emptied (side : PolicyEnd) (trafficType : TrafficType) (other : Nat) :
    let after := match ((s.dvg dvg).policies side trafficType).lookup other with
      | none => s
      | some policy =>
        let s := s.domainPolicyDel (s.dvg dvg).domain policy
        let s := s.modifyDvg dvg fun g =>
          g.setPolicies side trafficType ((g.policies side trafficType).erase other)
        (s.policyDelete policy).1
    Emptied domainId vnid s.book after.book ∧
      after.book.index (none, domainId, trafficType, side.pair vnid other) = none := by
  dsimp only
  split
  · next absent => exact ⟨.refl indexed, index_none_of_end indexed found absent⟩
  · next policy known => exact policyRound_emptied indexed found known

omit indexed found in
/-- A loop whose rounds take policies of a VNID out of the indexes, each of them those of its item. -/
theorem foldl_emptied {ι : Type} {body : Collection → ι → Collection} (ofItem : ι → PolicyKey → Prop)
    (round : ∀ {s : Collection} (item), s.book.Indexed →
      s.registry.dvgAt domainId vnid = some dvg →
      Emptied domainId vnid s.book (body s item).book ∧
        ∀ key, ofItem item key → (body s item).book.index (none, key) = none)
    (items : List ι) (indexed : s.book.Indexed)
    (found : s.registry.dvgAt domainId vnid = some dvg) :
    Emptied domainId vnid s.book (items.foldl body s).book ∧ ∀ item ∈ items,
      ∀ key, ofItem item key → (items.foldl body s).book.index (none, key) = none := by
  induction items generalizing s with
  | nil => exact ⟨.refl indexed, by simp⟩
  | cons item items ih =>
    obtain ⟨emptied, gone⟩ := round item indexed found
    obtain ⟨rest, others⟩ := ih emptied.indexed
      ((congrArg (·.dvgAt domainId vnid) emptied.registry).trans found)
    refine ⟨emptied.trans rest, fun other listed key isKey => ?_⟩
    rcases List.mem_cons.mp listed with rfl | listed
    · exact rest.index_none (gone key isKey)
    · exact others other listed key isKey

/-- The loop of `DVG.delete` over one policy table of a VNID, which is cleared afterwards. -/
theorem dvgDeletePolicies_emptied (side : PolicyEnd) (trafficType : TrafficType) :
    Emptied domainId vnid s.book (s.dvgDeletePolicies dvg side trafficType).book ∧
      ∀ other, (s.dvgDeletePolicies dvg side trafficType).book.index
        (none, domainId, trafficType, side.pair vnid other) = none := by
  obtain ⟨emptied, gone⟩ := foldl_emptied
    (fun other key => key = (domainId, trafficType, side.pair vnid other))
    (fun other indexed found => by
      obtain ⟨emptied, gone⟩ := policyKey_emptied indexed found side trafficType other
      exact ⟨emptied, by rintro key rfl; exact gone⟩)
    ((s.dvg dvg).policies side trafficType).keys indexed found
  unfold dvgDeletePolicies
  generalize ((s.dvg dvg).policies side trafficType).keys.foldl _ s = mid at emptied gone ⊢
  have found' : mid.registry.dvgAt domainId vnid = some dvg :=
    (congrArg (·.dvgAt domainId vnid) emptied.registry).trans found
  have cleared : ∀ other, mid.book.index (none, domainId, trafficType, side.pair vnid other) =
      none := by
    intro other
    by_cases listed : other ∈ ((s.dvg dvg).policies side trafficType).keys
    · exact gone other listed _ rfl
    · exact emptied.index_none (index_none_of_end indexed found (AList.lookup_eq_none.mpr listed))
  have index := index_setPolicies emptied.indexed.seated found' side trafficType ∅
  have own : ∀ key, _ = mid.book.index (none, key) := fun key =>
    (index none key).trans (if_neg (by simp))
  have registry : (mid.modifyDvg dvg fun g => g.setPolicies side trafficType ∅).registry =
      mid.registry := registry_modifyDvg dvg _ (by simp)
  refine ⟨emptied.trans ⟨registry, ?_, fun key => Or.inl (own key)⟩,
    fun other => (own _).trans (cleared other)⟩
  refine emptied.indexed.reseat (registry ▸ emptied.indexed.seated) own (fun side' key => ?_)
    (congrArg Registry.domainHash registry) fun _ => by rw [registry]; exact ⟨rfl, rfl⟩
  by_cases here : some side' = some side ∧ key.1 = domainId ∧ key.2.1 = trafficType ∧
      side.own key.2.2 = vnid
  · have nothing := (index (some side') key).trans (if_pos here)
    obtain ⟨number, trafficType', pair⟩ := key
    obtain ⟨-, rfl, rfl, rfl⟩ := here
    exact Or.inr ⟨nothing.trans (AList.lookup_empty _),
      side.pair_own_other pair ▸ cleared (side.other pair)⟩
  · exact Or.inl ((index (some side') key).trans (if_neg here))

end Deletion

end Collection

end OpenDove
