import OpenDove.PolicyIndexes

/-!
# The indexes of policies along runs

What the requests of the controller do to the three indexes, and that the indexes agree after every
run in which no VNID loses its policy to itself by a request. Such a request marks the policy as
invalid and raises before the default is restored.
-/

namespace OpenDove

open Function

variable {domain : DomainId} {s after : Collection} {domainId vnid dst src : Nat} {dvg : DvgId}

namespace Registry

variable {r : Registry} (seated : r.Seated)

include seated

/-- The VNIDs of a handled domain are replaced. -/
theorem Seated.dvgAt_update (known : r.domainHash.lookup domainId = some domain)
    (table : Dict Nat DvgId) (number vnid : Nat) :
    { r with
      domain := update r.domain domain { r.domain domain with dvgHash := table } }.dvgAt
        number vnid = if number = domainId then table.lookup vnid else r.dvgAt number vnid := by
  dsimp only [dvgAt]
  by_cases here : number = domainId
  · subst here
    simp [known]
  · rw [if_neg here]
    refine Option.bind_congr fun domain' known' => ?_
    have other : domain' ≠ domain := by
      rintro rfl
      exact here ((seated.domain known').symm.trans (seated.domain known))
    rw [update_of_ne other]

theorem Seated.dvgAt_dvgCreate (known : r.domainHash.lookup domainId = some domain)
    (dvgId number vnid : Nat) :
    (r.dvgCreate domain dvgId).dvgAt number vnid =
      if number = domainId ∧ vnid = dvgId then some r.nextDvg else r.dvgAt number vnid := by
  refine (seated.dvgAt_update known ((r.domain domain).dvgHash.insert dvgId r.nextDvg) number
    vnid).trans ?_
  by_cases here : number = domainId
  · simp [here, Dict.lookup_insert, dvgAt_of_lookup known]
  · simp [here]

theorem Seated.dvgAt_dvgLeave (found : r.dvgAt domainId vnid = some dvg) (number other : Nat) :
    (r.dvgLeave dvg).dvgAt number other =
      if number = domainId ∧ other = vnid then none else r.dvgAt number other := by
  obtain ⟨known, isVnid⟩ := seated.dvg found
  refine (seated.dvgAt_update known ((r.domain (r.dvg dvg).domain).dvgHash.erase
    (r.dvg dvg).uniqueId) number other).trans ?_
  by_cases here : number = domainId
  · simp [here, Dict.lookup_erase, dvgAt_of_lookup known, isVnid]
  · simp [here]

end Registry

namespace PolicyBook

/-- The indexes agree, and every VNID has a policy to itself. -/
structure Orderly (b : PolicyBook) : Prop where
  placed : b.registry.Placed
  indexed : b.Indexed
  self : ∀ {domainId vnid dvg}, b.registry.dvgAt domainId vnid = some dvg → ∀ trafficType,
    b.index (none, domainId, trafficType, vnid, vnid) ≠ none

namespace Orderly

variable {b : PolicyBook} (orderly : b.Orderly)

include orderly

theorem file {key : PolicyKey} {place : PolicyPlace} (fits : place.Fits b.registry key) :
    (b.file key place).Orderly := by
  refine ⟨orderly.placed, orderly.indexed.file fits, fun found trafficType => ?_⟩
  dsimp only [PolicyBook.file]
  split
  · exact Option.some_ne_none _
  · exact orderly.self found trafficType

end Orderly

end PolicyBook

namespace Collection

/-! ## Policies -/

theorem Settled.orderly (settled : Settled s after) (orderly : s.book.Orderly) :
    after.book.Orderly := by
  rw [settled.book]
  exact orderly

/-- A change of the global maps is none of the indexes. -/
theorem remap_orderly (orderly : s.book.Orderly) (vnidHash : Dict Nat Nat)
    (domainHashGlobal : Dict Nat (List Nat)) :
    { s with vnidHash, domainHashGlobal }.book.Orderly := by
  have placed : Registry.Placed { s.registry with vnidHash, domainHashGlobal } :=
    ⟨orderly.placed.domain, orderly.placed.dvg⟩
  exact ⟨placed, orderly.indexed.reseat placed.seated (fun _ => rfl) (fun _ _ => Or.inl rfl) rfl
    fun _ => ⟨rfl, rfl⟩, orderly.self⟩

/-- `Policy.update` changes neither the place of a policy nor whether it is valid. -/
theorem policyModify_book (s : Collection) (self : PolicyId) (ttl action : Nat) :
    (s.policyModify self ttl action).book = s.book := by
  refine ((Settled.refl _).ite ((Settled.refl _).onPending _)).book.trans ?_
  refine book_congr rfl rfl rfl (fun policy => ?_) rfl
  refine ⟨update_keeps Policy.place s.policy ?_ policy, update_keeps Policy.valid s.policy ?_ policy⟩
  · rfl
  · rfl

/-- `Policy.__init__`, for two VNIDs of a handled domain. -/
theorem policyCreate_book (seated : s.registry.Seated)
    (known : s.domainHash.lookup domainId = some domain) {srcDvg dstDvg : DvgId}
    (source : s.registry.dvgAt domainId src = some srcDvg)
    (destination : s.registry.dvgAt domainId dst = some dstDvg) (trafficType : TrafficType)
    (ttl action : Nat) : ∃ after,
      s.policyCreate domain trafficType typeConnectivity srcDvg dstDvg ttl action = some after ∧
      after.book = s.book.file (domainId, trafficType, src, dst)
        ⟨domain, trafficType, (src, dst), srcDvg, dstDvg⟩ := by
  have sourceNumber : (s.dvg srcDvg).uniqueId = src := (seated.dvg source).2
  have destinationNumber : (s.dvg dstDvg).uniqueId = dst := (seated.dvg destination).2
  refine ⟨_, if_neg (by decide), ?_⟩
  rw [sourceNumber, destinationNumber]
  generalize isCreated : ({ s with nextPolicy := _, policy := _ } : Collection) = created
  have start : created.book = { s.book with
      place := Function.update s.book.place s.nextPolicy
        ⟨domain, trafficType, (src, dst), srcDvg, dstDvg⟩
      valid := Function.update s.book.valid s.nextPolicy true
      next := s.nextPolicy + 1 } := by
    subst isCreated
    exact PolicyBook.ext rfl rfl
      (funext fun self => Function.apply_update (fun _ => Policy.place) s.policy s.nextPolicy _ self)
      (funext fun self => Function.apply_update (fun _ => Policy.valid) s.policy s.nextPolicy _ self)
      rfl
  have registry : created.registry = s.registry := congrArg PolicyBook.registry start
  rw [← registry] at seated source destination
  have known : created.registry.domainHash.lookup domainId = some domain := registry ▸ known
  have listed : (created.modifyDomain domain fun d =>
      { d with
        policyHashDVG := Function.update d.policyHashDVG trafficType
          ((d.policyHashDVG trafficType).insert (src, dst) s.nextPolicy) }).book =
      created.book.write (none, domainId, trafficType, src, dst) (some s.nextPolicy) :=
    (book_setPolicy seated known fun _ different => AList.lookup_insert_ne different).trans
      (congrArg (created.book.write _) (AList.lookup_insert _))
  generalize (created.modifyDomain domain fun d => _) = mid at listed ⊢
  have registry : mid.registry = created.registry := congrArg PolicyBook.registry listed
  rw [← registry] at seated source destination
  have first := book_insert seated source .source trafficType dst s.nextPolicy
  have told := ((Settled.refl (mid.modifyDvg srcDvg fun g => g.setPolicies .source trafficType
    ((g.policies .source trafficType).insert dst s.nextPolicy))).policyUpdate srcDvg trafficType).book
  rw [first] at told
  generalize Collection.policyUpdate _ srcDvg trafficType = last at told ⊢
  have registry : last.registry = mid.registry := congrArg PolicyBook.registry told
  rw [book_insert (registry ▸ seated) (registry ▸ destination), told, listed, start]
  refine PolicyBook.ext rfl (funext fun entry => ?_) rfl rfl rfl
  obtain ⟨_ | _ | _, key⟩ := entry <;> by_cases here : key = (domainId, trafficType, src, dst) <;>
    simp [PolicyBook.write, PolicyBook.file, PolicyEnd.pair, book, here]

/-! ## Creating a VNID -/

/-- `DVG.__init__`. The new VNID has no policies. -/
theorem dvgCreate_book (placed : s.registry.Placed)
    (known : s.domainHash.lookup domainId = some domain)
    (fresh : s.registry.dvgAt domainId vnid = none) (small : ¬ vnid > maxNumber) :
    ∃ after, s.dvgCreate domain vnid = some (after, s.nextDvg) ∧
      after.book = { s.book with registry := s.registry.dvgCreate domain vnid } := by
  obtain ⟨after, created, registry⟩ := s.dvgCreate_registry domain vnid small
  dsimp only [dvgCreate] at created
  rw [if_neg small] at created
  obtain rfl := congrArg Prod.fst (Option.some.inj created)
  refine ⟨_, if_neg small, PolicyBook.ext registry (funext fun entry => ?_) rfl rfl rfl⟩
  obtain ⟨_ | side, number, trafficType, pair⟩ := entry
  · refine Option.bind_congr fun domain' _ => ?_
    refine update_keeps (fun d : Domain => (d.policyHashDVG trafficType).lookup pair) s.domain ?_
      domain'
    rfl
  · dsimp only [book, policyIndex]
    rw [registry, placed.seated.dvgAt_dvgCreate known]
    split
    · next here =>
      rw [here.1, here.2, fresh]
      change Collection.endAt _ s.nextDvg side trafficType _ = none
      cases side <;> simp [endAt, modifyDomain, DVG.policies]
    · refine Option.bind_congr fun dvg found => ?_
      obtain ⟨domain', known', found⟩ := Option.bind_eq_some_iff.mp found
      have older : dvg ≠ s.nextDvg := (placed.dvg known' found).2.ne
      simp [endAt, modifyDomain, older]

/-- The part of `Dvg_Add` that may raise gives the new VNID its two policies to itself. -/
theorem dvgAddLocal_orderly (orderly : s.book.Orderly)
    (known : s.domainHash.lookup domainId = some domain)
    (fresh : s.registry.dvgAt domainId vnid = none) (small : ¬ vnid > maxNumber) :
    ∃ after, s.dvgAddLocal domain vnid = some after ∧ after.book.Orderly := by
  obtain ⟨created, isCreated, isBook⟩ := dvgCreate_book orderly.placed known fresh small
  have placed : s.registry.Placed := orderly.placed
  have dvgAt := placed.seated.dvgAt_dvgCreate known vnid
  have placed := placed.dvgCreate known vnid
  have indexed : created.book.Indexed := by
    rw [isBook]
    refine orderly.indexed.reseat placed.seated (fun _ => rfl) (fun _ _ => Or.inl rfl) rfl
      fun {which key policy} found => ?_
    obtain ⟨fits, -⟩ := orderly.indexed.fits found
    have other : ∀ {other dvg}, s.registry.dvgAt key.1 other = some dvg →
        (s.registry.dvgCreate domain vnid).dvgAt key.1 other = s.registry.dvgAt key.1 other := by
      intro other dvg found
      rw [dvgAt, if_neg]
      rintro ⟨same, rfl⟩
      rw [same, fresh] at found
      cases found
    exact ⟨other fits.source, other fits.destination⟩
  have told : (created.registerVnid domain vnid true).1.book = created.book :=
    ((Settled.refl created).registerDelta ..).book
  have seated : ∀ {mid : Collection}, mid.registry = created.registry →
      mid.registry.Seated ∧ mid.domainHash.lookup domainId = some domain ∧
        mid.registry.dvgAt domainId vnid = some s.nextDvg := by
    intro mid same
    have registry := same.trans (congrArg PolicyBook.registry isBook)
    refine ⟨registry ▸ placed.seated, ?_, registry ▸ (dvgAt domainId vnid).trans (if_pos ⟨rfl, rfl⟩)⟩
    exact (congrArg (·.domainHash.lookup domainId) registry).trans known
  obtain ⟨isSeated, isKnown, found⟩ := seated (congrArg PolicyBook.registry told)
  obtain ⟨unicast, isUnicast, filed⟩ := policyCreate_book isSeated isKnown found found .unicast
    defaultTTL actionForward
  rw [told] at filed
  obtain ⟨isSeated', isKnown', found'⟩ := seated (congrArg PolicyBook.registry filed)
  obtain ⟨multicast, isMulticast, filed'⟩ := policyCreate_book isSeated' isKnown' found' found'
    .multicast defaultTTL actionForward
  rw [filed] at filed'
  refine ⟨multicast, by simp [dvgAddLocal, isCreated, isUnicast, isMulticast], ?_⟩
  rw [filed']
  have fits : ∀ trafficType, PolicyPlace.Fits ⟨domain, trafficType, (vnid, vnid), s.nextDvg,
      s.nextDvg⟩ created.registry (domainId, trafficType, vnid, vnid) := fun trafficType =>
    have ⟨_, known, found⟩ := seated rfl
    ⟨known, rfl, rfl, found, found⟩
  refine ⟨?_, (indexed.file (fits .unicast)).file (fits .multicast),
    fun {number other dvg} known trafficType => ?_⟩
  · change created.book.registry.Placed
    rw [isBook]
    exact placed
  · have known : (s.registry.dvgCreate domain vnid).dvgAt number other = some dvg :=
      (congrArg (·.registry.dvgAt number other) isBook).symm.trans known
    dsimp only [PolicyBook.file]
    split
    · exact Option.some_ne_none _
    · next notMulticast =>
      split
      · exact Option.some_ne_none _
      · next notUnicast =>
        rw [dvgAt] at known
        split at known
        · next here =>
          obtain ⟨rfl, rfl⟩ := here
          cases trafficType
          · exact absurd rfl notUnicast
          · exact absurd rfl notMulticast
        · rw [isBook]
          exact orderly.self known trafficType

/-- `Dvg_Add`. -/
theorem dvgAdd_orderly (orderly : s.book.Orderly) (domainId dvgId : Nat) :
    (s.dvgAdd domainId dvgId).1.book.Orderly := by
  dsimp only [dvgAdd]
  split
  · exact orderly
  · have orderly := remap_orderly orderly (s.vnidHash.insert dvgId domainId)
      (s.domainHashGlobal.insert domainId
        (((s.domainHashGlobal.lookup domainId).getD []).insert dvgId))
    split
    · exact orderly
    · next domain known =>
      split
      · exact orderly
      · next fresh =>
        by_cases small : dvgId > maxNumber
        · rw [dvgAddLocal, dvgCreate, if_pos small]
          exact orderly
        · have absent : (s.domain domain).dvgHash.lookup dvgId = none :=
            AList.lookup_eq_none.mpr fresh
          obtain ⟨after, added, orderly⟩ := dvgAddLocal_orderly orderly known
            ((Registry.dvgAt_of_lookup known dvgId).trans absent) small
          rw [added]
          exact orderly

/-! ## Deleting a VNID -/

/-- What `DVG.delete` does before the loops over the policies. -/
theorem dvgDeleteStart_book (s : Collection) (self : DvgId) (change : PendingUpdates → PendingUpdates)
    (vnid : Nat) :
    let mid := ((s.modifyDvg self fun g => { g with valid := false }).sendVnidDeletion self).onPending
      change
    { mid with vnidHash := mid.vnidHash.erase vnid }.book = { s.book with registry := { s.registry with
        vnidHash := s.vnidHash.erase vnid
        dvg := Function.update s.registry.dvg self { s.registry.dvg self with valid := false } } } := by
  intro mid
  have marked : (s.modifyDvg self fun g => { g with valid := false }).book = { s.book with registry :=
      { s.registry with
        dvg := Function.update s.registry.dvg self { s.registry.dvg self with valid := false } } } := by
    refine PolicyBook.ext (s.modifyDvg_registry self _) (funext fun entry => ?_) rfl rfl rfl
    obtain ⟨_ | side, number, trafficType, pair⟩ := entry
    · rfl
    · refine Option.bind_congr fun dvg _ => ?_
      exact update_keeps (fun g : DVG => (g.policies side trafficType).lookup _) s.dvg (by rfl) dvg
  have told : mid.book = _ := (((Settled.refl _).sendVnidDeletion self).onPending change).book
  rw [marked] at told
  exact congrArg (fun b : PolicyBook => { b with
    registry := { b.registry with vnidHash := b.registry.vnidHash.erase vnid } }) told

/-- The loops of `DVG.delete` over the policies. -/
theorem dvgDeleteAllPolicies_emptied (indexed : s.book.Indexed)
    (found : s.registry.dvgAt domainId vnid = some dvg) :
    let after := (((s.dvgDeletePolicies dvg .destination .unicast).dvgDeletePolicies dvg .destination
      .multicast).dvgDeletePolicies dvg .source .unicast).dvgDeletePolicies dvg .source .multicast
    PolicyBook.Emptied domainId vnid s.book after.book ∧ ∀ key : PolicyKey, key.1 = domainId →
      key.2.2.1 = vnid ∨ key.2.2.2 = vnid → after.book.index (none, key) = none := by
  intro after
  obtain ⟨emptied, gone⟩ := foldl_emptied (fun (loop : PolicyEnd × TrafficType) key =>
      ∃ other, key = (domainId, loop.2, loop.1.pair vnid other)) (fun loop indexed found => by
        obtain ⟨emptied, gone⟩ := dvgDeletePolicies_emptied indexed found loop.1 loop.2
        exact ⟨emptied, by rintro key ⟨other, rfl⟩; exact gone other⟩)
    [(.destination, .unicast), (.destination, .multicast), (.source, .unicast), (.source, .multicast)]
    indexed found
  refine ⟨emptied, ?_⟩
  rintro ⟨number, trafficType, src, dst⟩ rfl (rfl | rfl)
  · exact gone (.source, trafficType) (by cases trafficType <;> simp) _ ⟨dst, rfl⟩
  · exact gone (.destination, trafficType) (by cases trafficType <;> simp) _ ⟨src, rfl⟩

/-- A domain forgets a VNID that has no policies left. -/
theorem domainDvgDel_indexed (indexed : s.book.Indexed)
    (found : s.registry.dvgAt domainId vnid = some dvg)
    (gone : ∀ key : PolicyKey, key.1 = domainId → key.2.2.1 = vnid ∨ key.2.2.2 = vnid →
      s.book.index (none, key) = none)
    (seated : (s.domainDvgDel (s.dvg dvg).domain dvg).registry.Seated) :
    (s.domainDvgDel (s.dvg dvg).domain dvg).book.Indexed ∧ ∀ key,
      (s.domainDvgDel (s.dvg dvg).domain dvg).book.index (none, key) = s.book.index (none, key) := by
  have registry := s.domainDvgDel_registry dvg
  have dvgAt : ∀ number other, (s.registry.dvgLeave dvg).dvgAt number other = _ :=
    Registry.Seated.dvgAt_dvgLeave indexed.seated found
  generalize isAfter : s.domainDvgDel (s.dvg dvg).domain dvg = after at seated registry ⊢
  have own : ∀ key, after.book.index (none, key) = s.book.index (none, key) := by
    rintro ⟨number, trafficType, pair⟩
    subst isAfter
    refine Option.bind_congr fun domain _ => ?_
    refine update_keeps (fun d : Domain => (d.policyHashDVG trafficType).lookup pair) s.domain ?_
      domain
    rfl
  have ends : ∀ side (key : PolicyKey), after.book.index (some side, key) =
      if key.1 = domainId ∧ side.own key.2.2 = vnid then none else s.book.index (some side, key) := by
    rintro side ⟨number, trafficType, pair⟩
    dsimp only [book, policyIndex]
    rw [registry, dvgAt]
    subst isAfter
    split
    · rfl
    · rfl
  have nothing : ∀ which (key : PolicyKey), key.1 = domainId →
      key.2.2.1 = vnid ∨ key.2.2.2 = vnid → after.book.index (which, key) = none := by
    intro which key isDomain touches
    have absent := gone key isDomain touches
    cases which with
    | none => exact (own key).trans absent
    | some side =>
      rw [ends]
      split
      · rfl
      · next elsewhere =>
        rcases indexed.agree key side with same | ⟨diagonal, -⟩
        · exact same.trans absent
        · refine absurd ⟨isDomain, ?_⟩ elsewhere
          cases side
          · exact touches.elim id diagonal.trans
          · exact touches.elim diagonal.symm.trans id
  have domainHash : after.registry.domainHash = s.registry.domainHash := by
    rw [registry]
    rfl
  have policies : after.book =
      { s.book with registry := after.registry, index := after.book.index } := by
    subst isAfter
    rfl
  refine ⟨?_, own⟩
  rw [policies]
  refine indexed.reseat seated own (fun side key => ?_) domainHash
    fun {which key policy} isFound => ?_
  · by_cases touches : key.1 = domainId ∧ (key.2.2.1 = vnid ∨ key.2.2.2 = vnid)
    · exact Or.inr ⟨nothing _ key touches.1 touches.2, gone key touches.1 touches.2⟩
    · refine Or.inl ((ends side key).trans (if_neg fun here => touches ⟨here.1, ?_⟩))
      cases side
      · exact Or.inl here.2
      · exact Or.inr here.2
  · have apart : ∀ other, key.2.2.1 = other ∨ key.2.2.2 = other →
        ¬ (key.1 = domainId ∧ other = vnid) := by
      rintro other isEnd ⟨isDomain, rfl⟩
      exact Option.some_ne_none _ (isFound.symm.trans (nothing which key isDomain isEnd))
    rw [registry, dvgAt, dvgAt, if_neg (apart _ (Or.inl rfl)), if_neg (apart _ (Or.inr rfl))]
    exact ⟨rfl, rfl⟩

/-- `DVG.delete`. -/
theorem dvgDelete_orderly (orderly : s.book.Orderly)
    (found : s.registry.dvgAt domainId vnid = some dvg) : (s.dvgDelete dvg).book.Orderly := by
  have isPlaced : s.registry.Placed := orderly.placed
  have placed := isPlaced.dvgDelete dvg
  rw [← dvgDelete_registry] at placed
  have valid : (s.dvg dvg).valid = true := by
    obtain ⟨domain, known, listed⟩ := Option.bind_eq_some_iff.mp found
    exact congrArg VnidRecord.valid (isPlaced.dvg known listed).1
  have start := s.dvgDeleteStart_book dvg (fun p => p.purgeDvg dvg (s.dvg dvg).uniqueId)
    (s.dvg dvg).uniqueId
  unfold dvgDelete at placed ⊢
  rw [if_pos valid] at placed ⊢
  dsimp only at start placed ⊢
  generalize ({ ((s.modifyDvg dvg fun g => { g with valid := false }).sendVnidDeletion dvg).onPending
    _ with vnidHash := _ } : Collection) = started at start placed ⊢
  have indexed : started.book.Indexed := by
    rw [start]
    refine orderly.indexed.reseat ?_ (fun _ => rfl) (fun _ _ => Or.inl rfl) rfl fun _ => ⟨rfl, rfl⟩
    refine ⟨isPlaced.seated.domain, fun {number other dvg'} found => ?_⟩
    obtain ⟨known, isOther⟩ := isPlaced.seated.dvg found
    have sameDomain : (Function.update s.registry.dvg dvg
        { s.registry.dvg dvg with valid := false } dvg').domain = (s.registry.dvg dvg').domain :=
      update_keeps VnidRecord.domain s.registry.dvg (by rfl) dvg'
    exact ⟨known.trans (congrArg some sameDomain.symm),
      (update_keeps VnidRecord.uniqueId s.registry.dvg (by rfl) dvg').trans isOther⟩
  have dvgAt : ∀ number other, started.registry.dvgAt number other = s.registry.dvgAt number other :=
    fun number other => congrArg (·.registry.dvgAt number other) start
  obtain ⟨emptied, gone⟩ := dvgDeleteAllPolicies_emptied indexed ((dvgAt ..).trans found)
  generalize (Collection.dvgDeletePolicies _ dvg .source .multicast) = mid at emptied gone placed ⊢
  have contents := Settled.dvgDeleteContents book Settled.book mid dvg fun _ =>
    book_modifyDvg _ rfl rfl
  generalize (Collection.modifyDvg _ dvg _) = later at contents placed ⊢
  rw [← contents] at emptied gone
  have dvgAt : ∀ number other, later.registry.dvgAt number other = s.registry.dvgAt number other :=
    fun number other => (congrArg (·.dvgAt number other) emptied.registry).trans (dvgAt number other)
  have found := (dvgAt domainId vnid).trans found
  have seated : later.registry.Seated := emptied.indexed.seated
  obtain ⟨indexed, own⟩ := domainDvgDel_indexed emptied.indexed found gone placed.seated
  refine ⟨placed, indexed, fun {number other dvg'} known trafficType => ?_⟩
  have known : (later.domainDvgDel (later.dvg dvg).domain dvg).registry.dvgAt number other = _ := known
  rw [domainDvgDel_registry, seated.dvgAt_dvgLeave found] at known
  rw [own]
  split at known
  · cases known
  · next elsewhere =>
    rcases emptied.index (number, trafficType, other, other) with same | ⟨-, isDomain, either⟩
    · rw [same, start]
      exact orderly.self ((dvgAt number other).symm.trans known) trafficType
    · exact absurd ⟨isDomain, either.elim id id⟩ elsewhere

/-! ## Requests -/

/-- `Dvg_Delete`. -/
theorem dvgDeleteRequest_orderly (orderly : s.book.Orderly) (vnid : Nat) :
    (s.dvgDeleteRequest vnid).book.Orderly := by
  have deleted : (((s.vnidHash.lookup vnid).bind s.domainHash.lookup).elim s fun domain =>
      ((s.domain domain).dvgHash.lookup vnid).elim s fun dvg =>
        ((s.dvgDelete dvg).registerVnid domain vnid true).1).book.Orderly := by
    cases recorded : (s.vnidHash.lookup vnid).bind s.domainHash.lookup with
    | none => exact orderly
    | some domain =>
      obtain ⟨domainId, -, known⟩ := Option.bind_eq_some_iff.mp recorded
      cases found : (s.domain domain).dvgHash.lookup vnid with
      | none => simpa only [Option.elim_some, found, Option.elim_none] using orderly
      | some dvg =>
        simp only [Option.elim_some, found]
        exact ((Settled.refl _).registerDelta ..).orderly
          (dvgDelete_orderly orderly ((Registry.dvgAt_of_lookup known vnid).trans found))
  exact remap_orderly deleted _ _

theorem dvgAdd_domainHash (s : Collection) (domainId dvgId : Nat) :
    (s.dvgAdd domainId dvgId).1.domainHash = s.domainHash := by
  have maps := congrArg (fun result => result.1.domainHash) (s.dvgAdd_registry domainId dvgId)
  refine maps.trans ?_
  dsimp only [Registry.dvgAdd]
  split
  · rfl
  · split
    · rfl
    · split
      · rfl
      · split <;> rfl

/-- One of the two lookups of a VNID in `Policy_Add`. What it finds stands in the domain. -/
theorem policyAddVnid_orderly (orderly : s.book.Orderly) (domainId : Nat) (domain : DomainId)
    (vnid : Nat) {status : DOVEStatus} {dvg : Option DvgId}
    (looked : s.policyAddVnid domainId domain vnid = (after, status, dvg)) :
    after.book.Orderly ∧ after.domainHash = s.domainHash ∧
    (dvg = none ∨ after = s ∧ (s.domain domain).dvgHash.lookup vnid = dvg) := by
  unfold policyAddVnid at looked
  cases found : (s.domain domain).dvgHash.lookup vnid with
  | none =>
    simp only [found, Prod.mk.injEq] at looked
    obtain ⟨rfl, -, rfl⟩ := looked
    exact ⟨dvgAdd_orderly orderly domainId vnid, s.dvgAdd_domainHash domainId vnid, Or.inl rfl⟩
  | some here =>
    simp only [found, Prod.mk.injEq] at looked
    obtain ⟨rfl, -, rfl⟩ := looked
    exact ⟨orderly, rfl, Or.inr ⟨rfl, rfl⟩⟩

/-- The end of `Policy_Add`. -/
theorem policyAddEntry_orderly (orderly : s.book.Orderly)
    (known : s.domainHash.lookup domainId = some domain) {srcDvg dstDvg : Option DvgId}
    (source : srcDvg = none ∨ dstDvg = none ∨ (s.domain domain).dvgHash.lookup src = srcDvg ∧
      (s.domain domain).dvgHash.lookup dst = dstDvg) (trafficType : TrafficType)
    (ttl action : Nat) :
    (s.policyAddEntry trafficType domain src dst srcDvg dstDvg ttl action).1.book.Orderly := by
  dsimp only [policyAddEntry]
  split
  · refine ((Settled.refl _).registerDelta ..).orderly ?_
    rw [policyModify_book]
    exact orderly
  · cases srcDvg with
    | none => exact orderly
    | some srcDvg =>
      cases dstDvg with
      | none => exact orderly
      | some dstDvg =>
        obtain ⟨source, destination⟩ := (source.resolve_left nofun).resolve_left nofun
        have source := (Registry.dvgAt_of_lookup (r := s.registry) known src).trans source
        have destination := (Registry.dvgAt_of_lookup (r := s.registry) known dst).trans destination
        obtain ⟨after, created, filed⟩ := policyCreate_book orderly.indexed.seated known source
          destination trafficType ttl action
        simp only [created]
        refine ((Settled.refl _).registerDelta ..).orderly ?_
        rw [filed]
        exact orderly.file ⟨known, rfl, rfl, source, destination⟩

/-- `Policy_Add`. -/
theorem policyAdd_orderly (orderly : s.book.Orderly) (trafficType : TrafficType)
    (domainId policyType src dst ttl action : Nat) :
    (s.policyAdd trafficType domainId policyType src dst ttl action).1.book.Orderly := by
  unfold policyAdd
  split
  · exact orderly
  · next domain known =>
    split
    · next s' srcDvg looked =>
      obtain ⟨orderly', domains, source⟩ := policyAddVnid_orderly orderly domainId domain src looked
      split
      · next s'' dstDvg looked' =>
        obtain ⟨orderly'', domains', destination⟩ :=
          policyAddVnid_orderly orderly' domainId domain dst looked'
        split
        · exact orderly''
        · have known : s''.domainHash.lookup domainId = some domain := by
            rw [domains', domains, known]
          refine policyAddEntry_orderly orderly'' known ?_ trafficType ttl action
          -- only if both VNIDs were there is the state that of the lookups
          rcases source with missing | ⟨rfl, source⟩
          · exact Or.inl missing
          · rcases destination with missing | ⟨rfl, destination⟩
            · exact Or.inr (Or.inl missing)
            · exact Or.inr (Or.inr ⟨source, destination⟩)
      · next looked' => exact (policyAddVnid_orderly orderly' domainId domain dst looked').1
    · next looked => exact (policyAddVnid_orderly orderly domainId domain src looked).1

/-- `Policy_Delete` of a policy between two VNIDs. -/
theorem policyDeleteRequest_orderly (orderly : s.book.Orderly) (trafficType : TrafficType)
    (domainId : Nat) (different : src ≠ dst) :
    (s.policyDeleteRequest trafficType domainId src dst).1.book.Orderly := by
  unfold policyDeleteRequest
  split
  · exact orderly
  · next domain known =>
    split
    · exact orderly
    · next policy found =>
      have told : (s.registerPolicy domain (s.policy policy) false).1.book = s.book :=
        ((Settled.refl s).registerDelta ..).book
      have found : s.book.index (none, domainId, trafficType, src, dst) = some policy :=
        (index_none known).trans found
      dsimp only
      generalize (s.registerPolicy domain (s.policy policy) false).1 = mid at told ⊢
      rw [← told] at orderly found
      obtain ⟨fits, -⟩ := orderly.indexed.fits found
      rw [policyDelete_book orderly.indexed.seated fits (orderly.indexed.valid found) different]
      refine ⟨orderly.placed, orderly.indexed.remove fits (if_pos rfl) (fun _ => Or.inl (if_pos rfl))
        (fun _ _ other => if_neg other) (fun _ other => update_of_ne other ..), ?_⟩
      intro number vnid dvg isDvg trafficType'
      dsimp only
      rw [if_neg]
      · exact orderly.self isDvg trafficType'
      · intro same
        simp only [Prod.mk.injEq] at same
        exact different (same.2.2.1.symm.trans same.2.2.2)

end Collection

/-! ## Runs -/

/-- The requests of the controller for policies and VNIDs. `policyAdd` also changes a policy. -/
inductive PolicyEvent where
  | dvgAdd (domainId dvgId : Nat)
  | dvgDelete (vnid : Nat)
  | policyAdd (trafficType : TrafficType) (domainId policyType src dst ttl action : Nat)
  | policyDelete (trafficType : TrafficType) (domainId src dst : Nat)

namespace Collection

/-- A server with some domains and no VNIDs. -/
def withDomains (domains : List Nat) : Collection :=
  domains.foldl (fun s domainId => (s.domainAddLocal domainId).1) empty

/-- The state after a request. -/
def policyStep (s : Collection) : PolicyEvent → Collection
  | .dvgAdd domainId dvgId => (s.dvgAdd domainId dvgId).1
  | .dvgDelete vnid => s.dvgDeleteRequest vnid
  | .policyAdd trafficType domainId policyType src dst ttl action =>
    (s.policyAdd trafficType domainId policyType src dst ttl action).1
  | .policyDelete trafficType domainId src dst =>
    (s.policyDeleteRequest trafficType domainId src dst).1

/-- A request does not delete the policy of a VNID to itself. -/
def KeepsSelfPolicies (s : Collection) : PolicyEvent → Prop
  | .policyDelete _ domainId src dst =>
    src = dst → ∀ domain ∈ s.domainHash.lookup domainId, src ∉ (s.domain domain).dvgHash
  | .dvgAdd _ _ | .dvgDelete _ | .policyAdd _ _ _ _ _ _ _ => True

instance (s : Collection) (event : PolicyEvent) : Decidable (s.KeepsSelfPolicies event) := by
  cases event <;> unfold KeepsSelfPolicies <;> infer_instance

/-- In every domain that is handled the three indexes have the same policy for every pair of VNIDs,
if they have one, it is valid, and every VNID has a policy to itself. -/
structure PolicyIndexesAgree (s : Collection) : Prop where
  source : ∀ domainId domain, s.domainHash.lookup domainId = some domain →
    ∀ trafficType src dst, s.policyAt domain trafficType (src, dst) =
      ((s.domain domain).dvgHash.lookup src).bind fun dvg => s.endAt dvg .source trafficType dst
  destination : ∀ domainId domain, s.domainHash.lookup domainId = some domain →
    ∀ trafficType src dst, s.policyAt domain trafficType (src, dst) =
      ((s.domain domain).dvgHash.lookup dst).bind fun dvg => s.endAt dvg .destination trafficType src
  valid : ∀ domainId domain, s.domainHash.lookup domainId = some domain →
    ∀ trafficType pair policy, s.policyAt domain trafficType pair = some policy →
      (s.policy policy).valid = true
  self : ∀ domainId domain, s.domainHash.lookup domainId = some domain →
    ∀ vnid ∈ (s.domain domain).dvgHash, ∀ trafficType, ∃ policy,
      s.policyAt domain trafficType (vnid, vnid) = some policy

theorem agree_of_orderly (orderly : s.book.Orderly) : s.PolicyIndexesAgree := by
  have ends : ∀ {domainId domain}, s.domainHash.lookup domainId = some domain →
      ∀ side trafficType pair, s.policyAt domain trafficType pair =
        ((s.domain domain).dvgHash.lookup (PolicyEnd.own side pair)).bind fun dvg =>
          s.endAt dvg side trafficType (side.other pair) := by
    intro domainId domain known side trafficType pair
    have atEnd : s.book.index (some side, domainId, trafficType, pair) = _ :=
      congrArg (Option.bind · fun dvg => s.endAt dvg side trafficType (side.other pair))
        (Registry.dvgAt_of_lookup (r := s.registry) known (side.own pair))
    refine (index_none known).symm.trans (Eq.trans ?_ atEnd)
    rcases orderly.indexed.agree (domainId, trafficType, pair) side with same | ⟨diagonal, nothing⟩
    · exact same.symm
    · -- a VNID that the domain knows has a policy to itself
      cases found : s.registry.dvgAt domainId (side.own pair) with
      | none =>
        rw [nothing]
        exact (congrArg (Option.bind · _) found).symm
      | some dvg =>
        obtain ⟨src, dst⟩ := pair
        obtain rfl : src = dst := diagonal
        cases side <;> exact absurd nothing (orderly.self found trafficType)
  constructor
  · intro domainId domain known trafficType src dst
    exact ends known .source trafficType (src, dst)
  · intro domainId domain known trafficType src dst
    exact ends known .destination trafficType (src, dst)
  · intro domainId domain known trafficType pair policy found
    exact orderly.indexed.valid ((index_none known).trans found)
  · intro domainId domain known vnid member trafficType
    obtain ⟨dvg, found⟩ := Option.isSome_iff_exists.mp (AList.lookup_isSome.mpr member)
    have present := orderly.self ((Registry.dvgAt_of_lookup known vnid).trans found) trafficType
    rw [index_none known] at present
    exact Option.ne_none_iff_exists'.mp present

/-- No VNID is known, and no policy. -/
structure Vacant (s : Collection) : Prop where
  domainHashGlobal : s.domainHashGlobal = ∅
  placed : s.registry.Placed
  domain : ∀ domain, (s.domain domain).dvgHash = ∅ ∧ (s.domain domain).policyHashDVG = fun _ => ∅

theorem Vacant.domainAddLocal (vacant : s.Vacant) (domainId : Nat) :
    (s.domainAddLocal domainId).1.Vacant := by
  unfold Collection.domainAddLocal
  by_cases known : domainId ∈ s.domainHash
  · simp only [if_pos known, vacant.domainHashGlobal]
    exact vacant
  · by_cases large : domainId > maxNumber
    · simp only [if_neg known, domainCreate, if_pos large]
      exact vacant
    · have placed := vacant.placed.domainCreate domainId
      have created := s.domainCreate_registry domainId true
      rw [if_neg large] at created
      simp only [if_neg known]
      obtain ⟨after, isAfter, registry⟩ := Option.map_eq_some_iff.mp created
      rw [← registry] at placed
      have global : after.domainHashGlobal = ∅ :=
        (congrArg Registry.domainHashGlobal registry).trans vacant.domainHashGlobal
      rw [isAfter]
      simp only [global]
      refine ⟨global, placed, fun domain => ?_⟩
      simp only [domainCreate, if_neg large, Option.some.injEq] at isAfter
      obtain rfl := isAfter
      change (Function.update s.domain s.nextDomain _ domain).dvgHash = ∅ ∧
        (Function.update s.domain s.nextDomain _ domain).policyHashDVG = _
      by_cases isNew : domain = s.nextDomain
      · simp [isNew]
      · simpa [isNew] using vacant.domain domain

/-- Domains without VNIDs have no policies. -/
theorem withDomains_orderly (domains : List Nat) : (withDomains domains).book.Orderly := by
  have vacant : (withDomains domains).Vacant :=
    List.foldlRecOn domains _ ⟨rfl, registry_empty.1, fun _ => ⟨rfl, rfl⟩⟩ fun s vacant domainId _ =>
      vacant.domainAddLocal domainId
  generalize withDomains domains = s at vacant
  have noVnid : ∀ domainId vnid, s.registry.dvgAt domainId vnid = none := by
    intro domainId vnid
    refine Option.bind_eq_none_iff.mpr fun domain _ => ?_
    exact (congrArg (·.lookup vnid) (vacant.domain domain).1).trans (AList.lookup_empty vnid)
  have noPolicy : ∀ entry, s.book.index entry = none := by
    rintro ⟨_ | side, number, trafficType, pair⟩
    · refine Option.bind_eq_none_iff.mpr fun domain _ => ?_
      rw [policyAt, (vacant.domain domain).2]
      exact AList.lookup_empty pair
    · exact congrArg (Option.bind · _) (noVnid number (side.own pair))
  refine ⟨vacant.placed, ⟨vacant.placed.seated, fun key side => Or.inl ?_, fun found => ?_,
    fun found => ?_⟩, fun found => ?_⟩
  · rw [noPolicy, noPolicy]
  · exact absurd (found.symm.trans (noPolicy _)) (Option.some_ne_none _)
  · exact absurd (found.symm.trans (noPolicy _)) (Option.some_ne_none _)
  · exact absurd (found.symm.trans (noVnid _ _)) (Option.some_ne_none _)

/-- A request that does not delete the policy of a VNID to itself. -/
theorem policyStep_orderly (orderly : s.book.Orderly) (event : PolicyEvent)
    (keeps : s.KeepsSelfPolicies event) : (s.policyStep event).book.Orderly := by
  cases event with
  | dvgAdd domainId dvgId => exact dvgAdd_orderly orderly domainId dvgId
  | dvgDelete vnid => exact dvgDeleteRequest_orderly orderly vnid
  | policyAdd trafficType domainId policyType src dst ttl action =>
    exact policyAdd_orderly orderly trafficType domainId policyType src dst ttl action
  | policyDelete trafficType domainId src dst =>
    by_cases different : src = dst
    · subst different
      -- the domain does not know the VNID, so it has no policy for it
      have same : s.policyDeleteRequest trafficType domainId src src = (s, .ok) := by
        unfold Collection.policyDeleteRequest
        cases known : s.domainHash.lookup domainId with
        | none => rfl
        | some domain =>
          have absent := keeps rfl domain known
          cases found : ((s.domain domain).policyHashDVG trafficType).lookup (src, src) with
          | none => simp only [found]
          | some policy =>
            obtain ⟨fits, -⟩ := orderly.indexed.fits ((index_none known).trans found)
            have source := (Registry.dvgAt_of_lookup known src).symm.trans fits.source
            exact absurd (AList.lookup_isSome.mp (Option.isSome_iff_exists.mpr ⟨_, source⟩)) absent
      change (s.policyDeleteRequest trafficType domainId src src).1.book.Orderly
      rw [same]
      exact orderly
    · exact policyDeleteRequest_orderly orderly trafficType domainId different

/-- Deleting the policy of a VNID to itself leaves an invalid policy in the indexes. -/
theorem not_agree_policyDelete_self (orderly : s.book.Orderly) (trafficType : TrafficType)
    (known : s.domainHash.lookup domainId = some domain)
    (member : vnid ∈ (s.domain domain).dvgHash) :
    ¬ (s.policyStep (.policyDelete trafficType domainId vnid vnid)).PolicyIndexesAgree := by
  intro agree
  obtain ⟨policy, found⟩ := (agree_of_orderly orderly).self domainId domain known vnid member
    trafficType
  obtain ⟨fits, -⟩ := orderly.indexed.fits ((index_none known).trans found)
  have same : (s.policy policy).srcDvg = (s.policy policy).dstDvg :=
    Option.some.inj (fits.source.symm.trans fits.destination)
  have told : (s.registerPolicy domain (s.policy policy) false).1.book = s.book :=
    ((Settled.refl s).registerDelta ..).book
  have unfolded : s.policyStep (.policyDelete trafficType domainId vnid vnid) =
      ((s.registerPolicy domain (s.policy policy) false).1.policyDelete policy).1 := by
    have found : ((s.domain domain).policyHashDVG trafficType).lookup (vnid, vnid) = some policy :=
      found
    change (s.policyDeleteRequest trafficType domainId vnid vnid).1 = _
    simp only [Collection.policyDeleteRequest, known, found]
  rw [unfolded] at agree
  generalize (s.registerPolicy domain (s.policy policy) false).1 = mid at told agree
  have place : (mid.policy policy).place = (s.policy policy).place := congrArg (·.place policy) told
  have marked := mid.policyDelete_self_book policy (by
    change (mid.policy policy).place.srcDvg = (mid.policy policy).place.dstDvg
    rw [place]
    exact same)
  generalize (mid.policyDelete policy).1 = after at agree marked
  rw [told] at marked
  have known' : after.domainHash.lookup domainId = some domain :=
    (congrArg (·.registry.domainHash.lookup domainId) marked).trans known
  have found' : after.policyAt domain trafficType (vnid, vnid) = some policy :=
    (index_none known').symm.trans ((congrArg (fun b : PolicyBook =>
      b.index (none, domainId, trafficType, vnid, vnid)) marked).trans ((index_none known).trans found))
  have isValid := agree.valid domainId domain known' trafficType _ policy found'
  have invalid : (after.policy policy).valid = false :=
    (congrArg (·.valid policy) marked).trans (update_self ..)
  exact Bool.false_ne_true (invalid.symm.trans isValid)

/-- Along every run in which no request deletes the policy of a VNID to itself the indexes of
policies agree. The next request keeps them in agreement exactly if it is no such request. -/
theorem policy_indexes_agree (domains : List Nat) (events : List PolicyEvent)
    (keeps : Admissible policyStep KeepsSelfPolicies (withDomains domains) events) :
    let s := run policyStep (withDomains domains) events
    s.PolicyIndexesAgree ∧
      ∀ event, (s.policyStep event).PolicyIndexesAgree ↔ s.KeepsSelfPolicies event := by
  intro s
  have orderly : s.book.Orderly :=
    run_invariant (fun s => s.book.Orderly)
      (fun s event orderly keeps => policyStep_orderly orderly event keeps)
      (withDomains_orderly domains) keeps
  refine ⟨agree_of_orderly orderly, fun event => ⟨fun agree => ?_, fun keeps =>
    agree_of_orderly (policyStep_orderly orderly event keeps)⟩⟩
  cases event with
  | dvgAdd domainId dvgId => exact trivial
  | dvgDelete vnid => exact trivial
  | policyAdd trafficType domainId policyType src dst ttl action => exact trivial
  | policyDelete trafficType domainId src dst =>
    rintro rfl domain known member
    exact not_agree_policyDelete_self orderly trafficType known member agree

/-- Two VNIDs, a policy between them that is added, changed and deleted, one that goes with its
destination, and a deletion of a policy to itself that does not exist. -/
theorem policy_indexes_agree_two_vnids :
    let events := [.dvgAdd 7 70, .dvgAdd 7 71, .policyAdd .unicast 7 1 70 71 60 0,
      .policyAdd .unicast 7 1 70 71 60 1, .policyAdd .multicast 7 1 71 70 60 0,
      .policyDelete .unicast 7 70 71, .dvgDelete 70, .policyDelete .unicast 7 70 70]
    Admissible policyStep KeepsSelfPolicies (withDomains [7]) events ∧
      (run policyStep (withDomains [7]) events).PolicyIndexesAgree :=
  have keeps : Admissible policyStep KeepsSelfPolicies (withDomains [7]) _ := by decide +kernel
  ⟨keeps, (policy_indexes_agree [7] _ keeps).1⟩

/-- The policy of a VNID to itself is changed to drop and then deleted. All three indexes still have
it, but it is invalid and still drops, and a second deletion does nothing. -/
theorem policy_indexes_have_an_invalid_policy :
    let s := run policyStep (withDomains [7])
      [.dvgAdd 7 70, .policyAdd .unicast 7 1 70 70 60 actionDrop, .policyDelete .unicast 7 70 70]
    s.policyAt 0 .unicast (70, 70) = some 0 ∧ s.endAt 0 .source .unicast 70 = some 0 ∧
      s.endAt 0 .destination .unicast 70 = some 0 ∧ (s.policy 0).valid = false ∧
      (s.policy 0).actionConnectivity = actionDrop ∧ ¬ s.PolicyIndexesAgree := by
  intro s
  have found : s.policyAt 0 .unicast (70, 70) = some 0 := by decide +kernel
  have invalid : (s.policy 0).valid = false := by decide +kernel
  refine ⟨found, by decide +kernel, by decide +kernel, invalid, by decide +kernel, fun agree => ?_⟩
  have valid := agree.valid 7 0 (by decide +kernel) .unicast (70, 70) 0 found
  rw [invalid] at valid
  cases valid

end Collection

end OpenDove
