import OpenDove.Registry
import OpenDove.Runs

/-!
# The maps of domains and VNIDs along runs

Every VNID of a domain that is handled is a valid object that knows its domain and its number; this
holds after every run. That the three maps of VNIDs agree needs the VNIDs to be in range: a VNID
that is too large is entered into the global maps before its constructor raises.
-/

namespace OpenDove

open Function

variable {domainId dvgId : Nat} {domain : DomainId} {s : Collection}

namespace Registry

/-! ## What deleting a VNID does -/

section DvgDelete

variable (r : Registry) (self : DvgId)

@[simp] theorem dvgDelete_domainHash : (r.dvgDelete self).domainHash = r.domainHash := by
  dsimp only [dvgDelete, dvgLeave]
  split <;> rfl

@[simp] theorem dvgDelete_vnids (domainId : Nat) :
    (r.dvgDelete self).vnids domainId = r.vnids domainId := by
  dsimp only [dvgDelete, dvgLeave]
  split <;> rfl

@[simp] theorem dvgDelete_nextDvg : (r.dvgDelete self).nextDvg = r.nextDvg := by
  dsimp only [dvgDelete, dvgLeave]
  split <;> rfl

@[simp] theorem dvgDelete_nextDomain : (r.dvgDelete self).nextDomain = r.nextDomain := by
  dsimp only [dvgDelete, dvgLeave]
  split <;> rfl

theorem dvgDelete_vnidHash (vnid : Nat) : (r.dvgDelete self).vnidHash.lookup vnid =
    if (r.dvg self).valid ∧ vnid = (r.dvg self).uniqueId then none else r.vnidHash.lookup vnid := by
  dsimp only [dvgDelete, dvgLeave]
  split
  · simp [Dict.lookup_erase, *]
  · simp [*]

theorem dvgDelete_dvg (other : DvgId) : (r.dvgDelete self).dvg other =
    if other = self then { r.dvg self with valid := false } else r.dvg other := by
  dsimp only [dvgDelete, dvgLeave]
  split
  · by_cases same : other = self
    · simp [same]
    · simp [same]
  · next invalid =>
    split
    · next same =>
      rw [same, ← Bool.eq_false_iff.mpr invalid]
    · rfl

theorem dvgDelete_domain (domain : DomainId) :
    ((r.dvgDelete self).domain domain).uniqueId = (r.domain domain).uniqueId ∧
    ((r.dvgDelete self).domain domain).valid = (r.domain domain).valid ∧
    ∀ vnid, ((r.dvgDelete self).domain domain).dvgHash.lookup vnid =
      if (r.dvg self).valid ∧ domain = (r.dvg self).domain ∧ vnid = (r.dvg self).uniqueId then none
      else (r.domain domain).dvgHash.lookup vnid := by
  dsimp only [dvgDelete, dvgLeave]
  split
  · by_cases same : domain = (r.dvg self).domain
    · simp [Dict.lookup_erase, *]
    · simp [same]
  · simp [*]

end DvgDelete

/-! ## Where the objects are -/

/-- The objects that the maps of the handled domains name are valid, know their place, and were
created before. -/
structure Placed (r : Registry) : Prop where
  domain : ∀ {domainId domain}, r.domainHash.lookup domainId = some domain →
    (r.domain domain).uniqueId = domainId ∧ (r.domain domain).valid = true ∧ domain < r.nextDomain
  dvg : ∀ {domainId domain vnid dvg}, r.domainHash.lookup domainId = some domain →
    (r.domain domain).dvgHash.lookup vnid = some dvg →
    r.dvg dvg = { domain, uniqueId := vnid, valid := true } ∧ dvg < r.nextDvg

namespace Placed

variable {r : Registry} (placed : r.Placed)

include placed

/-- Different handled domains have different objects. -/
theorem domain_inj {domainId' : Nat} (known : r.domainHash.lookup domainId = some domain)
    (known' : r.domainHash.lookup domainId' = some domain) : domainId = domainId' :=
  (placed.domain known).1.symm.trans (placed.domain known').1

theorem dvgRecord (domainId dvgId : Nat) : (r.dvgRecord domainId dvgId).Placed :=
  ⟨placed.domain, placed.dvg⟩

theorem dvgForget (domainId : Option Nat) (vnid : Nat) : (r.dvgForget domainId vnid).Placed :=
  ⟨placed.domain, placed.dvg⟩

theorem lookup_domainCreate {other : Nat}
    (known : (r.domainCreate domainId).domainHash.lookup other = some domain) :
    (other = domainId ∧ domain = r.nextDomain) ∨
      (other ≠ domainId ∧ r.domainHash.lookup other = some domain ∧ domain ≠ r.nextDomain) := by
  unfold Registry.domainCreate at known
  rw [Dict.lookup_insert] at known
  split at known
  · cases known
    exact Or.inl ⟨‹_›, rfl⟩
  · exact Or.inr ⟨‹_›, known, (placed.domain known).2.2.ne⟩

theorem domainCreate (domainId : Nat) : (r.domainCreate domainId).Placed := by
  constructor
  · intro other domain known
    rcases placed.lookup_domainCreate known with ⟨rfl, rfl⟩ | ⟨-, known, older⟩
    · simp [Registry.domainCreate]
    · obtain ⟨number, valid, bound⟩ := placed.domain known
      simp only [Registry.domainCreate, update_of_ne older]
      exact ⟨number, valid, bound.trans (Nat.lt_succ_self _)⟩
  · intro other domain vnid dvg known found
    rcases placed.lookup_domainCreate known with ⟨rfl, rfl⟩ | ⟨-, known, older⟩
    · simp [Registry.domainCreate] at found
    · simp only [Registry.domainCreate, update_of_ne older] at found
      exact placed.dvg known found

theorem dvgCreate (known : r.domainHash.lookup domainId = some domain) (dvgId : Nat) :
    (r.dvgCreate domain dvgId).Placed := by
  have older : ∀ {other domain' vnid dvg}, r.domainHash.lookup other = some domain' →
      (r.domain domain').dvgHash.lookup vnid = some dvg →
      (r.dvgCreate domain dvgId).dvg dvg = { domain := domain', uniqueId := vnid, valid := true } ∧
        dvg < (r.dvgCreate domain dvgId).nextDvg := by
    intro other domain' vnid dvg known' found
    obtain ⟨isDvg, bound⟩ := placed.dvg known' found
    refine ⟨?_, bound.trans (Nat.lt_succ_self _)⟩
    simp only [Registry.dvgCreate, update_of_ne bound.ne, isDvg]
  constructor
  · intro other domain' known'
    by_cases same : domain' = domain
    · subst same
      simpa [Registry.dvgCreate] using placed.domain known'
    · simpa [Registry.dvgCreate, same] using placed.domain known'
  · intro other domain' vnid dvg known' found
    by_cases same : domain' = domain
    · subst same
      simp only [Registry.dvgCreate, update_self] at found
      rw [Dict.lookup_insert] at found
      split at found
      · cases found
        simp [Registry.dvgCreate, *]
      · exact older known' found
    · simp only [Registry.dvgCreate, update_of_ne same] at found
      exact older known' found

/-- Deleting any VNID leaves every other one in its place. -/
theorem dvgDelete (self : DvgId) : (r.dvgDelete self).Placed := by
  constructor
  · intro domainId domain known
    obtain ⟨number, valid, -⟩ := r.dvgDelete_domain self domain
    rw [dvgDelete_domainHash] at known
    rw [number, valid, dvgDelete_nextDomain]
    exact placed.domain known
  · intro domainId domain vnid dvg known found
    rw [dvgDelete_domainHash] at known
    rw [(r.dvgDelete_domain self domain).2.2] at found
    split at found
    · cases found
    · next stays =>
      obtain ⟨isDvg, bound⟩ := placed.dvg known found
      rw [dvgDelete_dvg, dvgDelete_nextDvg]
      have other : dvg ≠ self := by
        rintro rfl
        exact stays ⟨by rw [isDvg], by rw [isDvg], by rw [isDvg]⟩
      rw [if_neg other]
      exact ⟨isDvg, bound⟩

theorem foldl_dvgDelete (dvgs : List DvgId) : (dvgs.foldl Registry.dvgDelete r).Placed :=
  List.foldlRecOn dvgs _ placed fun _ placed dvg _ => placed.dvgDelete dvg

theorem domainDelete (self : DomainId) : (r.domainDelete self).Placed := by
  unfold Registry.domainDelete
  dsimp only
  split
  · have unlisted : { r with
        domain := update r.domain self { r.domain self with valid := false }
        domainHash := r.domainHash.erase (r.domain self).uniqueId : Registry }.Placed := by
      have others : ∀ {domainId domain}, (r.domainHash.erase (r.domain self).uniqueId).lookup
          domainId = some domain → r.domainHash.lookup domainId = some domain ∧ domain ≠ self := by
        intro domainId domain known
        rw [Dict.lookup_erase] at known
        split at known
        · cases known
        · next different =>
          refine ⟨known, ?_⟩
          rintro rfl
          exact different (placed.domain known).1.symm
      constructor
      · intro domainId domain known
        obtain ⟨known, other⟩ := others known
        simpa only [update_of_ne other] using placed.domain known
      · intro domainId domain vnid dvg known found
        obtain ⟨known, other⟩ := others known
        simp only [update_of_ne other] at found
        exact placed.dvg known found
    have emptied := unlisted.foldl_dvgDelete (r.domain self).dvgHash.values
    generalize (r.domain self).dvgHash.values.foldl Registry.dvgDelete _ = later at emptied ⊢
    constructor
    · intro domainId domain known
      by_cases same : domain = self
      · subst same
        simpa only [update_self] using emptied.domain known
      · simpa only [update_of_ne same] using emptied.domain known
    · intro domainId domain vnid dvg known found
      by_cases same : domain = self
      · subst same
        simp at found
      · simp only [update_of_ne same] at found
        exact emptied.dvg known found
  · exact placed

end Placed

/-! ## That the maps agree -/

/-- The three maps of VNIDs agree, up to VNIDs that a domain which was just created still waits
for. -/
structure Agrees (r : Registry) (waits : Nat → Nat → Prop) : Prop where
  global : ∀ vnid domainId, r.vnidHash.lookup vnid = some domainId ↔ vnid ∈ r.vnids domainId
  nodup : ∀ domainId, (r.vnids domainId).Nodup
  handled : ∀ {domainId domain}, r.domainHash.lookup domainId = some domain → ∀ vnid,
    vnid ∈ (r.domain domain).dvgHash ↔
      r.vnidHash.lookup vnid = some domainId ∧ ¬ waits domainId vnid
  small : ∀ {vnid domainId}, r.vnidHash.lookup vnid = some domainId → vnid ≤ Collection.maxNumber

namespace Agrees

variable {r : Registry} {waits waits' : Nat → Nat → Prop}

theorem congr (agrees : r.Agrees waits) (same : ∀ {vnid domainId},
    r.vnidHash.lookup vnid = some domainId → (waits domainId vnid ↔ waits' domainId vnid)) :
    r.Agrees waits' where
  global := agrees.global
  nodup := agrees.nodup
  handled known vnid := (agrees.handled known vnid).trans
    (and_congr_right fun mapped => not_congr (same mapped))
  small := agrees.small

/-- A new domain waits for all its VNIDs. -/
theorem domainCreate (agrees : r.Agrees fun _ _ => False) (placed : r.Placed) (domainId : Nat) :
    (r.domainCreate domainId).Agrees fun other _ => other = domainId where
  global := agrees.global
  nodup := agrees.nodup
  small := agrees.small
  handled {other domain} known vnid := by
    rcases placed.lookup_domainCreate known with ⟨rfl, rfl⟩ | ⟨different, known, older⟩
    · simp [Registry.domainCreate, AList.notMem_empty]
    · have before := agrees.handled known vnid
      simp only [Registry.domainCreate, update_of_ne older, different]
      exact before

theorem lookup_vnidHash_dvgRecord (r : Registry) (domainId dvgId vnid : Nat) :
    (r.dvgRecord domainId dvgId).vnidHash.lookup vnid =
      if vnid = dvgId then some domainId else r.vnidHash.lookup vnid :=
  Dict.lookup_insert ..

theorem vnids_dvgRecord (r : Registry) (domainId dvgId other : Nat) :
    (r.dvgRecord domainId dvgId).vnids other =
      if other = domainId then (r.vnids domainId).insert dvgId else r.vnids other := by
  unfold vnids Registry.dvgRecord
  rw [Dict.lookup_insert]
  split <;> rfl

/-- The global maps record a VNID. Its domain, if it is handled, waits for it unless it has it. -/
theorem dvgRecord (agrees : r.Agrees waits)
    (free : ∀ {other}, r.vnidHash.lookup dvgId = some other → other = domainId)
    (small : dvgId ≤ Collection.maxNumber) :
    (r.dvgRecord domainId dvgId).Agrees fun other vnid =>
      if other = domainId ∧ vnid = dvgId then
        ∃ domain, r.domainHash.lookup domainId = some domain ∧ dvgId ∉ (r.domain domain).dvgHash
      else waits other vnid := by
  have mapped := lookup_vnidHash_dvgRecord r domainId dvgId
  constructor
  · intro vnid other
    rw [mapped, vnids_dvgRecord]
    by_cases sameVnid : vnid = dvgId <;> by_cases sameDomain : other = domainId
    · simp [sameVnid, sameDomain]
    · simp only [sameVnid, sameDomain, if_true, if_false, Option.some.injEq]
      refine iff_of_false (Ne.symm sameDomain) fun member => sameDomain ?_
      exact free ((agrees.global dvgId other).mpr member)
    · simp [sameVnid, sameDomain, agrees.global]
    · simp [sameVnid, sameDomain, agrees.global]
  · intro other
    rw [vnids_dvgRecord]
    split
    · exact (agrees.nodup domainId).insert
    · exact agrees.nodup other
  · intro other domain known vnid
    rw [mapped]
    have before := agrees.handled known vnid
    by_cases sameVnid : vnid = dvgId
    · subst sameVnid
      by_cases sameDomain : other = domainId
      · subst sameDomain
        have known : r.domainHash.lookup other = some domain := known
        simp [Registry.dvgRecord, known]
      · simp only [if_true, Option.some.injEq, sameDomain, Ne.symm sameDomain, false_and, iff_false]
        exact fun member => sameDomain (free (before.mp member).1)
    · simp only [sameVnid, if_false, and_false]
      exact before
  · intro vnid other known
    rw [mapped] at known
    split at known
    · rwa [‹vnid = dvgId›]
    · exact agrees.small known

/-- A domain gets a VNID it waited for. -/
theorem dvgCreate (agrees : r.Agrees waits) (placed : r.Placed)
    (known : r.domainHash.lookup domainId = some domain)
    (recorded : r.vnidHash.lookup dvgId = some domainId) :
    (r.dvgCreate domain dvgId).Agrees fun other vnid =>
      waits other vnid ∧ ¬ (other = domainId ∧ vnid = dvgId) := by
  have mapped : ∀ vnid, (r.dvgCreate domain dvgId).vnidHash.lookup vnid =
      r.vnidHash.lookup vnid := by
    intro vnid
    unfold Registry.dvgCreate
    rw [Dict.lookup_insert, (placed.domain known).1]
    split
    · next same => rw [same, recorded]
    · rfl
  constructor
  · intro vnid other
    rw [mapped]
    exact agrees.global vnid other
  · exact agrees.nodup
  · intro other domain' known' vnid
    rw [mapped]
    have before := agrees.handled (show r.domainHash.lookup other = some domain' from known') vnid
    by_cases same : domain' = domain
    · subst same
      have sameId : other = domainId := placed.domain_inj known' known
      subst sameId
      simp only [Registry.dvgCreate, update_self, AList.mem_insert, before, true_and]
      by_cases sameVnid : vnid = dvgId
      · subst sameVnid
        simp [recorded]
      · simp [sameVnid]
    · have different : other ≠ domainId := by
        rintro rfl
        exact same (Option.some.inj (known'.symm.trans known))
      simpa [Registry.dvgCreate, same, different] using before
  · intro vnid other found
    rw [mapped] at found
    exact agrees.small found

/-- `Dvg_Add` of a VNID that is in range and does not belong to another domain. -/
theorem dvgAdd (agrees : r.Agrees waits) (placed : r.Placed)
    (free : ∀ {other}, r.vnidHash.lookup dvgId = some other → other = domainId)
    (small : dvgId ≤ Collection.maxNumber) :
    (r.dvgAdd domainId dvgId).2 = .ok ∧ (r.dvgAdd domainId dvgId).1.Placed ∧
    ((r.dvgAdd domainId dvgId).1.Agrees fun other vnid =>
      waits other vnid ∧ ¬ (other = domainId ∧ vnid = dvgId)) ∧
    ∀ vnid, (r.dvgAdd domainId dvgId).1.vnidHash.lookup vnid =
      if vnid = dvgId then some domainId else r.vnidHash.lookup vnid := by
  have unclaimed : ¬ (r.vnidHash.lookup dvgId).any (· ≠ domainId) := by
    cases found : r.vnidHash.lookup dvgId with
    | none => simp
    | some other => simp [free found]
  have recorded := agrees.dvgRecord free small
  have mapped := lookup_vnidHash_dvgRecord r domainId dvgId
  unfold Registry.dvgAdd
  rw [if_neg unclaimed]
  dsimp only
  cases known : (r.dvgRecord domainId dvgId).domainHash.lookup domainId with
  | none =>
    have known : r.domainHash.lookup domainId = none := known
    refine ⟨rfl, placed.dvgRecord .., recorded.congr fun {vnid other} _ => ?_, mapped⟩
    by_cases same : other = domainId ∧ vnid = dvgId
    · simp [same, known]
    · simp [same]
  | some domain =>
    dsimp only
    split
    · next present =>
      refine ⟨rfl, placed.dvgRecord .., recorded.congr fun {vnid other} _ => ?_, mapped⟩
      have known : r.domainHash.lookup domainId = some domain := known
      have present : dvgId ∈ (r.domain domain).dvgHash := present
      by_cases same : other = domainId ∧ vnid = dvgId
      · simp [same, known, present]
      · simp [same]
    · rw [if_neg (Nat.not_lt.mpr small)]
      have entered := recorded.dvgCreate (placed.dvgRecord ..) known (by rw [mapped, if_pos rfl])
      refine ⟨rfl, (placed.dvgRecord ..).dvgCreate known dvgId, entered.congr ?_, ?_⟩
      · intro vnid other _
        by_cases same : other = domainId ∧ vnid = dvgId
        · simp [same]
        · simp [same]
      · intro vnid
        refine (Dict.lookup_insert ..).trans ?_
        rw [((placed.dvgRecord domainId dvgId).domain known).1, mapped]
        split <;> rfl

/-- The VNIDs that a handled domain waits for are added one after another. -/
theorem dvgAddAll (agrees : r.Agrees waits) (placed : r.Placed) {vnids : List Nat}
    (mapped : ∀ vnid ∈ vnids, r.vnidHash.lookup vnid = some domainId) :
    (r.dvgAddAll domainId vnids).2 = .ok ∧ (r.dvgAddAll domainId vnids).1.Placed ∧
    ((r.dvgAddAll domainId vnids).1.Agrees fun other vnid =>
      waits other vnid ∧ ¬ (other = domainId ∧ vnid ∈ vnids)) ∧
    ∀ vnid, (r.dvgAddAll domainId vnids).1.vnidHash.lookup vnid = r.vnidHash.lookup vnid := by
  induction vnids generalizing r waits with
  | nil => exact ⟨rfl, placed, agrees.congr (by simp), fun _ => rfl⟩
  | cons vnid vnids ih =>
    have own := mapped vnid List.mem_cons_self
    have free : ∀ {other}, r.vnidHash.lookup vnid = some other → other = domainId :=
      fun found => Option.some.inj (found.symm.trans own)
    obtain ⟨isOk, placed', agrees', mapped'⟩ := agrees.dvgAdd placed free (agrees.small own)
    have unchanged : ∀ other, (r.dvgAdd domainId vnid).1.vnidHash.lookup other =
        r.vnidHash.lookup other := by
      intro other
      rw [mapped']
      split
      · next same => rw [same, own]
      · rfl
    unfold Registry.dvgAddAll
    generalize r.dvgAdd domainId vnid = result at *
    obtain ⟨after, status⟩ := result
    dsimp only at isOk
    subst isOk
    obtain ⟨isOk, placed'', agrees'', mapped''⟩ := ih agrees' placed'
      fun other listed => (unchanged other).trans (mapped other (List.mem_cons_of_mem _ listed))
    refine ⟨isOk, placed'', agrees''.congr fun {other domainId'} _ => ?_,
      fun other => (mapped'' other).trans (unchanged other)⟩
    simp only [List.mem_cons]
    tauto

variable (agrees : r.Agrees fun _ _ => False)

include agrees

/-- `Domain_Add_Local` fails only for a number out of range, and then changes nothing. -/
theorem domainAddLocal (placed : r.Placed) (domainId : Nat) :
    ((r.domainAddLocal domainId).2 = .ok ∨
      domainId ∉ r.domainHash ∧ domainId > Collection.maxNumber) ∧
    (r.domainAddLocal domainId).1.Placed ∧
    (r.domainAddLocal domainId).1.Agrees fun _ _ => False := by
  have mapped : ∀ vnid ∈ r.vnids domainId, r.vnidHash.lookup vnid = some domainId :=
    fun vnid member => (agrees.global vnid domainId).mpr member
  unfold Registry.domainAddLocal
  split
  · obtain ⟨isOk, placed', agrees', -⟩ := agrees.dvgAddAll placed mapped
    exact ⟨Or.inl isOk, placed', agrees'.congr (by simp)⟩
  · split
    · next unknown large => exact ⟨Or.inr ⟨unknown, large⟩, placed, agrees⟩
    · have created := agrees.domainCreate placed domainId
      obtain ⟨isOk, placed', agrees', same⟩ :=
        created.dvgAddAll (placed.domainCreate domainId) mapped
      refine ⟨Or.inl isOk, placed', agrees'.congr fun {vnid other} found => ?_⟩
      rw [same] at found
      rw [iff_false]
      rintro ⟨rfl, unlisted⟩
      exact unlisted ⟨rfl, (agrees.global vnid other).mp found⟩

/-! ## Deletions -/

omit agrees in
theorem vnids_dvgForget (r : Registry) (domainId vnid other : Nat) :
    (r.dvgForget (some domainId) vnid).vnids other =
      if other = domainId then (r.vnids domainId).erase vnid else r.vnids other := by
  have written : (r.dvgForget (some domainId) vnid).domainHashGlobal =
      if (r.vnids domainId).erase vnid = [] then r.domainHashGlobal.erase domainId
      else r.domainHashGlobal.insert domainId ((r.vnids domainId).erase vnid) := rfl
  have read : (r.dvgForget (some domainId) vnid).vnids other =
      ((r.dvgForget (some domainId) vnid).domainHashGlobal.lookup other).getD [] := rfl
  rw [read, written]
  by_cases emptied : (r.vnids domainId).erase vnid = []
  · rw [if_pos emptied, Dict.lookup_erase, emptied]
    split <;> rfl
  · rw [if_neg emptied, Dict.lookup_insert]
    split <;> rfl

/-- What `Dvg_Delete` does to a handled domain before the global maps are changed. -/
theorem dvgDeleteRequest_handled (placed : r.Placed)
    {vnid : Nat} (recorded : r.vnidHash.lookup vnid = some domainId) :
    let after := ((r.domainHash.lookup domainId).elim r fun domain =>
      ((r.domain domain).dvgHash.lookup vnid).elim r r.dvgDelete)
    after.Placed ∧ after.domainHash = r.domainHash ∧ (∀ other, after.vnids other = r.vnids other) ∧
    (∀ other ≠ vnid, after.vnidHash.lookup other = r.vnidHash.lookup other) ∧
    ∀ {other domain}, r.domainHash.lookup other = some domain → ∀ vnid',
      vnid' ∈ (after.domain domain).dvgHash ↔ vnid' ∈ (r.domain domain).dvgHash ∧ vnid' ≠ vnid := by
  -- only the domain of the VNID can have it
  have elsewhere : ∀ {other domain}, r.domainHash.lookup other = some domain → other ≠ domainId →
      vnid ∉ (r.domain domain).dvgHash := by
    intro other domain known different member
    have found := ((agrees.handled known vnid).mp member).1
    exact different (Option.some.inj (found.symm.trans recorded))
  cases known : r.domainHash.lookup domainId with
  | none =>
    refine ⟨placed, rfl, fun _ => rfl, fun _ _ => rfl, fun {other domain} known' vnid' => ?_⟩
    have different : other ≠ domainId := by
      rintro rfl
      rw [known] at known'
      cases known'
    refine (and_iff_left_of_imp ?_).symm
    rintro member rfl
    exact elsewhere known' different member
  | some domain =>
    have member := (agrees.handled known vnid).mpr ⟨recorded, id⟩
    obtain ⟨dvg, found⟩ := (Dict.mem_iff_lookup _ _).mp member
    obtain ⟨isDvg, -⟩ := placed.dvg known found
    simp only [Option.elim_some, found]
    refine ⟨placed.dvgDelete dvg, dvgDelete_domainHash .., dvgDelete_vnids r dvg, ?_, ?_⟩
    · intro other different
      rw [dvgDelete_vnidHash, isDvg]
      exact if_neg fun same => different same.2
    · intro other domain' known' vnid'
      rw [← AList.lookup_isSome, (r.dvgDelete_domain dvg domain').2.2, isDvg, ← AList.lookup_isSome]
      by_cases sameVnid : vnid' = vnid
      · subst sameVnid
        by_cases same : domain' = domain
        · simp [same]
        · have different : other ≠ domainId := by
            rintro rfl
            exact same (Option.some.inj (known'.symm.trans known))
          simpa [same, AList.lookup_isSome] using elsewhere known' different
      · simp [sameVnid]

theorem dvgDeleteRequest (placed : r.Placed) (vnid : Nat) :
    (r.dvgDeleteRequest vnid).Placed ∧ (r.dvgDeleteRequest vnid).Agrees fun _ _ => False := by
  unfold Registry.dvgDeleteRequest
  cases recorded : r.vnidHash.lookup vnid with
  | none =>
    have absent : r.vnidHash.erase vnid = r.vnidHash :=
      AList.ext (List.kerase_of_notMem_keys (AList.lookup_eq_none.mp recorded))
    have unchanged : r.dvgForget none vnid = r := by rw [dvgForget, absent, Option.elim_none]
    change (r.dvgForget none vnid).Placed ∧ (r.dvgForget none vnid).Agrees _
    rw [unchanged]
    exact ⟨placed, agrees⟩
  | some domainId =>
    obtain ⟨placed', domains, global, mapped, handled⟩ :=
      agrees.dvgDeleteRequest_handled placed recorded
    simp only [Option.bind_some]
    generalize ((r.domainHash.lookup domainId).elim r fun domain =>
      ((r.domain domain).dvgHash.lookup vnid).elim r r.dvgDelete) = after at *
    have mapped' : ∀ other, (after.dvgForget (some domainId) vnid).vnidHash.lookup other =
        if other = vnid then none else r.vnidHash.lookup other := by
      intro other
      refine (Dict.lookup_erase ..).trans ?_
      split
      · rfl
      · exact mapped other ‹_›
    refine ⟨placed'.dvgForget _ vnid, ?_, ?_, ?_, ?_⟩
    · intro other domainId'
      rw [mapped', vnids_dvgForget, global, global]
      by_cases sameVnid : other = vnid <;> by_cases sameDomain : domainId' = domainId
      · simp [sameVnid, sameDomain, (agrees.nodup domainId).mem_erase_iff]
      · simp only [sameVnid, sameDomain, if_true, if_false]
        refine iff_of_false nofun fun member => sameDomain ?_
        exact Option.some.inj (((agrees.global vnid domainId').mpr member).symm.trans recorded)
      · simp [sameVnid, sameDomain, (agrees.nodup domainId).mem_erase_iff, agrees.global]
      · simp [sameVnid, sameDomain, agrees.global]
    · intro other
      rw [vnids_dvgForget, global, global]
      split
      · exact (agrees.nodup domainId).erase vnid
      · exact agrees.nodup other
    · intro other domain known vnid'
      have known : r.domainHash.lookup other = some domain := domains ▸ known
      rw [mapped']
      refine (handled known vnid').trans ?_
      rw [agrees.handled known]
      by_cases same : vnid' = vnid
      · simp [same]
      · simp [same]
    · intro other domainId' found
      rw [mapped'] at found
      split at found
      · cases found
      · exact agrees.small found

omit agrees in
/-- What the deletion of the VNIDs of a domain leaves alone: the entries of VNIDs of other domains,
and the maps of other domains. -/
structure Emptied (domainId : Nat) (domain : DomainId) (before after : Registry) : Prop where
  domainHash : after.domainHash = before.domainHash
  vnids : ∀ other, after.vnids other = before.vnids other
  dvg : ∀ dvg, (after.dvg dvg).domain = (before.dvg dvg).domain ∧
    (after.dvg dvg).uniqueId = (before.dvg dvg).uniqueId
  dvgHash : ∀ other ≠ domain, ∀ vnid,
    (after.domain other).dvgHash.lookup vnid = (before.domain other).dvgHash.lookup vnid
  vnidHash : ∀ vnid, after.vnidHash.lookup vnid = before.vnidHash.lookup vnid ∨
    before.vnidHash.lookup vnid = some domainId ∧ after.vnidHash.lookup vnid = none

omit agrees in
theorem foldl_dvgDelete_emptied (r : Registry) {dvgs : List DvgId}
    (own : ∀ dvg ∈ dvgs, (r.dvg dvg).domain = domain ∧
      r.vnidHash.lookup (r.dvg dvg).uniqueId = some domainId) :
    Emptied domainId domain r (dvgs.foldl Registry.dvgDelete r) := by
  refine List.foldlRecOn dvgs _ ⟨rfl, fun _ => rfl, fun _ => ⟨rfl, rfl⟩, fun _ _ _ => rfl,
    fun _ => Or.inl rfl⟩ fun mid emptied dvg listed => ?_
  obtain ⟨ofDomain, recorded⟩ := own dvg listed
  obtain ⟨sameDomain, sameNumber⟩ := emptied.dvg dvg
  constructor
  · rw [dvgDelete_domainHash, emptied.domainHash]
  · intro other
    rw [dvgDelete_vnids, emptied.vnids]
  · intro other
    rw [dvgDelete_dvg]
    split
    · next same => rw [same]; exact emptied.dvg dvg
    · exact emptied.dvg other
  · intro other different vnid
    rw [(mid.dvgDelete_domain dvg other).2.2, sameDomain, ofDomain, if_neg fun same =>
      different same.2.1]
    exact emptied.dvgHash other different vnid
  · intro vnid
    rw [dvgDelete_vnidHash, sameNumber]
    split
    · next same => exact Or.inr ⟨same.2 ▸ recorded, rfl⟩
    · exact emptied.vnidHash vnid

/-- What `Domain_Delete` does to a handled domain leaves the maps of the other domains. -/
theorem domainDeleteRequest_handled (placed : r.Placed) (domainId : Nat) :
    let after := (r.domainHash.lookup domainId).elim r r.domainDelete
    after.Placed ∧ (∀ other, after.vnids other = r.vnids other) ∧
    (∀ {other domain}, after.domainHash.lookup other = some domain →
      other ≠ domainId ∧ r.domainHash.lookup other = some domain ∧ ∀ vnid,
        vnid ∈ (after.domain domain).dvgHash ↔ vnid ∈ (r.domain domain).dvgHash) ∧
    ∀ vnid, after.vnidHash.lookup vnid = r.vnidHash.lookup vnid ∨
      r.vnidHash.lookup vnid = some domainId ∧ after.vnidHash.lookup vnid = none := by
  cases known : r.domainHash.lookup domainId with
  | none =>
    refine ⟨placed, fun _ => rfl, fun {other domain} known' => ⟨?_, known', fun _ => Iff.rfl⟩,
      fun _ => Or.inl rfl⟩
    rintro rfl
    exact nomatch known.symm.trans known'
  | some domain =>
    refine ⟨placed.domainDelete domain, ?_⟩
    obtain ⟨number, valid, -⟩ := placed.domain known
    have own : ∀ dvg ∈ (r.domain domain).dvgHash.values, (r.dvg dvg).domain = domain ∧
        r.vnidHash.lookup (r.dvg dvg).uniqueId = some domainId := by
      intro dvg listed
      obtain ⟨vnid, found⟩ := (Dict.mem_values _ _).mp listed
      obtain ⟨isDvg, -⟩ := placed.dvg known found
      rw [isDvg]
      exact ⟨rfl, ((agrees.handled known vnid).mp ((Dict.mem_iff_lookup _ _).mpr ⟨dvg, found⟩)).1⟩
    have emptied := foldl_dvgDelete_emptied { r with
      domain := update r.domain domain { r.domain domain with valid := false }
      domainHash := r.domainHash.erase (r.domain domain).uniqueId } own
    dsimp only [Option.elim_some, Registry.domainDelete]
    rw [if_pos valid]
    generalize (r.domain domain).dvgHash.values.foldl Registry.dvgDelete _ = later at emptied ⊢
    refine ⟨emptied.vnids, ?_, emptied.vnidHash⟩
    intro other domain' known'
    rw [emptied.domainHash, Dict.lookup_erase, number] at known'
    split at known'
    · cases known'
    · next different =>
      have elsewhere : domain' ≠ domain := by
        rintro rfl
        exact different (placed.domain_inj known' known)
      refine ⟨different, known', fun vnid => ?_⟩
      have same := emptied.dvgHash _ elsewhere vnid
      simp only [update_of_ne elsewhere] at same ⊢
      rw [← AList.lookup_isSome, same, AList.lookup_isSome]

theorem domainDeleteRequest (placed : r.Placed)
    (domainId : Nat) : (r.domainDeleteRequest domainId).Placed ∧
      (r.domainDeleteRequest domainId).Agrees fun _ _ => False := by
  obtain ⟨placed', global, domains, mapped⟩ := agrees.domainDeleteRequest_handled placed domainId
  unfold Registry.domainDeleteRequest
  dsimp only
  generalize (r.domainHash.lookup domainId).elim r r.domainDelete = after at *
  rw [global]
  have mapped' : ∀ vnid, (after.vnidHash.eraseAll (r.vnids domainId)).lookup vnid =
      if r.vnidHash.lookup vnid = some domainId then none else r.vnidHash.lookup vnid := by
    intro vnid
    rw [Dict.lookup_eraseAll]
    by_cases own : r.vnidHash.lookup vnid = some domainId
    · rw [if_pos ((agrees.global vnid domainId).mp own), if_pos own]
    · rw [if_neg fun member => own ((agrees.global vnid domainId).mpr member), if_neg own]
      exact (mapped vnid).resolve_right fun removed => own removed.1
  have listed : ∀ other, ((after.domainHashGlobal.erase domainId).lookup other).getD [] =
      if other = domainId then [] else r.vnids other := by
    intro other
    rw [Dict.lookup_erase]
    split
    · rfl
    · exact global other
  refine ⟨⟨placed'.domain, placed'.dvg⟩, ?_, ?_, ?_, ?_⟩
  · intro vnid other
    change (after.vnidHash.eraseAll (r.vnids domainId)).lookup vnid = some other ↔
      vnid ∈ ((after.domainHashGlobal.erase domainId).lookup other).getD []
    rw [mapped', listed]
    by_cases own : r.vnidHash.lookup vnid = some domainId
    · by_cases same : other = domainId
      · simp [own, same]
      · simp only [own, same, if_true, if_false]
        refine iff_of_false nofun fun member => same ?_
        exact Option.some.inj (((agrees.global vnid other).mpr member).symm.trans own)
    · by_cases same : other = domainId
      · simp [own, same]
      · simp [own, same, agrees.global]
  · intro other
    change (((after.domainHashGlobal.erase domainId).lookup other).getD []).Nodup
    rw [listed]
    split
    · exact List.nodup_nil
    · exact agrees.nodup other
  · intro other domain known vnid
    obtain ⟨different, known', same⟩ := domains known
    change _ ↔ (after.vnidHash.eraseAll (r.vnids domainId)).lookup vnid = some other ∧ _
    rw [mapped', same, agrees.handled known']
    split
    · next own => simp [own, Ne.symm different]
    · rfl
  · intro vnid other found
    change (after.vnidHash.eraseAll (r.vnids domainId)).lookup vnid = some other at found
    rw [mapped'] at found
    split at found
    · cases found
    · exact agrees.small found

end Agrees

end Registry

/-! ## Runs -/

/-- The requests of the controller that change the maps. -/
inductive ConfigurationEvent where
  | domainAdd (domainId : Nat)
  | domainDelete (domainId : Nat)
  | dvgAdd (domainId dvgId : Nat)
  | dvgDelete (vnid : Nat)

/-- A VNID that is added is in range. -/
def ConfigurationEvent.InRange : ConfigurationEvent → Prop
  | .dvgAdd _ dvgId => dvgId ≤ Collection.maxNumber
  | .domainAdd _ | .domainDelete _ | .dvgDelete _ => True

instance (event : ConfigurationEvent) : Decidable event.InRange := by
  cases event <;> unfold ConfigurationEvent.InRange <;> infer_instance

namespace Collection

/-- A request of the controller. Deletions always report success. -/
def configure (s : Collection) : ConfigurationEvent → Collection × DOVEStatus
  | .domainAdd domainId => s.domainAddLocal domainId
  | .domainDelete domainId => (s.domainDeleteRequest domainId, .ok)
  | .dvgAdd domainId dvgId => s.dvgAdd domainId dvgId
  | .dvgDelete vnid => (s.dvgDeleteRequest vnid, .ok)

/-- The state after a request. -/
def configureStep (s : Collection) (event : ConfigurationEvent) : Collection :=
  (s.configure event).1

/-- The global maps say the same, and so does the map of every domain that is handled. -/
structure MapsAgree (s : Collection) : Prop where
  global : ∀ vnid domainId, s.vnidHash.lookup vnid = some domainId ↔
    ∃ vnids, s.domainHashGlobal.lookup domainId = some vnids ∧ vnid ∈ vnids
  handled : ∀ domainId domain, s.domainHash.lookup domainId = some domain →
    ∀ vnid, vnid ∈ (s.domain domain).dvgHash ↔ s.vnidHash.lookup vnid = some domainId

theorem MapsAgree.of_registry (agrees : s.registry.Agrees fun _ _ => False) : s.MapsAgree := by
  constructor
  · intro vnid domainId
    refine (agrees.global vnid domainId).trans ?_
    change vnid ∈ (s.domainHashGlobal.lookup domainId).getD [] ↔ _
    cases s.domainHashGlobal.lookup domainId with
    | none => simp
    | some vnids => simp
  · intro domainId domain known vnid
    exact (agrees.handled known vnid).trans (and_iff_left id)

theorem registry_empty : empty.registry.Placed ∧ empty.registry.Agrees fun _ _ => False := by
  refine ⟨⟨nofun, nofun⟩, ?_, ?_, nofun, nofun⟩
  · exact fun vnid domainId => iff_of_false nofun List.not_mem_nil
  · exact fun _ => List.nodup_nil

/-- A request whose VNID is in range keeps the maps in agreement, and an error changes nothing. -/
theorem configure_agrees (placed : s.registry.Placed)
    (agrees : s.registry.Agrees fun _ _ => False) (event : ConfigurationEvent)
    (inRange : event.InRange) :
    ((s.configureStep event).registry.Placed ∧
      (s.configureStep event).registry.Agrees fun _ _ => False) ∧
    ((s.configure event).2 ≠ .ok → (s.configure event).1 = s) := by
  cases event with
  | domainAdd domainId =>
    have refined := s.domainAddLocal_registry domainId
    obtain ⟨outcome, added⟩ := agrees.domainAddLocal placed domainId
    rw [← refined] at outcome added
    refine ⟨added, fun failed => ?_⟩
    obtain ⟨unknown, large⟩ := outcome.resolve_left failed
    change (s.domainAddLocal domainId).1 = s
    have unknown : domainId ∉ s.domainHash := unknown
    simp [domainAddLocal, domainCreate, unknown, large]
  | domainDelete domainId =>
    refine ⟨?_, fun failed => absurd rfl failed⟩
    have deleted := agrees.domainDeleteRequest placed domainId
    rwa [← domainDeleteRequest_registry] at deleted
  | dvgAdd domainId dvgId =>
    have refined : (s.dvgAdd domainId dvgId).map registry id = s.registry.dvgAdd domainId dvgId :=
      s.dvgAdd_registry domainId dvgId
    by_cases claimed : (s.vnidHash.lookup dvgId).any (· ≠ domainId)
    · have refused : s.dvgAdd domainId dvgId = (s, .alreadyExists) := if_pos claimed
      refine ⟨?_, fun _ => congrArg Prod.fst refused⟩
      rw [configureStep, configure, refused]
      exact ⟨placed, agrees⟩
    · have free : ∀ {other}, s.vnidHash.lookup dvgId = some other → other = domainId := by
        intro other found
        simpa [found] using claimed
      obtain ⟨isOk, placed', agrees', -⟩ := agrees.dvgAdd placed free inRange
      rw [← refined] at isOk placed' agrees'
      exact ⟨⟨placed', agrees'.congr fun _ => by simp⟩, fun failed => absurd isOk failed⟩
  | dvgDelete vnid =>
    refine ⟨?_, fun failed => absurd rfl failed⟩
    have deleted := agrees.dvgDeleteRequest placed vnid
    rwa [← dvgDeleteRequest_registry] at deleted

/-- In every run in which the VNIDs that are added are in range, the maps of domains and VNIDs agree
in every state reached, and a request that reports an error leaves the state as it was. -/
theorem vnid_and_domain_maps_agree (events : List ConfigurationEvent)
    (inRange : Admissible configureStep (fun _ event => event.InRange) empty events) :
    let s := run configureStep empty events
    s.MapsAgree ∧ ∀ event, event.InRange → (s.configure event).2 ≠ .ok →
      (s.configure event).1 = s := by
  intro s
  have reached : s.registry.Placed ∧ s.registry.Agrees fun _ _ => False :=
    run_invariant (fun s => s.registry.Placed ∧ s.registry.Agrees fun _ _ => False)
      (fun s event held meets => (configure_agrees held.1 held.2 event meets).1)
      registry_empty inRange
  refine ⟨.of_registry reached.2, fun event meets => ?_⟩
  exact (configure_agrees reached.1 reached.2 event meets).2

/-- A VNID is known before its domain is handled, another one is added to it, and one is refused
since it belongs to the first domain. -/
theorem vnid_and_domain_maps_agree_two_domains :
    let events := [.dvgAdd 7 70, .domainAdd 7, .domainAdd 8, .dvgAdd 7 71, .dvgAdd 8 71,
      .dvgDelete 70, .domainDelete 8]
    Admissible configureStep (fun _ event => event.InRange) empty events ∧
      (run configureStep empty events).MapsAgree :=
  have inRange : Admissible configureStep (fun _ event => event.InRange) empty _ := by
    decide +kernel
  ⟨inRange, (vnid_and_domain_maps_agree _ inRange).1⟩

/-- A VNID that is out of range is refused, but the global maps keep it, and its domain does not
have it. When the domain was not handled at that time, adding the domain fails later and deletes
all that was known of it. -/
theorem vnid_and_domain_maps_disagree :
    (let s := run configureStep empty [.domainAdd 7];
      (s.configure (.dvgAdd 7 16777216)).2 = .noMemory ∧
        (s.configure (.dvgAdd 7 16777216)).1.vnidHash.lookup 16777216 = some 7 ∧
        ¬ (s.configure (.dvgAdd 7 16777216)).1.MapsAgree) ∧
    (let s := run configureStep empty [.dvgAdd 7 70, .dvgAdd 7 16777216];
      (s.configure (.domainAdd 7)).2 = .noMemory ∧ s.vnidHash.lookup 70 = some 7 ∧
        (s.configure (.domainAdd 7)).1.vnidHash.lookup 70 = none) := by
  refine ⟨⟨by decide +kernel, by decide +kernel, fun agree => ?_⟩, by decide +kernel⟩
  have member := (agree.handled 7 0 (by decide +kernel) 16777216).mpr (by decide +kernel)
  exact absurd (AList.lookup_isSome.mpr member) (by decide +kernel)

end Collection

end OpenDove
