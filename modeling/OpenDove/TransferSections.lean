import OpenDove.Configuration

/-!
# Sections of a mass transfer

A transfer starts with the VNIDs, policies and subnets of the domain, which are sent in sections of
limited length. A policy that forwards a VNID to itself is the default and is not sent.
-/

namespace OpenDove.Collection

/-- `MAX_VNIDS_PER_LIST`. -/
abbrev maxVnidsPerList : Nat := 10000

/-- `MAX_POLICIES_PER_LIST`. -/
abbrev maxPoliciesPerList : Nat := 4000

/-- `MAX_SUBNET_PER_LIST`. -/
abbrev maxSubnetPerList : Nat := 4000

section Sections

variable {α : Type}

/-- The loop that cuts a list into sections. -/
def cutSections (limit : Nat) [NeZero limit] (object : List α → TransferObject) (items : List α)
    (processed keyIndex : Nat) (s : Collection) (set : Dict TransferKey TransferEntry) :
    Collection × Dict TransferKey TransferEntry :=
  if _ : processed < items.length then
    let stop := min (processed + limit) items.length
    let subList := (items.drop processed).take (stop - processed)
    let (queryId, s) := s.generateQueryId
    let key := .part keyIndex
    cutSections limit object items stop (keyIndex + 1) s
      (set.insert key { objId := .key key, object := object subList, queryId })
  else (s, set)
termination_by items.length - processed
decreasing_by
  have := NeZero.pos limit
  omega

/-- The section under a key, when sections are numbered from an index on. -/
def sectionAt (keyIndex : Nat) (sections : List (List α)) : TransferKey → Option (List α)
  | .part index => if keyIndex ≤ index then sections[index - keyIndex]? else none
  | _ => none

theorem sectionAt_cons (keyIndex : Nat) (first : List α) (sections : List (List α))
    (key : TransferKey) : sectionAt keyIndex (first :: sections) key =
      if key = .part keyIndex then some first else sectionAt (keyIndex + 1) sections key := by
  cases key with
  | part index =>
    obtain before | rfl | after := Nat.lt_trichotomy index keyIndex
    · simp [sectionAt, before.not_ge, before.ne, (Nat.lt_succ_of_lt before).not_ge]
    · simp [sectionAt]
    · obtain ⟨count, rfl⟩ := Nat.exists_eq_add_of_lt after
      have place : keyIndex + count + 1 - keyIndex = count + 1 := by omega
      have next : keyIndex + count + 1 - (keyIndex + 1) = count := by omega
      have differs : TransferKey.part (keyIndex + count + 1) ≠ .part keyIndex := by simp; omega
      rw [if_neg differs, sectionAt, sectionAt, if_pos after.le, if_pos (by omega), place, next,
        List.getElem?_cons_succ]
  | _ => rfl

variable (limit : Nat) (object : List α → TransferObject) (items : List α)

/-- The objects of a set are the sections of a list, under their numbers: none is empty or too long,
and together they are the list. -/
def Sections (set : Dict TransferKey TransferEntry) : Prop :=
  ∃ sections : List (List α), sections.flatten = items ∧
    (∀ subList ∈ sections, subList ≠ [] ∧ subList.length ≤ limit) ∧
    ∀ key, (set.lookup key).map (·.object) = (sectionAt 0 sections key).map object

variable [NeZero limit]

theorem cutSections_spec (processed keyIndex : Nat) (s : Collection)
    (set : Dict TransferKey TransferEntry) :
    ∃ sections : List (List α), sections.flatten = items.drop processed ∧
      (∀ subList ∈ sections, subList ≠ [] ∧ subList.length ≤ limit) ∧
      ∀ key, ((cutSections limit object items processed keyIndex s set).2.lookup key).map
          (·.object) =
        ((sectionAt keyIndex sections key).map object).or ((set.lookup key).map (·.object)) := by
  fun_induction cutSections limit object items processed keyIndex s set with
  | case1 processed keyIndex s set more stop subList queryId after eq key ih =>
    obtain ⟨sections, together, sized, listed⟩ := ih
    have positive := NeZero.pos limit
    refine ⟨subList :: sections, ?_, ?_, fun other => ?_⟩
    · have reached : stop = processed + (stop - processed) := by omega
      rw [List.flatten_cons, together, reached, ← List.drop_drop]
      exact List.take_append_drop ..
    · refine List.forall_mem_cons.mpr ⟨⟨?_, ?_⟩, sized⟩
      · rw [← List.length_pos_iff, List.length_take, List.length_drop]
        omega
      · rw [List.length_take]
        omega
    · rw [listed, sectionAt_cons]
      by_cases same : other = key
      · subst same
        simp [sectionAt, key]
      · rw [if_neg same, AList.lookup_insert_ne same]
  | case2 processed keyIndex s set done =>
    exact ⟨[], by simp [Nat.not_lt.mp done], by simp, fun key => by cases key <;> simp [sectionAt]⟩

theorem sections_cutSections (s : Collection) :
    Sections limit object items (cutSections limit object items 0 0 s ∅).2 := by
  obtain ⟨sections, together, sized, listed⟩ := cutSections_spec limit object items 0 0 s ∅
  exact ⟨sections, together, sized, fun key => (listed key).trans (by simp)⟩

end Sections

variable (s : Collection) (domain : DomainId)

/-- `transfer_start_get_vnids`. -/
def transferStartGetVnids : Collection × Dict TransferKey TransferEntry :=
  cutSections maxVnidsPerList (.vnids · true) (s.domain domain).dvgHash.keys 0 0 s ∅

/-- The policies of a domain. -/
def domainPolicies : List Policy :=
  (((s.domain domain).policyHashDVG .unicast).values ++
    ((s.domain domain).policyHashDVG .multicast).values).map s.policy

/-- `transfer_start_get_policies`. -/
def transferStartGetPolicies : Collection × Dict TransferKey TransferEntry :=
  let needed := (s.domainPolicies domain).filter fun policy =>
    ¬ (policy.srcDvg = policy.dstDvg ∧ policy.actionConnectivity = actionForward)
  cutSections maxPoliciesPerList (.policies · true) (needed.map s.policyTuple) 0 0 s ∅

/-- The subnets of the VNIDs of a domain, as they are sent. -/
def domainSubnets : List SubnetTuple :=
  (s.domain domain).dvgHash.values.flatMap fun dvg =>
    (s.dvg dvg).ipSubnetList.pyList.values.map fun subnet =>
      ⟨(s.dvg dvg).uniqueId, subnet.ipValue, subnet.maskValue, subnet.ipGateway, subnet.mode⟩

/-- `transfer_start_get_subnets`. -/
def transferStartGetSubnets : Collection × Dict TransferKey TransferEntry :=
  cutSections maxSubnetPerList (fun list => .subnets (.subnets list) (.flag true))
    (s.domainSubnets domain) 0 0 s ∅

/-- The sections of a transfer have every VNID, every subnet of a VNID and every policy that does not
forward a VNID to itself, each in one section. -/
theorem transfer_sections_partition :
    Sections maxVnidsPerList (.vnids · true) (s.domain domain).dvgHash.keys
        (s.transferStartGetVnids domain).2 ∧
      Sections maxPoliciesPerList (.policies · true)
        (((s.domainPolicies domain).filter fun policy => ¬ (policy.srcDvg = policy.dstDvg ∧
          policy.actionConnectivity = actionForward)).map s.policyTuple)
        (s.transferStartGetPolicies domain).2 ∧
      Sections maxSubnetPerList (fun list => .subnets (.subnets list) (.flag true))
        (s.domainSubnets domain) (s.transferStartGetSubnets domain).2 :=
  ⟨sections_cutSections .., sections_cutSections .., sections_cutSections ..⟩

/-- A policy that forwards a VNID to itself is in no section. -/
theorem default_policy_is_not_sent :
    ¬ ∀ (s : Collection) (domain : DomainId), Sections maxPoliciesPerList (.policies · true)
      ((s.domainPolicies domain).map s.policyTuple) (s.transferStartGetPolicies domain).2 := by
  intro every
  let s := (twoSwitches.policyCreate 0 .unicast typeConnectivity 0 0 0 actionForward).getD empty
  obtain ⟨sections, together, -, listed⟩ := every s 0
  have nothing : (s.transferStartGetPolicies 0).2 = ∅ := by
    rw [transferStartGetPolicies, cutSections]
    rfl
  have first := listed (.part 0)
  rw [nothing] at first
  cases sections with
  | nil => cases together
  | cons => cases first

end OpenDove.Collection
