import OpenDove.TransferDeltas

/-!
# Policies

A policy is recorded three times: in its domain, in its source VNID and in its destination
VNID. Adding it writes all three, and so does deleting it, unless source and destination are
the same VNID.
-/

namespace OpenDove

/-- Which end of a policy a VNID is. -/
inductive PolicyEnd where
  | source
  | destination
  deriving DecidableEq, Repr

/-- `Policy_Source` or `Policy_Destination` of a VNID. -/
def DVG.policies (dvg : DVG) : PolicyEnd → TrafficType → Dict Nat PolicyId
  | .source => dvg.policySource
  | .destination => dvg.policyDestination

/-- Replace one of the policy tables of a VNID. -/
def DVG.setPolicies (dvg : DVG) (side : PolicyEnd) (trafficType : TrafficType)
    (table : Dict Nat PolicyId) : DVG :=
  match side with
  | .source => { dvg with policySource := Function.update dvg.policySource trafficType table }
  | .destination =>
    { dvg with policyDestination := Function.update dvg.policyDestination trafficType table }

namespace Collection

variable (s : Collection) (dvg : DvgId)

/-- Queue an update of the policies of a VNID, if its domain is active. -/
def policyUpdate (trafficType : TrafficType) : Collection :=
  if (s.domain (s.dvg dvg).domain).active then
    s.onPending fun p => { p with policyUpdateQueue := p.policyUpdateQueue ++ [(dvg, trafficType)] }
  else s

/-- `Policy.type_ip_list`. -/
def typeIPList : Nat := 2
/-- `Policy.type_bad`. -/
def typeBad : Nat := 3
/-- `Policy.action_drop`. -/
def actionDrop : Nat := 0
/-- `Policy.action_forward`. -/
def actionForward : Nat := 1

/-- The connectivity that a policy of a type takes from its packed action. -/
def policyConnectivity (policyType action : Nat) : Nat :=
  if policyType = typeConnectivity then action else actionDrop

/-- `Policy.__init__`; `none` is the exception for a type that is not supported. -/
def policyCreate (domain : DomainId) (trafficType : TrafficType) (policyType : Nat)
    (srcDvg dstDvg : DvgId) (ttl action : Nat) : Option Collection :=
  if policyType = 0 ∨ policyType ≥ typeBad ∨ policyType = typeIPList then none
  else
    let self := s.nextPolicy
    let src := (s.dvg srcDvg).uniqueId
    let dst := (s.dvg dstDvg).uniqueId
    let s := { s with
      nextPolicy := self + 1
      policy := Function.update s.policy self
        { domain, trafficType, type := policyType, srcDvg, dstDvg, ttl
          actionConnectivity := policyConnectivity policyType action, key := (src, dst)
          valid := true } }
    let s := s.modifyDomain domain fun d =>
      { d with
        policyHashDVG := Function.update d.policyHashDVG trafficType
          ((d.policyHashDVG trafficType).insert (src, dst) self) }
    let s := s.modifyDvg srcDvg fun g =>
      g.setPolicies .source trafficType ((g.policies .source trafficType).insert dst self)
    let s := s.policyUpdate srcDvg trafficType
    some (s.modifyDvg dstDvg fun g =>
      g.setPolicies .destination trafficType ((g.policies .destination trafficType).insert src self))

/-- `Domain.policy_del`. -/
def domainPolicyDel (domain : DomainId) (policy : PolicyId) : Collection :=
  let trafficType := (s.policy policy).trafficType
  s.modifyDomain domain fun d =>
    { d with
      policyHashDVG := Function.update d.policyHashDVG trafficType
        ((d.policyHashDVG trafficType).erase (s.policy policy).key) }

/-- `DVG.policy_del_src` and `DVG.policy_del_dst`. Only the source VNID is updated. -/
def dvgPolicyDel (side : PolicyEnd) (other : Nat) (trafficType : TrafficType) : Collection :=
  let s := s.modifyDvg dvg fun g =>
    g.setPolicies side trafficType ((g.policies side trafficType).erase other)
  match side with
  | .source => s.policyUpdate dvg trafficType
  | .destination => s

/-- `Policy.delete`. A policy from a VNID to itself should fall back to the default, but the
call that does so raises. The flag tells whether that happened. -/
def policyDelete (self : PolicyId) : Collection × Bool :=
  let policy := s.policy self
  if policy.valid then
    let s := { s with policy := Function.update s.policy self { policy with valid := false } }
    if policy.srcDvg = policy.dstDvg then (s, true)
    else
      let s := s.dvgPolicyDel policy.dstDvg .destination (s.dvg policy.srcDvg).uniqueId
        policy.trafficType
      let s := s.dvgPolicyDel policy.srcDvg .source (s.dvg policy.dstDvg).uniqueId
        policy.trafficType
      (s.domainPolicyDel policy.domain self, false)
  else (s, false)

/-- The loop of `DVG.delete` over one of its policy tables, which is cleared afterwards. -/
def dvgDeletePolicies (side : PolicyEnd) (trafficType : TrafficType) : Collection :=
  let s := ((s.dvg dvg).policies side trafficType).keys.foldl (fun s key =>
    match ((s.dvg dvg).policies side trafficType).lookup key with
    | none => s
    | some policy =>
      let s := s.domainPolicyDel (s.dvg dvg).domain policy
      let s := s.modifyDvg dvg fun g =>
        g.setPolicies side trafficType ((g.policies side trafficType).erase key)
      (s.policyDelete policy).1) s
  s.modifyDvg dvg fun g => g.setPolicies side trafficType ∅

end Collection

end OpenDove
