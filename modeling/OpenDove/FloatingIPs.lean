import OpenDove.Runs
import Mathlib.Data.List.Dedup

/-!
# Forwarding rules of floating addresses

The controller turns a floating address into forwarding rules, one on each external gateway of the
network of its port. No callback takes a rule out of the store: rules are tombstoned and collected
later. A callback that gives the address a port adds the rules of the new port and leaves those of
the old one. The gateways are found through the name of the network in the domain of the tenant of
the port, while the network lies in the domain of its own tenant.
-/

namespace OpenDove

/-- Identifiers and names, as their characters. -/
abbrev Text := List Char

/-- `equalsIgnoreCase` on texts. `foldCase` is `toLowerCase` after `toUpperCase` on characters. -/
def Text.EqualsIgnoreCase (foldCase : Char → Char) (one other : Text) : Prop :=
  one.map foldCase = other.map foldCase

instance (foldCase : Char → Char) (one other : Text) :
    Decidable (one.EqualsIgnoreCase foldCase other) :=
  inferInstanceAs (Decidable (_ = _))

/-- The name that the controller gives what it makes for a Neutron object. -/
def Text.neutron (id : Text) : Text := ['N', 'e', 'u', 't', 'r', 'o', 'n', ' '] ++ id

structure NeutronPort where
  networkUUID : Text
  tenantID : Text

structure NeutronNetwork where
  id : Text
  shared : Bool
  routerExternal : Bool

structure NeutronFloatingIP where
  id : Text
  portUUID : Option Text
  fixedIPAddress : Text
  floatingIPAddress : Text

/-- A network of the controller; its gateways are named by their uuids. -/
structure OpenDoveNetwork where
  name : Text
  associatedOSNetworkUUID : Text
  domainUUID : Text
  vnid : Nat
  gateways : List Text

/-- What the callbacks look up to find the gateways of a port. -/
structure NeutronStores where
  getPort : Text → Option NeutronPort
  getNetwork : Text → Option NeutronNetwork
  domainSeparation : Bool
  getDomainByName : Text → Option Text
  networks : List OpenDoveNetwork
  foldCase : Char → Char

structure OpenDoveEGWFwdRule where
  vnid : Nat
  externalIP : Text
  internalIP : Text
  gatewayUUID : Text
  associatedNeutronFloatingIPUUID : Text
  tombstoneFlag : Bool
deriving DecidableEq

inductive FloatingIPEvent where
  | created (floatingIP : NeutronFloatingIP)
  | updated (floatingIP : NeutronFloatingIP)
  | deleted (floatingIP : NeutronFloatingIP)

namespace NeutronStores

variable (stores : NeutronStores) (rules : List OpenDoveEGWFwdRule) (floatingIP : NeutronFloatingIP)

/-- The networks of the controller for the network of the port of a floating address; a lookup that
fails raises. -/
def networksOf : Option (List OpenDoveNetwork) := do
  let port ← stores.getPort (← floatingIP.portUUID)
  let network ← stores.getNetwork port.networkUUID
  let doveDomainName :=
    if network.shared && !stores.domainSeparation then
      ['S', 'h', 'a', 'r', 'e', 'd', 'D', 'o', 'm', 'a', 'i', 'n']
    else port.tenantID.neutron
  let doveDomainUUID ← stores.getDomainByName doveDomainName
  return stores.networks.filter fun doveNetwork =>
    doveNetwork.name.EqualsIgnoreCase stores.foldCase network.id.neutron ∧
      doveNetwork.domainUUID.EqualsIgnoreCase stores.foldCase doveDomainUUID

/-- One rule for each gateway; none is added if a lookup raises. -/
def mapFloatingIPtoEGWFwdRule : List OpenDoveEGWFwdRule :=
  rules ++ ((stores.networksOf floatingIP).getD []).flatMap fun doveNetwork =>
    doveNetwork.gateways.map fun egw =>
      { vnid := doveNetwork.vnid
        externalIP := floatingIP.floatingIPAddress
        internalIP := floatingIP.fixedIPAddress
        gatewayUUID := egw
        associatedNeutronFloatingIPUUID := floatingIP.id
        tombstoneFlag := false }

def removeEgwFwdRulesForFloatingIP : List OpenDoveEGWFwdRule :=
  rules.map fun rule =>
    if rule.associatedNeutronFloatingIPUUID.EqualsIgnoreCase stores.foldCase floatingIP.id then
      { rule with tombstoneFlag := true }
    else rule

/-- The callbacks. -/
def step : FloatingIPEvent → List OpenDoveEGWFwdRule
  | .created floatingIP => stores.mapFloatingIPtoEGWFwdRule rules floatingIP
  | .updated floatingIP =>
    if floatingIP.portUUID = none then stores.removeEgwFwdRulesForFloatingIP rules floatingIP
    else stores.mapFloatingIPtoEGWFwdRule rules floatingIP
  | .deleted floatingIP => stores.removeEgwFwdRulesForFloatingIP rules floatingIP

/-- The external gateways of the network of the port of a floating address: those of the networks
that the controller made for it. -/
def gatewaysOf : List Text :=
  match floatingIP.portUUID.bind stores.getPort with
  | none => []
  | some port =>
    (stores.networks.filter (·.associatedOSNetworkUUID = port.networkUUID)).flatMap
      OpenDoveNetwork.gateways

/-- The gateways that the callbacks find. -/
def gatewaysFound : List Text :=
  ((stores.networksOf floatingIP).getD []).flatMap OpenDoveNetwork.gateways

/-- The rules of a floating address that are not tombstoned. -/
def live (id : Text) : List OpenDoveEGWFwdRule :=
  rules.filter fun rule => rule.associatedNeutronFloatingIPUUID = id ∧ rule.tombstoneFlag = false

/-- The rules of other floating addresses. -/
def others (id : Text) : List OpenDoveEGWFwdRule :=
  rules.filter fun rule => rule.associatedNeutronFloatingIPUUID ≠ id

/-- A callback leaves a floating address with exactly one live rule on each gateway, with its fixed
address, and the rules of other addresses as they were. -/
def Follows (after : List OpenDoveEGWFwdRule) (gateways : List Text) : Prop :=
  ((live after floatingIP.id).map OpenDoveEGWFwdRule.gatewayUUID).Perm gateways.dedup ∧
    (∀ rule ∈ live after floatingIP.id, rule.internalIP = floatingIP.fixedIPAddress) ∧
    others after floatingIP.id = others rules floatingIP.id

/-- The rules follow the floating address of a callback: on the gateways of its port, or on none if
it has no port or is deleted. -/
def Honours (event : FloatingIPEvent) : Prop :=
  match event with
  | .created floatingIP | .updated floatingIP =>
    Follows rules floatingIP (stores.step rules event) (stores.gatewaysOf floatingIP)
  | .deleted floatingIP => Follows rules floatingIP (stores.step rules event) []

instance : (event : FloatingIPEvent) → Decidable (stores.Honours rules event)
  | .created _ | .updated _ | .deleted _ => inferInstanceAs (Decidable (_ ∧ _ ∧ _))

/-- The gateways of the live rules of a floating address and those that are found through the domain
of the tenant of its port are together those of the network of the port, each once; and the live
rules have its fixed address. -/
def Completed : Prop :=
  ((live rules floatingIP.id).map OpenDoveEGWFwdRule.gatewayUUID ++
      stores.gatewaysFound floatingIP).Perm (stores.gatewaysOf floatingIP).dedup ∧
    ∀ rule ∈ live rules floatingIP.id, rule.internalIP = floatingIP.fixedIPAddress

/-- No live rule is for another floating address whose id differs in case only. -/
def Separate : Prop :=
  ∀ rule ∈ others rules floatingIP.id,
    rule.associatedNeutronFloatingIPUUID.EqualsIgnoreCase stores.foldCase floatingIP.id →
      rule.tombstoneFlag = true

/-- The condition on a callback. -/
def Meets : FloatingIPEvent → Prop
  | .created floatingIP => stores.Completed rules floatingIP
  | .updated floatingIP =>
    if floatingIP.portUUID = none then stores.Separate rules floatingIP
    else stores.Completed rules floatingIP
  | .deleted floatingIP => stores.Separate rules floatingIP

/-- The rules follow a floating address that gets a port exactly if the gateways that are found
complete those of its rules. -/
theorem follows_map_iff :
    Follows rules floatingIP (stores.mapFloatingIPtoEGWFwdRule rules floatingIP)
      (stores.gatewaysOf floatingIP) ↔ stores.Completed rules floatingIP := by
  unfold mapFloatingIPtoEGWFwdRule Completed gatewaysFound
  generalize (stores.networksOf floatingIP).getD [] = networks
  generalize isAdded : networks.flatMap _ = added
  have own : ∀ rule ∈ added, rule.associatedNeutronFloatingIPUUID = floatingIP.id ∧
      rule.tombstoneFlag = false ∧ rule.internalIP = floatingIP.fixedIPAddress := by
    intro rule listed
    rw [← isAdded] at listed
    obtain ⟨network, -, listed⟩ := List.mem_flatMap.mp listed
    obtain ⟨egw, -, rfl⟩ := List.mem_map.mp listed
    exact ⟨rfl, rfl, rfl⟩
  have gateways : networks.flatMap OpenDoveNetwork.gateways =
      added.map OpenDoveEGWFwdRule.gatewayUUID := by
    rw [← isAdded, List.map_flatMap]
    simp only [List.map_map, Function.comp_def, List.map_id']
  have lives : live (rules ++ added) floatingIP.id = live rules floatingIP.id ++ added := by
    refine (List.filter_append ..).trans (congrArg _ (List.filter_eq_self.mpr ?_))
    exact fun rule listed => decide_eq_true ⟨(own rule listed).1, (own rule listed).2.1⟩
  have apart : others (rules ++ added) floatingIP.id = others rules floatingIP.id := by
    have none : others added floatingIP.id = [] :=
      List.filter_eq_nil_iff.mpr fun rule listed => by simp [(own rule listed).1]
    exact (List.filter_append ..).trans ((congrArg _ none).trans (List.append_nil _))
  rw [Follows, lives, apart, gateways, List.map_append]
  refine and_congr_right fun _ => ⟨fun ⟨fixed, _⟩ rule listed => ?_, fun fixed => ⟨?_, rfl⟩⟩
  · exact fixed rule (List.mem_append_left _ listed)
  · intro rule listed
    exact (List.mem_append.mp listed).elim (fixed rule) fun isNew => (own rule isNew).2.2

/-- The rules of a floating address that loses its port or is deleted go, and those of others stay
exactly if no other id differs in case only. -/
theorem follows_remove_iff :
    Follows rules floatingIP (stores.removeEgwFwdRulesForFloatingIP rules floatingIP) [] ↔
      stores.Separate rules floatingIP := by
  have lives : live (stores.removeEgwFwdRulesForFloatingIP rules floatingIP) floatingIP.id =
      [] := by
    refine List.filter_eq_nil_iff.mpr fun rule listed => ?_
    obtain ⟨before, -, rfl⟩ := List.mem_map.mp listed
    split
    · simp
    · next differs =>
      have other : before.associatedNeutronFloatingIPUUID ≠ floatingIP.id := by
        intro same
        exact differs (congrArg _ same)
      simp [other]
  have apart : others (stores.removeEgwFwdRulesForFloatingIP rules floatingIP) floatingIP.id =
      (others rules floatingIP.id).map fun rule =>
        if rule.associatedNeutronFloatingIPUUID.EqualsIgnoreCase stores.foldCase floatingIP.id then
          { rule with tombstoneFlag := true }
        else rule := by
    rw [others, removeEgwFwdRulesForFloatingIP, List.filter_map, others]
    congr 2
    funext rule
    simp only [Function.comp_apply]
    split <;> rfl
  rw [Follows, lives, apart]
  refine ⟨fun follows rule listed same => ?_, fun separate => ⟨.refl _, nofun, ?_⟩⟩
  · have unchanged := List.map_eq_map_iff.mp (follows.2.2.trans (List.map_id _).symm) rule listed
    rw [if_pos same] at unchanged
    exact (congrArg OpenDoveEGWFwdRule.tombstoneFlag unchanged).symm
  · refine (List.map_congr_left fun rule listed => ?_).trans (List.map_id _)
    split
    · next same => rw [← separate rule listed same, id]
    · rfl

theorem honours_iff (event : FloatingIPEvent) :
    stores.Honours rules event ↔ stores.Meets rules event := by
  cases event with
  | created floatingIP => exact follows_map_iff stores rules floatingIP
  | updated floatingIP =>
    simp only [Honours, Meets, step]
    split
    · next noPort =>
      have none : stores.gatewaysOf floatingIP = [] := by
        rw [gatewaysOf, noPort]
        rfl
      rw [none]
      exact follows_remove_iff stores rules floatingIP
    · exact follows_map_iff stores rules floatingIP
  | deleted floatingIP => exact follows_remove_iff stores rules floatingIP

/-- Two networks with a gateway each, and a port in each of them. -/
def twoPorts : NeutronStores where
  getPort port := some ⟨port, ['t']⟩
  getNetwork network := some ⟨network, false, false⟩
  domainSeparation := true
  getDomainByName _ := some ['d']
  networks := [⟨Text.neutron ['1'], ['1'], ['d'], 71, [['g']]⟩,
    ⟨Text.neutron ['2'], ['2'], ['d'], 72, [['h']]⟩]
  foldCase := Char.toLower

end NeutronStores

end OpenDove
