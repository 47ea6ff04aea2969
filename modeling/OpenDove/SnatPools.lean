import OpenDove.FloatingIPs

/-!
# Address pools of router interfaces

When a router with an external gateway gets an interface, the network of the interface gets pools of
external addresses on gateways. When the interface goes, the pools are looked for through another
interface of the router that is on an external network, and not through the external gateway: they
are torn down only if the router has such an interface.
-/

namespace OpenDove

structure NeutronSubnet where
  id : Text
  networkUUID : Text
  tenantID : Text

/-- An interface of a router, named by its subnet. -/
abbrev RouterInterface := Text

structure OpenDoveSubnet where
  uuid : Text
  associatedOSSubnetUUID : Text
  domainUUID : Text

/-- An address pool; `attached` tells whether an interface was the reason for it. -/
structure OpenDoveEGWSNATPool where
  gatewayUUID : Text
  vnid : Nat
  attached : Bool
  tombstoneFlag : Bool

/-- What the callbacks of routers look up; none of it changes with them. -/
structure RouterStores where
  getSubnet : Text → Option NeutronSubnet
  getNetwork : Text → Option NeutronNetwork
  getNetworkByName : Text → Option OpenDoveNetwork
  subnets : List OpenDoveSubnet
  externalGatewayInfo : Text → Option Text
  foldCase : Char → Char

/-- The pools, the gateways of the networks, told apart by their VNIDs, and the interfaces that
routers have. -/
structure SnatState where
  pools : List OpenDoveEGWSNATPool
  egws : Nat → List Text
  interfaces : List (Text × RouterInterface)

/-- A callback names the router, the interfaces that the router has, and the interface in question.
The gateways for which an attachment finds addresses are arbitrary. -/
inductive RouterEvent where
  | attached (router : Text) (interfaces : List RouterInterface) (routerInterface : RouterInterface)
    (targets : List Text)
  | detached (router : Text) (interfaces : List RouterInterface) (routerInterface : RouterInterface)

namespace RouterStores

variable (stores : RouterStores) (state : SnatState) (router : Text)
  (interfaces : List RouterInterface) (routerInterface : RouterInterface) (network : OpenDoveNetwork)

/-- The subnet and the network of an interface. -/
def neutronOf : Option (NeutronSubnet × NeutronNetwork) := do
  let neutronSubnet ← stores.getSubnet routerInterface
  let neutronNetwork ← stores.getNetwork neutronSubnet.networkUUID
  return (neutronSubnet, neutronNetwork)

def doveNetworkOf : Option OpenDoveNetwork := do
  stores.getNetworkByName (← stores.neutronOf routerInterface).2.id.neutron

def configureEGWSNATPool (target : Text) : SnatState :=
  { state with
    egws := Function.update state.egws network.vnid (state.egws network.vnid ++ [target])
    pools := state.pools ++ [⟨target, network.vnid, true, false⟩] }

def networkUsesEGW (gatewayUUID : Text) : Prop :=
  ∃ egw ∈ state.egws network.vnid, egw.EqualsIgnoreCase stores.foldCase gatewayUUID

instance (gatewayUUID : Text) : Decidable (stores.networkUsesEGW state network gatewayUUID) :=
  inferInstanceAs (Decidable (∃ egw ∈ _, _))

def removeEGWSNATPool : SnatState :=
  { state with
    pools := state.pools.map fun snatPool =>
      if stores.networkUsesEGW state network snatPool.gatewayUUID ∧ snatPool.vnid = network.vnid then
        { snatPool with tombstoneFlag := true }
      else snatPool }

/-- The callback raises if the network of this or another interface is none of the controller's. -/
def neutronRouterInterfaceAttached (targets : List Text) : SnatState :=
  let state := { state with interfaces := (router, routerInterface) :: state.interfaces }
  match stores.doveNetworkOf routerInterface with
  | none => state
  | some newODN =>
    if (∀ oldInterface ∈ interfaces, oldInterface ≠ routerInterface →
        (stores.doveNetworkOf oldInterface).isSome) ∧ (stores.externalGatewayInfo router).isSome then
      targets.foldl (configureEGWSNATPool · newODN) state
    else state

/-- The loop over the subnets of the controller, which removes the same pools for each that fits. It
raises if one fits and the network is none of the controller's. -/
def removeThrough (subnet : NeutronSubnet) (network : Option OpenDoveNetwork) : Option SnatState :=
  match network with
  | none =>
    if ∃ oDS ∈ stores.subnets,
        oDS.associatedOSSubnetUUID.EqualsIgnoreCase stores.foldCase subnet.id then none
    else some state
  | some network =>
    if ∃ oDS ∈ stores.subnets, oDS.associatedOSSubnetUUID.EqualsIgnoreCase stores.foldCase subnet.id ∧
        oDS.domainUUID = network.domainUUID then some (stores.removeEGWSNATPool state network)
    else some state

/-- The loop over the interfaces of the router, which ends early if it raises. -/
def removeConnections : List RouterInterface → SnatState → SnatState
  | [], state => state
  | oldInterface :: interfaces, state =>
    match stores.neutronOf routerInterface, stores.neutronOf oldInterface with
    | some (neutronSubnet, neutronNetwork), some (oldSubnet, oldNetwork) =>
      if oldInterface = routerInterface then removeConnections interfaces state
      else
        let next :=
          if neutronNetwork.routerExternal then
            stores.removeThrough state oldSubnet (stores.doveNetworkOf oldInterface)
          else if oldNetwork.routerExternal then
            stores.removeThrough state neutronSubnet (stores.doveNetworkOf routerInterface)
          else do
            let _ ← stores.doveNetworkOf routerInterface
            let _ ← stores.doveNetworkOf oldInterface
            return state
        match next with
        | none => state
        | some next => removeConnections interfaces next
    | _, _ => state

def neutronRouterInterfaceDetached : SnatState :=
  stores.removeConnections routerInterface interfaces
    { state with interfaces := state.interfaces.erase (router, routerInterface) }

def step (state : SnatState) : RouterEvent → SnatState
  | .attached router interfaces routerInterface targets =>
    stores.neutronRouterInterfaceAttached state router interfaces routerInterface targets
  | .detached router interfaces routerInterface =>
    stores.neutronRouterInterfaceDetached state router interfaces routerInterface

/-- A network has an interface on a router with an external gateway. -/
def Served (interfaces : List (Text × RouterInterface)) (vnid : Nat) : Prop :=
  ∃ entry ∈ interfaces, (stores.externalGatewayInfo entry.1).isSome ∧
    (stores.doveNetworkOf entry.2).map OpenDoveNetwork.vnid = some vnid

instance (interfaces : List (Text × RouterInterface)) (vnid : Nat) :
    Decidable (stores.Served interfaces vnid) :=
  inferInstanceAs (Decidable (∃ entry ∈ _, _))

/-- Live pools that attachments made belong to networks with such an interface. -/
def PoolsServed : Prop :=
  ∀ pool ∈ state.pools, pool.attached = true → pool.tombstoneFlag = false →
    stores.Served state.interfaces pool.vnid

instance : Decidable (stores.PoolsServed state) :=
  inferInstanceAs (Decidable (∀ pool ∈ _, _))

/-- An interface is on an external network. -/
def External : Prop :=
  ∃ own ∈ stores.neutronOf routerInterface, own.2.routerExternal = true

instance : Decidable (stores.External routerInterface) :=
  inferInstanceAs (Decidable (∃ own ∈ _, _))

/-- Another interface of the router is on an external network, and those before it do not let the
loop raise; the interface in question is not, and its subnet is one of the controller's. -/
def TearsDown : Prop :=
  (∃ oldInterface ∈ interfaces.find? fun oldInterface => oldInterface ≠ routerInterface ∧
    (stores.External oldInterface ∨ stores.doveNetworkOf oldInterface = none),
      stores.External oldInterface) ∧
  ∃ own ∈ stores.neutronOf routerInterface, own.2.routerExternal = false ∧
    ∃ network ∈ stores.doveNetworkOf routerInterface, ∃ oDS ∈ stores.subnets,
      oDS.associatedOSSubnetUUID.EqualsIgnoreCase stores.foldCase own.1.id ∧
        oDS.domainUUID = network.domainUUID

instance : Decidable (stores.TearsDown interfaces routerInterface) :=
  inferInstanceAs (Decidable (_ ∧ _))

/-- The condition on a callback: an interface that is detached is not the last one of its network on
a router with a gateway, or the network has no live pool, or the pools are torn down. -/
def Meets : RouterEvent → Prop
  | .attached .. => True
  | .detached router interfaces routerInterface =>
    ∀ network ∈ stores.doveNetworkOf routerInterface,
      stores.Served (state.interfaces.erase (router, routerInterface)) network.vnid ∨
      (∀ pool ∈ state.pools, pool.attached = true → pool.vnid = network.vnid →
        pool.tombstoneFlag = true) ∨
      stores.TearsDown interfaces routerInterface

instance : (event : RouterEvent) → Decidable (stores.Meets state event)
  | .attached .. => inferInstanceAs (Decidable True)
  | .detached .. => inferInstanceAs (Decidable (∀ network ∈ _, _))

/-- A live pool that an attachment made is on a gateway of its network, which has such an
interface. -/
def Consistent : Prop :=
  ∀ pool ∈ state.pools, pool.attached = true → pool.tombstoneFlag = false →
    pool.gatewayUUID ∈ state.egws pool.vnid ∧ stores.Served state.interfaces pool.vnid

/-- Pools were only tombstoned. -/
structure Thinned (before after : SnatState) : Prop where
  egws : after.egws = before.egws
  interfaces : after.interfaces = before.interfaces
  live : ∀ pool ∈ after.pools, pool.tombstoneFlag = false → pool ∈ before.pools

theorem Thinned.refl : Thinned state state :=
  ⟨rfl, rfl, fun _ listed _ => listed⟩

theorem Thinned.trans {before mid after : SnatState} (first : Thinned before mid)
    (second : Thinned mid after) : Thinned before after :=
  ⟨second.egws.trans first.egws, second.interfaces.trans first.interfaces,
    fun pool listed live => first.live pool (second.live pool listed live) live⟩

/-- A removal spares the live pools of other networks and of other gateways. -/
theorem live_removed {pool : OpenDoveEGWSNATPool}
    (listed : pool ∈ (stores.removeEGWSNATPool state network).pools)
    (live : pool.tombstoneFlag = false) :
    pool ∈ state.pools ∧
      ¬ (stores.networkUsesEGW state network pool.gatewayUUID ∧ pool.vnid = network.vnid) := by
  obtain ⟨old, present, rfl⟩ := List.mem_map.mp listed
  split at live
  · cases live
  · next spared =>
    rw [if_neg spared]
    exact ⟨present, spared⟩

theorem thinned_removeThrough {subnet : NeutronSubnet} {network : Option OpenDoveNetwork}
    {next : SnatState} (ran : stores.removeThrough state subnet network = some next) :
    Thinned state next := by
  unfold removeThrough at ran
  split at ran
  · split at ran
    · cases ran
    · obtain rfl := Option.some.inj ran
      exact Thinned.refl state
  · split at ran
    · obtain rfl := Option.some.inj ran
      exact ⟨rfl, rfl, fun pool listed live => (live_removed _ _ _ listed live).1⟩
    · obtain rfl := Option.some.inj ran
      exact Thinned.refl state

theorem thinned_removeConnections :
    Thinned state (stores.removeConnections routerInterface interfaces state) := by
  induction interfaces generalizing state with
  | nil => exact Thinned.refl state
  | cons oldInterface interfaces ih =>
    unfold removeConnections
    split
    · split
      · exact ih state
      · dsimp only
        split
        · exact Thinned.refl state
        · next ran =>
          refine Thinned.trans ?_ (ih _)
          split at ran
          · exact stores.thinned_removeThrough state ran
          · split at ran
            · exact stores.thinned_removeThrough state ran
            · obtain ⟨_, -, ran⟩ := Option.bind_eq_some_iff.mp ran
              obtain ⟨_, -, ran⟩ := Option.bind_eq_some_iff.mp ran
              obtain rfl := Option.some.inj ran
              exact Thinned.refl state
    · exact Thinned.refl state

/-- What is torn down: no live pool of the network on one of its gateways is left. -/
theorem removeConnections_tearsDown (isNetwork : stores.doveNetworkOf routerInterface = some network)
    (tearsDown : stores.TearsDown interfaces routerInterface) {pool : OpenDoveEGWSNATPool}
    (listed : pool ∈ (stores.removeConnections routerInterface interfaces state).pools)
    (live : pool.tombstoneFlag = false) (same : pool.vnid = network.vnid) :
    pool.gatewayUUID ∉ state.egws network.vnid := by
  obtain ⟨⟨oldInterface, first, old, isOld, external⟩, ⟨subnet, own⟩, isOwn, internal, network', named,
    fits⟩ := tearsDown
  obtain rfl := Option.some.inj (isNetwork.symm.trans named)
  induction interfaces with
  | nil => cases first
  | cons head interfaces ih =>
    by_cases skipped : head = routerInterface
    · subst skipped
      rw [removeConnections, isOwn] at listed
      dsimp only at listed
      rw [if_pos rfl] at listed
      exact ih listed (by simpa using first)
    by_cases stops : stores.External head ∨ stores.doveNetworkOf head = none
    · obtain rfl : head = oldInterface := by simpa [skipped, stops] using first
      rw [removeConnections, isOwn, isOld] at listed
      dsimp only at listed
      rw [if_neg skipped, internal, external, isNetwork, removeThrough, if_pos fits] at listed
      intro onGateway
      have removed := (stores.thinned_removeConnections _ interfaces routerInterface).live pool listed
        live
      exact (live_removed stores state network removed live).2 ⟨⟨_, onGateway, rfl⟩, same⟩
    · -- the loop goes on behind an interface on a network of the controller
      refine ih ?_ (by simpa [skipped, stops] using first)
      obtain ⟨inside, known⟩ := not_or.mp stops
      obtain ⟨network', isNetwork'⟩ := Option.ne_none_iff_exists'.mp known
      obtain ⟨head', isHead, -⟩ := Option.bind_eq_some_iff.mp isNetwork'
      have internal' : head'.2.routerExternal = false := by
        simpa using fun external => inside ⟨head', isHead, external⟩
      rw [removeConnections, isOwn, isHead] at listed
      simpa [skipped, show own.routerExternal = false from internal, internal', isNetwork,
        isNetwork'] using listed

/-- The loop of an attachment, for a network that the new interface serves. -/
theorem consistent_configure (consistent : stores.Consistent state) (targets : List Text)
    (served : stores.Served state.interfaces network.vnid) :
    stores.Consistent (targets.foldl (configureEGWSNATPool · network) state) := by
  induction targets generalizing state with
  | nil => exact consistent
  | cons target targets ih =>
    refine ih (configureEGWSNATPool state network target) ?_ served
    intro pool listed attached live
    rcases List.mem_append.mp listed with listed | listed
    · obtain ⟨onGateway, serves⟩ := consistent pool listed attached live
      refine ⟨?_, serves⟩
      by_cases same : pool.vnid = network.vnid
      · rw [same] at onGateway ⊢
        simp [configureEGWSNATPool, onGateway]
      · simpa [configureEGWSNATPool, same] using onGateway
    · obtain rfl := List.mem_singleton.mp listed
      exact ⟨by simp [configureEGWSNATPool], served⟩

theorem consistent_attached (consistent : stores.Consistent state) (targets : List Text) :
    stores.Consistent (stores.neutronRouterInterfaceAttached state router interfaces routerInterface
      targets) := by
  have noted : stores.Consistent
      { state with interfaces := (router, routerInterface) :: state.interfaces } := by
    intro pool listed attached live
    obtain ⟨onGateway, entry, present, serves⟩ := consistent pool listed attached live
    exact ⟨onGateway, entry, List.mem_cons_of_mem _ present, serves⟩
  unfold neutronRouterInterfaceAttached
  split
  · exact noted
  · next newODN isNetwork =>
    dsimp only
    split
    · next configured =>
      exact stores.consistent_configure _ newODN noted targets
        ⟨_, List.mem_cons_self, configured.2, by rw [isNetwork, Option.map_some]⟩
    · exact noted

theorem consistent_detached (consistent : stores.Consistent state)
    (meets : stores.Meets state (.detached router interfaces routerInterface)) :
    stores.Consistent (stores.neutronRouterInterfaceDetached state router interfaces
      routerInterface) := by
  intro pool listed attached live
  obtain ⟨egws, rest, kept⟩ := stores.thinned_removeConnections
    { state with interfaces := state.interfaces.erase (router, routerInterface) } interfaces
    routerInterface
  obtain ⟨onGateway, entry, present, gateway, isVnid⟩ :=
    consistent pool (kept pool listed live) attached live
  rw [neutronRouterInterfaceDetached, egws, rest]
  refine ⟨onGateway, ?_⟩
  by_cases stays : entry ∈ state.interfaces.erase (router, routerInterface)
  · exact ⟨entry, stays, gateway, isVnid⟩
  -- the interface that goes is the one that served the network
  obtain rfl : entry = (router, routerInterface) := by
    by_contra other
    exact stays ((List.mem_erase_of_ne other).mpr present)
  obtain ⟨network, isNetwork, same⟩ := Option.map_eq_some_iff.mp isVnid
  rcases meets network isNetwork with served | noneLive | tearsDown
  · rwa [same] at served
  · rw [noneLive pool (kept pool listed live) attached same.symm] at live
    cases live
  · exact absurd (same ▸ onGateway)
      (stores.removeConnections_tearsDown _ _ _ network isNetwork tearsDown listed live same.symm)

/-- Along every run of callbacks that meet the condition, live pools that attachments made belong to
networks with an interface on a router with an external gateway. -/
theorem pools_follow_interfaces (others : ∀ pool ∈ state.pools, pool.attached = false)
    (events : List RouterEvent) (meets : Admissible stores.step stores.Meets state events) :
    stores.PoolsServed (run stores.step state events) := by
  have consistent : stores.Consistent (run stores.step state events) := by
    refine run_invariant stores.Consistent (fun state event consistent meets => ?_)
      (fun pool listed attached => ?_) meets
    · cases event with
      | attached router interfaces routerInterface targets =>
        exact stores.consistent_attached state router interfaces routerInterface consistent targets
      | detached router interfaces routerInterface =>
        exact stores.consistent_detached state router interfaces routerInterface consistent meets
    · rw [others pool listed] at attached
      cases attached
  exact fun pool listed attached live => (consistent pool listed attached live).2

/-- A network with a subnet, an external network, and routers that all have a gateway on it. -/
def twoNetworks : RouterStores where
  getSubnet subnet := some ⟨subnet, subnet, ['t']⟩
  getNetwork network := some ⟨network, false, network = ['x']⟩
  getNetworkByName name :=
    if name = Text.neutron ['n'] then some ⟨name, ['n'], ['d'], 71, []⟩ else none
  subnets := [⟨['s'], ['n'], ['d']⟩]
  externalGatewayInfo _ := some ['x']
  foldCase := Char.toLower

theorem pools_follow_interfaces_torn_down :
    twoNetworks.PoolsServed (run twoNetworks.step ⟨[], fun _ => [], []⟩
      [.attached ['r'] [] ['n'] [['g']], .attached ['r'] [['n']] ['x'] [],
        .detached ['r'] [['x']] ['n']]) :=
  twoNetworks.pools_follow_interfaces _ (by simp) _ (by decide)

/-- The only interface of a router with a gateway goes, and the pool of its network stays live. -/
theorem pool_outlives_last_interface :
    ¬ twoNetworks.PoolsServed (run twoNetworks.step ⟨[], fun _ => [], []⟩
      [.attached ['r'] [['n']] ['n'] [['g']], .detached ['r'] [] ['n']]) := by
  decide

end RouterStores

end OpenDove
