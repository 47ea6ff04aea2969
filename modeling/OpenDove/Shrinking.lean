import OpenDove.DirectoryEffects
import OpenDove.Frames
import OpenDove.Runs

/-!
# Routines that only delete endpoints

The routines of tunnels and clients change the endpoint directory in two ways only: they delete
endpoints, and they empty the endpoint table of a tunnel whose endpoints are gone or of a tunnel
that was just created. This module states that once for every routine, so that an invariant of
the directory is checked against the two steps and not against each routine.
-/

namespace OpenDove

variable (new : TunnelId → Prop) (dir : Directory) (endpoints : List EndpointId) (s : Collection)
  (self tunnel : TunnelId) (endpoint : EndpointId)

namespace Directory

/-- A directory changed by deletions of endpoints and by emptying tunnels. A tunnel is emptied
when all the endpoints in its table are deleted, or when it is a new one. -/
inductive Shrinks (new : TunnelId → Prop) (start : Directory) : Directory → Prop
  | refl : Shrinks new start start
  | delete {dir : Directory} (before : Shrinks new start dir) (endpoint : EndpointId) :
    Shrinks new start (dir.delete endpoint)
  | drain {dir : Directory} (before : Shrinks new start dir) (tunnel : TunnelId)
    (drained : new tunnel ∨ ∀ vMac endpoint, (dir.tunnelMAC tunnel).lookup vMac = some endpoint →
      (dir.endpoint endpoint).valid = false) :
    Shrinks new start (dir.setTunnelMAC tunnel ∅)

namespace Shrinks

variable {new : TunnelId → Prop} {start dir after : Directory}

theorem trans (first : Shrinks new start dir) (second : Shrinks new dir after) :
    Shrinks new start after := by
  induction second with
  | refl => exact first
  | delete _ endpoint shrunk => exact shrunk.delete endpoint
  | drain _ tunnel drained shrunk => exact shrunk.drain tunnel drained

theorem mono {more : TunnelId → Prop} (weaker : ∀ tunnel, new tunnel → more tunnel)
    (shrinks : Shrinks new start after) : Shrinks more start after := by
  induction shrinks with
  | refl => exact .refl
  | delete _ endpoint shrunk => exact shrunk.delete endpoint
  | drain _ tunnel drained shrunk =>
    exact shrunk.drain tunnel (drained.imp_left (weaker tunnel))

/-- What the two steps preserve holds after any number of them. -/
theorem preserves (invariant : Directory → Prop)
    (delete : ∀ dir endpoint, invariant dir → invariant (dir.delete endpoint))
    (drain : ∀ dir tunnel, (new tunnel ∨ ∀ vMac endpoint,
        (dir.tunnelMAC tunnel).lookup vMac = some endpoint →
        (dir.endpoint endpoint).valid = false) →
      invariant dir → invariant (dir.setTunnelMAC tunnel ∅))
    (shrinks : Shrinks new start after) (initially : invariant start) : invariant after := by
  induction shrinks with
  | refl => exact initially
  | delete _ endpoint held => exact delete _ endpoint held
  | drain _ tunnel drained held => exact drain _ tunnel drained held

end Shrinks

/-- A deletion makes its endpoint invalid and no endpoint valid. -/
theorem delete_valid (self other : EndpointId) :
    ((dir.delete self).endpoint other).valid =
      if other = self then false else (dir.endpoint other).valid := by
  cases live : (dir.endpoint self).valid with
  | false =>
    rw [delete_of_dead dir self live]
    split
    · next same => rw [same, live]
    · rfl
  | true =>
    obtain ⟨core, -⟩ := delete_effect dir self live
    rw [core other]
    split <;> rfl

/-- Apart from the validity, a deletion leaves the attributes of every endpoint. -/
theorem delete_core (self other : EndpointId) :
    ((dir.delete self).endpoint other).toEndpointCore =
      { (dir.endpoint other).toEndpointCore with
        valid := ((dir.delete self).endpoint other).valid } := by
  cases live : (dir.endpoint self).valid with
  | false => simp [delete_of_dead dir self live]
  | true =>
    obtain ⟨core, -⟩ := delete_effect dir self live
    rw [core other]
    split
    · next same => rw [same]
    · rfl

/-- A deletion only takes endpoints off tunnels. -/
theorem delete_tunnelMAC (self : EndpointId) (tunnel : TunnelId) (vMac : Mac)
    (endpoint : EndpointId)
    (stays : ((dir.delete self).tunnelMAC tunnel).lookup vMac = some endpoint) :
    (dir.tunnelMAC tunnel).lookup vMac = some endpoint := by
  cases live : (dir.endpoint self).valid with
  | false => rwa [delete_of_dead dir self live] at stays
  | true =>
    obtain ⟨-, -, -, -, -, tunnels, -⟩ := delete_effect dir self live
    rw [tunnels tunnel] at stays
    split at stays
    · exact Dict.lookup_of_erase stays
    · exact stays

/-- Deleting a list of endpoints. -/
def deleteAll (dir : Directory) (endpoints : List EndpointId) : Directory :=
  endpoints.foldl delete dir

theorem deleteAll_valid (other : EndpointId) :
    ((dir.deleteAll endpoints).endpoint other).valid =
      if other ∈ endpoints then false else (dir.endpoint other).valid := by
  unfold deleteAll
  induction endpoints generalizing dir with
  | nil => simp
  | cons endpoint endpoints ih =>
    rw [List.foldl_cons, ih, delete_valid]
    by_cases same : other = endpoint <;> by_cases member : other ∈ endpoints <;>
      simp [same, member]

theorem deleteAll_tunnelMAC (vMac : Mac) (endpoint : EndpointId)
    (stays : ((dir.deleteAll endpoints).tunnelMAC tunnel).lookup vMac = some endpoint) :
    (dir.tunnelMAC tunnel).lookup vMac = some endpoint := by
  unfold deleteAll at stays
  induction endpoints generalizing dir with
  | nil => exact stays
  | cons self endpoints ih =>
    exact delete_tunnelMAC dir self tunnel vMac endpoint (ih (dir.delete self) stays)

theorem deleteAll_shrinks : Shrinks new dir (dir.deleteAll endpoints) :=
  List.foldlRecOn endpoints delete .refl fun _ shrunk endpoint _ => shrunk.delete endpoint

/-- The effect of `TunnelEndpoint.delete` on the directory. -/
def tunnelDelete (dir : Directory) (tunnel : TunnelId) : Directory :=
  (dir.deleteAll (dir.tunnelMAC tunnel).values).setTunnelMAC tunnel ∅

theorem tunnelDelete_shrinks : Shrinks new dir (dir.tunnelDelete tunnel) := by
  refine (deleteAll_shrinks new dir _).drain tunnel (Or.inr fun vMac endpoint stays => ?_)
  have listed : endpoint ∈ (dir.tunnelMAC tunnel).values :=
    (Dict.mem_values _ _).mpr ⟨vMac, deleteAll_tunnelMAC dir _ tunnel vMac endpoint stays⟩
  rw [deleteAll_valid, if_pos listed]

end Directory

namespace Collection

/-! ## Endpoints -/

theorem tunnelEndpointDel_quiet :
    Quiet (s.onDirectory fun dir => dir.tunnelEndpointDel self endpoint)
      (s.tunnelEndpointDel self endpoint) :=
  (Quiet.refl _).ite ((Quiet.refl _).deleteIfEmpty self)

/-- Taking an endpoint off a tunnel acts on the directory as stated there. -/
@[simp] theorem tunnelEndpointDel_directory :
    (s.tunnelEndpointDel self endpoint).directory = s.directory.tunnelEndpointDel self endpoint :=
  (s.tunnelEndpointDel_quiet self endpoint).1

@[simp] theorem tunnelEndpointDel_fixed :
    (s.tunnelEndpointDel self endpoint).fixed = s.fixed :=
  (s.tunnelEndpointDel_quiet self endpoint).2

/-- Deleting an endpoint acts on the directory as stated there. -/
@[simp] theorem endpointDelete_directory :
    (s.endpointDelete endpoint).directory = s.directory.delete endpoint := by
  unfold endpointDelete Directory.delete
  split
  · simp [onDirectory]
  · rfl

@[simp] theorem endpointDelete_fixed : (s.endpointDelete endpoint).fixed = s.fixed := by
  unfold endpointDelete
  split
  · exact tunnelEndpointDel_fixed ..
  · rfl

theorem foldl_endpointDelete :
    (endpoints.foldl endpointDelete s).directory = s.directory.deleteAll endpoints ∧
    (endpoints.foldl endpointDelete s).fixed = s.fixed :=
  ⟨(List.foldl_hom directory fun _ _ => (endpointDelete_directory ..).symm).symm,
    foldl_view fixed (fun _ _ => endpointDelete_fixed ..) endpoints s⟩

/-- Deleting a tunnel acts on the directory as stated there. -/
theorem tunnelDelete_directory :
    (s.tunnelDelete self).directory = s.directory.tunnelDelete self := by
  refine ((Quiet.refl _).deleteIfEmpty self).1.trans ?_
  rw [onDirectory, (foldl_endpointDelete _ s).1, Directory.tunnelDelete]

theorem tunnelDelete_fixed : (s.tunnelDelete self).fixed = s.fixed :=
  ((Quiet.refl _).deleteIfEmpty self).2.trans (foldl_endpointDelete _ s).2

/-! ## Tunnels and clients -/

/-- The directory shrank, and what the underlay leaves alone did not change. -/
def Shrunk (start s : Collection) : Prop :=
  Directory.Shrinks (fun _ => False) start.directory s.directory ∧ s.fixed = start.fixed

namespace Shrunk

variable {start s mid : Collection}

@[refl] theorem refl (s : Collection) : Shrunk s s := ⟨.refl, rfl⟩

theorem trans (first : Shrunk start mid) (second : Shrunk mid s) : Shrunk start s :=
  ⟨first.1.trans second.1, second.2.trans first.2⟩

theorem quiet (shrunk : Shrunk start mid) (quiet : Quiet mid s) : Shrunk start s :=
  ⟨quiet.1 ▸ shrunk.1, quiet.2.trans shrunk.2⟩

/-- A loop only shrinks the directory if its body does. -/
theorem foldl {ν : Type} {body : Collection → ν → Collection} (shrunk : Shrunk start s)
    (shrinks : ∀ s item, Shrunk s (body s item)) (items : List ν) :
    Shrunk start (items.foldl body s) :=
  List.foldlRecOn items body shrunk fun mid before item _ => before.trans (shrinks mid item)

theorem ite {condition : Prop} [Decidable condition] {s' : Collection} (shrunk : Shrunk start s)
    (shrunk' : Shrunk start s') : Shrunk start (if condition then s' else s) := by
  split <;> assumption

variable (shrunk : Shrunk start s)

include shrunk

theorem endpointDelete : Shrunk start (s.endpointDelete endpoint) :=
  ⟨by simpa using shrunk.1.delete endpoint, by simpa using shrunk.2⟩

variable (self : TunnelId) (inetType : InetType) (ipValue : IPValue)

theorem tunnelDelete : Shrunk start (s.tunnelDelete self) :=
  ⟨by simpa only [tunnelDelete_directory] using
      shrunk.1.trans (Directory.tunnelDelete_shrinks _ _ self),
    (tunnelDelete_fixed s self).trans shrunk.2⟩

theorem deleteClientType (clientType : ClientType) :
    Shrunk start (s.deleteClientType self clientType) := by
  refine shrunk.foldl (fun s key => ?_) _
  split
  · rfl
  · exact (refl s).ite ((refl s).endpointDelete _)

theorem forgetVnid (clientType : ClientType) (vnid : Nat) :
    Shrunk start (s.forgetVnid self clientType vnid) := by
  have written := shrunk.quiet ((Quiet.refl s).modifyTunnel self (fun t =>
    { t with dvgHash := Function.update t.dvgHash clientType ((t.dvgHash clientType).erase vnid) })
    rfl)
  exact shrunk.ite (written.ite (written.deleteClientType ..))

theorem forgetIP : Shrunk start (s.forgetIP self inetType ipValue) := by
  dsimp only [Collection.forgetIP]
  refine Shrunk.ite (shrunk.quiet ?_) (Shrunk.tunnelDelete (shrunk.quiet ?_) self) <;>
    exact (((Quiet.refl s).modifyTunnel _ _ (by rfl)).clientTunnelEndpointDeleteIP
      ..).modifyDomain _ _ (by rfl)

theorem ipClearVnid (clientType : ClientType) (inetType : InetType)
    (ipValue : IPValue) (vnid : Nat) :
    Shrunk start (s.ipClearVnid self clientType inetType ipValue vnid) := by
  dsimp only [Collection.ipClearVnid]
  split
  · exact shrunk.quiet ((Quiet.refl s).modifyTunnel _ _ (by rfl))
  · refine ite ?left (forgetVnid ?left ..)
    exact shrunk.quiet (((Quiet.refl s).modifyTunnel _ _ (by rfl)).dvgTunnelEndpointDeleteIP ..)

theorem ipClearType
    (clientType : ClientType) : Shrunk start (s.ipClearType self inetType ipValue clientType) :=
  (shrunk.foldl (fun s vnid => (refl s).ipClearVnid self clientType inetType ipValue vnid) _).quiet
    ((Quiet.refl _).modifyTunnel _ _ (by rfl))

theorem ipClearTypes (clientTypes : List ClientType) :
    Shrunk start (s.ipClearTypes self inetType ipValue clientTypes).1 := by
  induction clientTypes generalizing s with
  | nil => exact shrunk
  | cons clientType clientTypes ih =>
    unfold Collection.ipClearTypes
    split
    · exact ih (shrunk.ipClearType ..)
    · exact shrunk

theorem ipClear : Shrunk start (s.ipClear self inetType ipValue) := by
  have cleared := shrunk.ipClearTypes self inetType ipValue ClientType.types
  unfold Collection.ipClear
  generalize s.ipClearTypes self inetType ipValue ClientType.types = result at cleared ⊢
  exact cleared.ite (cleared.forgetIP ..)

theorem dpsClientDeleteLocal (self : ClientId) : Shrunk start (s.dpsClientDeleteLocal self) := by
  dsimp only [Collection.dpsClientDeleteLocal]
  refine quiet (foldl (foldl (shrunk.quiet ((Quiet.refl s).onPending _)) ?_ _) ?_ _)
    ((Quiet.refl _).domainDpsClientDelete ..)
  all_goals exact fun s tunnel => (refl s).tunnelDelete tunnel

theorem hostDeleteWith {deleteClient : Collection → ClientId → Collection}
    (shrinks : ∀ s client, Shrunk s (deleteClient s client)) (self : HostId) :
    Shrunk start (s.hostDeleteWith deleteClient self) := by
  refine shrunk.ite (quiet (foldl (shrunk.quiet ((Quiet.refl s).modifyHost ..)) ?_ _)
    ⟨rfl, rfl⟩)
  intro s domain
  cases s.hostClient (s.host self) domain with
  | none => rfl
  | some client => exact shrinks s client

theorem dpsClientDeleteFuel (depth : Nat) (self : ClientId) :
    Shrunk start (Collection.dpsClientDeleteFuel depth s self) := by
  induction depth generalizing start s self with
  | zero =>
    have marked := shrunk.quiet
      ((Quiet.refl s).modifyClient self (fun c => { c with valid := false }) rfl)
    exact shrunk.ite (marked.dpsClientDeleteLocal self)
  | succ depth ih =>
    have marked := shrunk.quiet
      ((Quiet.refl s).modifyClient self (fun c => { c with valid := false }) rfl)
    refine shrunk.ite (Shrunk.dpsClientDeleteLocal ?_ self)
    cases (s.modifyClient self fun c => { c with valid := false }).hosts.lookup _ with
    | none => exact marked
    | some host =>
      exact marked.hostDeleteWith (fun s client => ih (refl s) client) host

theorem dpsClientDelete (self : ClientId) : Shrunk start (s.dpsClientDelete self) :=
  shrunk.dpsClientDeleteFuel ..

theorem updateUndo (tunnel : Option TunnelId) (client : Option ClientId) :
    Shrunk start (s.updateUndo tunnel client) := by
  cases tunnel <;> cases client
  · exact shrunk
  · exact shrunk.dpsClientDelete _
  · exact shrunk.tunnelDelete _
  · exact (shrunk.tunnelDelete _).dpsClientDelete _

end Shrunk

end Collection

end OpenDove
