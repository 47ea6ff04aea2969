import OpenDove.DomainServices
import OpenDove.Runs
import OpenDove.Totals

/-!
# Address resolution in a domain

A lookup of an unknown address leaves a waiter: the client and the VNID that asked. The first
waiter of an address makes an entry and a work item for the background thread, which queries the
switches and then puts the domain into the table of the timer. A timer pass takes the domain out
of that table, ages its entries, and puts it back when waiters are left.

Two counts are kept, one for each entry and one for the domain. This module compares them with the
waiters that are stored, and shows when an entry does not stay for ever. It does when its last
waiter is deleted with its client or its VNID: the count of the domain can then be zero while the
entry is there, and the domain is not put back.
-/

namespace OpenDove

namespace AddressResolutionvIP

/-- `delete` of an entry returns its count. -/
def delete (resolution : AddressResolutionvIP) : AddressResolutionvIP × Int :=
  ({ resolution with dpsClients := ∅, retry := 0, total := 0 }, resolution.total)

/-- `timeout`: whether the entry is deleted, and its count if it is. -/
def timeout (resolution : AddressResolutionvIP) : AddressResolutionvIP × Bool × Int :=
  if resolution.retry ≤ 0 then (resolution.delete.1, true, resolution.delete.2)
  else ({ resolution with retry := resolution.retry - 1 }, false, 0)

end AddressResolutionvIP

namespace AddressResolution

def totalMax : Int := 32

def vIPNotFoundMax : Nat := 8

/-- One round of the loop of `process_timeout`. -/
def timeoutKey (pending : AddressResolution) (key : IPValue) : AddressResolution :=
  match pending.endpointResolution.lookup key with
  | none => pending
  | some resolution =>
    let (resolution, deleted, count) := resolution.timeout
    if deleted then
      { pending with
        endpointResolution := pending.endpointResolution.erase key
        total := pending.total - count }
    else { pending with endpointResolution := pending.endpointResolution.insert key resolution }

/-- `process_timeout`. -/
def processTimeout (pending : AddressResolution) : AddressResolution :=
  pending.endpointResolution.keys.foldl timeoutKey pending

end AddressResolution

/-- What address resolution uses of a domain: its entries, whether it is in
`Address_Resolution_Requests`, and how many of its items the background thread has to work
on. -/
structure ResolvingDomain where
  addressResolution : AddressResolution
  requested : Bool
  work : Nat

/-- The events in a domain. `dpsClient` is what the client table of the domain has for the address
that a lookup came from, and `holds` says whether an endpoint that announces an address has it
in its `vIP_set`. -/
inductive ResolutionEvent where
  | lookupNotFound (dpsClient : Option ClientId) (vnid : Nat) (sourceDvg : DvgId)
      (vIPType : InetType) (vIPValue : IPValue)
  | endpointUpdate (holds : Bool) (vIPValue : IPValue)
  | dpsClientDelete (client : ClientId)
  | vnidDelete (vnid : Nat)
  | sendResolutionWork
  | timeout
  deriving DecidableEq

namespace ResolvingDomain

/-- A new domain. -/
def create : ResolvingDomain :=
  { addressResolution := .create, requested := false, work := 0 }

/-- `Domain.process_lookup_not_found`. -/
def processLookupNotFound (d : ResolvingDomain) (dpsClient : Option ClientId) (vnid : Nat)
    (sourceDvg : DvgId) (vIPType : InetType) (vIPValue : IPValue) : ResolvingDomain :=
  if d.addressResolution.total ≥ AddressResolution.totalMax ∨
      d.addressResolution.endpointResolution.size ≥ AddressResolution.vIPNotFoundMax then d
  else
    match dpsClient with
    | none => d
    | some client =>
      let (addressResolution, fSendAddressResolution) :=
        d.addressResolution.processLookupNotFound client vnid sourceDvg vIPType vIPValue
      { d with addressResolution, work := if fSendAddressResolution then d.work + 1 else d.work }

/-- `send_resolution_work` on one item. The queries leave this state as it is. -/
def sendResolutionWork (d : ResolvingDomain) : ResolvingDomain :=
  if d.work = 0 then d else { d with requested := true, work := d.work - 1 }

/-- `Address_Resolution_Timeout` for one domain. -/
def addressResolutionTimeout (d : ResolvingDomain) : ResolvingDomain :=
  if d.requested then
    { d with
      addressResolution := d.addressResolution.processTimeout
      requested := d.addressResolution.processTimeout.total > 0 }
  else d

/-- One event. -/
def step (d : ResolvingDomain) : ResolutionEvent → ResolvingDomain
  | .lookupNotFound dpsClient vnid sourceDvg vIPType vIPValue =>
    d.processLookupNotFound dpsClient vnid sourceDvg vIPType vIPValue
  | .endpointUpdate holds vIPValue =>
    { d with addressResolution := (d.addressResolution.processEndpointUpdate holds vIPValue).1 }
  | .dpsClientDelete client =>
    { d with addressResolution := d.addressResolution.dpsClientDelete client }
  | .vnidDelete vnid => { d with addressResolution := d.addressResolution.vnidDelete vnid }
  | .sendResolutionWork => d.sendResolutionWork
  | .timeout => d.addressResolutionTimeout

end ResolvingDomain

/-! ## Waiters -/

variable {resolution : AddressResolutionvIP} {key : IPValue} {d : ResolvingDomain} {holds : Bool}
  (pending : AddressResolution)

namespace AddressResolutionvIP

/-- The number of waiters that are stored. -/
def waiting (resolution : AddressResolutionvIP) : Int :=
  Dict.total (fun waiter : Dict Nat DvgId => (waiter.size : Int)) resolution.dpsClients

/-- A client waits for the address on behalf of a VNID. -/
def Waits (resolution : AddressResolutionvIP) (client : ClientId) (vnid : Nat) : Prop :=
  ∃ waiter, resolution.dpsClients.lookup client = some waiter ∧ vnid ∈ waiter

/-- The count of an entry is exact. -/
def Exact (resolution : AddressResolutionvIP) : Prop := resolution.total = resolution.waiting

theorem exact_create (vIPType : InetType) (vIPValue : IPValue) : (create vIPType vIPValue).Exact :=
  rfl

/-- A new waiter is counted, a known one is not. -/
theorem waiting_add (resolution : AddressResolutionvIP) (client : ClientId) (vnid : Nat)
    (dvg : DvgId) : (resolution.add client vnid dvg).1.waiting
      = resolution.waiting + if (resolution.add client vnid dvg).2 then 1 else 0 := by
  have before := Dict.total_eq_add_erase (fun waiter : Dict Nat DvgId => (waiter.size : Int))
    resolution.dpsClients client
  have own : ((resolution.dpsClients.lookup client).map
      fun waiter : Dict Nat DvgId => (waiter.size : Int)).getD 0
        = (((resolution.dpsClients.lookup client).getD ∅ : Dict Nat DvgId).size : Int) := by
    cases resolution.dpsClients.lookup client <;> rfl
  rw [own] at before
  unfold add waiting
  dsimp only
  split
  · simp [Dict.total_insert, before]
  next new =>
    simp only [Dict.total_insert, if_true]
    rw [Dict.size_insert_of_notMem _ _ _ (AList.lookup_eq_none.mpr new)]
    push_cast
    omega

theorem exact_add (exact : resolution.Exact) (client : ClientId) (vnid : Nat) (dvg : DvgId) :
    (resolution.add client vnid dvg).1.Exact := by
  have waiting := resolution.waiting_add client vnid dvg
  unfold Exact at *
  rw [waiting, ← exact]
  unfold add
  dsimp only
  split <;> simp

variable (resolution)

/-- The deleted waiters of a VNID are those that are no longer stored. -/
theorem waiting_vnidDelete (vnid : Nat) :
    (resolution.vnidDelete vnid).1.waiting + (resolution.vnidDelete vnid).2
      = resolution.waiting := by
  have deleted := Dict.length_filter_values (fun waiter : Dict Nat DvgId => vnid ∈ waiter)
    resolution.dpsClients
  have pointwise : ∀ waiter : Dict Nat DvgId, (Dict.size (waiter.erase vnid) : Int)
      + (if decide (vnid ∈ waiter) then 1 else 0) = waiter.size := by
    intro waiter
    cases known : waiter.lookup vnid with
    | none =>
      have absent : vnid ∉ waiter := AList.lookup_eq_none.mp known
      have same : waiter.erase vnid = waiter :=
        AList.ext (List.kerase_of_notMem_keys absent)
      simp [absent, same]
    | some dvg =>
      have present : vnid ∈ waiter := (Dict.mem_iff_lookup _ _).mpr ⟨dvg, known⟩
      have smaller := Dict.size_erase_of_mem waiter vnid dvg known
      simp only [present, decide_true, if_true]
      omega
  simp only [vnidDelete, waiting, Dict.total_mapValues, deleted, Function.comp_def]
  rw [← Dict.total_add]
  exact congrArg (Dict.total · resolution.dpsClients) (funext pointwise)

/-- A change of an entry that drops waiters, takes them off the count and returns how many. -/
structure Drops (change : AddressResolutionvIP → AddressResolutionvIP × Int) : Prop where
  count : ∀ resolution, (change resolution).1.total = resolution.total - (change resolution).2
  waiting : ∀ resolution, (change resolution).1.waiting + (change resolution).2
    = resolution.waiting
  nonneg : ∀ resolution, 0 ≤ (change resolution).2
  retry : ∀ resolution, (change resolution).1.retry = resolution.retry

theorem drops_dpsClientDelete (client : ClientId) : Drops (·.dpsClientDelete client) := by
  constructor <;> intro resolution <;> unfold dpsClientDelete <;>
    cases known : resolution.dpsClients.lookup client with
    | none => simp
    | some waiter => ?_
  case count | retry => rfl
  case nonneg => exact Int.natCast_nonneg _
  case waiting =>
    have removed := Dict.total_erase (fun waiter : Dict Nat DvgId => (waiter.size : Int)) known
    simp only [AddressResolutionvIP.waiting]
    omega

theorem drops_vnidDelete (vnid : Nat) : Drops (·.vnidDelete vnid) :=
  ⟨fun _ => rfl, (·.waiting_vnidDelete vnid), fun _ => Int.natCast_nonneg _, fun _ => rfl⟩

variable {resolution}

theorem waiting_nonneg (resolution : AddressResolutionvIP) : 0 ≤ resolution.waiting :=
  Dict.total_nonneg (fun waiter : Dict Nat DvgId => Int.natCast_nonneg waiter.size) _

/-- An entry with a waiter has a positive count. -/
theorem waiting_pos {client : ClientId} {vnid : Nat} (waits : resolution.Waits client vnid) :
    0 < resolution.waiting := by
  obtain ⟨waiter, known, present⟩ := waits
  obtain ⟨dvg, stored⟩ := (Dict.mem_iff_lookup _ _).mp present
  have smaller := Dict.size_erase_of_mem waiter vnid dvg stored
  have split := Dict.total_erase (fun waiter : Dict Nat DvgId => (waiter.size : Int)) known
  have rest := Dict.total_nonneg (fun waiter : Dict Nat DvgId => Int.natCast_nonneg waiter.size)
    (resolution.dpsClients.erase client)
  unfold waiting
  omega

variable (resolution)

variable (client : ClientId) (vnid : Nat) (dvg : DvgId)

/-- Whoever asks waits. -/
theorem waits_add : (resolution.add client vnid dvg).1.Waits client vnid := by
  unfold add Waits
  dsimp only
  split
  next known => exact ⟨_, AList.lookup_insert _, known⟩
  next => exact ⟨_, AList.lookup_insert _, (AList.mem_insert _).mpr (Or.inl rfl)⟩

theorem retry_add : (resolution.add client vnid dvg).1.retry = resolution.retry := by
  unfold add
  dsimp only
  split <;> rfl

variable {resolution}

/-- Other clients go on waiting. -/
theorem Waits.dpsClientDelete {client other : ClientId} {vnid : Nat}
    (waits : resolution.Waits other vnid) (different : other ≠ client) :
    (resolution.dpsClientDelete client).1.Waits other vnid := by
  unfold AddressResolutionvIP.dpsClientDelete
  cases resolution.dpsClients.lookup client with
  | none => exact waits
  | some waiter =>
    obtain ⟨own, known, present⟩ := waits
    exact ⟨own, by rw [Dict.lookup_erase, if_neg different, known], present⟩

/-- Other VNIDs go on waiting. -/
theorem Waits.vnidDelete {client : ClientId} {vnid other : Nat}
    (waits : resolution.Waits client other) (different : other ≠ vnid) :
    (resolution.vnidDelete vnid).1.Waits client other := by
  obtain ⟨own, known, present⟩ := waits
  refine ⟨own.erase vnid, ?_, AList.mem_erase.mpr ⟨different, present⟩⟩
  simp only [AddressResolutionvIP.vnidDelete, Dict.lookup_mapValues, known, Option.map_some]

end AddressResolutionvIP

namespace AddressResolution

open AddressResolutionvIP

/-- Both counts are exact. -/
structure Counted (pending : AddressResolution) : Prop where
  entries : ∀ key resolution, pending.endpointResolution.lookup key = some resolution →
    resolution.Exact
  total : pending.total
    = Dict.total waiting pending.endpointResolution

theorem counted_create : create.Counted where
  entries key resolution known := by simp [create] at known
  total := rfl

namespace Counted

variable {pending : AddressResolution}

variable (counted : pending.Counted)

include counted

theorem processLookupNotFound (client : ClientId) (vnid : Nat)
    (dvg : DvgId) (vIPType : InetType) (vIPValue : IPValue) :
    (pending.processLookupNotFound client vnid dvg vIPType vIPValue).1.Counted := by
  have exactBefore : ((pending.endpointResolution.lookup vIPValue).getD
      (.create vIPType vIPValue)).Exact := by
    cases known : pending.endpointResolution.lookup vIPValue with
    | none => exact exact_create _ _
    | some resolution => exact counted.entries vIPValue resolution known
  refine ⟨fun key resolution known => ?_, ?_⟩
  · simp only [AddressResolution.processLookupNotFound, Dict.lookup_insert] at known
    split at known
    next =>
      cases known
      exact exact_add exactBefore client vnid dvg
    next => exact counted.entries key resolution known
  · have before := Dict.total_eq_add_erase waiting
      pending.endpointResolution vIPValue
    have own : ((pending.endpointResolution.lookup vIPValue).map
        waiting).getD 0 = ((pending.endpointResolution.lookup vIPValue).getD
          (.create vIPType vIPValue)).waiting := by
      cases pending.endpointResolution.lookup vIPValue <;> rfl
    have total := counted.total
    simp only [AddressResolution.processLookupNotFound, Dict.total_insert,
      waiting_add]
    rw [own] at before
    split <;> omega

/-- A change of every entry that drops waiters. -/
theorem drop {change : AddressResolutionvIP → AddressResolutionvIP × Int}
    (drops : Drops change) :
    Counted { pending with
      endpointResolution := pending.endpointResolution.mapValues fun resolution =>
        (change resolution).1
      total := pending.total - (pending.endpointResolution.values.map fun resolution =>
        (change resolution).2).sum } := by
  refine ⟨fun key resolution known => ?_, ?_⟩
  · rw [Dict.lookup_mapValues] at known
    obtain ⟨before, knownBefore, rfl⟩ := Option.map_eq_some_iff.mp known
    have exact := counted.entries key before knownBefore
    have count := drops.count before
    have waiting := drops.waiting before
    unfold Exact at *
    omega
  · have together := Dict.total_add (fun resolution => (change resolution).1.waiting)
      (fun resolution => (change resolution).2) pending.endpointResolution
    have same : (fun resolution => (change resolution).1.waiting + (change resolution).2)
        = waiting := funext drops.waiting
    rw [same, ← counted.total] at together
    simp only [Dict.total_mapValues, Function.comp_def]
    change _ - Dict.total (fun resolution => (change resolution).2) _ = _
    omega

/-- Taking an entry out with its count. -/
theorem erase
    (known : pending.endpointResolution.lookup key = some resolution) :
    Counted { pending with
      endpointResolution := pending.endpointResolution.erase key
      total := pending.total - resolution.total } := by
  refine ⟨fun other entry knownEntry =>
    counted.entries other entry (Dict.lookup_of_erase knownEntry), ?_⟩
  have removed := Dict.total_erase waiting known
  have total := counted.total
  have exact : resolution.total = resolution.waiting := counted.entries key resolution known
  simp only
  omega

/-- The count of an entry is not negative. -/
theorem entry_nonneg
    (known : pending.endpointResolution.lookup key = some resolution) : 0 ≤ resolution.total := by
  have exact : resolution.total = resolution.waiting := counted.entries key resolution known
  exact exact ▸ resolution.waiting_nonneg

/-- An endpoint that has the address takes its waiters along. -/
theorem processEndpointUpdate {vIPValue : IPValue}
    (held : vIPValue ∈ pending.endpointResolution → holds = true) :
    (pending.processEndpointUpdate holds vIPValue).1.Counted := by
  unfold AddressResolution.processEndpointUpdate
  cases known : pending.endpointResolution.lookup vIPValue with
  | none => exact counted
  | some resolution =>
    have present := held ((Dict.mem_iff_lookup _ _).mpr ⟨resolution, known⟩)
    simp only [present, if_true]
    exact counted.erase known

theorem timeoutKey (key : IPValue) :
    (AddressResolution.timeoutKey pending key).Counted ∧
      (AddressResolution.timeoutKey pending key).total ≤ pending.total := by
  unfold AddressResolution.timeoutKey
  cases known : pending.endpointResolution.lookup key with
  | none => exact ⟨counted, le_refl _⟩
  | some resolution =>
    by_cases last : resolution.retry ≤ 0
    · have nonneg := counted.entry_nonneg known
      simp only [AddressResolutionvIP.timeout, last, if_true, AddressResolutionvIP.delete]
      exact ⟨counted.erase known, by omega⟩
    · simp only [AddressResolutionvIP.timeout, last, if_false, Bool.false_eq_true]
      refine ⟨⟨fun other entry knownEntry => ?_, ?_⟩, le_refl _⟩
      · rw [Dict.lookup_insert] at knownEntry
        split at knownEntry
        next =>
          cases knownEntry
          exact counted.entries key resolution known
        next => exact counted.entries other entry knownEntry
      · rw [Dict.total_insert]
        exact counted.total.trans (Dict.total_erase AddressResolutionvIP.waiting known).symm

theorem processTimeout :
    pending.processTimeout.Counted ∧ pending.processTimeout.total ≤ pending.total :=
  List.foldlRecOn (motive := fun after : AddressResolution =>
      after.Counted ∧ after.total ≤ pending.total) _ AddressResolution.timeoutKey
    ⟨counted, le_refl _⟩ fun _ kept key _ =>
      ⟨(kept.1.timeoutKey key).1, (kept.1.timeoutKey key).2.trans kept.2⟩

end Counted

/-- What a timer pass leaves of an entry. -/
def afterTimeout (resolution : AddressResolutionvIP) : Option AddressResolutionvIP :=
  if resolution.retry ≤ 0 then none else some { resolution with retry := resolution.retry - 1 }

theorem lookup_timeoutKey (key other : IPValue) :
    (timeoutKey pending key).endpointResolution.lookup other =
      if other = key then (pending.endpointResolution.lookup other).bind afterTimeout
      else pending.endpointResolution.lookup other := by
  unfold timeoutKey afterTimeout timeout
  by_cases same : other = key
  · subst same
    cases known : pending.endpointResolution.lookup other with
    | none => simp [known]
    | some resolution => by_cases last : resolution.retry ≤ 0 <;> simp [last]
  · cases pending.endpointResolution.lookup key with
    | none => simp [same]
    | some resolution => by_cases last : resolution.retry ≤ 0 <;> simp [last, same]

theorem lookup_processTimeout (key : IPValue) :
    pending.processTimeout.endpointResolution.lookup key
      = (pending.endpointResolution.lookup key).bind afterTimeout :=
  Dict.lookup_foldl_keys endpointResolution lookup_timeoutKey pending key

end AddressResolution

/-! ## Runs -/

namespace ResolvingDomain

open AddressResolution

/-- The condition under which entries are counted and finish: an endpoint that announces an
address has it, and no deletion takes the last waiter of an entry. -/
def KeepsWaiters (d : ResolvingDomain) : ResolutionEvent → Prop
  | .endpointUpdate holds vIPValue =>
    vIPValue ∈ d.addressResolution.endpointResolution → holds = true
  | .dpsClientDelete client =>
    ∀ key resolution, d.addressResolution.endpointResolution.lookup key = some resolution →
      (∃ vnid, resolution.Waits client vnid) → ∃ other vnid, other ≠ client ∧
        resolution.Waits other vnid
  | .vnidDelete vnid =>
    ∀ key resolution, d.addressResolution.endpointResolution.lookup key = some resolution →
      (∃ client, resolution.Waits client vnid) → ∃ client other, other ≠ vnid ∧
        resolution.Waits client other
  | .lookupNotFound .. | .sendResolutionWork | .timeout => True

/-- The count of the domain is the number of waiters in its entries and within its maximum. -/
def CountedWithin (d : ResolvingDomain) : Prop :=
  d.addressResolution.total
      = Dict.total AddressResolutionvIP.waiting d.addressResolution.endpointResolution ∧
    d.addressResolution.total ≤ totalMax

/-- Once the background thread has no work left, every entry is gone at some time in a run with
so many timer passes. -/
def FinishesWithin (meets : ResolvingDomain → ResolutionEvent → Prop) (passes : Nat)
    (d : ResolvingDomain) : Prop :=
  ∀ later, Admissible step meets d later → d.work = 0 → passes ≤ later.count .timeout →
    ∀ vIPValue, ∃ first, first <+: later ∧
      vIPValue ∉ (run step d first).addressResolution.endpointResolution

/-- What the condition keeps. -/
structure Sound (d : ResolvingDomain) : Prop where
  counted : d.addressResolution.Counted
  bounded : d.addressResolution.total ≤ totalMax
  entries : ∀ key resolution,
    d.addressResolution.endpointResolution.lookup key = some resolution →
      (∃ client vnid, resolution.Waits client vnid) ∧ resolution.retry ≤ 2 ∧
        (d.requested = true ∨ 0 < d.work)

theorem sound_create : create.Sound where
  counted := counted_create
  bounded := by decide
  entries key resolution known := by simp [create, AddressResolution.create] at known

namespace Sound

variable {d : ResolvingDomain}

variable (sound : d.Sound)

include sound

/-- While there is an entry the count of the domain is positive. -/
theorem total_pos
    (known : d.addressResolution.endpointResolution.lookup key = some resolution) :
    0 < d.addressResolution.total := by
  obtain ⟨⟨client, vnid, waits⟩, -⟩ := sound.entries key resolution known
  have positive := AddressResolutionvIP.waiting_pos waits
  have split := Dict.total_erase AddressResolutionvIP.waiting known
  have rest := Dict.total_nonneg AddressResolutionvIP.waiting_nonneg
    (d.addressResolution.endpointResolution.erase key)
  have total := sound.counted.total
  omega

/-- Entries may go and lose waiters as long as each that stays has one. -/
theorem shrink {pending : AddressResolution} (counted : pending.Counted)
    (fewer : pending.total ≤ d.addressResolution.total)
    (kept : ∀ key resolution, pending.endpointResolution.lookup key = some resolution →
      ∃ before, d.addressResolution.endpointResolution.lookup key = some before ∧
        resolution.retry ≤ before.retry ∧ ∃ client vnid, resolution.Waits client vnid) :
    Sound { d with addressResolution := pending } where
  counted := counted
  bounded := fewer.trans sound.bounded
  entries key resolution known := by
    obtain ⟨before, knownBefore, younger, waits⟩ := kept key resolution known
    obtain ⟨-, young, driven⟩ := sound.entries key before knownBefore
    exact ⟨waits, younger.trans young, driven⟩

theorem endpointUpdate {vIPValue : IPValue}
    (held : vIPValue ∈ d.addressResolution.endpointResolution → holds = true) :
    (d.step (.endpointUpdate holds vIPValue)).Sound := by
  refine sound.shrink (sound.counted.processEndpointUpdate held) ?_ ?_
  · unfold processEndpointUpdate
    cases known : d.addressResolution.endpointResolution.lookup vIPValue with
    | none => exact le_refl _
    | some resolution =>
      have nonneg := sound.counted.entry_nonneg known
      cases holds
      · exact le_refl _
      · simp only [if_true]
        omega
  · intro key resolution known
    have knownBefore : d.addressResolution.endpointResolution.lookup key = some resolution := by
      unfold processEndpointUpdate at known
      cases present : d.addressResolution.endpointResolution.lookup vIPValue with
      | none => simpa [present] using known
      | some entry =>
        rw [present] at known
        cases holds <;> exact Dict.lookup_of_erase known
    exact ⟨resolution, knownBefore, le_refl _, (sound.entries key resolution knownBefore).1⟩

/-- Waiters are dropped from every entry, and each entry keeps one. -/
theorem drop {change : AddressResolutionvIP → AddressResolutionvIP × Int}
    (drops : AddressResolutionvIP.Drops change)
    (kept : ∀ key before, d.addressResolution.endpointResolution.lookup key = some before →
      (∃ client vnid, before.Waits client vnid) →
        ∃ client vnid, (change before).1.Waits client vnid) :
    Sound { d with addressResolution := { d.addressResolution with
      endpointResolution := d.addressResolution.endpointResolution.mapValues fun resolution =>
        (change resolution).1
      total := d.addressResolution.total - (d.addressResolution.endpointResolution.values.map
        fun resolution => (change resolution).2).sum } } := by
  refine sound.shrink (sound.counted.drop drops) ?_ fun key resolution known => ?_
  · exact Int.sub_le_self _ (Dict.total_nonneg drops.nonneg _)
  · rw [Dict.lookup_mapValues] at known
    obtain ⟨before, knownBefore, rfl⟩ := Option.map_eq_some_iff.mp known
    exact ⟨before, knownBefore, (drops.retry before).le,
      kept key before knownBefore (sound.entries key before knownBefore).1⟩

theorem dpsClientDelete {client : ClientId}
    (keeps : d.KeepsWaiters (.dpsClientDelete client)) :
    (d.step (.dpsClientDelete client)).Sound := by
  refine sound.drop (AddressResolutionvIP.drops_dpsClientDelete client) ?_
  rintro key before known ⟨first, vnid, waits⟩
  by_cases same : first = client
  · obtain ⟨other, vnid, different, waits⟩ := keeps key before known ⟨vnid, same ▸ waits⟩
    exact ⟨other, vnid, waits.dpsClientDelete different⟩
  · exact ⟨first, vnid, waits.dpsClientDelete same⟩

theorem vnidDelete {vnid : Nat} (keeps : d.KeepsWaiters (.vnidDelete vnid)) :
    (d.step (.vnidDelete vnid)).Sound := by
  refine sound.drop (AddressResolutionvIP.drops_vnidDelete vnid) ?_
  rintro key before known ⟨client, first, waits⟩
  by_cases same : first = vnid
  · obtain ⟨client, other, different, waits⟩ := keeps key before known ⟨client, same ▸ waits⟩
    exact ⟨client, other, waits.vnidDelete different⟩
  · exact ⟨client, first, waits.vnidDelete same⟩

theorem lookupNotFound (dpsClient : Option ClientId) (vnid : Nat)
    (sourceDvg : DvgId) (vIPType : InetType) (vIPValue : IPValue) :
    (d.processLookupNotFound dpsClient vnid sourceDvg vIPType vIPValue).Sound := by
  unfold processLookupNotFound
  split
  · exact sound
  next room =>
    cases dpsClient with
    | none => exact sound
    | some client =>
      have few : d.addressResolution.total < AddressResolution.totalMax :=
        lt_of_not_ge fun full => room (Or.inl full)
      refine ⟨sound.counted.processLookupNotFound client vnid sourceDvg vIPType vIPValue, ?_, ?_⟩
      · simp only [AddressResolution.processLookupNotFound]
        split <;> omega
      · intro key resolution known
        have driven : d.requested = true ∨ 0 < if (d.addressResolution.processLookupNotFound client
            vnid sourceDvg vIPType vIPValue).2 = true then d.work + 1 else d.work := by
          split
          next => exact Or.inr (Nat.succ_pos _)
          next old =>
            obtain ⟨entry, present⟩ := Option.ne_none_iff_exists'.mp
              fun absent => old (Option.isNone_iff_eq_none.mpr absent)
            exact (sound.entries vIPValue entry present).2.2
        simp only [AddressResolution.processLookupNotFound, Dict.lookup_insert] at known
        split at known
        next =>
          cases known
          refine ⟨⟨client, vnid, AddressResolutionvIP.waits_add _ _ _ _⟩, ?_, driven⟩
          rw [AddressResolutionvIP.retry_add]
          cases present : d.addressResolution.endpointResolution.lookup vIPValue with
          | none => exact le_refl _
          | some entry => exact (sound.entries vIPValue entry present).2.1
        next =>
          obtain ⟨waits, young, -⟩ := sound.entries key resolution known
          exact ⟨waits, young, driven⟩

theorem timeout : d.addressResolutionTimeout.Sound := by
  unfold addressResolutionTimeout
  split
  swap
  · exact sound
  obtain ⟨counted, fewer⟩ := sound.counted.processTimeout
  have kept : ∀ key resolution,
      d.addressResolution.processTimeout.endpointResolution.lookup key = some resolution →
        ∃ before, d.addressResolution.endpointResolution.lookup key = some before ∧
          resolution.retry ≤ before.retry ∧ ∃ client vnid, resolution.Waits client vnid := by
    intro key resolution known
    rw [lookup_processTimeout] at known
    obtain ⟨before, knownBefore, left⟩ := Option.bind_eq_some_iff.mp known
    unfold afterTimeout at left
    split at left <;> cases left
    exact ⟨before, knownBefore, by simp only; omega, (sound.entries key before knownBefore).1⟩
  have shrunk := sound.shrink counted fewer kept
  refine ⟨shrunk.counted, shrunk.bounded, fun key resolution known => ?_⟩
  obtain ⟨waits, young, -⟩ := shrunk.entries key resolution known
  exact ⟨waits, young, Or.inl (decide_eq_true (shrunk.total_pos known))⟩

theorem sendResolutionWork : d.sendResolutionWork.Sound := by
  unfold ResolvingDomain.sendResolutionWork
  split
  · exact sound
  · refine ⟨sound.counted, sound.bounded, fun key resolution known => ?_⟩
    obtain ⟨waits, young, -⟩ := sound.entries key resolution known
    exact ⟨waits, young, Or.inl rfl⟩

omit sound in
protected theorem step (sound : d.Sound) (event : ResolutionEvent) (keeps : d.KeepsWaiters event) :
    (d.step event).Sound := by
  cases event with
  | lookupNotFound dpsClient vnid sourceDvg vIPType vIPValue =>
    exact sound.lookupNotFound dpsClient vnid sourceDvg vIPType vIPValue
  | endpointUpdate holds vIPValue => exact sound.endpointUpdate keeps
  | dpsClientDelete client => exact sound.dpsClientDelete keeps
  | vnidDelete vnid => exact sound.vnidDelete keeps
  | sendResolutionWork => exact sound.sendResolutionWork
  | timeout => exact sound.timeout

/-- A domain that is in the table of the timer stays there while it has an entry. -/
theorem requested_step (requested : d.requested = true)
    {event : ResolutionEvent} (keeps : d.KeepsWaiters event)
    (present : key ∈ (d.step event).addressResolution.endpointResolution) :
    (d.step event).requested = true := by
  obtain ⟨resolution, known⟩ := (Dict.mem_iff_lookup _ _).mp present
  have positive := (sound.step event keeps).total_pos known
  cases event with
  | lookupNotFound dpsClient vnid sourceDvg vIPType vIPValue =>
    simp only [ResolvingDomain.step, processLookupNotFound]
    split
    · exact requested
    · cases dpsClient <;> exact requested
  | endpointUpdate | dpsClientDelete | vnidDelete => exact requested
  | sendResolutionWork =>
    simp only [ResolvingDomain.step, ResolvingDomain.sendResolutionWork]
    split
    · exact requested
    · rfl
  | timeout =>
    simp only [ResolvingDomain.step, addressResolutionTimeout, requested, if_true] at positive ⊢
    exact decide_eq_true positive

end Sound

/-- The entry of an address does not age outside of a timer pass. -/
theorem retry_kept {event : ResolutionEvent} (other : event ≠ .timeout)
    {before after : AddressResolutionvIP}
    (known : d.addressResolution.endpointResolution.lookup key = some before)
    (stays : (d.step event).addressResolution.endpointResolution.lookup key = some after) :
    after.retry = before.retry := by
  -- Most events leave the entry as it was.
  have same : d.addressResolution.endpointResolution.lookup key = some after →
      after.retry = before.retry := by
    intro still
    rw [Option.some.inj (still.symm.trans known)]
  cases event with
  | lookupNotFound dpsClient vnid sourceDvg vIPType vIPValue =>
    simp only [step, processLookupNotFound] at stays
    split at stays
    · exact same stays
    · cases dpsClient with
      | none => exact same stays
      | some client =>
        simp only [AddressResolution.processLookupNotFound, Dict.lookup_insert] at stays
        split at stays
        next isKey =>
          subst isKey
          cases stays
          rw [AddressResolutionvIP.retry_add, known]
          rfl
        next => exact same stays
  | endpointUpdate holds vIPValue =>
    simp only [step, AddressResolution.processEndpointUpdate] at stays
    cases present : d.addressResolution.endpointResolution.lookup vIPValue with
    | none =>
      rw [present] at stays
      exact same stays
    | some entry =>
      rw [present] at stays
      cases holds <;> exact same (Dict.lookup_of_erase stays)
  | dpsClientDelete client =>
    simp only [step, AddressResolution.dpsClientDelete, Dict.lookup_mapValues, known,
      Option.map_some, Option.some.injEq] at stays
    rw [← stays]
    exact (AddressResolutionvIP.drops_dpsClientDelete client).retry before
  | vnidDelete vnid =>
    simp only [step, AddressResolution.vnidDelete, Dict.lookup_mapValues, known,
      Option.map_some, Option.some.injEq] at stays
    rw [← stays]
    rfl
  | sendResolutionWork =>
    simp only [step, sendResolutionWork] at stays
    split at stays <;> exact same stays
  | timeout => exact absurd rfl other

/-- The entry of an address ages by one in a timer pass and not otherwise. -/
theorem retry_step (requested : d.requested = true) (event : ResolutionEvent)
    {before after : AddressResolutionvIP}
    (known : d.addressResolution.endpointResolution.lookup key = some before)
    (stays : (d.step event).addressResolution.endpointResolution.lookup key = some after) :
    after.retry.toNat + [event].count .timeout = before.retry.toNat := by
  by_cases pass : event = .timeout
  · subst pass
    simp only [step, addressResolutionTimeout, requested, if_true,
      lookup_processTimeout, known, Option.bind_some,
      afterTimeout] at stays
    split at stays <;> cases stays
    simp only [List.count_singleton, beq_self_eq_true, if_true]
    omega
  · rw [retry_kept pass known stays, List.count_singleton, if_neg (by simpa using pass), Nat.add_zero]

/-- An entry that stays through a run has seen at most as many passes as it had left. -/
theorem passes_le_retry (sound : d.Sound) (requested : d.requested = true)
    (known : d.addressResolution.endpointResolution.lookup key = some resolution)
    {later : List ResolutionEvent} (admissible : Admissible step KeepsWaiters d later)
    (stays : ∀ first, first <+: later →
      key ∈ (run step d first).addressResolution.endpointResolution) :
    later.count .timeout ≤ resolution.retry.toNat := by
  induction later generalizing d resolution with
  | nil => exact Nat.zero_le _
  | cons event later ih =>
    obtain ⟨keeps, admissible⟩ := admissible
    have present := stays [event] (List.prefix_append [event] later)
    obtain ⟨after, knownAfter⟩ := (Dict.mem_iff_lookup _ _).mp present
    have aged := retry_step requested event known knownAfter
    have rest := ih (sound.step event keeps)
      (sound.requested_step requested keeps present) knownAfter admissible
      fun first isPrefix => stays (event :: first) (List.prefix_cons_inj event |>.mpr isPrefix)
    have counted : (event :: later).count .timeout
        = [event].count .timeout + later.count .timeout := by
      rw [← List.singleton_append, List.count_append]
    omega

/-- In every run in which endpoints have what they announce and no deletion takes the last waiter
of an entry, the waiters are counted exactly, stay within the maximum, and every entry is
gone within three timer passes. -/
theorem resolutions_counted_and_finish (events : List ResolutionEvent)
    (admissible : Admissible step KeepsWaiters create events) :
    (run step create events).CountedWithin ∧
      (run step create events).FinishesWithin KeepsWaiters 3 := by
  have sound : (run step create events).Sound :=
    run_invariant Sound (fun _ event sound keeps => sound.step event keeps) sound_create admissible
  refine ⟨⟨sound.counted.total, sound.bounded⟩, ?_⟩
  intro later admissible idle passes vIPValue
  by_contra! stays
  obtain ⟨resolution, known⟩ := (Dict.mem_iff_lookup _ _).mp (stays [] (List.nil_prefix))
  have requested : (run step create events).requested = true := by
    rcases (sound.entries vIPValue resolution known).2.2 with requested | working
    · exact requested
    · omega
  have few := passes_le_retry sound requested known admissible stays
  have young := (sound.entries vIPValue resolution known).2.1
  omega

/-- Two clients wait for an address, one of them is deleted, and after three passes the entry has
been removed. -/
theorem resolutions_counted_and_finish_two_clients :
    ∃ first, first <+: [.timeout, .timeout, .timeout] ∧
      .v4 5 ∉ (run step (run step create
        [.lookupNotFound (some 0) 7 0 .inet (.v4 5), .sendResolutionWork,
          .lookupNotFound (some 1) 7 0 .inet (.v4 5), .dpsClientDelete 0]) first
        ).addressResolution.endpointResolution := by
  have finishes := (resolutions_counted_and_finish
    [.lookupNotFound (some 0) 7 0 .inet (.v4 5), .sendResolutionWork,
      .lookupNotFound (some 1) 7 0 .inet (.v4 5), .dpsClientDelete 0]
    ⟨trivial, trivial, trivial, fun key resolution known _ => by
      have listed := (Dict.mem_values _ _).mpr ⟨key, known⟩
      cases List.mem_singleton.mp listed
      exact ⟨1, 7, by decide, _, rfl, by decide⟩, trivial⟩).2
  exact finishes [.timeout, .timeout, .timeout] ⟨trivial, trivial, trivial, trivial⟩ rfl
    (by decide) (.v4 5)

/-- A timer pass does nothing to a domain that is not in its table. -/
theorem run_timeout_of_not_requested (idle : d.requested = false) (passes : Nat) :
    run step d (List.replicate passes .timeout) = d := by
  induction passes with
  | zero => rfl
  | succ passes ih =>
    have same : d.step .timeout = d := by simp [step, addressResolutionTimeout, idle]
    rw [List.replicate_succ, run, List.foldl_cons, same]
    exact ih

/-- After the only waiter was deleted with its client the entry stays through any number of
passes. -/
theorem resolutions_stay_without_waiters : ¬ ∃ passes, ∀ events,
    (run step create events).CountedWithin ∧
      (run step create events).FinishesWithin (fun _ _ => True) passes := by
  rintro ⟨passes, finishes⟩
  obtain ⟨first, isPrefix, gone⟩ := (finishes [.lookupNotFound (some 0) 7 0 .inet (.v4 5),
    .sendResolutionWork, .dpsClientDelete 0]).2 (List.replicate passes .timeout)
    (.of_forall (fun _ _ => trivial) _ _) rfl (by simp) (.v4 5)
  obtain ⟨-, passesOnly⟩ := List.prefix_replicate_iff.mp isPrefix
  rw [passesOnly] at gone
  refine gone ?_
  cases first.length with
  | zero => decide
  | succ passes =>
    rw [List.replicate_succ, run, List.foldl_cons]
    change _ ∈ (run step _ _).addressResolution.endpointResolution
    rw [run_timeout_of_not_requested (by decide)]
    decide

end ResolvingDomain

end OpenDove
