import OpenDove.Scanning

/-!
# Extents: how far scanners move

An extent says where a scanner may stand at the end, given the memory and the position
it starts from. Of the value the scanner returns it keeps a mark, as much as decides how
far the scanners after it move. Extents are relations on memory and say nothing about
fuel or about the scanner.

`Spans` connects the two, in both directions: a scanner that returns, with every pass of
a loop moving at least one word, has come to where its extent says; and wherever the
extent says, the scanner comes to. It has one rule for each way scanners are put
together. The extent of a loop is a `Walk`, one pass after another.
-/

namespace OpenDove

/-- The same end of a pass with a part of the state. -/
def Pass.map {σ τ : Type} (mark : σ → τ) : Pass σ → Pass τ
  | .on state => .on (mark state)
  | .leave state => .leave (mark state)

/-- From a position of memory, the marks and positions that can be come to. -/
def Extent (κ : Type) := Memory → Nat → κ → Nat → Prop

namespace Extent

variable {κ : Type}

/-- A fixed number of bytes. -/
def fixed (size : Nat) : Extent Unit := fun _ start _ stop => stop = start + size

/-- A number of bytes that the bytes themselves decide. -/
def sized (size : Memory → Nat → Nat) : Extent Unit := fun memory start _ stop =>
  stop = start + size memory start

/-- The second extent starts where the first has ended. -/
def andThen (first second : Extent Unit) : Extent Unit := fun memory start mark stop =>
  ∃ middle, first memory start () middle ∧ second memory middle mark stop

/-- The same extent with a mark of its own. -/
def marked (extent : Extent Unit) (mark : κ) : Extent κ := fun memory start found stop =>
  found = mark ∧ extent memory start () stop

/-- The marks do not matter. -/
def anyhow (extent : Extent κ) : Extent Unit := fun memory start _ stop =>
  ∃ mark, extent memory start mark stop

/-- What is seen of the mark a loop ends with, however it ended. -/
def ending {ι : Type} (extent : Extent (Pass κ)) (view : κ → ι) : Extent ι :=
  fun memory start mark stop => ∃ ended, extent memory start ended stop ∧ view ended.state = mark

/-- The pass goes over the extent, and the loop goes on. -/
def on (extent : Extent κ) : Extent (Pass κ) := fun memory start ended stop =>
  ∃ mark, ended = .on mark ∧ extent memory start mark stop

/-- The pass does not move, and the loop goes on. -/
def stay (mark : κ) : Extent (Pass κ) := fun _ start ended stop => ended = .on mark ∧ stop = start

/-- The loop is left where it stands. -/
def leave (mark : κ) : Extent (Pass κ) := fun _ start ended stop =>
  ended = .leave mark ∧ stop = start

/-- One pass after another, each over at least four bytes. -/
inductive Walk (goOn : κ → Nat → Bool) (step : κ → Extent (Pass κ)) (memory : Memory) :
    κ → Nat → Pass κ → Nat → Prop where
  | done {mark : κ} {start : Nat} (finished : goOn mark start = false) :
      Walk goOn step memory mark start (.on mark) start
  | leave {mark next : κ} {start stop : Nat} (going : goOn mark start = true)
      (left : step mark memory start (.leave next) stop) :
      Walk goOn step memory mark start (.leave next) stop
  | pass {mark next : κ} {start middle stop : Nat} {ended : Pass κ} (going : goOn mark start = true)
      (passed : step mark memory start (.on next) middle) (moved : start + 4 ≤ middle)
      (rest : Walk goOn step memory next middle ended stop) :
      Walk goOn step memory mark start ended stop

/-- One pass after another up to a position. -/
def upTo (finish : Nat) (step : κ → Extent (Pass κ)) (mark : κ) : Extent (Pass κ) :=
  fun memory start ended stop =>
    Walk (fun _ position => position < finish) step memory mark start ended stop

/-- Passes that do not move when they leave do so before the end. -/
theorem upTo_left {finish : Nat} {step : κ → Extent (Pass κ)} {memory : Memory} {mark left : κ}
    {start stop : Nat} (still : ∀ mark start next stop,
      step mark memory start (.leave next) stop → stop = start)
    (walk : upTo finish step mark memory start (.leave left) stop) : stop < finish := by
  unfold upTo at walk
  generalize ends : Pass.leave left = ended at walk
  induction walk with
  | done => cases ends
  | leave going stopped =>
    rw [still _ _ _ _ stopped]
    simpa using going
  | pass _ _ _ _ induction => exact induction ends

end Extent

namespace Scanner

variable {α β σ κ ι : Type} {scanner : Scanner α} {mark : α → κ} {extent : Extent κ}

/-- The scanner moves as far as the extent says. -/
structure Spans (scanner : Scanner α) (mark : α → κ) (extent : Extent κ) : Prop where
  /-- Where the scanner returns, it has come to the end of the extent. -/
  sound : ∀ {fuel : Nat} {memory : Memory} {start : Nat} {passes : List Nat} {value : α}
    {cursor : Cursor}, scanner fuel memory ⟨start, passes⟩ = some (value, cursor) →
      ∃ more, cursor.passes = passes ++ more ∧
        ((∀ moved ∈ more, 4 ≤ moved) → extent memory start (mark value) cursor.position)
  /-- Over every extent there is a run of the scanner. -/
  complete : ∀ {memory : Memory} {start : Nat} {marked : κ} {stop : Nat},
    extent memory start marked stop → ∃ value, mark value = marked ∧
      Runs memory scanner start value stop

/-- The scanner moves as far as the extent says, whatever it reads there. -/
abbrev Covers (scanner : Scanner α) (extent : Extent Unit) : Prop :=
  Spans scanner (fun _ => ()) extent

/-- A pass of a loop moves as far as the extent says, whatever it leaves in the state. -/
abbrev Passes (pass : Scanner (Pass α)) (extent : Extent (Pass Unit)) : Prop :=
  Spans pass (Pass.map fun _ => ()) extent

/-- An extent may be described in another way. -/
theorem Spans.cast {other : Extent κ} (spans : Spans scanner mark extent)
    (same : ∀ memory start marked stop,
      extent memory start marked stop ↔ other memory start marked stop) :
    Spans scanner mark other where
  sound ran := by
    obtain ⟨more, later, within⟩ := spans.sound ran
    exact ⟨more, later, fun moved => (same _ _ _ _).mp (within moved)⟩
  complete reached := spans.complete ((same _ _ _ _).mpr reached)

theorem Spans.pure (mark : α → κ) (value : α) :
    Spans (pure value : Scanner α) mark fun _ start marked stop =>
      marked = mark value ∧ stop = start where
  sound ran := by
    simp only [Pure.pure, Option.some.injEq, Prod.mk.injEq] at ran
    obtain ⟨rfl, rfl⟩ := ran
    exact ⟨[], by simp, fun _ => ⟨rfl, rfl⟩⟩
  complete reached := by
    obtain ⟨rfl, rfl⟩ := reached
    exact ⟨value, rfl, Runs.pure _⟩

variable {next : α → Scanner β} {mark' : σ → κ} {store : α → σ}

/-- What is done next may depend on the value read, through its mark. -/
theorem Spans.bind {mark' : β → ι} (extent' : κ → Extent ι) (first : Spans scanner mark extent)
    (rest : ∀ value, Spans (next value) mark' (extent' (mark value))) :
    Spans (scanner >>= next) mark' fun memory start marked stop =>
      ∃ between middle, extent memory start between middle ∧
        extent' between memory middle marked stop where
  sound {fuel memory start passes value cursor} ran := by
    simp only [Bind.bind] at ran
    split at ran
    · simp at ran
    · next read moved firstRan =>
      obtain ⟨earlier, before, firstWithin⟩ := first.sound firstRan
      have onward : next read fuel memory ⟨moved.position, moved.passes⟩ = some (value, cursor) :=
        ran
      obtain ⟨later, after, restWithin⟩ := (rest read).sound onward
      refine ⟨earlier ++ later, by rw [after, before, List.append_assoc], fun all => ?_⟩
      exact ⟨_, _, firstWithin fun moved member => all moved (List.mem_append_left _ member),
        restWithin fun moved member => all moved (List.mem_append_right _ member)⟩
  complete := by
    rintro memory start marked stop ⟨between, middle, reached, onward⟩
    obtain ⟨read, rfl, firstRuns⟩ := first.complete reached
    obtain ⟨value, marks, restRuns⟩ := (rest read).complete onward
    exact ⟨value, marks, Runs.bind firstRuns restRuns⟩

/-- A value read at the cursor decides what is done there. -/
theorem Spans.look {read : Memory → Nat → α} {next : α → Scanner β} {mark : β → κ}
    {extent : α → Extent κ} (rest : ∀ value, Spans (next value) mark (extent value)) :
    Spans (look read >>= next) mark fun memory start =>
      extent (read memory start) memory start where
  sound ran := (rest _).sound ran
  complete reached := by
    obtain ⟨value, marks, runs⟩ := (rest _).complete reached
    exact ⟨value, marks, Runs.bind (Runs.look _) runs⟩

theorem Spans.here {next : Nat → Scanner β} {mark : β → κ} {extent : Nat → Extent κ}
    (rest : ∀ position, Spans (next position) mark (extent position)) :
    Spans (here >>= next) mark fun memory start => extent start memory start where
  sound ran := (rest _).sound ran
  complete reached := by
    obtain ⟨value, marks, runs⟩ := (rest _).complete reached
    exact ⟨value, marks, Runs.bind Runs.here runs⟩

/-- A value read at the cursor decides what is done behind it. -/
theorem Spans.take {size : Nat} {read : Memory → Nat → α} {next : α → Scanner β} {mark : β → κ}
    (extent : α → Extent κ) (rest : ∀ value, Spans (next value) mark (extent value)) :
    Spans (take size read >>= next) mark fun memory start =>
      extent (read memory start) memory (start + size) where
  sound ran := (rest _).sound ran
  complete reached := by
    obtain ⟨value, marks, runs⟩ := (rest _).complete reached
    exact ⟨value, marks, Runs.bind (Runs.take _ _) runs⟩

/-- A scanner that passes a check. -/
theorem Spans.check {condition : Prop} [Decidable condition] {next : Unit → Scanner β}
    {mark : β → κ} {extent : Extent κ} (rest : Spans (next ()) mark extent) :
    Spans (check condition >>= next) mark fun memory start marked stop =>
      condition ∧ extent memory start marked stop where
  sound {fuel memory start passes value cursor} ran := by
    by_cases met : condition
    · simp only [Bind.bind, Scanner.check, if_pos met] at ran
      obtain ⟨more, later, within⟩ := rest.sound ran
      exact ⟨more, later, fun all => ⟨met, within all⟩⟩
    · simp [Bind.bind, Scanner.check, met] at ran
  complete reached := by
    obtain ⟨value, marks, runs⟩ := rest.complete reached.2
    exact ⟨value, marks, Runs.bind (Runs.check reached.1) runs⟩

/-- A value of fixed size. -/
theorem Spans.taken (size : Nat) (read : Memory → Nat → α) :
    Covers (Scanner.take size read) (.fixed size) where
  sound ran := by
    simp only [Scanner.take, Option.some.injEq, Prod.mk.injEq] at ran
    obtain ⟨rfl, rfl⟩ := ran
    exact ⟨[], by simp, fun _ => rfl⟩
  complete reached := by
    obtain rfl := reached
    exact ⟨_, rfl, Runs.take _ _⟩

/-- The mark may be left out. -/
theorem Spans.forget (spans : Spans scanner mark extent) :
    Covers scanner extent.anyhow where
  sound ran := by
    obtain ⟨more, later, within⟩ := spans.sound ran
    exact ⟨more, later, fun all => ⟨_, within all⟩⟩
  complete reached := by
    obtain ⟨marked, reached⟩ := reached
    obtain ⟨value, -, runs⟩ := spans.complete reached
    exact ⟨value, rfl, runs⟩

/-- Two values of no consequence, one behind the other. -/
theorem Spans.andThen {first second : Extent Unit} (head : Covers scanner first)
    (tail : ∀ value, Covers (next value) second) :
    Covers (scanner >>= next) (first.andThen second) :=
  (Spans.bind (fun _ => second) head tail).cast fun _ _ _ _ =>
    ⟨fun ⟨_, middle, reached, onward⟩ => ⟨middle, reached, onward⟩,
      fun ⟨middle, reached, onward⟩ => ⟨(), middle, reached, onward⟩⟩

theorem Spans.still (value : α) : Covers (Pure.pure value) (.fixed 0) :=
  (Spans.pure _ value).cast fun _ _ _ _ => by simp [Extent.fixed]

/-- What is put together from a value does not move the cursor. -/
theorem Spans.finish {result : α → β} (first : Spans scanner mark extent) :
    Covers (scanner >>= fun value => Pure.pure (result value)) extent.anyhow :=
  (first.forget.andThen fun _ => Spans.still _).cast fun _ _ _ _ => by
    simp [Extent.andThen, Extent.fixed]

/-- Of the state a loop has come to a part is kept, and of its mark another. -/
theorem Spans.state {list : Scanner (Pass σ)} {mark : σ → κ} {extent : Extent (Pass κ)}
    (spans : Spans list (Pass.map mark) extent) (view : κ → ι) (read : σ → α)
    (mark' : α → ι) (agree : ∀ state, mark' (read state) = view (mark state)) :
    Spans (list >>= fun ended => Pure.pure (read ended.state)) mark' (extent.ending view) := by
  have kept : ∀ ended : Pass σ, Spans (Pure.pure (read ended.state) : Scanner α) mark'
      (fun _ start marked stop => marked = view (ended.map mark).state ∧ stop = start) := by
    intro ended
    have same : mark' (read ended.state) = view (ended.map mark).state := by
      cases ended <;> exact agree _
    rw [← same]
    exact Spans.pure _ _
  refine (Spans.bind (fun ended _ start marked stop => marked = view ended.state ∧ stop = start)
    spans kept).cast fun memory start marked stop => ?_
  constructor
  · rintro ⟨ended, middle, reached, rfl, rfl⟩
    exact ⟨ended, reached, rfl⟩
  · rintro ⟨ended, reached, rfl⟩
    exact ⟨ended, stop, reached, rfl, rfl⟩

/-- A pass that stores a value and goes on. -/
theorem Spans.on (first : Spans scanner mark extent)
    (kept : ∀ value, mark' (store value) = mark value) :
    Spans (scanner >>= fun value => Pure.pure (Pass.on (store value))) (Pass.map mark')
      extent.on := by
  have still : ∀ value, Spans (Pure.pure (Pass.on (store value)) : Scanner (Pass σ))
      (Pass.map mark') (fun _ start ended stop => ended = Pass.on (mark value) ∧ stop = start) := by
    intro value
    rw [← kept value]
    exact Spans.pure _ _
  refine (Spans.bind (fun between _ start ended stop => ended = Pass.on between ∧ stop = start)
    first still).cast fun memory start ended stop => ?_
  constructor
  · rintro ⟨between, middle, reached, rfl, rfl⟩
    exact ⟨between, rfl, reached⟩
  · rintro ⟨between, rfl, reached⟩
    exact ⟨between, stop, reached, rfl, rfl⟩

/-- The same where the state is of no consequence either. -/
theorem Covers.on {extent : Extent Unit} (first : Covers scanner extent) :
    Passes (scanner >>= fun value => Pure.pure (Pass.on (store value))) extent.on :=
  Spans.on first fun _ => rfl

/-- The same for a value of no consequence, with a mark of the pass's own. -/
theorem Spans.onKeeping {extent : Extent Unit} {marked : κ}
    (first : Covers scanner extent) (kept : ∀ value, mark' (store value) = marked) :
    Spans (scanner >>= fun value => Pure.pure (Pass.on (store value))) (Pass.map mark')
      (extent.marked marked).on := by
  have own : Spans scanner (fun _ => marked) (extent.marked marked) := by
    refine ⟨fun ran => ?_, ?_⟩
    · obtain ⟨more, later, within⟩ := first.sound ran
      exact ⟨more, later, fun all => ⟨rfl, within all⟩⟩
    · rintro memory start _ stop ⟨rfl, reached⟩
      obtain ⟨value, -, runs⟩ := first.complete reached
      exact ⟨value, rfl, runs⟩
  exact own.on kept

theorem Spans.leaves (mark : σ → κ) (state : σ) :
    Spans (Pure.pure (Pass.leave state) : Scanner (Pass σ)) (Pass.map mark)
      (.leave (mark state)) :=
  Spans.pure _ _

theorem Spans.stays (mark : σ → κ) (state : σ) :
    Spans (Pure.pure (Pass.on state) : Scanner (Pass σ)) (Pass.map mark) (.stay (mark state)) :=
  Spans.pure _ _

/-- A loop goes over what its passes go over. -/
theorem Spans.loop {goOn : σ → Nat → Bool} {body : σ → Scanner (Pass σ)} (mark : σ → κ)
    (marksGoOn : κ → Nat → Bool) {step : κ → Extent (Pass κ)}
    (agree : ∀ state position, goOn state position = marksGoOn (mark state) position)
    (one : ∀ state, Spans (body state) (Pass.map mark) (step (mark state))) (state : σ) :
    Spans (loop goOn body state) (Pass.map mark) fun memory =>
      Extent.Walk marksGoOn step memory (mark state) where
  sound {fuel memory start passes value cursor} ran := by
    have passed : ∀ count state start passes,
        loopFor goOn body count state fuel memory ⟨start, passes⟩ = some (value, cursor) →
          ∃ more, cursor.passes = passes ++ more ∧ ((∀ moved ∈ more, 4 ≤ moved) →
            Extent.Walk marksGoOn step memory (mark state) start (value.map mark)
              cursor.position) := by
      intro count
      induction count with
      | zero =>
        intro state start passes ran
        simp only [loopFor] at ran
        split at ran
        · simp at ran
        · next finished =>
          simp only [Option.some.injEq, Prod.mk.injEq] at ran
          obtain ⟨rfl, rfl⟩ := ran
          refine ⟨[], by simp, fun _ => .done ?_⟩
          rw [← agree]
          simpa using finished
      | succ count induction =>
        intro state start passes ran
        simp only [loopFor] at ran
        split at ran
        · next going =>
          rw [agree] at going
          split at ran
          · simp at ran
          · next left moved bodyRan =>
            simp only [Option.some.injEq, Prod.mk.injEq] at ran
            obtain ⟨rfl, rfl⟩ := ran
            obtain ⟨more, later, within⟩ := (one state).sound bodyRan
            exact ⟨more, later, fun all => .leave going (within all)⟩
          · next next moved bodyRan =>
            obtain ⟨earlier, before, within⟩ := (one state).sound bodyRan
            obtain ⟨later, after, onward⟩ := induction _ _ _ ran
            refine ⟨earlier ++ [moved.position - start] ++ later, ?_, fun all => ?_⟩
            · rw [after, before]
              simp
            · have step := all (moved.position - start) (by simp)
              refine .pass going (within fun moved member => all moved (by simp [member]))
                (by omega) (onward fun moved member => all moved (by simp [member]))
        · next finished =>
          simp only [Option.some.injEq, Prod.mk.injEq] at ran
          obtain ⟨rfl, rfl⟩ := ran
          refine ⟨[], by simp, fun _ => .done ?_⟩
          rw [← agree]
          simpa using finished
    exact passed fuel state start passes ran
  complete {memory start marked stop} walk := by
    have loops : ∀ {marks : κ} {start : Nat} {marked : Pass κ} {stop : Nat},
        Extent.Walk marksGoOn step memory marks start marked stop → ∀ state, mark state = marks →
          ∃ ended, ended.map mark = marked ∧
            Loops memory goOn body start state ended stop := by
      intro marks start marked stop walk
      induction walk with
      | done finished =>
        rintro state rfl
        exact ⟨.on state, rfl, .done (by rw [agree, finished])⟩
      | leave going left =>
        rintro state rfl
        obtain ⟨ended, marks, runs⟩ := (one state).complete left
        cases ended with
        | on next => simp [Pass.map] at marks
        | leave next => exact ⟨.leave next, marks, .leave (by rw [agree, going]) runs⟩
      | pass going passed moved rest induction =>
        rintro state rfl
        obtain ⟨ended, marks, runs⟩ := (one state).complete passed
        cases ended with
        | on next =>
          obtain ⟨last, lastMarks, onward⟩ := induction next (Pass.on.inj marks)
          exact ⟨last, lastMarks, .pass (by rw [agree, going]) runs moved onward⟩
        | leave next => simp [Pass.map] at marks
    obtain ⟨ended, marks, loop⟩ := loops walk state rfl
    exact ⟨ended, marks, loop.runs⟩

theorem Spans.loopUntil {body : σ → Scanner (Pass σ)} {mark : σ → κ} {step : κ → Extent (Pass κ)}
    (one : ∀ state, Spans (body state) (Pass.map mark) (step (mark state))) (finish : Nat)
    (state : σ) :
    Spans (loopUntil finish body state) (Pass.map mark) (.upTo finish step (mark state)) :=
  Spans.loop mark (fun _ position => position < finish) (fun _ _ => rfl) one state

end Scanner

end OpenDove
