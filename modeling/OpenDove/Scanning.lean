import OpenDove.ByteStreams

/-!
# Scanners: routines that walk through memory

A scanner reads memory through a cursor and moves it on. Its loops run while a
condition on the state and the position holds; nothing forces a pass to move, so a
loop need not end. A loop is therefore given an amount of fuel, the number of
passes it may make, and a scanner that needs more has no result. Neither has one that
comes to something it may not do. The cursor also keeps how far each finished pass
moved, which no scanner reads.

`Runs` states a completed run: from one position to another, with a value, on any
fuel at least as large as the distance, every pass moving at least one 32-bit word.
It has one rule for each way scanners are put together. `Consumes` states that a loop
goes through the bytes of a setter, and has one rule for each way setters are.
-/

namespace OpenDove

/-- A position in memory and how far each finished pass of a loop has moved. -/
structure Cursor where
  position : Nat
  passes : List Nat

/-- A routine that reads memory from the cursor on. The first argument is the
number of passes each of its loops may make; `none` means that was too few, or that
the routine failed a check. -/
def Scanner (α : Type) := Nat → Memory → Cursor → Option (α × Cursor)

/-- How one pass of a loop ends: the loop goes on, or control jumps out of it. -/
inductive Pass (σ : Type) where
  | on (state : σ)
  | leave (state : σ)

/-- The state a loop ends with, however it ended. -/
def Pass.state {σ : Type} : Pass σ → σ
  | .on state => state
  | .leave state => state

namespace Scanner

variable {α β σ : Type}

instance : Monad Scanner where
  pure value := fun _ _ cursor => some (value, cursor)
  bind scanner next := fun fuel memory cursor =>
    match scanner fuel memory cursor with
    | none => none
    | some (value, moved) => next value fuel memory moved

/-- The cursor's position. -/
def here : Scanner Nat := fun _ _ cursor => some (cursor.position, cursor)

/-- A value read at the cursor, which stays where it is. -/
def look (read : Memory → Nat → α) : Scanner α := fun _ memory cursor =>
  some (read memory cursor.position, cursor)

/-- Move the cursor to a position. -/
def seek (position : Nat) : Scanner Unit := fun _ _ cursor =>
  some ((), { cursor with position := position })

/-- A value read at the cursor, which then moves over a number of bytes. -/
def take (size : Nat) (read : Memory → Nat → α) : Scanner α := fun _ memory cursor =>
  some (read memory cursor.position, { cursor with position := cursor.position + size })

/-- Without the condition there is no result. -/
def check (condition : Prop) [Decidable condition] : Scanner Unit := fun _ _ cursor =>
  if condition then some ((), cursor) else none

/-- At most `count` passes of a loop whose condition is checked before each. -/
def loopFor (goOn : σ → Nat → Bool) (body : σ → Scanner (Pass σ)) :
    Nat → σ → Scanner (Pass σ)
  | 0, state => fun _ _ cursor =>
    if goOn state cursor.position then none else some (.on state, cursor)
  | count + 1, state => fun fuel memory cursor =>
    if goOn state cursor.position then
      match body state fuel memory cursor with
      | none => none
      | some (.leave state, moved) => some (.leave state, moved)
      | some (.on state, moved) =>
        loopFor goOn body count state fuel memory
          { moved with passes := moved.passes ++ [moved.position - cursor.position] }
    else some (.on state, cursor)

/-- A loop that may make as many passes as there is fuel. -/
def loop (goOn : σ → Nat → Bool) (body : σ → Scanner (Pass σ)) (state : σ) :
    Scanner (Pass σ) := fun fuel => loopFor goOn body fuel state fuel

/-- A loop over the bytes before a fixed end. -/
def loopUntil (finish : Nat) (body : σ → Scanner (Pass σ)) (state : σ) : Scanner (Pass σ) :=
  loop (fun _ position => position < finish) body state

/-- The scanner returns the value, moving the cursor from `start` to `stop`. More
fuel than the distance is enough, and every pass moves at least four bytes. -/
def Runs (memory : Memory) (scanner : Scanner α) (start : Nat) (value : α) (stop : Nat) : Prop :=
  start ≤ stop ∧ ∀ fuel passes, stop - start < fuel → ∃ more,
    scanner fuel memory ⟨start, passes⟩ = some (value, ⟨stop, passes ++ more⟩) ∧
      ∀ moved ∈ more, 4 ≤ moved

section Rules

variable {memory : Memory} {start middle stop : Nat}

theorem Runs.pure (value : α) : Runs memory (pure value : Scanner α) start value start :=
  ⟨Nat.le_refl _, fun _ _ _ => ⟨[], by simp [Pure.pure], by simp⟩⟩

theorem Runs.bind {scanner : Scanner α} {next : α → Scanner β} {first : α} {value : β}
    (head : Runs memory scanner start first middle)
    (tail : Runs memory (next first) middle value stop) :
    Runs memory (scanner >>= next) start value stop := by
  obtain ⟨headMoves, headRuns⟩ := head
  obtain ⟨tailMoves, tailRuns⟩ := tail
  refine ⟨headMoves.trans tailMoves, fun fuel passes enough => ?_⟩
  obtain ⟨earlier, ran, earlierMoved⟩ := headRuns fuel passes (by omega)
  obtain ⟨later, ranOn, laterMoved⟩ := tailRuns fuel (passes ++ earlier) (by omega)
  refine ⟨earlier ++ later, ?_, ?_⟩
  · simp [Bind.bind, ran, ranOn]
  · intro moved member
    rcases List.mem_append.mp member with before | after
    · exact earlierMoved moved before
    · exact laterMoved moved after

theorem Runs.here : Runs memory here start start start :=
  ⟨Nat.le_refl _, fun _ _ _ => ⟨[], by simp [Scanner.here], by simp⟩⟩

theorem Runs.look (read : Memory → Nat → α) :
    Runs memory (look read) start (read memory start) start :=
  ⟨Nat.le_refl _, fun _ _ _ => ⟨[], by simp [Scanner.look], by simp⟩⟩

theorem Runs.take (size : Nat) (read : Memory → Nat → α) :
    Runs memory (take size read) start (read memory start) (start + size) :=
  ⟨Nat.le_add_right _ _, fun _ _ _ => ⟨[], by simp [Scanner.take], by simp⟩⟩

theorem Runs.seek (forward : start ≤ stop) : Runs memory (seek stop) start () stop :=
  ⟨forward, fun _ _ _ => ⟨[], by simp [Scanner.seek], by simp⟩⟩

theorem Runs.check {condition : Prop} [Decidable condition] (met : condition) :
    Runs memory (check condition) start () start :=
  ⟨Nat.le_refl _, fun _ _ _ => ⟨[], by simp [Scanner.check, met], by simp⟩⟩

/-- A run may be stated with an equal value and an equal end. -/
theorem Runs.cast {scanner : Scanner α} {value value' : α} {stop' : Nat}
    (run : Runs memory scanner start value stop) (sameValue : value = value')
    (sameStop : stop = stop') : Runs memory scanner start value' stop' := by
  subst sameValue sameStop
  exact run

/-- The passes of a loop, one after another, up to the state it ends with. -/
inductive Loops (memory : Memory) (goOn : σ → Nat → Bool) (body : σ → Scanner (Pass σ)) :
    Nat → σ → Pass σ → Nat → Prop where
  | done {start : Nat} {state : σ} (finished : goOn state start = false) :
      Loops memory goOn body start state (.on state) start
  | leave {start stop : Nat} {state next : σ} (going : goOn state start = true)
      (left : Runs memory (body state) start (.leave next) stop) :
      Loops memory goOn body start state (.leave next) stop
  | pass {start middle stop : Nat} {state next : σ} {ended : Pass σ}
      (going : goOn state start = true)
      (passed : Runs memory (body state) start (.on next) middle) (moved : start + 4 ≤ middle)
      (rest : Loops memory goOn body middle next ended stop) :
      Loops memory goOn body start state ended stop

variable {goOn : σ → Nat → Bool} {body : σ → Scanner (Pass σ)} {state next : σ} {ended : Pass σ}

section

variable (loops : Loops memory goOn body start state ended stop)

include loops

theorem Loops.forward : start ≤ stop := by
  induction loops with
  | done => exact Nat.le_refl _
  | leave _ left => exact left.1
  | pass _ passed _ _ rest => exact passed.1.trans rest

/-- The passes of a loop are those the loop makes on enough fuel. The induction is
on the passes; the count of passes still allowed falls with each of them. -/
theorem Loops.loopFor (count fuel : Nat) (passes : List Nat)
    (allowed : stop - start < count) (enough : stop - start < fuel) :
    ∃ more, Scanner.loopFor goOn body count state fuel memory ⟨start, passes⟩ =
        some (ended, ⟨stop, passes ++ more⟩) ∧ ∀ moved ∈ more, 4 ≤ moved := by
  induction loops generalizing count passes with
  | done finished =>
    refine ⟨[], ?_, by simp⟩
    cases count <;> simp [Scanner.loopFor, finished]
  | leave going left =>
    obtain ⟨more, ran, moved⟩ := left.2 fuel passes enough
    obtain ⟨count, rfl⟩ : ∃ fewer, count = fewer + 1 := ⟨count - 1, by omega⟩
    exact ⟨more, by simp [Scanner.loopFor, going, ran], moved⟩
  | @pass start middle stop state next ended going passed moved rest induction =>
    have forward := rest.forward
    obtain ⟨earlier, ran, earlierMoved⟩ := passed.2 fuel passes (by omega)
    obtain ⟨count, rfl⟩ : ∃ fewer, count = fewer + 1 := ⟨count - 1, by omega⟩
    obtain ⟨later, ranOn, laterMoved⟩ :=
      induction count (passes ++ earlier ++ [middle - start]) (by omega) (by omega)
    refine ⟨earlier ++ [middle - start] ++ later, ?_, ?_⟩
    · simp only [Scanner.loopFor, going, ↓reduceIte, ran]
      simpa [List.append_assoc] using ranOn
    · intro distance member
      simp only [List.mem_append, List.mem_singleton] at member
      rcases member with (before | rfl) | after
      · exact earlierMoved distance before
      · omega
      · exact laterMoved distance after

theorem Loops.runs : Runs memory (loop goOn body state) start ended stop :=
  ⟨loops.forward, fun fuel passes enough => loops.loopFor fuel fuel passes enough enough⟩

end

/-- A loop over bytes goes through what a setter left there, from the state to one that
meets the condition: wherever it lies, the passes over it can be put before those
over what follows. -/
def Consumes (memory buffer : Memory) (body : σ → Scanner (Pass σ)) (setter : Setter) (state : σ)
    (post : σ → Prop) : Prop :=
  ∀ start position, Holds memory start (setter buffer position) → ∃ next, post next ∧
    ∀ finish ended stop, start + (setter buffer position).length ≤ finish →
      Loops memory (fun _ position => position < finish) body
        (start + (setter buffer position).length) next ended stop →
      Loops memory (fun _ position => position < finish) body start state ended stop

variable {buffer : Memory} {setter : Setter} {post : σ → Prop}

theorem Consumes.nothing : Consumes memory buffer body (.bytes []) state (· = state) :=
  fun _ _ _ => ⟨state, rfl, fun _ _ _ _ rest => rest⟩

/-- What is read in one pass. -/
theorem Consumes.pass (size : Nat) (long : 4 ≤ size)
    (sized : ∀ position, (setter buffer position).length = size)
    (run : ∀ start position, Holds memory start (setter buffer position) →
      ∃ next, post next ∧ Runs memory (body state) start (.on next) (start + size)) :
    Consumes memory buffer body setter state post := by
  intro start position held
  obtain ⟨next, met, passed⟩ := run start position held
  refine ⟨next, met, fun finish ended stop inside rest => ?_⟩
  rw [sized] at inside rest
  have going : start < finish := by omega
  exact .pass (by simpa using going) passed (by omega) rest

theorem Consumes.weaken {weaker : σ → Prop}
    (consumes : Consumes memory buffer body setter state post)
    (implied : ∀ next, post next → weaker next) :
    Consumes memory buffer body setter state weaker := by
  intro start position held
  obtain ⟨next, met, rest⟩ := consumes start position held
  exact ⟨next, implied next met, rest⟩

theorem Consumes.append {first second : Setter} {middle : σ}
    (head : Consumes memory buffer body first state (· = middle))
    (tail : Consumes memory buffer body second middle post) :
    Consumes memory buffer body (first ++ second) state post := by
  intro start position held
  rw [Setter.holds_append] at held
  obtain ⟨_, rfl, headRest⟩ := head start position held.1
  obtain ⟨last, ends, tailRest⟩ := tail _ _ held.2
  refine ⟨last, ends, fun finish ended stop inside rest => ?_⟩
  rw [Setter.length_append, ← Nat.add_assoc] at inside rest
  exact headRest finish ended stop (by omega) (tailRest finish ended stop inside rest)

/-- One setter after another is gone through in the order of the values. Each of them may need
that the state has room for it and those behind it. -/
theorem Consumes.each {α : Type*} {setter : α → Setter} {step : σ → α → σ}
    (fits : σ → List α → Prop) (one : ∀ state value rest, fits state (value :: rest) →
      Consumes memory buffer body (setter value) state (· = step state value) ∧
        fits (step state value) rest)
    (values : List α) (state : σ) (fit : fits state values) :
    Consumes memory buffer body (Setter.each setter values) state
      (· = values.foldl step state) := by
  induction values generalizing state with
  | nil => exact Consumes.nothing
  | cons value values induction =>
    obtain ⟨consumes, fit⟩ := one state value values fit
    exact consumes.append (induction _ fit)

/-- A loop over exactly what a setter left ends behind it. -/
theorem Consumes.loops {position finish : Nat}
    (consumes : Consumes memory buffer body setter state post)
    (held : Holds memory start (setter buffer position))
    (reached : start + (setter buffer position).length = finish) :
    ∃ next, post next ∧ Loops memory (fun _ position => position < finish) body start state
      (.on next) finish := by
  obtain ⟨next, met, rest⟩ := consumes start position held
  refine ⟨next, met, rest finish _ _ (by omega) ?_⟩
  rw [reached]
  exact .done (by simp)

end Rules

end Scanner

end OpenDove
