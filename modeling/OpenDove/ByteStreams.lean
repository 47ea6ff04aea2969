import Mathlib.Tactic

/-!
# Bytes in memory and the setters that write them

Memory is a total function from positions to bytes: a reader of a received packet
is given a pointer and nothing tells it where the packet ends. A setter is a
routine that writes at a position of a buffer and reports how many bytes it moved
on; it is represented by the bytes found there afterwards. A setter may step over
bytes without writing them, so what it leaves depends on what the buffer held.

Integers travel in network order, most significant byte first. The same two
conversions are used for 16-bit and 32-bit fields, and one law for each says that
a field is read back as it was written.
-/

namespace OpenDove

variable (memory : Memory) (position : Nat)

/-- A fixed number of raw bytes. -/
abbrev Octets (count : Nat) := Fin count → UInt8

/-- Memory as a reader sees it, from some base position on. -/
abbrev Memory := Nat → UInt8

/-- The bytes lie in memory one after another from the position on. -/
def Holds (memory : Memory) (position : Nat) (bytes : List UInt8) : Prop :=
  ∀ index (inside : index < bytes.length), memory (position + index) = bytes[index]

@[simp] theorem holds_nil : Holds memory position [] := by
  intro index inside
  simp at inside

@[simp] theorem holds_cons (byte : UInt8) (bytes : List UInt8) :
    Holds memory position (byte :: bytes) ↔
      memory position = byte ∧ Holds memory (position + 1) bytes := by
  constructor
  · intro held
    refine ⟨held 0 (by simp), fun index inside => ?_⟩
    have later := held (index + 1) (by simpa using inside)
    simpa [Nat.add_assoc, Nat.add_comm 1 index] using later
  · rintro ⟨first, rest⟩ index inside
    cases index with
    | zero => exact first
    | succ index =>
      have later := rest index (by simpa using inside)
      simpa [Nat.add_assoc, Nat.add_comm 1 index] using later

theorem holds_append (front back : List UInt8) :
    Holds memory position (front ++ back) ↔
      Holds memory position front ∧ Holds memory (position + front.length) back := by
  induction front generalizing position with
  | nil => simp
  | cons byte front induction =>
    simp [induction, and_assoc, Nat.add_assoc, Nat.add_comm 1 front.length]

/-- A list of bytes lies at the start of the memory made from it. -/
theorem holds_ofList (bytes : List UInt8) : Holds (fun index => bytes.getD index 0) 0 bytes := by
  intro index inside
  simp [inside]

/-- Bytes from a position on, as they are. -/
def getOctets (count : Nat) (memory : Memory) (position : Nat) : Octets count :=
  fun index => memory (position + index)

variable {memory : Memory} {count : Nat} (value : UInt32) (first second : Setter) (buffer : Memory)
  (position : Nat)

theorem getOctets_eq {position : Nat} {octets : Octets count}
    (held : Holds memory position (List.ofFn octets)) :
    getOctets count memory position = octets := by
  funext index
  have found := held index.val (by simp)
  simpa [getOctets] using found

/-- The two bytes of a 16-bit field in network order. -/
def setInt16 (value : UInt16) : List UInt8 :=
  [UInt8.ofNat (value.toNat / 256), UInt8.ofNat value.toNat]

/-- The four bytes of a 32-bit field in network order. -/
def setInt32 (value : UInt32) : List UInt8 :=
  [UInt8.ofNat (value.toNat / 16777216), UInt8.ofNat (value.toNat / 65536),
    UInt8.ofNat (value.toNat / 256), UInt8.ofNat value.toNat]

/-- A 16-bit field read in network order. -/
def getInt16 (memory : Memory) (position : Nat) : UInt16 :=
  UInt16.ofNat ((memory position).toNat * 256 + (memory (position + 1)).toNat)

/-- A 32-bit field read in network order. -/
def getInt32 (memory : Memory) (position : Nat) : UInt32 :=
  UInt32.ofNat ((memory position).toNat * 16777216 + (memory (position + 1)).toNat * 65536 +
    (memory (position + 2)).toNat * 256 + (memory (position + 3)).toNat)

@[simp] theorem length_setInt16 (value : UInt16) : (setInt16 value).length = 2 := rfl

@[simp] theorem length_setInt32 : (setInt32 value).length = 4 := rfl

theorem getInt16_eq {position : Nat} {value : UInt16}
    (held : Holds memory position (setInt16 value)) : getInt16 memory position = value := by
  simp only [setInt16, holds_cons, holds_nil, and_true] at held
  obtain ⟨high, low⟩ := held
  apply UInt16.toNat_inj.mp
  have bounded : value.toNat < 65536 := value.toNat_lt
  simp only [getInt16, high, low, UInt16.toNat_ofNat', UInt8.toNat_ofNat']
  omega

theorem getInt32_eq {position : Nat} {value : UInt32}
    (held : Holds memory position (setInt32 value)) : getInt32 memory position = value := by
  simp only [setInt32, holds_cons, holds_nil, and_true, Nat.add_assoc, Nat.reduceAdd] at held
  obtain ⟨first, second, third, fourth⟩ := held
  apply UInt32.toNat_inj.mp
  have bounded : value.toNat < 4294967296 := value.toNat_lt
  simp only [getInt32, first, second, third, fourth, UInt32.toNat_ofNat', UInt8.toNat_ofNat']
  omega

/-- The four bytes of a word as a little-endian host keeps them. -/
def hostBytes (word : UInt32) : List UInt8 :=
  [UInt8.ofNat word.toNat, UInt8.ofNat (word.toNat / 256),
    UInt8.ofNat (word.toNat / 65536), UInt8.ofNat (word.toNat / 16777216)]

/-- Four raw bytes seen as a word of a little-endian host. -/
def hostWord (memory : Memory) (position : Nat) : UInt32 :=
  UInt32.ofNat ((memory position).toNat + (memory (position + 1)).toNat * 256 +
    (memory (position + 2)).toNat * 65536 + (memory (position + 3)).toNat * 16777216)

theorem hostWord_eq {position : Nat} {word : UInt32}
    (held : Holds memory position (hostBytes word)) : hostWord memory position = word := by
  simp only [hostBytes, holds_cons, holds_nil, and_true, Nat.add_assoc, Nat.reduceAdd] at held
  obtain ⟨first, second, third, fourth⟩ := held
  apply UInt32.toNat_inj.mp
  have bounded : word.toNat < 4294967296 := word.toNat_lt
  simp only [hostWord, first, second, third, fourth, UInt32.toNat_ofNat', UInt8.toNat_ofNat']
  omega

/-- A routine that writes into a buffer: given what the buffer held and where it
starts, the bytes from there up to the position it moves on to. -/
def Setter := Memory → Nat → List UInt8

namespace Setter

/-- Bytes that do not depend on the buffer. -/
def bytes (written : List UInt8) : Setter := fun _ _ => written

/-- Bytes the setter steps over without writing them. -/
def gap (count : Nat) : Setter := fun buffer position => List.ofFn (getOctets count buffer position)

/-- A 16-bit field in network order. -/
def int16 (value : UInt16) : Setter := bytes (setInt16 value)

/-- A 32-bit field in network order. -/
def int32 (value : UInt32) : Setter := bytes (setInt32 value)

/-- Raw bytes copied as they are. -/
def octets {count : Nat} (value : Octets count) : Setter := bytes (List.ofFn value)

/-- The second setter starts where the first has moved on to. -/
instance : Append Setter where
  append first second := fun buffer position =>
    first buffer position ++ second buffer (position + (first buffer position).length)

/-- One setter after another for a list of values. -/
def each {α : Type*} (setter : α → Setter) : List α → Setter
  | [] => bytes []
  | value :: values => setter value ++ each setter values

theorem append_apply :
    (first ++ second) buffer position =
      first buffer position ++ second buffer (position + (first buffer position).length) :=
  rfl

theorem append_assoc (third : Setter) : first ++ second ++ third = first ++ (second ++ third) := by
  funext buffer position
  simp [append_apply, Nat.add_assoc]

@[simp] theorem length_append :
    ((first ++ second) buffer position).length =
      (first buffer position).length +
        (second buffer (position + (first buffer position).length)).length := by
  rw [append_apply, List.length_append]

@[simp] theorem length_bytes (written : List UInt8) (buffer : Memory) (position : Nat) :
    (bytes written buffer position).length = written.length := rfl

@[simp] theorem length_gap (count : Nat) (buffer : Memory) (position : Nat) :
    (gap count buffer position).length = count := by
  simp [gap]

@[simp] theorem length_int16 (value : UInt16) (buffer : Memory) (position : Nat) :
    (int16 value buffer position).length = 2 := rfl

@[simp] theorem length_int32 :
    (int32 value buffer position).length = 4 := rfl

@[simp] theorem length_octets (value : Octets count) (buffer : Memory) (position : Nat) :
    (octets value buffer position).length = count := by
  simp [octets, bytes]

/-- Setters whose lengths are known write the sum of them. -/
theorem length_each {α : Type*} (setter : α → Setter) (size : α → Nat)
    (sized : ∀ value buffer position, (setter value buffer position).length = size value)
    (values : List α) (buffer : Memory) (position : Nat) :
    (each setter values buffer position).length = (values.map size).sum := by
  induction values generalizing position with
  | nil => simp [each]
  | cons value values induction => simp [each, sized, induction]

theorem holds_append (memory : Memory) (start : Nat) (first second : Setter) (buffer : Memory)
    (position : Nat) :
    Holds memory start ((first ++ second) buffer position) ↔
      Holds memory start (first buffer position) ∧
        Holds memory (start + (first buffer position).length)
          (second buffer (position + (first buffer position).length)) := by
  rw [append_apply, OpenDove.holds_append]

end Setter

end OpenDove
