import Mathlib.Data.Nat.Notation
import Mathlib.Logic.Function.Basic

/-!
# A map with fixed storage (`small_map.h`)

The pairs are kept in the first `size` slots of a storage of `capacity` slots, in key order.  A slot
is `none` while it is raw storage.  Reading or assigning a raw slot and constructing a value past
the end of the storage are undefined; operations that can do so return an `Option`.  An iterator is
the index it points at, so `end()` is `size`.
-/

namespace Zpp

/-- Represents a map. -/
@[ext]
structure SmallMap (Key Value : Type) (capacity : ℕ) where
  /-- Storage for the values. -/
  storage : ℕ → Option (Key × Value)
  /-- Size of the map. -/
  size : ℕ

namespace SmallMap

variable {Key Value : Type} {capacity : ℕ}

/-- Constructs an empty map. -/
def empty : SmallMap Key Value capacity := ⟨fun _ => none, 0⟩

/-! ### Slots -/

/-- The value at the specified index. -/
def value (m : SmallMap Key Value capacity) (index : ℕ) : Option (Key × Value) :=
  if index < capacity then m.storage index else none

/-- Constructs a value in a slot (placement new). -/
def construct (m : SmallMap Key Value capacity) (index : ℕ) (v : Key × Value) :
    Option (SmallMap Key Value capacity) :=
  if index < capacity then some { m with storage := Function.update m.storage index (some v) }
  else none

/-- Assigns to the value in a slot. -/
def assign (m : SmallMap Key Value capacity) (index : ℕ) (v : Key × Value) :
    Option (SmallMap Key Value capacity) :=
  (m.value index).map fun _ =>
    { m with storage := Function.update m.storage index (some v) }

/-- `++m_size`. -/
def incrementSize (m : SmallMap Key Value capacity) : SmallMap Key Value capacity :=
  { m with size := m.size + 1 }

/-! ### Searching -/

/-- The loop of `find_index`, with `first <= last`. -/
def findIndexLoop (less : Key → Key → Bool) (m : SmallMap Key Value capacity) (key : Key)
    (first last : ℕ) (h : first ≤ last) : Option (Bool × ℕ) :=
  if heq : first = last then do
    let (firstKey, _) ← m.value first
    -- If key comes before first, return the current index.
    if less key firstKey then some (false, first)
    -- If key comes after first, return the next index.
    else if less firstKey key then some (false, first + 1)
    else some (true, first)
  else
    let middle := (first + last) / 2
    match m.value middle with
    | none => none
    | some (middleKey, _) =>
      if less key middleKey then findIndexLoop less m key first middle (by omega)
      else if less middleKey key then findIndexLoop less m key (middle + 1) last (by omega)
      else some (true, middle)
termination_by last - first

/-- Finds the index where key is found/to be inserted before. -/
def findIndex (less : Key → Key → Bool) (m : SmallMap Key Value capacity) (key : Key) :
    Option (Bool × ℕ) :=
  if m.size = 0 then some (false, 0)
  else findIndexLoop less m key 0 (m.size - 1) (Nat.zero_le _)

/-- Returns an iterator to the found value, else returns end iterator. -/
def find (less : Key → Key → Bool) (m : SmallMap Key Value capacity) (key : Key) : Option ℕ := do
  let (found, index) ← m.findIndex less key
  if found then some index else some m.size

/-! ### Inserting -/

/-- Moves the `n` values from `slot` on to the right, the last one first. -/
def moveRight (m : SmallMap Key Value capacity) (slot : ℕ) :
    ℕ → Option (SmallMap Key Value capacity)
  | 0 => some m
  | n + 1 => do
    let v ← m.value (slot + n)
    let m ← m.assign (slot + n + 1) v
    m.moveRight slot n

/-- Emplace a value into the map. -/
def emplace (less : Key → Key → Bool) (m : SmallMap Key Value capacity) (key : Key) (value : Value) :
    Option (SmallMap Key Value capacity) :=
  -- If empty, insert value and increment size.
  if m.size = 0 then do
    let m ← m.construct 0 (key, value)
    some m.incrementSize
  else do
    let (found, index) ← m.findIndex less key
    -- If we found the value, just set the new value.
    if found then m.assign index (key, value)
    -- If index is size, insert at the end.
    else if index = m.size then do
      let m ← m.construct m.size (key, value)
      some m.incrementSize
    else do
      let back ← m.value (m.size - 1)
      let m ← m.construct m.size back
      let m ← m.moveRight index (m.size - 1 - index)
      let m ← m.assign index (key, value)
      some m.incrementSize

/-- Insert a value to the map. -/
def insert (less : Key → Key → Bool) (m : SmallMap Key Value capacity) (value : Key × Value) :
    Option (SmallMap Key Value capacity) :=
  m.emplace less value.1 value.2

/-- Inserts the values in a range to the map. -/
def insertRange (less : Key → Key → Bool) (m : SmallMap Key Value capacity)
    (values : List (Key × Value)) : Option (SmallMap Key Value capacity) :=
  values.foldlM (insert less) m

/-! ### Erasing -/

/-- Destroys the value in a slot. -/
def destroy (m : SmallMap Key Value capacity) (index : ℕ) : Option (SmallMap Key Value capacity) :=
  (m.value index).map fun _ => { m with storage := Function.update m.storage index none }

/-- Destroys the first `n` values. -/
def destroyAll (m : SmallMap Key Value capacity) : ℕ → Option (SmallMap Key Value capacity)
  | 0 => some m
  | n + 1 => do
    let m ← m.destroyAll n
    m.destroy n

/-- Clears the map. -/
def clear (m : SmallMap Key Value capacity) : Option (SmallMap Key Value capacity) := do
  let m ← m.destroyAll m.size
  -- Zero our size.
  some { m with size := 0 }

/-- Moves the `n` values behind `slot` to the left, the first one first. -/
def moveLeft (m : SmallMap Key Value capacity) (slot : ℕ) :
    ℕ → Option (SmallMap Key Value capacity)
  | 0 => some m
  | n + 1 => do
    let v ← m.value (slot + 1)
    let m ← m.assign slot v
    m.moveLeft (slot + 1) n

/-- Erases a value from the map and returns the iterator past the removed element.  From `end()` on
the loop leaves the storage. -/
def erase (m : SmallMap Key Value capacity) (position : ℕ) :
    Option (SmallMap Key Value capacity × ℕ) :=
  if position < m.size then do
    -- Move all values to the left.
    let m ← m.moveLeft position (m.size - 1 - position)
    -- Destroy value at the back.
    let m ← m.destroy (m.size - 1)
    -- Decrement size.
    some ({ m with size := m.size - 1 }, position)
  else none

/-- Erases the `n` values from `first` on, the last one first. -/
def eraseDown (m : SmallMap Key Value capacity) (first : ℕ) :
    ℕ → Option (SmallMap Key Value capacity)
  | 0 => some m
  | n + 1 => do
    let (m, _) ← m.erase (first + n)
    m.eraseDown first n

/-- Erases values `[first, last)` from the map. -/
def eraseRange (m : SmallMap Key Value capacity) (first last : ℕ) :
    Option (SmallMap Key Value capacity × ℕ) :=
  if first ≤ last then do
    let m ← m.eraseDown first (last - first)
    some (m, first)
  else none

/-! ### Copying and moving -/

/-- Move constructs the first `n` values from those of another map, destroying them along the way. -/
def moveValues (m other : SmallMap Key Value capacity) :
    ℕ → Option (SmallMap Key Value capacity × SmallMap Key Value capacity)
  | 0 => some (m, other)
  | n + 1 => do
    let (m, other) ← m.moveValues other n
    let otherValue ← other.value n
    -- Move construct a new value from other value.
    let m ← m.construct n otherValue
    -- Destroy other value.
    let other ← other.destroy n
    some (m, other)

/-- Move construct a small map from another one: the new map, and what is left of the other one. -/
def moveConstruct (other : SmallMap Key Value capacity) :
    Option (SmallMap Key Value capacity × SmallMap Key Value capacity) := do
  let m := { (empty : SmallMap Key Value capacity) with size := other.size }
  let (m, other) ← m.moveValues other m.size
  -- Zero other size.
  some (m, { other with size := 0 })

/-- The loop of the copy constructor, from index `i` on.  Its bound is the size of the new map, which
each iteration increments. -/
def copyValues (m other : SmallMap Key Value capacity) (i : ℕ) :
    Option (SmallMap Key Value capacity) :=
  if i < m.size then
    match _h : other.value i with
    | none => none
    | some otherValue =>
      match m.construct i otherValue with
      | none => none
      | some m => m.incrementSize.copyValues other (i + 1)
  else some m
termination_by capacity - i
decreasing_by
  have hi : i < capacity := by
    by_contra hi
    rw [value, if_neg hi] at _h
    cases _h
  omega

/-- Copy construct a small map from another one.  The guard clears the map if a copy throws. -/
def copyConstruct (other : SmallMap Key Value capacity) : Option (SmallMap Key Value capacity) :=
  (empty : SmallMap Key Value capacity).copyValues other 0

/-- Move assign another map to this.  The destructor call of its loop, `other_value->~value_type()`, is
taken to be that of the move constructor; as it stands it is not well-formed for a pair. -/
def moveAssign (m other : SmallMap Key Value capacity) :
    Option (SmallMap Key Value capacity × SmallMap Key Value capacity) := do
  -- Destroy current values.
  let m ← m.clear
  -- Update current size.
  let m := { m with size := other.size }
  let (m, other) ← m.moveValues other m.size
  -- Zero other size.
  some (m, { other with size := 0 })

/-- Copy assign another map to this. -/
def copyAssign (m other : SmallMap Key Value capacity) : Option (SmallMap Key Value capacity) := do
  -- Move assign from a copy, which is destroyed then.
  let copy ← other.copyConstruct
  let (m, copy) ← m.moveAssign copy
  let _ ← copy.clear
  some m

/-! ### Iterating -/

/-- The values read from `begin()` to `end()`. -/
def values (m : SmallMap Key Value capacity) : Option (List (Key × Value)) :=
  (List.range m.size).mapM m.value

end SmallMap

end Zpp
