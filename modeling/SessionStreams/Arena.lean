set_option autoImplicit false

/- Arenas number their objects. Main statements: what a number gives after each operation
(`get?_alloc`, `get?_set`, `get?_release`), and that operations on different numbers commute
(`set_comm`, `release_comm`, `set_release_comm`). -/

namespace SessionStreams

/-- Numbered cells. A new object gets a fresh number, and the number of a released object is
never given out again. -/
structure Arena (α : Type) where
  cells : List (Option α) := []
deriving DecidableEq

namespace Arena

variable {α : Type}

/-- The object numbered `id`, unless it was released or never made. -/
def get? (arena : Arena α) (id : Nat) : Option α := (arena.cells[id]?).join

/-- The number that the next new object gets. -/
def fresh (arena : Arena α) : Nat := arena.cells.length

def alloc (arena : Arena α) (object : α) : Arena α := ⟨arena.cells ++ [some object]⟩

def set (arena : Arena α) (id : Nat) (object : α) : Arena α := ⟨arena.cells.set id (some object)⟩

def release (arena : Arena α) (id : Nat) : Arena α := ⟨arena.cells.set id none⟩

theorem lt_fresh_of_get? {arena : Arena α} {id : Nat} {object : α}
    (found : arena.get? id = some object) : id < arena.fresh := by
  simp only [get?, Option.join_eq_some_iff] at found
  exact (List.getElem?_eq_some_iff.mp found).1

@[simp] theorem get?_fresh (arena : Arena α) : arena.get? arena.fresh = none := by
  simp [get?, fresh]

theorem get?_alloc (arena : Arena α) (object : α) (id : Nat) :
    (arena.alloc object).get? id = if id = arena.fresh then some object else arena.get? id := by
  by_cases newest : id = arena.fresh
  · rw [if_pos newest, newest]
    simp [get?, alloc, fresh]
  · rw [if_neg newest]
    unfold fresh at newest
    simp only [get?, alloc]
    by_cases inside : id < arena.cells.length
    · rw [List.getElem?_append_left inside]
    · rw [List.getElem?_eq_none (by simp only [List.length_append, List.length_singleton]; omega),
        List.getElem?_eq_none (by omega)]

@[simp] theorem get?_alloc_self (arena : Arena α) (object : α) :
    (arena.alloc object).get? arena.fresh = some object := by
  simp [get?_alloc]

theorem get?_alloc_of_get? {arena : Arena α} {id : Nat} {old : α} (object : α)
    (found : arena.get? id = some old) : (arena.alloc object).get? id = some old := by
  have below := lt_fresh_of_get? found
  rw [get?_alloc, if_neg (by omega), found]

@[simp] theorem fresh_alloc (arena : Arena α) (object : α) :
    (arena.alloc object).fresh = arena.fresh + 1 := by
  simp [alloc, fresh]

@[simp] theorem fresh_set (arena : Arena α) (id : Nat) (object : α) :
    (arena.set id object).fresh = arena.fresh := by
  simp [set, fresh]

@[simp] theorem fresh_release (arena : Arena α) (id : Nat) :
    (arena.release id).fresh = arena.fresh := by
  simp [release, fresh]

theorem get?_set (arena : Arena α) (id other : Nat) (object : α) :
    (arena.set id object).get? other =
      if other = id ∧ id < arena.fresh then some object else arena.get? other := by
  simp only [get?, set, fresh, List.getElem?_set]
  by_cases same : id = other
  · subst same
    by_cases inside : id < arena.cells.length
    · simp [inside]
    · simp [inside]
  · simp [same, Ne.symm same]

theorem get?_set_self {arena : Arena α} {id : Nat} {old : α} (object : α)
    (found : arena.get? id = some old) : (arena.set id object).get? id = some object := by
  rw [get?_set, if_pos ⟨rfl, lt_fresh_of_get? found⟩]

theorem get?_set_ne (arena : Arena α) {id other : Nat} (object : α) (apart : other ≠ id) :
    (arena.set id object).get? other = arena.get? other := by
  rw [get?_set, if_neg (fun both => apart both.1)]

theorem get?_release (arena : Arena α) (id other : Nat) :
    (arena.release id).get? other = if other = id then none else arena.get? other := by
  simp only [get?, release, List.getElem?_set]
  by_cases same : id = other
  · subst same
    by_cases inside : id < arena.cells.length <;> simp [inside]
  · simp [same, Ne.symm same]

@[simp] theorem get?_release_self (arena : Arena α) (id : Nat) :
    (arena.release id).get? id = none := by
  simp [get?_release]

theorem get?_release_ne (arena : Arena α) {id other : Nat} (apart : other ≠ id) :
    (arena.release id).get? other = arena.get? other := by
  rw [get?_release, if_neg apart]

/-- What is there after a release was there before. -/
theorem get?_of_release {arena : Arena α} {id other : Nat} {object : α}
    (still : (arena.release id).get? other = some object) : arena.get? other = some object := by
  rw [get?_release] at still
  split at still
  · cases still
  · exact still

/-- An object that is stored where it is already changes nothing. -/
theorem set_of_get? {arena : Arena α} {id : Nat} {object : α}
    (found : arena.get? id = some object) : arena.set id object = arena := by
  obtain ⟨inside, stored⟩ := List.getElem?_eq_some_iff.mp (Option.join_eq_some_iff.mp found)
  rw [set, ← stored, List.set_getElem_self]

theorem set_set (arena : Arena α) (id : Nat) (one two : α) :
    (arena.set id one).set id two = arena.set id two := by
  simp only [set, List.set_set]

theorem set_comm (arena : Arena α) {first second : Nat} (one two : α) (apart : first ≠ second) :
    (arena.set first one).set second two = (arena.set second two).set first one := by
  simp only [set, List.set_comm _ _ apart]

theorem release_comm (arena : Arena α) (first second : Nat) :
    (arena.release first).release second = (arena.release second).release first := by
  by_cases same : first = second
  · subst same
    rfl
  · simp only [release, List.set_comm _ _ same]

theorem set_release_comm (arena : Arena α) {first second : Nat} (object : α)
    (apart : first ≠ second) :
    (arena.set first object).release second = (arena.release second).set first object := by
  simp only [set, release, List.set_comm _ _ apart]

end Arena

end SessionStreams
