import SessionStreams.World.Failure
import SessionStreams.World.Path

set_option autoImplicit false

/- The tree of names. A directory is a list of entries, each a file known by the number of its
contents, a device, or a directory with entries of its own; the root is a directory. Main
statements: what stands at a place after an entry was added (`node?_add`) and after one was cut off
(`node?_cut`), and that cuts commute (`cut_comm`). -/

namespace SessionStreams

/-- The names from the root down. -/
abbrev Location := List Name

/-- `full` has no room for data and an endless supply of zeros; `null` takes everything and is
empty. -/
inductive Device where
  | full
  | null
deriving DecidableEq

inductive Leaf where
  | file (contents : Nat)
  | device (device : Device)
deriving DecidableEq

/-- The entries of a directory, in the order in which they were made. -/
inductive Tree where
  | empty
  | leaf (name : Name) (leaf : Leaf) (rest : Tree)
  | branch (name : Name) (inside rest : Tree)
deriving DecidableEq

/-- What stands at a place. -/
inductive Node where
  | directory
  | leaf (leaf : Leaf)
deriving DecidableEq

/-- What an entry names. -/
inductive Item where
  | directory (inside : Tree)
  | leaf (leaf : Leaf)
deriving DecidableEq

def Item.node : Item → Node
  | .directory _ => .directory
  | .leaf stored => .leaf stored

namespace Tree

def nameLimit : Nat := 255

def find? : Tree → Name → Option Item
  | .empty, _ => none
  | .leaf name stored rest, wanted => if name = wanted then some (.leaf stored) else rest.find? wanted
  | .branch name inside rest, wanted =>
      if name = wanted then some (.directory inside) else rest.find? wanted

def node? : Tree → Location → Option Node
  | _, [] => some .directory
  | .empty, _ :: _ => none
  | .leaf name stored rest, first :: further =>
      if name = first then (if further = [] then some (.leaf stored) else none)
      else rest.node? (first :: further)
  | .branch name inside rest, first :: further =>
      if name = first then inside.node? further else rest.node? (first :: further)

/-- Adds an entry behind all others. -/
def append : Tree → Name → Item → Tree
  | .empty, name, .directory inside => .branch name inside .empty
  | .empty, name, .leaf stored => .leaf name stored .empty
  | .leaf other stored rest, name, item => .leaf other stored (rest.append name item)
  | .branch other inside rest, name, item => .branch other inside (rest.append name item)

/-- Changes the entries of the directory at a place, if there is one. -/
def alter (change : Tree → Tree) : Tree → Location → Tree
  | tree, [] => change tree
  | .empty, _ :: _ => .empty
  | .leaf name stored rest, first :: further =>
      if name = first then .leaf name stored rest
      else .leaf name stored (rest.alter change (first :: further))
  | .branch name inside rest, first :: further =>
      if name = first then .branch name (inside.alter change further) rest
      else .branch name inside (rest.alter change (first :: further))

/-- Adds an entry to the directory at `parent`. -/
def add (tree : Tree) (parent : Location) (name : Name) (item : Item) : Tree :=
  tree.alter (·.append name item) parent

/-- Removes all that stands below a place. -/
def clear (tree : Tree) (place : Location) : Tree := tree.alter (fun _ => .empty) place

/-- Removes an entry and all that stands below it. -/
def cut : Tree → Location → Tree
  | _, [] => .empty
  | .empty, _ :: _ => .empty
  | .leaf name stored rest, first :: further =>
      if name = first ∧ further = [] then rest.cut (first :: further)
      else .leaf name stored (rest.cut (first :: further))
  | .branch name inside rest, first :: further =>
      if name = first then
        if further = [] then rest.cut (first :: further)
        else .branch name (inside.cut further) (rest.cut (first :: further))
      else .branch name inside (rest.cut (first :: further))

/-- Every place at which something stands, but for the root. -/
def entries : Tree → List (Location × Node)
  | .empty => []
  | .leaf name stored rest => ([name], .leaf stored) :: rest.entries
  | .branch name inside rest =>
      ([name], .directory) ::
        (inside.entries.map (fun entry => (name :: entry.1, entry.2)) ++ rest.entries)

/-- The number of entries. -/
def size : Tree → Nat
  | .empty => 0
  | .leaf _ _ rest => rest.size + 1
  | .branch _ inside rest => inside.size + rest.size + 1

@[simp] theorem node?_root (tree : Tree) : tree.node? [] = some .directory := by
  cases tree <;> rfl

theorem node?_cons (tree : Tree) (first : Name) (further : Location) :
    tree.node? (first :: further) =
      match tree.find? first with
      | none => none
      | some (.leaf stored) => if further = [] then some (.leaf stored) else none
      | some (.directory inside) => inside.node? further := by
  induction tree with
  | empty => rfl
  | leaf name stored rest ih =>
      by_cases same : name = first
      · simp [node?, find?, same]
      · simp only [node?, find?, if_neg same, ih]
  | branch name inside rest _ ih =>
      by_cases same : name = first
      · simp [node?, find?, same]
      · simp only [node?, find?, if_neg same, ih]

theorem find?_append (tree : Tree) (name wanted : Name) (item : Item) :
    (tree.append name item).find? wanted =
      (tree.find? wanted).or (if name = wanted then some item else none) := by
  induction tree with
  | empty => cases item <;> rfl
  | leaf other stored rest ih =>
      by_cases same : other = wanted
      · simp [append, find?, same]
      · simp only [append, find?, if_neg same, ih]
  | branch other inside rest _ ih =>
      by_cases same : other = wanted
      · simp [append, find?, same]
      · simp only [append, find?, if_neg same, ih]

theorem find?_alter_cons (change : Tree → Tree) (tree : Tree) (first wanted : Name)
    (further : Location) :
    (tree.alter change (first :: further)).find? wanted =
      if first = wanted then
        (tree.find? wanted).map fun item =>
          match item with
          | .directory inside => .directory (inside.alter change further)
          | .leaf stored => .leaf stored
      else tree.find? wanted := by
  induction tree with
  | empty => simp [alter, find?]
  | leaf name stored rest ih =>
      by_cases here : name = first
      · subst here
        by_cases same : name = wanted <;> simp [alter, find?, same]
      · by_cases same : name = wanted
        · subst same
          simp [alter, find?, here, Ne.symm here]
        · simp only [alter, find?, if_neg here, if_neg same, ih]
  | branch name inside rest _ ih =>
      by_cases here : name = first
      · subst here
        by_cases same : name = wanted <;> simp [alter, find?, same]
      · by_cases same : name = wanted
        · subst same
          simp [alter, find?, here, Ne.symm here]
        · simp only [alter, find?, if_neg here, if_neg same, ih]

/-- What stands at a place after the entries of another were changed. -/
theorem node?_alter (change : Tree → Tree) (tree : Tree) (place other : Location)
    (apart : ¬ place <+: other) : (tree.alter change place).node? other = tree.node? other := by
  induction place generalizing tree other with
  | nil => exact absurd List.nil_prefix apart
  | cons first further ih =>
      cases other with
      | nil => simp
      | cons wanted rest =>
          rw [node?_cons, node?_cons, find?_alter_cons]
          by_cases same : first = wanted
          · subst same
            have below : ¬ further <+: rest := fun inside =>
              apart (List.cons_prefix_cons.mpr ⟨rfl, inside⟩)
            rw [if_pos rfl]
            cases tree.find? first with
            | none => rfl
            | some item =>
                cases item with
                | leaf stored => rfl
                | directory inside => exact ih inside rest below
          · rw [if_neg same]

/-- The entries of the directory at a place. -/
def below? : Tree → Location → Option Tree
  | tree, [] => some tree
  | tree, first :: further =>
      match tree.find? first with
      | some (.directory inside) => inside.below? further
      | _ => none

theorem below?_append (tree : Tree) (place further : Location) :
    tree.below? (place ++ further) = (tree.below? place).bind (·.below? further) := by
  induction place generalizing tree with
  | nil => rfl
  | cons first rest ih =>
      rw [List.cons_append, below?, below?]
      cases tree.find? first with
      | none => rfl
      | some item =>
          cases item with
          | leaf stored => rfl
          | directory inside => exact ih inside

theorem node?_eq_directory_iff (tree : Tree) (place : Location) :
    tree.node? place = some .directory ↔ (tree.below? place).isSome := by
  induction place generalizing tree with
  | nil => simp [below?]
  | cons first further ih =>
      rw [node?_cons, below?]
      cases tree.find? first with
      | none => simp
      | some item =>
          cases item with
          | leaf stored => by_cases last : further = [] <;> simp [last]
          | directory inside => exact ih inside

theorem node?_append_place {tree inside : Tree} {place : Location}
    (found : tree.below? place = some inside) (further : Location) :
    tree.node? (place ++ further) = inside.node? further := by
  induction place generalizing tree with
  | nil =>
      cases found
      rfl
  | cons first rest ih =>
      rw [below?] at found
      rw [List.cons_append, node?_cons]
      cases entry : tree.find? first with
      | none => simp [entry] at found
      | some item =>
          cases item with
          | leaf stored => simp [entry] at found
          | directory deeper =>
              rw [entry] at found
              exact ih found

theorem below?_alter (change : Tree → Tree) (tree : Tree) (place : Location) :
    (tree.alter change place).below? place = (tree.below? place).map change := by
  induction place generalizing tree with
  | nil => cases tree <;> rfl
  | cons first further ih =>
      rw [below?, below?, find?_alter_cons, if_pos rfl]
      cases tree.find? first with
      | none => rfl
      | some item =>
          cases item with
          | leaf stored => rfl
          | directory inside => exact ih inside

theorem node?_append (tree : Tree) (name : Name) (item : Item) (fresh : tree.find? name = none)
    (first : Name) (further : Location) :
    (tree.append name item).node? (first :: further) =
      if first = name then
        (match item with
        | .leaf stored => if further = [] then some (.leaf stored) else none
        | .directory inside => inside.node? further)
      else tree.node? (first :: further) := by
  rw [node?_cons, node?_cons, find?_append]
  by_cases same : first = name
  · subst same
    rw [fresh, if_pos rfl, if_pos rfl]
    cases item <;> rfl
  · rw [if_neg (Ne.symm same), if_neg same, Option.or_none]

/-- An entry without anything below it adds itself and changes nothing else. -/
theorem node?_add {tree inside : Tree} {parent : Location} {name : Name}
    (found : tree.below? parent = some inside) (fresh : inside.find? name = none)
    {item : Item} (bare : item = .directory .empty ∨ ∃ stored, item = .leaf stored)
    (other : Location) :
    (tree.add parent name item).node? other =
      if other = parent ++ [name] then some item.node else tree.node? other := by
  by_cases under : parent <+: other
  · obtain ⟨further, rfl⟩ := under
    have changed : (tree.add parent name item).below? parent = some (inside.append name item) := by
      rw [add, below?_alter, found, Option.map_some]
    rw [node?_append_place changed, node?_append_place found]
    cases further with
    | nil => simp
    | cons first rest =>
        rw [node?_append inside name item fresh]
        by_cases same : first = name
        · subst same
          rw [node?_cons, fresh]
          rcases bare with rfl | ⟨stored, rfl⟩
          · cases rest <;> simp [node?, Item.node]
          · by_cases last : rest = [] <;> simp [last, Item.node]
        · simp [same]
  · rw [add, node?_alter _ _ _ _ under, if_neg]
    rintro rfl
    exact under (List.prefix_append _ _)

theorem find?_cut (tree : Tree) (first wanted : Name) (further : Location) :
    (tree.cut (first :: further)).find? wanted =
      if first = wanted then
        (match tree.find? wanted with
        | some (.directory inside) =>
            if further = [] then none else some (.directory (inside.cut further))
        | some (.leaf stored) => if further = [] then none else some (.leaf stored)
        | none => none)
      else tree.find? wanted := by
  induction tree with
  | empty => simp [cut, find?]
  | leaf name stored rest ih =>
      by_cases here : name = first
      · subst here
        by_cases last : further = []
        · subst last
          by_cases same : name = wanted
          · subst same
            simp only [and_self, ↓reduceIte, cut, ih, find?]
            cases rest.find? name with
            | none => rfl
            | some item => cases item <;> rfl
          · simp [cut, find?, same, ih]
        · by_cases same : name = wanted <;> simp [cut, find?, same, last, ih]
      · by_cases same : name = wanted
        · subst same
          simp [cut, find?, here, Ne.symm here]
        · simp only [cut, find?, here, false_and, if_false, if_neg same, ih]
  | branch name inside rest _ ih =>
      by_cases here : name = first
      · subst here
        by_cases last : further = []
        · subst last
          by_cases same : name = wanted
          · subst same
            simp only [↓reduceIte, cut, ih, find?]
            cases rest.find? name with
            | none => rfl
            | some item => cases item <;> rfl
          · simp [cut, find?, same, ih]
        · by_cases same : name = wanted <;> simp [cut, find?, same, last, ih]
      · by_cases same : name = wanted
        · subst same
          simp [cut, find?, here, Ne.symm here]
        · simp only [cut, find?, if_neg here, if_neg same, ih]

theorem node?_cut (tree : Tree) {place : Location} (proper : place ≠ []) (other : Location) :
    (tree.cut place).node? other = if place <+: other then none else tree.node? other := by
  induction place generalizing tree other with
  | nil => exact absurd rfl proper
  | cons first further ih =>
      cases other with
      | nil => simp
      | cons wanted rest =>
          rw [node?_cons, node?_cons, find?_cut]
          by_cases same : first = wanted
          · subst same
            simp only [if_true, List.cons_prefix_cons, true_and]
            by_cases last : further = []
            · subst last
              rw [if_pos List.nil_prefix]
              cases tree.find? first with
              | none => rfl
              | some item => cases item <;> rfl
            · cases tree.find? first with
              | none => simp
              | some item =>
                  cases item with
                  | leaf stored =>
                      by_cases done : rest = []
                      · subst done
                        simp [last]
                      · simp [last, done]
                  | directory inside => simpa [last] using ih inside last rest
          · rw [if_neg same, if_neg]
            intro under
            exact same (List.cons_prefix_cons.mp under).1

theorem cut_empty (place : Location) : Tree.empty.cut place = .empty := by
  cases place <;> rfl

theorem cut_comm (tree : Tree) (first second : Location) :
    (tree.cut first).cut second = (tree.cut second).cut first := by
  induction tree generalizing first second with
  | empty => rw [cut_empty, cut_empty, cut_empty]
  | leaf name stored rest ih =>
      cases first with
      | nil => rw [cut, cut, cut_empty]
      | cons one more =>
          cases second with
          | nil => rw [cut, cut, cut_empty]
          | cons two others =>
              have swap := ih (one :: more) (two :: others)
              by_cases here : name = one ∧ more = [] <;> by_cases there : name = two ∧ others = []
              · simp only [cut, if_pos here, if_pos there, swap]
              · simp only [cut, if_pos here, if_neg there, swap]
              · simp only [cut, if_neg here, if_pos there, swap]
              · simp only [cut, if_neg here, if_neg there, swap]
  | branch name inside rest insideIh ih =>
      cases first with
      | nil => rw [cut, cut, cut_empty]
      | cons one more =>
          cases second with
          | nil => rw [cut, cut, cut_empty]
          | cons two others =>
              have swap := ih (one :: more) (two :: others)
              have within := insideIh more others
              by_cases here : name = one <;> by_cases there : name = two
              · by_cases last : more = [] <;> by_cases done : others = []
                · simp only [cut, if_pos here, if_pos there, if_pos last, if_pos done, swap]
                · simp only [cut, if_pos here, if_pos there, if_pos last, if_neg done, swap]
                · simp only [cut, if_pos here, if_pos there, if_neg last, if_pos done, swap]
                · simp only [cut, if_pos here, if_pos there, if_neg last, if_neg done, swap, within]
              · by_cases last : more = []
                · simp only [cut, if_pos here, if_neg there, if_pos last, swap]
                · simp only [cut, if_pos here, if_neg there, if_neg last, swap]
              · by_cases done : others = []
                · simp only [cut, if_neg here, if_pos there, if_pos done, swap]
                · simp only [cut, if_neg here, if_pos there, if_neg done, swap]
              · simp only [cut, if_neg here, if_neg there, swap]

/-- A cut takes along what would have been cut further below. -/
theorem cut_append_cut (tree : Tree) (place further : Location) :
    (tree.cut (place ++ further)).cut place = tree.cut place := by
  induction tree generalizing place with
  | empty => rw [cut_empty]
  | leaf name stored rest ih =>
      cases place with
      | nil => rw [cut, cut]
      | cons first more =>
          have below := ih (first :: more)
          rw [List.cons_append] at below ⊢
          by_cases here : name = first ∧ more = []
          · by_cases whole : name = first ∧ more ++ further = []
            · simp only [cut, if_pos whole, if_pos here, below]
            · simp only [cut, if_neg whole, if_pos here, below]
          · have longer : ¬ (name = first ∧ more ++ further = []) := fun both =>
              here ⟨both.1, (List.append_eq_nil_iff.mp both.2).1⟩
            simp only [cut, if_neg longer, if_neg here, below]
  | branch name inside rest insideIh ih =>
      cases place with
      | nil => rw [cut, cut]
      | cons first more =>
          have below := ih (first :: more)
          have within := insideIh more
          rw [List.cons_append] at below ⊢
          by_cases here : name = first
          · by_cases whole : more ++ further = []
            · have last := (List.append_eq_nil_iff.mp whole).1
              simp only [cut, if_pos here, if_pos whole, if_pos last, below]
            · by_cases last : more = []
              · simp only [cut, if_pos here, if_neg whole, if_pos last, below]
              · simp only [cut, if_pos here, if_neg whole, if_neg last, below, within]
          · simp only [cut, if_neg here, below]

end Tree

end SessionStreams
