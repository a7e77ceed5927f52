import SessionStreams.World.Tree

set_option autoImplicit false

/- Walks through the tree. A walk starts at the root and keeps what it came past, so that it can go
back up. Main statement: a walk that keeps to the tree ends at what stands in its place
(`node?_place`). -/

namespace SessionStreams

/-- The names that were entered and what each of them names, the last one first. -/
structure Trail where
  root : Tree
  steps : List (Name × Item) := []
deriving DecidableEq

namespace Trail

def place (trail : Trail) : Location := (trail.steps.map (·.1)).reverse

def node (trail : Trail) : Node :=
  match trail.steps with
  | [] => .directory
  | (_, item) :: _ => item.node

/-- The entries of the directory that a walk has reached. -/
def inside? (trail : Trail) : Option Tree :=
  match trail.steps with
  | [] => some trail.root
  | (_, .directory inside) :: _ => some inside
  | (_, .leaf _) :: _ => none

def enter (trail : Trail) (name : Name) : Except OsCode Trail :=
  match trail.inside? with
  | none => .error .notDirectory
  | some inside =>
      if name = Path.dot then .ok trail
      else if name = Path.dotDot then .ok { trail with steps := trail.steps.tail }
      else if Tree.nameLimit < name.length then .error .nameTooLong
      else match inside.find? name with
        | none => .error .noEntry
        | some item => .ok { trail with steps := (name, item) :: trail.steps }

def walk (trail : Trail) : List Name → Except OsCode Trail
  | [] => .ok trail
  | name :: rest =>
      match trail.enter name with
      | .error code => .error code
      | .ok next => walk next rest

/-- A walk that has to end at a directory. -/
def walkDirectory (trail : Trail) (names : List Name) : Except OsCode Trail :=
  match trail.walk names with
  | .error code => .error code
  | .ok reached => if reached.inside?.isSome then .ok reached else .error .notDirectory

/-- Each step names an entry of the directory that the steps before it have reached. -/
def Follows (root : Tree) : List (Name × Item) → Prop
  | [] => True
  | (name, item) :: before =>
      Follows root before ∧
        ∃ inside, (Trail.mk root before).inside? = some inside ∧ inside.find? name = some item

def Sound (trail : Trail) : Prop := Follows trail.root trail.steps

theorem sound_start (root : Tree) : Sound { root } := trivial

theorem follows_tail {root : Tree} {steps : List (Name × Item)} (sound : Follows root steps) :
    Follows root steps.tail := by
  cases steps with
  | nil => trivial
  | cons step before => exact sound.1

theorem sound_enter {trail next : Trail} {name : Name} (sound : trail.Sound)
    (entered : trail.enter name = .ok next) : next.Sound := by
  unfold enter at entered
  cases reached : trail.inside? with
  | none => simp [reached] at entered
  | some inside =>
      simp only [reached] at entered
      split at entered
      · cases entered
        exact sound
      split at entered
      · cases entered
        exact follows_tail sound
      split at entered
      · cases entered
      cases found : inside.find? name with
      | none => simp [found] at entered
      | some item =>
          simp only [found] at entered
          cases entered
          exact ⟨sound, inside, reached, found⟩

theorem sound_walk {trail reached : Trail} {names : List Name} (sound : trail.Sound)
    (walked : trail.walk names = .ok reached) : reached.Sound := by
  induction names generalizing trail with
  | nil =>
      cases walked
      exact sound
  | cons name rest ih =>
      unfold walk at walked
      cases entered : trail.enter name with
      | error code => simp [entered] at walked
      | ok next =>
          simp only [entered] at walked
          exact ih (sound_enter sound entered) walked

theorem below?_place {trail : Trail} (sound : trail.Sound) :
    trail.root.below? trail.place = trail.inside? := by
  obtain ⟨root, steps⟩ := trail
  induction steps with
  | nil => rfl
  | cons step before ih =>
      obtain ⟨name, item⟩ := step
      obtain ⟨earlier, inside, reached, found⟩ := sound
      have above := ih earlier
      simp only [place, List.map_cons, List.reverse_cons] at above ⊢
      rw [Tree.below?_append, above, reached, Option.bind_some, Tree.below?, found]
      cases item <;> rfl

theorem node?_place {trail : Trail} (sound : trail.Sound) :
    trail.root.node? trail.place = some trail.node := by
  obtain ⟨root, steps⟩ := trail
  cases steps with
  | nil => exact Tree.node?_root root
  | cons step before =>
      obtain ⟨name, item⟩ := step
      obtain ⟨earlier, inside, reached, found⟩ := sound
      have above := @below?_place ⟨root, before⟩ earlier
      rw [reached] at above
      simp only [place, List.map_cons, List.reverse_cons] at above ⊢
      rw [Tree.node?_append_place above, Tree.node?_cons, found]
      cases item with
      | leaf stored => rfl
      | directory deeper => exact Tree.node?_root deeper

end Trail

end SessionStreams
