import SessionStreams.Proofs.Places
import SessionStreams.World.Directories
import SessionStreams.World.Descriptors

set_option autoImplicit false

/- Growth of the tree. Opening a file and making directories leave every file and every directory
where it stands (`grows_openForWriting`, `grows_makeDirectories`); reading, writing and closing do
not touch the tree at all (`keeps_write`, `keeps_close`). -/

namespace SessionStreams

namespace World

/-- What stood somewhere still stands there, and the settings of the world are the same. Names were
drawn or not. -/
structure Grows (before after : World) : Prop where
  workingDirectory : after.workingDirectory = before.workingDirectory
  homeVariable : after.homeVariable = before.homeVariable
  temporaryVariable : after.temporaryVariable = before.temporaryVariable
  accountHome : after.accountHome = before.accountHome
  drawn : before.drawn ≤ after.drawn
  node : ∀ place node, before.tree.node? place = some node → after.tree.node? place = some node

namespace Grows

theorem refl (world : World) : Grows world world :=
  ⟨rfl, rfl, rfl, rfl, Nat.le_refl _, fun _ _ stands => stands⟩

theorem trans {first second third : World} (one : Grows first second) (two : Grows second third) :
    Grows first third :=
  ⟨two.workingDirectory.trans one.workingDirectory, two.homeVariable.trans one.homeVariable,
    two.temporaryVariable.trans one.temporaryVariable, two.accountHome.trans one.accountHome,
    Nat.le_trans one.drawn two.drawn,
    fun place node stands => two.node place node (one.node place node stands)⟩

theorem place {before after : World} (grows : Grows before after) (path : Path) :
    after.place path = before.place path := by
  simp only [World.place, fromRoot, grows.workingDirectory]

end Grows

/-- The same tree and settings, whatever became of files and descriptors. -/
structure Keeps (before after : World) : Prop where
  tree : after.tree = before.tree
  workingDirectory : after.workingDirectory = before.workingDirectory
  homeVariable : after.homeVariable = before.homeVariable
  temporaryVariable : after.temporaryVariable = before.temporaryVariable
  accountHome : after.accountHome = before.accountHome
  drawn : after.drawn = before.drawn

namespace Keeps

theorem refl (world : World) : Keeps world world := ⟨rfl, rfl, rfl, rfl, rfl, rfl⟩

theorem trans {first second third : World} (one : Keeps first second) (two : Keeps second third) :
    Keeps first third :=
  ⟨two.tree.trans one.tree, two.workingDirectory.trans one.workingDirectory,
    two.homeVariable.trans one.homeVariable, two.temporaryVariable.trans one.temporaryVariable,
    two.accountHome.trans one.accountHome, two.drawn.trans one.drawn⟩

theorem grows {before after : World} (keeps : Keeps before after) : Grows before after := by
  refine ⟨keeps.workingDirectory, keeps.homeVariable, keeps.temporaryVariable,
    keeps.accountHome, Nat.le_of_eq keeps.drawn.symm, ?_⟩
  intro place node stands
  rw [keeps.tree]
  exact stands

end Keeps

theorem keeps_openForReading {world after : World} {path : Path} {fd : Nat}
    (opened : world.openForReading path = .ok (fd, after)) : Keeps world after := by
  unfold openForReading at opened
  split at opened
  · cases opened
  · cases opened
    exact ⟨rfl, rfl, rfl, rfl, rfl, rfl⟩

theorem keeps_read {world after : World} {fd count : Nat} {data : Bytes}
    (finished : world.read fd count = .ok (data, after)) : Keeps world after := by
  unfold World.read at finished
  repeat' split at finished
  all_goals cases finished
  all_goals exact ⟨rfl, rfl, rfl, rfl, rfl, rfl⟩

theorem keeps_write {world after : World} {fd taken : Nat} {data : Bytes}
    (finished : world.write fd data = .ok (taken, after)) : Keeps world after := by
  unfold World.write at finished
  repeat' split at finished
  all_goals cases finished
  all_goals exact ⟨rfl, rfl, rfl, rfl, rfl, rfl⟩

theorem keeps_close (world : World) (fd : Nat) : Keeps world (world.close fd) := by
  unfold World.close closePipeEnd
  split
  · exact Keeps.refl world
  · split
    · split
      · exact ⟨rfl, rfl, rfl, rfl, rfl, rfl⟩
      · exact ⟨rfl, rfl, rfl, rfl, rfl, rfl⟩
    · exact ⟨rfl, rfl, rfl, rfl, rfl, rfl⟩

/-- A position with a name is one below a directory that the walk to its last name reached. -/
theorem position_spec {world : World} {path : Path} {parent : Location} {siblings : Tree}
    {name : Name} (found : world.position path = .ok ⟨parent, siblings, some name⟩) :
    checkPath path = .ok () ∧ world.tree.below? parent = some siblings ∧
      world.tree.Passable [] (world.fromRoot path path.names.dropLast) ∧
      parent = Location.along [] (world.fromRoot path path.names.dropLast) ∧
      path.names.getLast? = some name ∧ name ≠ Path.dot ∧ name ≠ Path.dotDot := by
  unfold position at found
  cases checked : checkPath path with
  | error failure => simp [checked] at found
  | ok value =>
      cases walked : Trail.walk { root := world.tree }
          (world.fromRoot path path.names.dropLast) with
      | error code => simp [checked, walked] at found
      | ok trail =>
          cases reached : trail.inside? with
          | none => simp [checked, walked, reached] at found
          | some inside =>
              simp only [checked, walked, reached, Except.ok.injEq, Position.mk.injEq,
                Option.filter_eq_some_iff] at found
              obtain ⟨rfl, rfl, last, proper⟩ := found
              have start := Trail.sound_start world.tree
              have sound := Trail.sound_walk start walked
              obtain ⟨place, root⟩ := Trail.place_walk walked
              have passable := (Trail.exists_walk_iff start _).mp ⟨trail, walked⟩
              have below := Trail.below?_place sound
              rw [root, reached] at below
              have named : name ≠ Path.dot ∧ name ≠ Path.dotDot := by simpa using proper
              exact ⟨rfl, below, passable, place, last, named⟩

theorem fromRoot_append (world : World) (path : Path) (front back : List Name) :
    world.fromRoot path (front ++ back) = world.fromRoot path front ++ back := by
  unfold fromRoot
  split
  · rfl
  · rw [List.append_assoc]

/-- The last step to where a path leads. -/
theorem fromRoot_of_getLast? (world : World) {path : Path} {name : Name}
    (last : path.names.getLast? = some name) :
    world.fromRoot path path.names = world.fromRoot path path.names.dropLast ++ [name] := by
  rw [← fromRoot_append]
  obtain ⟨front, split⟩ := List.getLast?_eq_some_iff.mp last
  rw [split, List.dropLast_concat]

theorem place_of_position {world : World} {path : Path}
    {parent : Location} {siblings : Tree} {name : Name}
    (found : world.position path = .ok ⟨parent, siblings, some name⟩) :
    world.place path = parent ++ [name] := by
  obtain ⟨-, -, -, here, last, notDot, notUp⟩ := position_spec found
  rw [World.place, fromRoot_of_getLast? world last, Location.along_append, ← here,
    Location.along_singleton, Location.step_of_proper notDot notUp]

/-- The way to what stands at the position of a path. -/
theorem way_of_position {world after : World} {path : Path} {parent : Location} {siblings : Tree}
    {name : Name} (found : world.position path = .ok ⟨parent, siblings, some name⟩)
    (short : name.length ≤ Tree.nameLimit) (grows : world.Grows after) {node : Node}
    (stands : after.tree.node? (parent ++ [name]) = some node) :
    after.tree.Passable [] (after.fromRoot path path.names) ∧
      after.place path = parent ++ [name] := by
  obtain ⟨-, below, passable, here, last, notDot, notUp⟩ := position_spec found
  have route : after.fromRoot path path.names =
      world.fromRoot path path.names.dropLast ++ [name] := by
    rw [fromRoot_of_getLast? after last, fromRoot, fromRoot, grows.workingDirectory]
  have directory : after.tree.node? parent = some .directory := by
    apply grows.node
    rw [Tree.node?_eq_directory_iff, below]
    rfl
  refine ⟨?_, (grows.place path).trans (place_of_position found)⟩
  rw [route, Tree.passable_append, ← here]
  refine ⟨passable.mono fun other _ node stands => grows.node other node stands, directory,
    fun _ _ => short, ?_, trivial⟩
  rw [Location.step_of_proper notDot notUp, stands]
  rfl

/-- A new entry below a directory leaves all others as they are. -/
theorem grows_add {world : World} {parent : Location} {siblings : Tree} {name : Name} {item : Item}
    (below : world.tree.below? parent = some siblings) (fresh : siblings.find? name = none)
    (bare : item = .directory .empty ∨ ∃ stored, item = .leaf stored)
    (files : Arena (Array UInt8)) :
    Grows world { world with files, tree := world.tree.add parent name item } := by
  refine ⟨rfl, rfl, rfl, rfl, Nat.le_refl _, ?_⟩
  intro place node stands
  have added := Tree.node?_add below fresh bare place
  by_cases here : place = parent ++ [name]
  · rw [here, Tree.node?_append_place below, Tree.node?_cons, fresh] at stands
    cases stands
  · rw [if_neg here] at added
    exact added.trans stands

theorem grows_openForWriting {world after : World} {path : Path} {opening : Opening} {fd : Nat}
    (opened : world.openForWriting path opening = .ok (fd, after)) : Grows world after := by
  unfold openForWriting at opened
  simp only at opened
  split at opened
  · cases opened
  · cases opened
  · next parent siblings name found =>
      obtain ⟨-, below, -⟩ := position_spec found
      repeat' split at opened
      all_goals cases opened
      · exact Keeps.grows ⟨rfl, rfl, rfl, rfl, rfl, rfl⟩
      · exact Keeps.grows ⟨rfl, rfl, rfl, rfl, rfl, rfl⟩
      · exact Keeps.grows ⟨rfl, rfl, rfl, rfl, rfl, rfl⟩
      · next fresh =>
          have grown := grows_add below fresh (Or.inr ⟨.file world.files.fresh, rfl⟩)
            (world.files.alloc #[])
          exact grown.trans (Keeps.grows ⟨rfl, rfl, rfl, rfl, rfl, rfl⟩)

theorem makeDirectory_spec {world after : World} {path : Path}
    (made : world.makeDirectory path = .ok after) :
    ∃ parent siblings name, world.position path = .ok ⟨parent, siblings, some name⟩ ∧
      name.length ≤ Tree.nameLimit ∧ siblings.find? name = none ∧
      after = { world with tree := world.tree.add parent name (.directory .empty) } := by
  unfold makeDirectory at made
  split at made
  · cases made
  · cases made
  · next parent siblings name found =>
      split at made
      · cases made
      · next short =>
          split at made
          · cases made
          · next fresh =>
              cases made
              exact ⟨parent, siblings, name, found, Nat.not_lt.mp short, by simpa using fresh, rfl⟩

theorem grows_makeDirectory {world after : World} {path : Path}
    (made : world.makeDirectory path = .ok after) : Grows world after := by
  obtain ⟨parent, siblings, name, found, -, fresh, rfl⟩ := makeDirectory_spec made
  exact grows_add (position_spec found).2.1 fresh (Or.inl rfl) world.files

theorem grows_ensureDirectory {world after : World} {path : Path}
    (ensured : world.ensureDirectory path = .ok after) : Grows world after := by
  unfold ensureDirectory at ensured
  split at ensured
  · next made =>
      cases ensured
      exact grows_makeDirectory made
  · split at ensured
    · cases ensured
      exact Grows.refl world
    · cases ensured

theorem grows_makeDirectories (world : World) (path : Path) :
    Grows world (world.makeDirectories path).2 := by
  fun_induction World.makeDirectories world path with
  | case1 path => exact Grows.refl world
  | case2 path parent _ after ensured => exact grows_ensureDirectory ensured
  | case3 path parent _ failure after above _ ih =>
      rw [above] at ih
      exact ih
  | case4 path parent _ _ middle above final ensured _ ih =>
      rw [above] at ih
      exact ih.trans (grows_ensureDirectory ensured)
  | case5 path parent _ _ middle above failure refused _ ih =>
      rw [above] at ih
      exact ih
  | case6 => exact Grows.refl world

/-- The directory for temporary files, as it is when a name below it is tried. -/
def temporaryBase (world : World) : Path :=
  if world.temporaryVariable.rooted then world.temporaryVariable
  else (Location.text world.workingDirectory).join world.temporaryVariable

/-- The path that a temporary directory with this number has. -/
def temporaryPath (world : World) (number : Nat) : Path :=
  world.temporaryBase.join (temporaryName number)

theorem tryTemporary_spec {world after : World} {base path : Path} {attempts number : Nat}
    (made : world.tryTemporary base attempts number = .ok (path, after)) :
    ∃ drawn middle, number ≤ drawn ∧ path = base.join (temporaryName drawn) ∧
      world.makeDirectory path = .ok middle ∧ after = { middle with drawn := drawn + 1 } := by
  induction attempts generalizing number with
  | zero => cases made
  | succ attempts ih =>
      unfold tryTemporary at made
      simp only at made
      split at made
      · next middle tried =>
          cases made
          exact ⟨number, middle, Nat.le_refl _, rfl, tried, rfl⟩
      · split at made
        · obtain ⟨drawn, middle, later, rest⟩ := ih made
          exact ⟨drawn, middle, Nat.le_of_succ_le later, rest⟩
        · cases made

theorem makeTemporary_spec {world after : World} {path : Path}
    (made : world.makeTemporary = .ok (path, after)) :
    ∃ drawn middle, world.drawn ≤ drawn ∧ path = world.temporaryPath drawn ∧
      world.makeDirectory path = .ok middle ∧ after = { middle with drawn := drawn + 1 } :=
  tryTemporary_spec made

theorem grows_makeTemporary {world after : World} {path : Path}
    (made : world.makeTemporary = .ok (path, after)) : Grows world after := by
  obtain ⟨drawn, middle, later, -, created, rfl⟩ := makeTemporary_spec made
  have grown := grows_makeDirectory created
  exact ⟨grown.workingDirectory, grown.homeVariable, grown.temporaryVariable,
    grown.accountHome, Nat.le_succ_of_le later, grown.node⟩

end World

end SessionStreams
