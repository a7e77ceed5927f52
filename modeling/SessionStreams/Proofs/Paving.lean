import SessionStreams.Proofs.Plain
import SessionStreams.Proofs.Residences

set_option autoImplicit false

/- Making a directory with all that is missing on the way. A plain path leads down from the working
directory, one name after the other (`place_of_plain`). It can be made if nothing but directories
stands on the way (`Ready`); then just the missing ones are added (`Paved`), and otherwise the
attempt leaves at most some of those before the last (`creates_makeDirectories`). -/

namespace SessionStreams

namespace Location

theorem along_of_proper {names : List Name}
    (proper : ∀ name ∈ names, name ≠ Path.dot ∧ name ≠ Path.dotDot) (place : Location) :
    place.along names = place ++ names := by
  induction names generalizing place with
  | nil => exact (List.append_nil place).symm
  | cons name rest ih =>
      obtain ⟨notDot, notUp⟩ := proper name List.mem_cons_self
      rw [along, List.foldl_cons, step_of_proper notDot notUp, ← along,
        ih fun other member => proper other (List.mem_cons_of_mem _ member), List.append_assoc,
        List.singleton_append]

end Location

namespace Tree

variable {tree : Tree} {place : Location} {names : List Name}

theorem directory_of_within {front whole : Location} (within : front <+: whole)
    (stands : tree.node? whole = some .directory) : tree.node? front = some .directory := by
  obtain ⟨further, rfl⟩ := within
  by_cases here : further = []
  · rw [here, List.append_nil] at stands
    exact stands
  · exact node?_of_ancestor stands here

theorem isSome_node?_concat {siblings : Tree} (below : tree.below? place = some siblings)
    (name : Name) : (tree.node? (place ++ [name])).isSome = (siblings.find? name).isSome := by
  rw [node?_append_place below, node?_cons]
  cases siblings.find? name with
  | none => rfl
  | some item =>
      cases item with
      | leaf stored => rfl
      | directory inside =>
          dsimp only
          rw [node?_root]
          rfl

/-- A walk down to a directory gets through. -/
theorem passable_of_directory (proper : ∀ name ∈ names, name ≠ Path.dot ∧ name ≠ Path.dotDot)
    (short : ∀ name ∈ names, name.length ≤ nameLimit)
    (stands : tree.node? (place ++ names) = some .directory) : tree.Passable place names := by
  induction names generalizing place with
  | nil => trivial
  | cons name rest ih =>
      obtain ⟨notDot, notUp⟩ := proper name List.mem_cons_self
      have entered : place ++ [name] <+: place ++ name :: rest :=
        (List.prefix_append_right_inj place).mpr (List.prefix_append [name] rest)
      have next : tree.node? (place.step name) = some .directory := by
        rw [Location.step_of_proper notDot notUp]
        exact directory_of_within entered stands
      refine ⟨directory_of_within (List.prefix_append _ _) stands,
        fun _ _ => short name List.mem_cons_self, Option.isSome_of_eq_some next, ?_⟩
      refine ih (fun other member => proper other (List.mem_cons_of_mem _ member))
        (fun other member => short other (List.mem_cons_of_mem _ member)) ?_
      rw [Location.step_of_proper notDot notUp, List.append_assoc, List.singleton_append]
      exact stands

theorem Passable.short (passable : tree.Passable place names)
    (proper : ∀ name ∈ names, name ≠ Path.dot ∧ name ≠ Path.dotDot) :
    ∀ name ∈ names, name.length ≤ nameLimit := by
  induction names generalizing place with
  | nil =>
      intro name member
      cases member
  | cons name rest ih =>
      obtain ⟨-, short, -, further⟩ := passable
      intro other member
      rcases List.mem_cons.mp member with rfl | later
      · obtain ⟨notDot, notUp⟩ := proper other List.mem_cons_self
        exact short notDot notUp
      · exact ih further (fun name member => proper name (List.mem_cons_of_mem _ member)) other later

end Tree

namespace Trail

theorem walk_append (trail : Trail) (front back : List Name) :
    trail.walk (front ++ back) = (trail.walk front).bind (·.walk back) := by
  induction front generalizing trail with
  | nil => rfl
  | cons name rest ih =>
      rw [List.cons_append, walk, walk]
      cases trail.enter name with
      | error code => rfl
      | ok next => exact ih next

/-- Where only directories stand in the way, a walk down to what is not there finds no entry. -/
theorem walk_eq_noEntry {trail : Trail} (sound : trail.Sound) {names : List Name}
    (proper : ∀ name ∈ names, name ≠ Path.dot ∧ name ≠ Path.dotDot)
    (short : ∀ name ∈ names, name.length ≤ Tree.nameLimit)
    (clear : ∀ front, front <+: names → ∀ node,
      trail.root.node? (trail.place ++ front) = some node → node = .directory)
    (missing : trail.root.node? (trail.place ++ names) = none) :
    trail.walk names = .error .noEntry := by
  induction names generalizing trail with
  | nil =>
      rw [List.append_nil, node?_place sound] at missing
      cases missing
  | cons name rest ih =>
      obtain ⟨notDot, notUp⟩ := proper name List.mem_cons_self
      have long : ¬ Tree.nameLimit < name.length := Nat.not_lt.mpr (short name List.mem_cons_self)
      have here : trail.root.node? trail.place = some .directory := by
        have stands := node?_place sound
        have clear := clear [] List.nil_prefix trail.node
        rw [List.append_nil] at clear
        rw [stands, clear stands]
      obtain ⟨inside, reached⟩ := Option.isSome_iff_exists.mp ((inside?_isSome_iff sound).mpr here)
      -- Either this name is missing, or what it leads to is a directory as well.
      rw [walk]
      cases found : inside.find? name with
      | none =>
          have lost : trail.enter name = .error .noEntry := by
            simp only [enter, reached, if_neg notDot, if_neg notUp, if_neg long, found]
          rw [lost]
      | some item =>
          have entering :
              trail.enter name = .ok { trail with steps := (name, item) :: trail.steps } := by
            simp only [enter, reached, if_neg notDot, if_neg notUp, if_neg long, found]
          have next := sound_enter sound entering
          obtain ⟨place, root⟩ := place_enter entering
          rw [Location.step_of_proper notDot notUp] at place
          rw [entering]
          refine ih next (fun other member => proper other (List.mem_cons_of_mem _ member))
            (fun other member => short other (List.mem_cons_of_mem _ member)) ?_ ?_
          · intro front within
            rw [place, root, List.append_assoc, List.singleton_append]
            exact clear (name :: front) (List.cons_prefix_cons.mpr ⟨rfl, within⟩)
          · rw [place, root, List.append_assoc, List.singleton_append]
            exact missing

end Trail

namespace World

variable {world after : World} {path above : Path}

/-- Where the working directory is. -/
def here (world : World) : Location := Location.along [] world.workingDirectory

/-- The working directory is there. -/
structure Grounded (world : World) : Prop where
  passable : world.tree.Passable [] world.workingDirectory
  directory : world.tree.node? world.here = some .directory

theorem Grounded.grows (grounded : world.Grounded) (grows : world.Grows after) :
    after.Grounded := by
  have same : after.here = world.here := congrArg (Location.along []) grows.workingDirectory
  refine ⟨?_, ?_⟩
  · rw [grows.workingDirectory]
    exact grounded.passable.mono fun other _ node stands => grows.node other node stands
  · rw [same]
    exact grows.node _ _ grounded.directory

theorem fromRoot_of_plain (plain : path.Plain) (names : List Name) :
    world.fromRoot path names = world.workingDirectory ++ names := by
  rw [fromRoot, if_neg (Bool.eq_false_iff.mp plain.relative)]

theorem along_of_plain (plain : path.Plain) {front : List Name} (within : front <+: path.names) :
    Location.along [] (world.fromRoot path front) = world.here ++ front := by
  have proper (name : Name) (member : name ∈ front) := plain.proper name (within.subset member)
  rw [fromRoot_of_plain plain, Location.along_append, ← here, Location.along_of_proper proper]

theorem place_of_plain (plain : path.Plain) : world.place path = world.here ++ path.names :=
  along_of_plain plain (List.prefix_refl _)

/-- On the way from the working directory to where a path leads, both included. -/
def OnWay (world : World) (path : Path) (place : Location) : Prop :=
  ∃ front, front <+: path.names ∧ place = world.here ++ front

theorem Grows.onWay_iff (grows : world.Grows after) {place : Location} :
    after.OnWay path place ↔ world.OnWay path place := by
  rw [OnWay, OnWay, here, here, grows.workingDirectory]

theorem onWay_place (plain : path.Plain) : world.OnWay path (world.place path) :=
  ⟨path.names, List.prefix_refl _, place_of_plain plain⟩

/-- All that it takes to make the way: the working directory is there, the path and its names are
not too long, and nothing but directories stands on the way. -/
structure Ready (world : World) (path : Path) : Prop where
  grounded : world.Grounded
  brief : path.length < pathLimit
  short : ∀ name ∈ path.names, name.length ≤ Tree.nameLimit
  clear : ∀ place, world.OnWay path place → ∀ node, world.tree.node? place = some node →
    node = .directory

/-- There are directories all the way, and nothing else has changed. -/
structure Paved (before : World) (path : Path) (after : World) : Prop where
  inside : ∀ place, before.OnWay path place → after.tree.node? place = some .directory
  outside : ∀ place, ¬ before.OnWay path place →
    after.tree.node? place = before.tree.node? place

/-- What stood somewhere is unchanged, and what is new is a directory on the way, before its end. -/
def Begun (before : World) (path : Path) (after : World) : Prop :=
  ∀ place, after.tree.node? place = before.tree.node? place ∨
    before.tree.node? place = none ∧ after.tree.node? place = some .directory ∧
      before.OnWay path place ∧ place ≠ before.place path

theorem position_of_passable (checked : checkPath path = .ok ())
    (passable : world.tree.Passable [] (world.fromRoot path path.names.dropLast))
    (directory : world.tree.node?
      (Location.along [] (world.fromRoot path path.names.dropLast)) = some .directory) :
    ∃ siblings, world.tree.below?
        (Location.along [] (world.fromRoot path path.names.dropLast)) = some siblings ∧
      world.position path = .ok {
        parent := Location.along [] (world.fromRoot path path.names.dropLast)
        siblings
        name := path.names.getLast?.filter fun name => name ≠ Path.dot ∧ name ≠ Path.dotDot } := by
  have start := Trail.sound_start world.tree
  obtain ⟨trail, walked⟩ := (Trail.exists_walk_iff start _).mpr passable
  have sound := Trail.sound_walk start walked
  obtain ⟨place, root⟩ := Trail.place_walk walked
  have same : trail.place =
    Location.along [] (world.fromRoot path path.names.dropLast) := place
  have entered : trail.inside?.isSome := by
    rw [Trail.inside?_isSome_iff sound, root, same]
    exact directory
  obtain ⟨siblings, reached⟩ := Option.isSome_iff_exists.mp entered
  have below := Trail.below?_place sound
  rw [root, same, reached] at below
  refine ⟨siblings, below, ?_⟩
  simp only [position, checked, walked, reached, same]

/-- A directory that is there is not made again. -/
theorem ensureDirectory_of_isDirectory (there : world.isDirectory path = true) :
    world.ensureDirectory path = .ok world := by
  obtain ⟨checked, passable, directory⟩ := isDirectory_iff.mp there
  suffices refused : world.makeDirectory path = .error (.os .alreadyExists) by
    simp only [ensureDirectory, refused, there, and_self, if_true]
  cases last : path.names.getLast? with
  | none =>
      have empty : path.names = [] := List.getLast?_eq_none_iff.mp last
      have same : path.names.dropLast = path.names := by
        rw [empty]
        rfl
      rw [World.place, ← same] at directory
      rw [← same] at passable
      obtain ⟨siblings, -, found⟩ := position_of_passable checked passable directory
      rw [last] at found
      simp only [makeDirectory, found, Option.filter_none]
  | some name =>
      rw [fromRoot_of_getLast? world last] at passable
      obtain ⟨front, final⟩ := (Tree.passable_append _ _ _ _).mp passable
      obtain ⟨siblings, below, found⟩ := position_of_passable checked front final.1
      rw [last] at found
      by_cases proper : name ≠ Path.dot ∧ name ≠ Path.dotDot
      · have short := Nat.not_lt.mpr (final.2.1 proper.1 proper.2)
        have taken := final.2.2.1
        rw [Location.step_of_proper proper.1 proper.2, Tree.isSome_node?_concat below] at taken
        rw [Option.filter_some, if_pos (decide_eq_true proper)] at found
        simp only [makeDirectory, found, if_neg short, if_pos taken]
      · rw [Option.filter_some, if_neg (by simpa using proper)] at found
        simp only [makeDirectory, found]

theorem makeDirectories_of_isDirectory (there : world.isDirectory path = true) :
    world.makeDirectories path = (.ok (), world) := by
  cases found : path.parent? with
  | none => exact makeDirectories_of_orphan found
  | some parent => rw [makeDirectories_of_parent found, ensureDirectory_of_isDirectory there]

/-- A plain path names a directory if there is one at its end, and the path can be used. -/
theorem isDirectory_iff_of_plain (plain : path.Plain) (filled : path ≠ []) :
    world.isDirectory path = true ↔ world.Grounded ∧ path.length < pathLimit ∧
      (∀ name ∈ path.names, name.length ≤ Tree.nameLimit) ∧
      world.tree.node? (world.place path) = some .directory := by
  have steps : world.fromRoot path path.names = world.workingDirectory ++ path.names :=
    fromRoot_of_plain plain path.names
  have place : world.place path = world.here ++ path.names := place_of_plain plain
  constructor
  · intro there
    obtain ⟨-, passable, directory⟩ := isDirectory_iff.mp there
    rw [steps, Tree.passable_append] at passable
    rw [place] at directory
    refine ⟨⟨passable.1, Tree.directory_of_within (List.prefix_append _ _) directory⟩,
      (usable_of_isDirectory there).2, passable.2.short plain.proper, ?_⟩
    rw [place]
    exact directory
  · rintro ⟨grounded, brief, short, directory⟩
    have checked := checkPath_eq_ok_iff.mpr ⟨plain.clean, filled, brief⟩
    refine isDirectory_iff.mpr ⟨checked, ?_, directory⟩
    rw [steps, Tree.passable_append]
    rw [place] at directory
    exact ⟨grounded.passable, Tree.passable_of_directory plain.proper short directory⟩

theorem directory_of_onWay (plain : path.Plain)
    (stands : world.tree.node? (world.place path) = some .directory) {place : Location}
    (between : world.OnWay path place) : world.tree.node? place = some .directory := by
  obtain ⟨front, within, rfl⟩ := between
  rw [place_of_plain plain] at stands
  exact Tree.directory_of_within ((List.prefix_append_right_inj _).mpr within) stands

theorem frame_ensureDirectory (ensured : world.ensureDirectory path = .ok after) :
    (∃ tree, after = { world with tree }) ∧
      ∀ place, place ≠ world.place path → after.tree.node? place = world.tree.node? place := by
  unfold ensureDirectory at ensured
  split at ensured
  · next made =>
      cases ensured
      obtain ⟨parent, siblings, name, found, -, fresh, rfl⟩ := makeDirectory_spec made
      refine ⟨⟨_, rfl⟩, fun place apart => ?_⟩
      rw [place_of_position found] at apart
      rw [Tree.node?_add (position_spec found).2.1 fresh (Or.inl rfl), if_neg apart]
  · split at ensured
    · cases ensured
      exact ⟨⟨_, rfl⟩, fun _ _ => rfl⟩
    · cases ensured

theorem grounded_of_ensureDirectory (plain : path.Plain)
    (ensured : world.ensureDirectory path = .ok after) : world.Grounded := by
  unfold ensureDirectory at ensured
  split at ensured
  · next made =>
      obtain ⟨parent, siblings, name, found, -⟩ := makeDirectory_spec made
      obtain ⟨-, below, passable, here, -⟩ := position_spec found
      have stands : world.tree.node? parent = some .directory := by
        rw [Tree.node?_eq_directory_iff, below]
        rfl
      rw [here, along_of_plain plain (List.dropLast_prefix _)] at stands
      rw [fromRoot_of_plain plain, Tree.passable_append] at passable
      exact ⟨passable.1, Tree.directory_of_within (List.prefix_append _ _) stands⟩
  · split at ensured
    · next there =>
        have filled := (usable_of_isDirectory there.2).1
        exact ((isDirectory_iff_of_plain plain filled).mp there.2).1
    · cases ensured

/-- Where a directory was made, or found, the way was ready, and there are directories all along. -/
theorem ensureDirectory_spec (plain : path.Plain)
    (ensured : world.ensureDirectory path = .ok after) :
    world.Ready path ∧ world.Paved path after := by
  have grown := grows_ensureDirectory ensured
  have there := isDirectory_of_ensureDirectory ensured
  obtain ⟨filled, brief⟩ := usable_of_isDirectory there
  obtain ⟨-, -, short, stands⟩ := (isDirectory_iff_of_plain plain filled).mp there
  have inside (place : Location) (between : world.OnWay path place) :
      after.tree.node? place = some .directory :=
    directory_of_onWay plain stands (grown.onWay_iff.mpr between)
  refine ⟨⟨grounded_of_ensureDirectory plain ensured, brief, short, ?_⟩, ⟨inside, ?_⟩⟩
  · intro place between node found
    exact Option.some.inj ((grown.node place node found).symm.trans (inside place between))
  · intro place aside
    refine (frame_ensureDirectory ensured).2 place ?_
    rintro rfl
    exact aside (onWay_place plain)

theorem Ready.of_grows (ready : after.Ready path) (grounded : world.Grounded)
    (grows : world.Grows after) : world.Ready path := by
  refine ⟨grounded, ready.brief, ready.short, ?_⟩
  intro place between node stands
  exact ready.clear place (grows.onWay_iff.mpr between) node (grows.node place node stands)

/-- Nothing stands in the way of the rest where the way to the parent was paved. -/
theorem Ready.paved (ready : world.Ready path) (grows : world.Grows after)
    (paved : world.Paved above after) : after.Ready path := by
  refine ⟨ready.grounded.grows grows, ready.brief, ready.short, ?_⟩
  intro place between node stands
  by_cases upper : world.OnWay above place
  · exact Option.some.inj (stands.symm.trans (paved.inside place upper))
  · rw [paved.outside place upper] at stands
    exact ready.clear place (grows.onWay_iff.mp between) node stands

section

variable (plain : path.Plain) (found : path.parent? = some above)

include plain found

/-- The way to the parent is part of the way, without its end. -/
theorem OnWay.of_parent {place : Location} (between : world.OnWay above place) :
    world.OnWay path place ∧ place ≠ world.place path := by
  obtain ⟨upper, name, split⟩ := plain.parent_spec found
  obtain ⟨front, within, rfl⟩ := between
  refine ⟨⟨front, ?_, rfl⟩, fun same => ?_⟩
  · rw [split]
    exact within.trans (List.prefix_append _ _)
  · rw [place_of_plain plain, split] at same
    have longer := congrArg List.length (List.append_cancel_left same)
    have bound := within.length_le
    rw [List.length_append, List.length_singleton] at longer
    omega

theorem Ready.of_parent (ready : world.Ready path) : world.Ready above := by
  obtain ⟨upper, name, split⟩ := plain.parent_spec found
  refine ⟨ready.grounded, (Path.length_parent?_lt found).trans ready.brief, ?_, ?_⟩
  · intro other member
    apply ready.short
    rw [split]
    exact List.mem_append_left _ member
  · intro place between
    exact ready.clear place (between.of_parent plain found).1

theorem makeDirectory_eq_noEntry (ready : world.Ready path)
    (missing : world.tree.node? (world.place above) = none) :
    world.makeDirectory path = .error (.os .noEntry) := by
  obtain ⟨upper, name, split⟩ := plain.parent_spec found
  have checked :=
    checkPath_eq_ok_iff.mpr ⟨plain.clean, Path.ne_nil_of_parent? found, ready.brief⟩
  have start := Trail.sound_start world.tree
  obtain ⟨trail, walked⟩ := (Trail.exists_walk_iff start _).mpr ready.grounded.passable
  obtain ⟨place, root⟩ := Trail.place_walk walked
  have same : trail.place = world.here := place
  have lost : trail.walk above.names = .error .noEntry := by
    have parent := ready.of_parent plain found
    refine Trail.walk_eq_noEntry (Trail.sound_walk start walked) upper.proper parent.short ?_ ?_
    · intro front within
      rw [root, same]
      exact parent.clear _ ⟨front, within, rfl⟩
    · rw [root, same, ← place_of_plain upper]
      exact missing
  have stuck : ({ root := world.tree } : Trail).walk
      (world.fromRoot path path.names.dropLast) = .error .noEntry := by
    rw [split, List.dropLast_concat, fromRoot_of_plain plain, Trail.walk_append, walked]
    exact lost
  simp only [makeDirectory, position, checked, stuck]

theorem makeDirectory_of_missing (ready : world.Ready path)
    (stands : world.tree.node? (world.place above) = some .directory)
    (missing : world.tree.node? (world.place path) = none) :
    ∃ after, world.makeDirectory path = .ok after := by
  obtain ⟨upper, name, split⟩ := plain.parent_spec found
  have checked :=
    checkPath_eq_ok_iff.mpr ⟨plain.clean, Path.ne_nil_of_parent? found, ready.brief⟩
  have named : name ∈ path.names := by
    rw [split]
    exact List.mem_append_right _ List.mem_cons_self
  have last : path.names.getLast? = some name := by rw [split, List.getLast?_concat]
  have front : path.names.dropLast = above.names := by rw [split, List.dropLast_concat]
  have parent : Location.along [] (world.fromRoot path path.names.dropLast) = world.place above := by
    rw [along_of_plain plain (List.dropLast_prefix _), front, place_of_plain upper]
  have passable : world.tree.Passable [] (world.fromRoot path path.names.dropLast) := by
    rw [place_of_plain upper] at stands
    rw [front, fromRoot_of_plain plain, Tree.passable_append]
    exact ⟨ready.grounded.passable, Tree.passable_of_directory upper.proper
      (ready.of_parent plain found).short stands⟩
  obtain ⟨siblings, below, position⟩ := position_of_passable checked passable (parent ▸ stands)
  rw [last, Option.filter_some, if_pos (decide_eq_true (plain.proper name named))] at position
  have fresh : siblings.find? name = none := by
    rw [← Option.not_isSome_iff_eq_none, ← Tree.isSome_node?_concat below name,
      ← place_of_position position, missing]
    exact Bool.false_ne_true
  have short := Nat.not_lt.mpr (ready.short name named)
  simp only [makeDirectory, position, if_neg short, fresh, Option.isSome_none, Bool.false_eq_true,
    if_false, Except.ok.injEq, exists_eq']

/-- On a way that is ready a directory can be made, unless the one above is missing. -/
theorem ensureDirectory_of_ready (ready : world.Ready path) :
    (∃ after, world.ensureDirectory path = .ok after) ∨
      world.ensureDirectory path = .error (.os .noEntry) ∧
        world.tree.node? (world.place above) = none := by
  obtain ⟨upper, -⟩ := plain.parent_spec found
  cases upstream : world.tree.node? (world.place above) with
  | none =>
      have lost := makeDirectory_eq_noEntry plain found ready upstream
      exact .inr ⟨by simp [ensureDirectory, lost, OsCode.noEntry, OsCode.alreadyExists], rfl⟩
  | some node =>
      left
      obtain rfl := (ready.of_parent plain found).clear _ (onWay_place upper) node upstream
      cases here : world.tree.node? (world.place path) with
      | none =>
          obtain ⟨after, made⟩ := makeDirectory_of_missing plain found ready upstream here
          exact ⟨after, by simp only [ensureDirectory, made]⟩
      | some node =>
          obtain rfl := ready.clear _ (onWay_place plain) node here
          have there := (isDirectory_iff_of_plain plain (Path.ne_nil_of_parent? found)).mpr
            ⟨ready.grounded, ready.brief, ready.short, here⟩
          exact ⟨world, ensureDirectory_of_isDirectory there⟩

/-- A paved way is carried on by the next directory. -/
theorem Paved.next {middle : World} (paved : world.Paved above middle)
    (grows : world.Grows middle) (further : middle.Paved path after) : world.Paved path after := by
  refine ⟨fun place between => further.inside place (grows.onWay_iff.mpr between), ?_⟩
  intro place aside
  have upper : ¬ world.OnWay above place := fun between => aside (between.of_parent plain found).1
  have outside : ¬ middle.OnWay path place := fun between => aside (grows.onWay_iff.mp between)
  exact (further.outside place outside).trans (paved.outside place upper)

/-- Where the last step fails, the way to the parent is what was begun. -/
theorem Paved.begun (ready : world.Ready above) (paved : world.Paved above after) :
    world.Begun path after := by
  intro place
  by_cases between : world.OnWay above place
  · have new := paved.inside place between
    cases stood : world.tree.node? place with
    | none => exact .inr ⟨rfl, new, between.of_parent plain found⟩
    | some node =>
        rw [new, ready.clear place between node stood]
        exact .inl rfl
  · exact .inl (paved.outside place between)

theorem Begun.of_parent (begun : world.Begun above after) : world.Begun path after := by
  intro place
  rcases begun place with same | ⟨vacant, new, between, -⟩
  · exact .inl same
  · exact .inr ⟨vacant, new, between.of_parent plain found⟩

end

theorem frame_makeDirectories (world : World) (path : Path) :
    ∃ tree, (world.makeDirectories path).2 = { world with tree } := by
  fun_induction World.makeDirectories world path with
  | case1 => exact ⟨_, rfl⟩
  | case2 path parent _ after ensured => exact (frame_ensureDirectory ensured).1
  | case3 path parent _ _ after above _ ih =>
      rw [above] at ih
      exact ih
  | case4 path parent _ _ middle above final ensured _ ih =>
      rw [above] at ih
      obtain ⟨tree, rfl⟩ := ih
      obtain ⟨further, rfl⟩ := (frame_ensureDirectory ensured).1
      exact ⟨further, rfl⟩
  | case5 path parent _ _ middle above _ refused _ ih =>
      rw [above] at ih
      exact ih
  | case6 => exact ⟨_, rfl⟩

/-- Only the empty path is plain and has no parent. -/
theorem eq_nil_of_orphan (plain : path.Plain) (orphan : path.parent? = none) : path = [] := by
  by_contra filled
  have rooted := Path.rooted_of_parent?_eq_none orphan filled
  rw [plain.relative] at rooted
  cases rooted

/-- The empty path leads to the working directory. -/
theorem ready_of_empty (grounded : world.Grounded) : world.Ready [] ∧ world.Paved [] world := by
  have only (place : Location) (between : world.OnWay [] place) :
      world.tree.node? place = some .directory := by
    obtain ⟨front, within, rfl⟩ := between
    obtain rfl : front = [] := List.prefix_nil.mp within
    rw [List.append_nil]
    exact grounded.directory
  refine ⟨⟨grounded, by decide, fun _ member => absurd member List.not_mem_nil, ?_⟩,
    ⟨only, fun _ _ => rfl⟩⟩
  intro place between node stands
  exact Option.some.inj (stands.symm.trans (only place between))

theorem paved_of_makeDirectories (grounded : world.Grounded) (plain : path.Plain)
    (made : (world.makeDirectories path).1 = .ok ()) :
    world.Ready path ∧ world.Paved path (world.makeDirectories path).2 := by
  -- Along the recursion: no parent, made or found at once, parent not made, made at the second try,
  -- not made at the second try, and not made for another reason than a missing parent.
  fun_induction World.makeDirectories world path with
  | case1 path orphan =>
      obtain rfl := eq_nil_of_orphan plain orphan
      exact ready_of_empty grounded
  | case2 path parent found after ensured => exact ensureDirectory_spec plain ensured
  | case3 => cases made
  | case4 path parent found _ middle above final ensured _ ih =>
      have grown := grows_makeDirectories world parent
      rw [above] at ih grown
      obtain ⟨-, paved⟩ := ih (plain.parent_spec found).1 rfl
      obtain ⟨ready, further⟩ := ensureDirectory_spec plain ensured
      exact ⟨ready.of_grows grounded grown, paved.next plain found grown further⟩
  | case5 => cases made
  | case6 => cases made

theorem makeDirectories_of_ready (plain : path.Plain) (ready : world.Ready path) :
    (world.makeDirectories path).1 = .ok () := by
  fun_induction World.makeDirectories world path with
  | case1 => rfl
  | case2 => rfl
  | case3 path parent found _ after above _ ih =>
      rw [above] at ih
      cases ih (plain.parent_spec found).1 (ready.of_parent plain found)
  | case4 => rfl
  | case5 path parent found _ middle above failure refused _ ih =>
      obtain ⟨upper, -⟩ := plain.parent_spec found
      have grown := grows_makeDirectories world parent
      have paved := paved_of_makeDirectories ready.grounded upper
      rw [above] at grown paved
      have parted := (paved rfl).2
      -- The second try could fail only for want of a parent, and the way to the parent is paved.
      rcases ensureDirectory_of_ready plain found (ready.paved grown parted) with
        ⟨after, ensured⟩ | ⟨-, missing⟩
      · cases refused.symm.trans ensured
      · rw [grown.place] at missing
        cases missing.symm.trans (parted.inside _ (onWay_place upper))
  | case6 path parent found failure refused other =>
      rcases ensureDirectory_of_ready plain found ready with ⟨after, ensured⟩ | ⟨lost, -⟩
      · cases refused.symm.trans ensured
      · cases refused.symm.trans lost
        exact absurd rfl other

theorem begun_of_makeDirectories (grounded : world.Grounded) (plain : path.Plain)
    (failed : (world.makeDirectories path).1 ≠ .ok ()) :
    world.Begun path (world.makeDirectories path).2 := by
  fun_induction World.makeDirectories world path with
  | case1 => exact absurd rfl failed
  | case2 => exact absurd rfl failed
  | case3 path parent found _ after above _ ih =>
      rw [above] at ih
      exact (ih (plain.parent_spec found).1 (by simp)).of_parent plain found
  | case4 => exact absurd rfl failed
  | case5 path parent found _ middle above failure refused _ ih =>
      have paved := paved_of_makeDirectories grounded (plain.parent_spec found).1
      rw [above] at paved
      exact (paved rfl).2.begun plain found (paved rfl).1
  | case6 => exact fun _ => .inl rfl

/-- Without a working directory nothing is made. -/
theorem makeDirectories_of_groundless (groundless : ¬ world.Grounded) (plain : path.Plain) :
    (world.makeDirectories path).2 = world := by
  fun_induction World.makeDirectories world path with
  | case1 => rfl
  | case2 path parent _ after ensured =>
      exact absurd (grounded_of_ensureDirectory plain ensured) groundless
  | case3 path parent found _ after above _ ih =>
      rw [above] at ih
      exact ih (plain.parent_spec found).1
  | case4 path parent found _ middle above final ensured _ ih =>
      rw [above] at ih
      obtain rfl := ih (plain.parent_spec found).1
      exact absurd (grounded_of_ensureDirectory plain ensured) groundless
  | case5 path parent found _ middle above _ refused _ ih =>
      rw [above] at ih
      exact ih (plain.parent_spec found).1
  | case6 => rfl

/-- What an attempt to make a way comes to: it succeeds just if the way is ready, and then the
directories that were missing are new, and nothing else has changed; otherwise some of those before
the last may be. -/
structure Creates (before : World) (path : Path) (succeeded : Prop) (after : World) : Prop where
  succeeded_iff : succeeded ↔ before.Ready path
  frame : ∃ tree, after = { before with tree }
  paved : succeeded → before.Paved path after
  begun : ¬ succeeded → before.Begun path after

theorem Creates.congr {one two : Prop} (creates : world.Creates path one after)
    (same : two ↔ one) : world.Creates path two after := by
  rw [same]
  exact creates

theorem creates_makeDirectories (plain : path.Plain) (filled : path ≠ []) :
    world.Creates path ((world.makeDirectories path).1 = .ok ()) (world.makeDirectories path).2 := by
  by_cases grounded : world.Grounded
  · refine ⟨⟨fun made => ?_, makeDirectories_of_ready plain⟩, frame_makeDirectories world path,
      fun made => ?_, begun_of_makeDirectories grounded plain⟩
    · exact (paved_of_makeDirectories grounded plain made).1
    · exact (paved_of_makeDirectories grounded plain made).2
  -- Success would mean that the directory is there, and it would have been there before.
  · have still := makeDirectories_of_groundless grounded plain
    have failed : (world.makeDirectories path).1 ≠ .ok () := by
      intro made
      obtain ⟨parent, found⟩ := Option.ne_none_iff_exists'.mp (mt (eq_nil_of_orphan plain) filled)
      have there := isDirectory_of_makeDirectories found (Prod.ext made still)
      exact grounded ((isDirectory_iff_of_plain plain filled).mp there).1
    refine ⟨⟨fun made => absurd made failed, fun ready => absurd ready.grounded grounded⟩,
      frame_makeDirectories world path, fun made => absurd made failed, fun _ place => .inl ?_⟩
    rw [still]

end World

end SessionStreams
