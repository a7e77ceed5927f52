import Mathlib.Data.List.TakeWhile
import SessionStreams.Proofs.Growth
import SessionStreams.Engine.Session

set_option autoImplicit false

/- What the start and the end of a session do to the tree. A started session has a home without a
NUL (`zero_notMem_home_of_build`), and a temporary home is a fresh directory
(`settled_of_makeTemporary`) that can be removed for as long as it is settled (`close_of_settled`).
-/

namespace SessionStreams

namespace Path

theorem mem_of_mem_ofParts {byte : UInt8} {parts : List Name} (inside : byte ∈ ofParts parts) :
    byte = slash ∨ ∃ part ∈ parts, byte ∈ part := by
  induction parts with
  | nil => cases inside
  | cons first rest ih =>
      by_cases last : rest = []
      · subst last
        rw [ofParts_singleton] at inside
        exact Or.inr ⟨first, List.mem_cons_self, inside⟩
      · rw [ofParts_cons first last] at inside
        rcases List.mem_append.mp inside with here | later
        · exact Or.inr ⟨first, List.mem_cons_self, here⟩
        · rcases List.mem_cons.mp later with separator | further
          · exact Or.inl separator
          · rcases ih further with separator | ⟨part, member, found⟩
            · exact Or.inl separator
            · exact Or.inr ⟨part, List.mem_cons_of_mem _ member, found⟩

/-- A path without a parent has idle parts only. -/
theorem idle_of_parent?_eq_none {path : Path} (orphan : path.parent? = none) :
    ∀ part ∈ path.parts, idle part := by
  have idleBody (body : List Name) (stripped : body.reverse.dropWhile idle = []) :
      ∀ part ∈ body, idle part := by
    intro part member
    exact List.dropWhile_eq_nil_iff.mp stripped part (List.mem_reverse.mpr member)
  unfold parent? at orphan
  cases cut : path.anatomy with
  | mk anchor body =>
      simp only [cut] at orphan
      split at orphan
      · next stripped =>
          have quiet := idleBody body stripped
          unfold anatomy at cut
          split at cut
          · exact absurd ‹path.parts = []› (parts_ne_nil path)
          · next first single =>
              rw [single]
              split at cut <;> cases cut
              · simp at orphan
              · exact quiet
          · next first rest _ several =>
              rw [several]
              split at cut
              · next blank =>
                  cases cut
                  intro part member
                  rcases List.mem_cons.mp member with rfl | later
                  · simp [idle, blank]
                  · exact quiet part later
              split at cut <;> cases cut
              · simp at orphan
              · exact quiet
      · cases orphan

theorem zero_notMem_of_parent?_eq_none {path : Path} (orphan : path.parent? = none) :
    0 ∉ path := by
  intro inside
  rw [← ofParts_parts path] at inside
  rcases mem_of_mem_ofParts inside with separator | ⟨part, member, found⟩
  · exact absurd separator (by decide)
  · have quiet := idle_of_parent?_eq_none orphan part member
    simp only [idle, Bool.decide_or, Bool.or_eq_true, decide_eq_true_eq] at quiet
    rcases quiet with rfl | rfl
    · cases found
    · exact absurd found (by decide)

theorem parts_append_slash (front back : Path) :
    (front ++ slash :: back).parts = front.parts ++ back.parts := by
  induction front with
  | nil => simp [before]
  | cons byte rest ih =>
      rw [List.cons_append, parts_cons, parts_cons, ih]
      unfold before
      split
      · rfl
      · cases cut : parts rest with
        | nil => exact absurd cut (parts_ne_nil rest)
        | cons first others => rfl

theorem names_append_slash (front back : Path) :
    (front ++ slash :: back).names = front.names ++ back.names := by
  rw [names, parts_append_slash, List.filter_append]
  rfl

theorem names_of_simple {name : Name} (nonempty : name ≠ []) (simple : slash ∉ name) :
    Path.names name = [name] := by
  have whole : Path.parts name = [name] := by
    induction name with
    | nil => rfl
    | cons byte rest ih =>
        have apart : byte ≠ slash := fun same => simple (by simp [same])
        have further : slash ∉ rest := fun inside => simple (List.mem_cons_of_mem _ inside)
        rw [parts_cons]
        by_cases last : rest = []
        · simp [last, before, apart]
        · simp [ih last further, before, apart]
  rw [names, whole]
  simp [nonempty]

theorem not_rooted_of_simple {name : Name} (simple : slash ∉ name) :
    Path.rooted name = false := by
  cases name with
  | nil => rfl
  | cons byte rest =>
      have apart : byte ≠ slash := fun same => simple (by simp [same])
      simp [rooted, apart]

/-- Joining a plain name adds one step. -/
theorem names_join {base : Path} {name : Name} (nonempty : name ≠ []) (simple : slash ∉ name) :
    (base.join name).names = base.names ++ [name] := by
  unfold join
  rw [not_rooted_of_simple simple, if_neg Bool.false_ne_true]
  split
  · next closed =>
      rcases closed with rfl | ends
      · rw [List.nil_append, names_of_simple nonempty simple]
        rfl
      · have last : base.getLast? = .some slash := by simpa [endsInSlash] using ends
        obtain ⟨front, rfl⟩ := List.getLast?_eq_some_iff.mp last
        rw [List.append_assoc, List.singleton_append, names_append_slash, names_append_slash,
          names_of_simple nonempty simple]
        simp [names]
  · rw [names_append_slash, names_of_simple nonempty simple]

theorem rooted_join {base : Path} {name : Name} (simple : slash ∉ name) :
    (base.join name).rooted = base.rooted := by
  unfold join
  rw [not_rooted_of_simple simple, if_neg Bool.false_ne_true]
  cases base with
  | nil => simpa [rooted] using not_rooted_of_simple simple
  | cons first rest => split <;> simp [rooted]

end Path

namespace World

theorem checkPath_eq_ok {path : Path} (checked : checkPath path = .ok ()) : 0 ∉ path := by
  unfold checkPath at checked
  split at checked
  · cases checked
  · assumption

theorem zero_notMem_of_ensureDirectory {world after : World} {path : Path}
    (ensured : world.ensureDirectory path = .ok after) : 0 ∉ path := by
  unfold ensureDirectory at ensured
  split at ensured
  · next made =>
      obtain ⟨parent, siblings, name, found, -⟩ := makeDirectory_spec made
      exact checkPath_eq_ok (position_spec found).1
  · split at ensured
    · next there =>
        have directory := there.2
        unfold isDirectory stat reach at directory
        intro inside
        simp [checkPath, inside, Except.map] at directory
    · cases ensured

theorem zero_notMem_of_makeDirectories {world : World} {path : Path}
    (made : (world.makeDirectories path).1 = .ok ()) : 0 ∉ path := by
  unfold makeDirectories at made
  split at made
  · next orphan => exact Path.zero_notMem_of_parent?_eq_none orphan
  · split at made
    · next ensured => exact zero_notMem_of_ensureDirectory ensured
    · split at made
      · split at made
        · cases made
        · split at made
          · next ensured => exact zero_notMem_of_ensureDirectory ensured
          · cases made
      · cases made

theorem isDigit_of_mem_sixDigits {number : Nat} {c : Char} (digit : c ∈ sixDigits number) :
    c.isDigit = true := by
  rcases List.mem_append.mp digit with padding | drawn
  · rw [List.eq_of_mem_replicate padding]
    decide
  · exact Nat.isDigit_of_mem_toDigits (by decide) (by decide) drawn

theorem notMem_temporaryName {byte : UInt8} (ascii : byte.toNat < 0x80)
    (letter : Char.ofNat byte.toNat ∉ "sequoia".toList)
    (digit : (Char.ofNat byte.toNat).isDigit = false) (number : Nat) :
    byte ∉ temporaryName number := by
  intro inside
  rw [temporaryName] at inside
  have listed := Text.mem_of_mem_encode ascii inside
  rw [String.toList_append] at listed
  rcases List.mem_append.mp listed with fixed | drawn
  · exact letter fixed
  · rw [String.toList_ofList] at drawn
    have numeral := isDigit_of_mem_sixDigits drawn
    rw [digit] at numeral
    cases numeral

theorem slash_notMem_temporaryName (number : Nat) : Path.slash ∉ temporaryName number :=
  notMem_temporaryName (by decide) (by decide) (by decide) number

theorem zero_notMem_temporaryName (number : Nat) : 0 ∉ temporaryName number :=
  notMem_temporaryName (by decide) (by decide) (by decide) number

theorem exists_temporaryName_eq_cons (number : Nat) :
    ∃ rest, temporaryName number = 0x73 :: rest := by
  have first : Text.encode "sequoia" = 0x73 :: (Text.encode "sequoia").tail := by decide
  refine ⟨(Text.encode "sequoia").tail ++ Text.encode (String.ofList (sixDigits number)), ?_⟩
  rw [← List.cons_append, ← first]
  simp only [temporaryName, Text.encode, String.toList_append, List.flatMap_append]

/-- The directories that a walk to the temporary ones comes past. -/
def temporarySteps (world : World) : List Name :=
  world.fromRoot world.temporaryBase world.temporaryBase.names

def temporaryPlace (world : World) (number : Nat) : Location :=
  Location.along [] world.temporarySteps ++ [temporaryName number]

theorem fromRoot_temporaryPath (world : World) (number : Nat) (names : List Name) :
    world.fromRoot (world.temporaryPath number) names =
      world.fromRoot world.temporaryBase names := by
  rw [fromRoot, fromRoot, temporaryPath, Path.rooted_join (slash_notMem_temporaryName number)]

theorem names_temporaryPath (world : World) (number : Nat) :
    (world.temporaryPath number).names = world.temporaryBase.names ++ [temporaryName number] := by
  obtain ⟨rest, spelled⟩ := exists_temporaryName_eq_cons number
  have nonempty : temporaryName number ≠ [] := by
    rw [spelled]
    exact List.cons_ne_nil _ _
  exact Path.names_join nonempty (slash_notMem_temporaryName number)

theorem steps_temporaryPath (world : World) (number : Nat) :
    world.fromRoot (world.temporaryPath number) (world.temporaryPath number).names =
      world.temporarySteps ++ [temporaryName number] := by
  rw [fromRoot_temporaryPath, names_temporaryPath, temporarySteps, fromRoot, fromRoot]
  split
  · rfl
  · rw [List.append_assoc]

theorem step_temporaryName (place : Location) (number : Nat) :
    place.step (temporaryName number) = place ++ [temporaryName number] := by
  obtain ⟨rest, spelled⟩ := exists_temporaryName_eq_cons number
  apply Location.step_of_proper
  · rw [spelled]
    exact fun same => absurd (List.cons_eq_cons.mp same).1 (by decide)
  · rw [spelled]
    exact fun same => absurd (List.cons_eq_cons.mp same).1 (by decide)

theorem place_temporaryPath (world : World) (number : Nat) :
    world.place (world.temporaryPath number) = world.temporaryPlace number := by
  rw [place, steps_temporaryPath, Location.along_append, Location.along_singleton,
    step_temporaryName, temporaryPlace]

/-- Temporary directories stand side by side. -/
theorem path_of_temporaryPlace_nested {world : World} {number other : Nat}
    (under : world.temporaryPlace number <+: world.temporaryPlace other) :
    world.temporaryPath number = world.temporaryPath other := by
  obtain ⟨further, whole⟩ := under
  have same : temporaryName number = temporaryName other := by
    simp only [temporaryPlace, List.append_assoc, List.append_cancel_left_eq, List.cons_append,
      List.nil_append, List.cons.injEq] at whole
    exact whole.1
  rw [temporaryPath, temporaryPath, same]

/-- A temporary directory that can be found and removed, and that the way to it does not lead
through. -/
structure Settled (world : World) (number : Nat) : Prop where
  checked : checkPath (world.temporaryPath number) = .ok ()
  short : (temporaryName number).length ≤ Tree.nameLimit
  passable : world.tree.Passable [] world.temporarySteps
  directory : world.tree.node? (world.temporaryPlace number) = some .directory
  aside : ∀ other ∈ Location.visited [] world.temporarySteps,
    ¬ world.temporaryPlace number <+: other

theorem Grows.temporaryBase {before after : World} (grows : before.Grows after) :
    after.temporaryBase = before.temporaryBase := by
  rw [World.temporaryBase, World.temporaryBase, grows.temporaryVariable, grows.workingDirectory]

theorem Grows.temporaryPath {before after : World} (grows : before.Grows after) (number : Nat) :
    after.temporaryPath number = before.temporaryPath number := by
  rw [World.temporaryPath, World.temporaryPath, grows.temporaryBase]

theorem Grows.temporarySteps {before after : World} (grows : before.Grows after) :
    after.temporarySteps = before.temporarySteps := by
  rw [World.temporarySteps, World.temporarySteps, grows.temporaryBase, fromRoot, fromRoot,
    grows.workingDirectory]

theorem Grows.temporaryPlace {before after : World} (grows : before.Grows after) (number : Nat) :
    after.temporaryPlace number = before.temporaryPlace number := by
  rw [World.temporaryPlace, World.temporaryPlace, grows.temporarySteps]

theorem Settled.grows {before after : World} {number : Nat} (settled : before.Settled number)
    (grows : before.Grows after) : after.Settled number := by
  refine ⟨?_, settled.short, ?_, ?_, ?_⟩
  · rw [grows.temporaryPath]
    exact settled.checked
  · rw [grows.temporarySteps]
    exact settled.passable.mono fun place _ node stands => grows.node place node stands
  · rw [grows.temporaryPlace]
    exact grows.node _ _ settled.directory
  · rw [grows.temporarySteps, grows.temporaryPlace]
    exact settled.aside

/-- A new temporary directory is settled, and nothing stood in its place. -/
theorem settled_of_makeTemporary {world after : World} {path : Path}
    (made : world.makeTemporary = .ok (path, after)) :
    ∃ number, path = world.temporaryPath number ∧ after.Settled number ∧
      world.tree.node? (world.temporaryPlace number) = none := by
  have grown := grows_makeTemporary made
  obtain ⟨number, middle, -, rfl, created, rfl⟩ := makeTemporary_spec made
  obtain ⟨parent, siblings, name, found, short, fresh, rfl⟩ := makeDirectory_spec created
  obtain ⟨checked, below, passable, here, last, -⟩ := position_spec found
  rw [fromRoot_temporaryPath, names_temporaryPath, List.dropLast_concat] at passable here
  rw [names_temporaryPath, List.getLast?_concat] at last
  obtain rfl := Option.some.inj last
  have vacant : world.tree.node? (world.temporaryPlace number) = none := by
    rw [temporaryPlace, temporarySteps, ← here, Tree.node?_append_place below, Tree.node?_cons,
      fresh]
  refine ⟨number, rfl, ⟨?_, short, ?_, ?_, ?_⟩, vacant⟩
  · rw [grown.temporaryPath]
    exact checked
  · rw [grown.temporarySteps]
    exact passable.mono fun place _ node stands => grown.node place node stands
  · rw [grown.temporaryPlace]
    have added := Tree.node?_add below fresh (Or.inl rfl) (parent ++ [temporaryName number])
    rw [if_pos rfl] at added
    rw [temporaryPlace, temporarySteps, ← here]
    exact added
  · rw [grown.temporarySteps, grown.temporaryPlace]
    intro other visited under
    have start : (world.tree.node? []).isSome := by
      rw [Tree.node?_root]
      rfl
    have stands := Tree.isSome_of_descendant under (passable.isSome_of_visited start other visited)
    rw [vacant] at stands
    cases stands

/-- A directory that can be walked to is reached by its path. -/
theorem reach_of_passable {world : World} {path : Path} (checked : checkPath path = .ok ())
    (passable : world.tree.Passable [] (world.fromRoot path path.names))
    (directory : world.tree.node? (world.place path) = some .directory) :
    ∃ trail, world.reach path = .ok trail ∧ trail.node = .directory ∧
      trail.place = world.place path := by
  have start := Trail.sound_start world.tree
  obtain ⟨trail, walked⟩ := (Trail.exists_walk_iff start _).mpr passable
  have sound := Trail.sound_walk start walked
  obtain ⟨here, root⟩ := Trail.place_walk walked
  have found := Trail.node?_place sound
  rw [root, here] at found
  have node : trail.node = .directory := Option.some.inj (found.symm.trans directory)
  have inside : trail.inside?.isSome := by
    rw [Trail.inside?_isSome_iff sound, root, here]
    exact directory
  refine ⟨trail, ?_, node, here⟩
  unfold reach
  simp only [checked, Trail.walkDirectory, walked, inside, if_true, ite_self, mapError_ok]

/-- The end of a session removes its temporary directory with all below it, or nothing. -/
theorem close_cases (session : Engine.Session) (world : World) :
    session.close world = world ∨ ∃ path, session.temporary = some path ∧
      session.close world = { world with tree := world.tree.cut (world.place path) } := by
  cases temporary : session.temporary with
  | none =>
      left
      simp only [Engine.Session.close, temporary]
  | some path =>
      cases reached : world.reach path with
      | error failure =>
          left
          simp only [Engine.Session.close, temporary, removeDirectory, reached]
      | ok trail =>
          have place := (place_of_reach reached).2.2
          by_cases directory : trail.node = .directory
          · right
            refine ⟨path, rfl, ?_⟩
            simp only [Engine.Session.close, temporary, removeDirectory, reached, directory, if_true,
              place]
          · left
            simp only [Engine.Session.close, temporary, removeDirectory, reached, directory, if_false]

theorem node?_close_of_none (session : Engine.Session) {world : World} {place : Location}
    (vacant : world.tree.node? place = none) : (session.close world).tree.node? place = none := by
  rcases close_cases session world with same | ⟨path, -, same⟩
  · rw [same]
    exact vacant
  · rw [same]
    exact Tree.node?_cut_of_none vacant _

/-- The end of a session leaves everything outside its temporary directory. -/
theorem node?_close_of_outside {session : Engine.Session} {world : World} {place : Location}
    (outside : ∀ path, session.temporary = some path → ¬ world.place path <+: place) :
    (session.close world).tree.node? place = world.tree.node? place := by
  rcases close_cases session world with same | ⟨path, temporary, same⟩
  · rw [same]
  · rw [same]
    have apart := outside path temporary
    have proper : world.place path ≠ [] := by
      intro root
      rw [root] at apart
      exact apart List.nil_prefix
    rw [Tree.node?_cut _ proper, if_neg apart]

theorem settings_close (session : Engine.Session) (world : World) :
    (session.close world).workingDirectory = world.workingDirectory ∧
      (session.close world).homeVariable = world.homeVariable ∧
        (session.close world).temporaryVariable = world.temporaryVariable := by
  rcases close_cases session world with same | ⟨path, -, same⟩
  · rw [same]
    exact ⟨rfl, rfl, rfl⟩
  · rw [same]
    exact ⟨rfl, rfl, rfl⟩

/-- The whole way to a settled directory can be walked. -/
theorem Settled.passable_path {world : World} {number : Nat} (settled : world.Settled number) :
    world.tree.Passable [] (world.fromRoot (world.temporaryPath number)
      (world.temporaryPath number).names) := by
  rw [steps_temporaryPath, Tree.passable_append]
  have entered := settled.directory
  rw [temporaryPlace, ← step_temporaryName] at entered
  refine ⟨settled.passable, ?_, fun _ _ => settled.short, by rw [entered]; rfl, trivial⟩
  exact Tree.node?_of_ancestor settled.directory (List.cons_ne_nil _ _)

/-- A settled directory goes with its session, and nothing beside it. -/
theorem close_of_settled {world : World} {number : Nat} (settled : world.Settled number)
    {session : Engine.Session} (temporary : session.temporary = some (world.temporaryPath number)) :
    session.close world = { world with tree := world.tree.cut (world.temporaryPlace number) } := by
  have directory : world.tree.node? (world.place (world.temporaryPath number)) =
      some .directory := by
    rw [place_temporaryPath]
    exact settled.directory
  obtain ⟨trail, reached, node, here⟩ := reach_of_passable settled.checked
    settled.passable_path directory
  rw [place_temporaryPath] at here
  simp only [Engine.Session.close, temporary, removeDirectory, reached, node, if_true, here]

theorem temporaryPlace_ne_nil (world : World) (number : Nat) : world.temporaryPlace number ≠ [] :=
  List.append_ne_nil_of_right_ne_nil _ (List.cons_ne_nil _ _)

/-- Removing one temporary directory leaves the others settled. -/
theorem Settled.cut {world : World} {number other : Nat} (settled : world.Settled number)
    (gone : world.Settled other)
    (apart : world.temporaryPath other ≠ world.temporaryPath number) :
    Settled { world with tree := world.tree.cut (world.temporaryPlace other) } number := by
  have kept (place : Location) (aside : ¬ world.temporaryPlace other <+: place) :
      (world.tree.cut (world.temporaryPlace other)).node? place = world.tree.node? place := by
    rw [Tree.node?_cut _ (world.temporaryPlace_ne_nil other), if_neg aside]
  refine ⟨settled.checked, settled.short, ?_, ?_, settled.aside⟩
  · apply settled.passable.mono
    intro place visited node stands
    exact (kept place (gone.aside place visited)).trans stands
  · have beside : ¬ world.temporaryPlace other <+: world.temporaryPlace number :=
      fun under => apart (path_of_temporaryPlace_nested under)
    exact (kept _ beside).trans settled.directory

end World

namespace Engine.Settings

open World (Settled)

/-- A session that was started: with a temporary home, or with a home that was made if need be. -/
theorem build_spec {settings : Settings} {world after : World} {session : Session}
    (built : settings.build world = (.ok session, after)) :
    (settings.ephemeral = true ∧ session.ephemeral = true ∧
        world.makeTemporary = .ok (session.home, after) ∧
        session.temporary = some session.home) ∨
      (settings.ephemeral = false ∧ session.ephemeral = false ∧
        world.makeDirectories settings.home = (.ok (), after) ∧
        session.home = settings.home ∧ session.temporary = none) := by
  unfold build at built
  split at built
  · next brief =>
      split at built
      · cases built
      · next made =>
          cases built
          exact Or.inl ⟨brief, rfl, made, rfl⟩
  · next lasting =>
      split at built
      · cases built
      · next made =>
          cases built
          exact Or.inr ⟨by simpa using lasting, rfl, made, rfl, rfl⟩

theorem grows_build (settings : Settings) (world : World) :
    world.Grows (settings.build world).2 := by
  unfold build
  split
  · split
    · exact World.Grows.refl world
    · next made => exact World.grows_makeTemporary made
  · have grown := World.grows_makeDirectories world settings.home
    split
    · next made =>
        rw [made] at grown
        exact grown
    · next made =>
        rw [made] at grown
        exact grown

theorem zero_notMem_home_of_build {settings : Settings} {world after : World} {session : Session}
    (built : settings.build world = (.ok session, after)) : 0 ∉ session.home := by
  rcases build_spec built with ⟨-, -, made, -⟩ | ⟨-, -, made, home, -⟩
  · obtain ⟨number, same, settled, -⟩ := World.settled_of_makeTemporary made
    rw [same, ← (World.grows_makeTemporary made).temporaryPath]
    exact World.checkPath_eq_ok settled.checked
  · rw [home]
    exact World.zero_notMem_of_makeDirectories (congrArg Prod.fst made)

end Engine.Settings

end SessionStreams
