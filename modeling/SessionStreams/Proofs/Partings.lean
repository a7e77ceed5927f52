import SessionStreams.Proofs.Effects
import SessionStreams.Proofs.Homes

set_option autoImplicit false

/-
Who lets a session go first. Letting go concerns the sessions and the tree only
(`sessions_parted_congr`). Two that let go may do so in either order (`sessions_parted_comm`), which
for the last holders of two sessions is so unless the path of one temporary home makes a detour
through the other (`Engine.Session.close_comm`).
-/

namespace SessionStreams

namespace Location

theorem along_mem_visited (place : Location) (names : List Name) :
    place.along names ∈ place.visited names := by
  induction names generalizing place with
  | nil => exact List.mem_singleton.mpr rfl
  | cons name rest ih => exact List.mem_cons_of_mem _ (ih _)

end Location

namespace World

/-- All places on the way along a path. -/
def way (world : World) (path : Path) : List Location :=
  Location.visited [] (world.fromRoot path path.names)

/-- A path that can be walked to a directory. -/
def Removable (world : World) (path : Path) : Prop :=
  checkPath path = .ok () ∧ world.tree.Passable [] (world.fromRoot path path.names) ∧
    world.tree.node? (world.place path) = some .directory

theorem removable_of_reach {world : World} {path : Path} {trail : Trail}
    (reached : world.reach path = .ok trail) (directory : trail.node = .directory) :
    world.Removable path := by
  obtain ⟨checked, walked⟩ := walked_of_reach reached
  obtain ⟨sound, root, place⟩ := place_of_reach reached
  refine ⟨checked, ?_, ?_⟩
  · exact (Trail.exists_walk_iff (Trail.sound_start world.tree) _).mp ⟨trail, walked⟩
  · rw [← root, ← place, Trail.node?_place sound, directory]

open Classical in
/-- The end of a session removes its temporary directory if the path leads there. -/
theorem close_of_temporary {session : Engine.Session} {path : Path}
    (temporary : session.temporary = some path) (world : World) :
    session.close world =
      if world.Removable path then { world with tree := world.tree.cut (world.place path) }
      else world := by
  split
  · rename_i removable
    obtain ⟨checked, passable, directory⟩ := removable
    obtain ⟨trail, reached, node, here⟩ := reach_of_passable checked passable directory
    simp only [Engine.Session.close, temporary, removeDirectory, reached, node, if_true, here]
  · rename_i stuck
    cases reached : world.reach path with
    | error failure => simp only [Engine.Session.close, temporary, removeDirectory, reached]
    | ok trail =>
        have other : trail.node ≠ .directory := fun same =>
          stuck (removable_of_reach reached same)
        simp only [Engine.Session.close, temporary, removeDirectory, reached, other, if_false]

/-- What stands beside the way to a directory does not matter for its removal. -/
theorem removable_cut_iff {world : World} {path : Path} {place : Location} (proper : place ≠ [])
    (clear : ∀ other ∈ world.way path, ¬ place <+: other) :
    Removable { world with tree := world.tree.cut place } path ↔ world.Removable path := by
  have same (other : Location) (visited : other ∈ world.way path) :
      (world.tree.cut place).node? other = world.tree.node? other := by
    rw [Tree.node?_cut _ proper, if_neg (clear other visited)]
  have last := same _ (Location.along_mem_visited [] _)
  refine and_congr_right fun _ => and_congr ⟨fun passable => ?_, fun passable => ?_⟩ ?_
  · exact passable.mono fun other visited node stands =>
      (same other visited).symm.trans stands
  · exact passable.mono fun other visited node stands => (same other visited).trans stands
  · exact Eq.congr_left last

/-- Nothing below a directory that was removed can be removed any more. -/
theorem not_removable_cut {world : World} {path : Path} {place : Location} (proper : place ≠ [])
    (below : place <+: world.place path) :
    ¬ Removable { world with tree := world.tree.cut place } path := by
  rintro ⟨-, -, directory⟩
  have gone : (world.tree.cut place).node? (world.place path) = none := by
    rw [Tree.node?_cut _ proper, if_pos below]
  cases gone.symm.trans directory

/-- The path leads through the directory there, and out of it again. -/
def Detour (world : World) (place : Location) (path : Path) : Prop :=
  ∃ other ∈ world.way path, place <+: other ∧ ¬ place <+: world.place path

/-- Where a path leads depends on the working directory. -/
theorem place_congr {one two : World} (directory : one.workingDirectory = two.workingDirectory)
    (path : Path) : one.place path = two.place path := by
  simp only [place, fromRoot, directory]

theorem detour_congr {one two : World} (directory : one.workingDirectory = two.workingDirectory)
    {place : Location} {path : Path} : one.Detour place path ↔ two.Detour place path := by
  simp only [Detour, way, fromRoot, directory, place_congr directory]

theorem clear_of_not_detour {world : World} {place : Location} {path : Path}
    (straight : ¬ world.Detour place path) (outside : ¬ place <+: world.place path) :
    ∀ other ∈ world.way path, ¬ place <+: other :=
  fun other visited under => straight ⟨other, visited, under, outside⟩

end World

namespace Engine.Session

/-- What the end of a session leaves depends on the tree and on the working directory. -/
theorem close_congr (session : Session) {one two : World} (tree : one.tree = two.tree)
    (directory : one.workingDirectory = two.workingDirectory) :
    (session.close one).tree = (session.close two).tree := by
  have reach (path : Path) : one.reach path = two.reach path := by
    simp only [World.reach, World.fromRoot, tree, directory]
  unfold close
  cases session.temporary with
  | none => exact tree
  | some path =>
      simp only [World.removeDirectory, reach path, tree]
      cases two.reach path with
      | error failure => exact tree
      | ok trail =>
          by_cases whole : trail.node = .directory
          · simp only [whole, if_true]
          · simp only [whole, if_false]
            exact tree

variable {one two : Session} {world : World} {outer inner first second : Path}

open Classical in
/-- Two sessions may end in either order if neither home is inside the other. -/
theorem close_comm_of_beside (mine : one.temporary = some first)
    (theirs : two.temporary = some second) (proper : world.place first ≠ [])
    (solid : world.place second ≠ [])
    (aside : ∀ other ∈ world.way first, ¬ world.place second <+: other)
    (clear : ∀ other ∈ world.way second, ¬ world.place first <+: other) :
    one.close (two.close world) = two.close (one.close world) := by
  have stillOne := World.removable_cut_iff solid aside
  have stillTwo := World.removable_cut_iff proper clear
  rw [World.close_of_temporary theirs world, World.close_of_temporary mine world]
  by_cases here : world.Removable first
  · by_cases there : world.Removable second
    · rw [if_pos here, if_pos there, World.close_of_temporary mine,
        World.close_of_temporary theirs, if_pos (stillOne.mpr here), if_pos (stillTwo.mpr there)]
      exact congrArg (fun tree => ({ world with tree } : World)) (Tree.cut_comm _ _ _)
    · rw [if_pos here, if_neg there, World.close_of_temporary mine,
        World.close_of_temporary theirs, if_pos here, if_neg (mt stillTwo.mp there)]
  · by_cases there : world.Removable second
    · rw [if_neg here, if_pos there, World.close_of_temporary mine,
        World.close_of_temporary theirs, if_neg (mt stillOne.mp here), if_pos there]
    · rw [if_neg here, if_neg there, World.close_of_temporary mine,
        World.close_of_temporary theirs, if_neg here, if_neg there]

open Classical in
/-- Two sessions may end in either order if one home is inside the other. -/
theorem close_comm_of_inside (mine : one.temporary = some outer)
    (theirs : two.temporary = some inner) (proper : world.place outer ≠ [])
    (inside : world.place outer <+: world.place inner)
    (straight : ¬ world.Detour (world.place inner) outer) :
    one.close (two.close world) = two.close (one.close world) := by
  obtain ⟨further, spelled⟩ := inside
  have below : world.place outer <+: world.place inner := ⟨further, spelled⟩
  have gone := World.not_removable_cut proper below
  have absorbed : (world.tree.cut (world.place inner)).cut (world.place outer) =
      world.tree.cut (world.place outer) := by
    rw [← spelled, Tree.cut_append_cut]
  rw [World.close_of_temporary theirs world, World.close_of_temporary mine world]
  by_cases there : world.Removable inner
  · rw [if_pos there, World.close_of_temporary mine]
    by_cases same : world.place inner <+: world.place outer
    · -- Both homes are one and the same, which is gone after either end.
      have equal : world.place outer = world.place inner :=
        below.eq_of_length (Nat.le_antisymm below.length_le same.length_le)
      have also : ¬ World.Removable
          { world with tree := world.tree.cut (world.place inner) } outer := by
        rw [← equal]
        exact World.not_removable_cut proper List.prefix_rfl
      rw [if_neg also]
      by_cases here : world.Removable outer
      · rw [if_pos here, World.close_of_temporary theirs, if_neg gone, equal]
      · rw [if_neg here, World.close_of_temporary theirs, if_pos there]
    · have solid : world.place inner ≠ [] := by
        intro root
        rw [root] at same
        exact same List.nil_prefix
      have still := World.removable_cut_iff solid (World.clear_of_not_detour straight same)
      by_cases here : world.Removable outer
      · rw [if_pos (still.mpr here), if_pos here, World.close_of_temporary theirs, if_neg gone]
        exact congrArg (fun tree => ({ world with tree } : World)) absorbed
      · rw [if_neg (mt still.mp here), if_neg here, World.close_of_temporary theirs, if_pos there]
  · rw [if_neg there, World.close_of_temporary mine]
    by_cases here : world.Removable outer
    · rw [if_pos here, World.close_of_temporary theirs, if_neg gone]
    · rw [if_neg here, World.close_of_temporary theirs, if_neg there]

/-- Two sessions may end in either order unless the path of one home makes a detour through the
other. -/
theorem close_comm
    (proper : ∀ first, one.temporary = some first → world.place first ≠ [])
    (solid : ∀ second, two.temporary = some second → world.place second ≠ [])
    (straight : ∀ first second, one.temporary = some first → two.temporary = some second →
      ¬ world.Detour (world.place first) second ∧ ¬ world.Detour (world.place second) first) :
    one.close (two.close world) = two.close (one.close world) := by
  have idle {session : Session} (lasting : session.temporary = none) (world : World) :
      session.close world = world := by
    simp only [close, lasting]
  cases mine : one.temporary with
  | none => rw [idle mine, idle mine]
  | some first =>
      cases theirs : two.temporary with
      | none => rw [idle theirs, idle theirs]
      | some second =>
          obtain ⟨straightTwo, straightOne⟩ := straight first second mine theirs
          by_cases inside : world.place first <+: world.place second
          · exact close_comm_of_inside mine theirs (proper first mine) inside straightOne
          · by_cases around : world.place second <+: world.place first
            · exact (close_comm_of_inside theirs mine (solid second theirs) around straightTwo).symm
            · exact close_comm_of_beside mine theirs (proper first mine) (solid second theirs)
                (World.clear_of_not_detour straightOne around)
                (World.clear_of_not_detour straightTwo inside)

end Engine.Session

namespace World

/-- The temporary directory is named from the root. -/
theorem rooted_temporaryBase (world : World) : world.temporaryBase.rooted = true := by
  unfold temporaryBase
  split
  · rename_i rooted
    exact rooted
  · rename_i rooted
    rw [Path.join, if_neg rooted]
    split <;> rfl

/-- The place of a temporary home does not depend on the world. -/
theorem place_join_temporaryName {base : Path} (rooted : base.rooted = true) (number : Nat)
    (world : World) :
    (base.join (temporaryName number)).rooted = true ∧
      world.place (base.join (temporaryName number)) =
        Location.along [] base.names ++ [temporaryName number] := by
  obtain ⟨rest, drawn⟩ := exists_temporaryName_eq_cons number
  have nonempty : temporaryName number ≠ [] := by
    rw [drawn]
    exact List.cons_ne_nil _ _
  have simple := slash_notMem_temporaryName number
  have still : (base.join (temporaryName number)).rooted = true :=
    (Path.rooted_join simple).trans rooted
  refine ⟨still, ?_⟩
  rw [place, fromRoot, if_pos still, Path.names_join nonempty simple, Location.along_append,
    Location.along_singleton, step_temporaryName]

end World

namespace Host

open Boundary (Outcome)

/-- The sessions: their homes, and who holds them. -/
def sessions (host : Host) : Tree × Arena Engine.Session × Arena Share :=
  (host.boundary.world.tree, host.boundary.contexts, host.shares)

theorem parted_eq {host : Host} {share : Nat} {state : Share} {record : Engine.Session}
    (shared : host.shares.get? share = some state)
    (live : host.boundary.contexts.get? state.session = some record) :
    host.parted share =
      if state.holders ≤ 1 then
        { host with
          boundary := { host.boundary with
            world := record.close host.boundary.world
            contexts := host.boundary.contexts.release state.session }
          shares := host.shares.release share }.note (.freed (.context state.session))
      else
        { host with
          shares := host.shares.set share { state with holders := state.holders - 1 } } := by
  unfold parted letGo
  simp only [shared, Outcome.live, Outcome.done_bind]
  by_cases only : state.holders ≤ 1
  · simp only [only, if_true, Boundary.freeContext, live, Outcome.live, Outcome.done_bind]
  · simp only [only, if_false]

/-- What becomes of the sessions depends on the sessions and on the working directory. -/
theorem sessions_parted_congr {one two : Host} (same : one.sessions = two.sessions)
    (directory : one.boundary.world.workingDirectory = two.boundary.world.workingDirectory)
    (share : Nat) : (one.parted share).sessions = (two.parted share).sessions := by
  obtain ⟨tree, others⟩ := Prod.mk.inj same
  obtain ⟨contexts, shares⟩ := Prod.mk.inj others
  cases shared : two.shares.get? share with
  | none =>
      have unshared := shared
      rw [← shares] at unshared
      simp only [parted, letGo, shared, unshared, Outcome.live]
      exact same
  | some state =>
      have also := shared
      rw [← shares] at also
      cases live : two.boundary.contexts.get? state.session with
      | none =>
          have gone := live
          rw [← contexts] at gone
          by_cases only : state.holders ≤ 1
          · simp only [parted, letGo, shared, also, Outcome.live, Outcome.done_bind, only, if_true,
              Boundary.freeContext, live, gone]
            exact same
          · simp only [parted, letGo, shared, Outcome.live, Outcome.done_bind, only, if_false, sessions,
              tree, contexts, shares]
      | some record =>
          have there := live
          rw [← contexts] at there
          rw [parted_eq shared live, parted_eq also there]
          split
          · simp only [sessions, note, Engine.Session.close_congr record tree directory, contexts,
              shares]
          · simp only [sessions, tree, contexts, shares]

/-- No temporary home is the root. -/
def Proper (boundary : Boundary) : Prop :=
  ∀ id record path, boundary.contexts.get? id = some record → record.temporary = some path →
    ∀ world : World, world.place path ≠ []

theorem Holdings.proper_start (world : World) : Proper (start world).host.boundary :=
  fun _ _ _ live => nomatch live

theorem kept_proper : Kept fun custody => Proper custody.host.boundary := by
  refine ⟨fun move sound proper id record path live => ?_, fun began sound proper => ?_⟩
  · exact proper id record path (move.session sound live)
  · obtain ⟨vacant, added, live, built⟩ := began
    intro id record path found temporary world
    rename_i session new after
    by_cases same : id = session
    · subst same
      obtain rfl := Option.some.inj (found.symm.trans live)
      rcases Engine.Settings.build_spec built with ⟨-, -, made, given⟩ | ⟨-, -, -, -, lasting⟩
      · obtain ⟨number, _, -, home, -⟩ := World.makeTemporary_spec made
        obtain rfl := Option.some.inj (given.symm.trans temporary)
        rw [home, World.temporaryPath,
          (World.place_join_temporaryName (World.rooted_temporaryBase _) number world).2]
        exact List.append_ne_nil_of_right_ne_nil _ (List.cons_ne_nil _ _)
      · cases lasting.symm.trans temporary
    · have apart : Handle.context id ≠ .context session := fun both =>
        same (Handle.context.inj both)
      exact proper id record path ((added.contexts_of_ne apart).symm.trans found) temporary world

/-- Another share that is let go leaves a share and its session as they are. -/
theorem stands_parted {host : Host} {gone share : Nat} {ending state : Share}
    {old record : Engine.Session} (shared : host.shares.get? gone = some ending)
    (standing : host.boundary.contexts.get? ending.session = some old)
    (also : host.shares.get? share = some state) (different : gone ≠ share)
    (beside : host.boundary.contexts.get? state.session = some record)
    (distinct : ending.session ≠ state.session) :
    (host.parted gone).shares.get? share = some state ∧
      (host.parted gone).boundary.contexts.get? state.session = some record := by
  rw [parted_eq shared standing]
  split
  · exact ⟨(Arena.get?_release_ne _ different.symm).trans also,
      (Arena.get?_release_ne _ distinct.symm).trans beside⟩
  · exact ⟨(Arena.get?_set_ne _ _ different.symm).trans also, beside⟩

/-- Two may let go in either order. -/
theorem sessions_parted_comm {host : Host}
    (live : ∀ share state, host.shares.get? share = some state →
      ∃ record, host.boundary.contexts.get? state.session = some record)
    (apart : ∀ share other state otherState, host.shares.get? share = some state →
      host.shares.get? other = some otherState → state.session = otherState.session →
        share = other) {one two : Nat}
    (first : (host.shares.get? one).isSome) (second : (host.shares.get? two).isSome)
    (ends : ∀ state other record theirs, host.shares.get? one = some state →
      host.shares.get? two = some other → host.boundary.contexts.get? state.session = some record →
      host.boundary.contexts.get? other.session = some theirs →
        record.close (theirs.close host.boundary.world) =
          theirs.close (record.close host.boundary.world)) :
    ((host.parted one).parted two).sessions = ((host.parted two).parted one).sessions := by
  by_cases same : one = two
  · rw [same]
  obtain ⟨state, shared⟩ := Option.isSome_iff_exists.mp first
  obtain ⟨other, also⟩ := Option.isSome_iff_exists.mp second
  obtain ⟨record, standing⟩ := live one state shared
  obtain ⟨theirs, beside⟩ := live two other also
  have distinct : state.session ≠ other.session := fun equal =>
    same (apart one two state other shared also equal)
  have swap := ends state other record theirs shared also standing beside
  -- Each of the two finds its own share and session as they were.
  obtain ⟨alsoLater, besideLater⟩ := stands_parted shared standing also same beside distinct
  obtain ⟨sharedLater, standingLater⟩ :=
    stands_parted also beside shared (Ne.symm same) standing distinct.symm
  rw [parted_eq alsoLater besideLater, parted_eq sharedLater standingLater,
    parted_eq shared standing, parted_eq also beside]
  by_cases last : state.holders ≤ 1
  · by_cases final : other.holders ≤ 1
    · simp only [last, final, if_true, sessions, note, swap, Arena.release_comm]
    · simp only [last, final, if_true, if_false, sessions, note,
        Arena.set_release_comm _ _ (Ne.symm same)]
  · by_cases final : other.holders ≤ 1
    · simp only [last, final, if_true, if_false, sessions, note, Arena.set_release_comm _ _ same]
    · simp only [last, final, if_false, sessions, Arena.set_comm _ _ _ same]

end Host

end SessionStreams
