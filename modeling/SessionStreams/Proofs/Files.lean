import SessionStreams.Proofs.Sessions

set_option autoImplicit false

/- Files that are made, filled from the start and found again. Main statements: where a file can be
created, opening it for writing leaves an empty file that its path leads to
(`openForWriting_of_creatable`); a write at the end of a file adds to it (`write_of_atEnd`); and
reads give what is left of a file, piece by piece (`read_of_remains`). -/

namespace SessionStreams.World

/-- A file can be created at a path, or stands there and can be emptied. -/
def Creatable (world : World) (path : Path) : Prop :=
  ∃ parent siblings name, world.position path = .ok ⟨parent, siblings, some name⟩ ∧
    path.endsInSlash = false ∧ name.length ≤ Tree.nameLimit ∧
    ∀ item, siblings.find? name = some item →
      ∃ contents, item = .leaf (.file contents) ∧ (world.files.get? contents).isSome

/-- A descriptor that was opened for writing stands at the end of a file with these bytes. -/
structure AtEnd (world : World) (fd contents : Nat) (data : Bytes) : Prop where
  descriptor : world.descriptors.get? fd =
    some { target := .file contents, offset := data.length, writable := true }
  file : world.files.get? contents = some data.toArray

/-- These bytes are left of the file that a descriptor was opened on for reading. -/
def Remains (world : World) (fd : Nat) (rest : Bytes) : Prop :=
  ∃ contents offset, world.descriptors.get? fd =
      some { target := .file contents, offset, readable := true } ∧
    rest = (world.fileBytes contents).drop offset

section

variable {world : World} {fd contents : Nat} {data : Bytes}

theorem Creatable.zero_notMem {path : Path} (creatable : world.Creatable path) : 0 ∉ path := by
  obtain ⟨parent, siblings, name, found, -⟩ := creatable
  exact checkPath_eq_ok (position_spec found).1

theorem patch_end (data more : Bytes) :
    Bytes.patch data.toArray data.length more = (data ++ more).toArray := by
  apply Array.toList_inj.mp
  rw [Bytes.toList_patch, Bytes.overlay_end]

theorem write_of_atEnd (atEnd : world.AtEnd fd contents data) {more : Bytes} (someMore : more ≠ []) :
    ∃ after, world.write fd more = .ok (more.length, after) ∧
      after.AtEnd fd contents (data ++ more) := by
  refine ⟨{ world with files := world.files.set contents (data ++ more).toArray }.setOffset fd
    { target := .file contents, offset := data.length, writable := true }
    (data.length + more.length), ?_, ?_, Arena.get?_set_self _ atEnd.file⟩
  · simp only [write, atEnd.descriptor, atEnd.file, someMore, Bool.not_true, Bool.false_eq_true,
      if_false, Option.getD_some, patch_end]
  · rw [List.length_append]
    exact Arena.get?_set_self _ atEnd.descriptor

theorem drop_length_take (data : Bytes) (offset count : Nat) :
    data.drop (offset + ((data.drop offset).take count).length) =
      (data.drop offset).drop count := by
  rw [List.length_take, List.drop_drop]
  by_cases all : (data.drop offset).length ≤ count
  · rw [List.length_drop] at all
    rw [Nat.min_eq_right (by rw [List.length_drop]; exact all), List.length_drop,
      List.drop_eq_nil_of_le (by omega), List.drop_eq_nil_of_le (by omega)]
  · rw [Nat.min_eq_left (by omega)]

theorem read_of_remains {rest : Bytes} (remains : world.Remains fd rest) (count : Nat) :
    ∃ after, world.read fd count = .ok (rest.take count, after) ∧
      after.Remains fd (rest.drop count) := by
  obtain ⟨contents, offset, there, rfl⟩ := remains
  have next := drop_length_take (world.fileBytes contents) offset count
  refine ⟨world.setOffset fd { target := .file contents, offset, readable := true }
    (offset + (((world.fileBytes contents).drop offset).take count).length), ?_,
    contents, _, Arena.get?_set_self _ there, next.symm⟩
  simp only [read, there, Bool.not_true, Bool.false_eq_true, if_false, filePart_eq]

theorem stat_of_passable {path : Path} {node : Node} (checked : checkPath path = .ok ())
    (passable : world.tree.Passable [] (world.fromRoot path path.names))
    (plain : path.endsInSlash = false) (stands : world.tree.node? (world.place path) = some node) :
    world.stat path = .ok node := by
  have start := Trail.sound_start world.tree
  obtain ⟨trail, walked⟩ := (Trail.exists_walk_iff start _).mpr passable
  obtain ⟨here, root⟩ := Trail.place_walk walked
  have found := Trail.node?_place (Trail.sound_walk start walked)
  rw [root, here] at found
  have same : trail.node = node := Option.some.inj (found.symm.trans stands)
  simp only [stat, reach, checked, plain, Bool.false_eq_true, if_false, walked, mapError_ok,
    Except.map, same]

theorem Keeps.stat {before after : World} (keeps : before.Keeps after) (path : Path) :
    after.stat path = before.stat path := by
  simp only [World.stat, reach, fromRoot, keeps.tree, keeps.workingDirectory]

theorem openForReading_of_stat {path : Path} (stands : world.stat path = .ok (.leaf (.file contents))) :
    ∃ after, world.openForReading path = .ok (world.descriptors.fresh, after) ∧
      after.Remains world.descriptors.fresh (world.fileBytes contents) := by
  refine ⟨(world.addDescriptor { target := .file contents, readable := true }).2, ?_, contents, 0,
    Arena.get?_alloc_self _ _, rfl⟩
  simp only [openForReading, stands]
  rfl

/-- A file that stands at the position of a path is found by the path. -/
theorem stat_of_position {path : Path} {parent : Location} {siblings : Tree} {name : Name}
    (found : world.position path = .ok ⟨parent, siblings, some name⟩)
    (plain : path.endsInSlash = false) (short : name.length ≤ Tree.nameLimit) {after : World}
    (grows : world.Grows after) {node : Node}
    (stands : after.tree.node? (parent ++ [name]) = some node) : after.stat path = .ok node := by
  obtain ⟨passable, place⟩ := way_of_position found short grows stands
  rw [← place] at stands
  exact stat_of_passable (position_spec found).1 passable plain stands

theorem openForWriting_of_creatable {path : Path} (creatable : world.Creatable path) :
    ∃ after contents,
      world.openForWriting path .truncate = .ok (world.descriptors.fresh, after) ∧
        after.stat path = .ok (.leaf (.file contents)) ∧
        after.AtEnd world.descriptors.fresh contents [] := by
  obtain ⟨parent, siblings, name, found, plain, short, there⟩ := creatable
  have below := (position_spec found).2.1
  have fits : ¬ Tree.nameLimit < name.length := Nat.not_lt.mpr short
  have opened (after : World) (contents : Nat)
      (finished : world.openForWriting path .truncate = .ok (world.descriptors.fresh, after))
      (node : after.tree.node? (parent ++ [name]) = some (.leaf (.file contents))) :
      after.stat path = .ok (.leaf (.file contents)) :=
    stat_of_position found plain short (grows_openForWriting finished) node
  cases stands : siblings.find? name with
  | none =>
      have finished : world.openForWriting path .truncate = .ok
          ({ world with
            files := world.files.alloc #[]
            tree := world.tree.add parent name (.leaf (.file world.files.fresh)) }.addDescriptor
              { target := .file world.files.fresh, writable := true }) := by
        simp only [openForWriting, found, plain, Bool.false_eq_true, if_false, fits, stands]
        rfl
      refine ⟨_, world.files.fresh, finished, opened _ _ finished ?_,
        Arena.get?_alloc_self _ _, Arena.get?_alloc_self _ _⟩
      have added := Tree.node?_add below stands (Or.inr ⟨.file world.files.fresh, rfl⟩)
        (parent ++ [name])
      rw [if_pos rfl] at added
      exact added
  | some item =>
      obtain ⟨contents, rfl, known⟩ := there item stands
      obtain ⟨old, filled⟩ := Option.isSome_iff_exists.mp known
      have finished : world.openForWriting path .truncate = .ok
          ({ world with files := world.files.set contents #[] }.addDescriptor
            { target := .file contents, writable := true }) := by
        simp only [openForWriting, found, plain, Bool.false_eq_true, if_false, fits, stands]
        rfl
      refine ⟨_, contents, finished, opened _ _ finished ?_,
        Arena.get?_alloc_self _ _, Arena.get?_set_self _ filled⟩
      change world.tree.node? (parent ++ [name]) = some (.leaf (.file contents))
      rw [Tree.node?_append_place below, Tree.node?_cons, stands]
      rfl

theorem files_close (world : World) (fd : Nat) : (world.close fd).files = world.files := by
  unfold close closePipeEnd
  repeat' split
  all_goals rfl

end

end SessionStreams.World
