import SessionStreams.Proofs.Performing

set_option autoImplicit false

/- Homes of sessions. A session with a temporary home has it to itself for as long as it lives
(`kept_homed`), and leaves nothing there when it ends (`removed_of_ebbs`). What stands elsewhere
keeps standing (`stands_of_moves`). -/

namespace SessionStreams

/-- What stands where a path leads, if the path can be walked or not. -/
def World.standing? (world : World) (path : Path) : Option Node :=
  world.tree.node? (world.place path)

namespace Host

open Boundary (Added Removed Steady)

/-- What a move can do to sessions: leave all of them while the tree grows, or end one. -/
theorem Move.sessions {before after : Custody} (move : Move before after) (sound : Sound before) :
    (before.host.boundary.world.Grows after.host.boundary.world ∧
      ∀ id, after.host.boundary.contexts.get? id = before.host.boundary.contexts.get? id) ∨
    ∃ id record, before.host.boundary.contexts.get? id = some record ∧
      after.host.boundary.contexts = before.host.boundary.contexts.release id ∧
      after.host.boundary.world = record.close before.host.boundary.world := by
  cases move with
  | stir steady => exact Or.inl ⟨steady.world, fun id => by rw [steady.contexts]⟩
  | use owned steady => exact Or.inl ⟨steady.world, fun id => congrArg (·.get? id) steady.contexts⟩
  | ask held shared => exact Or.inl ⟨World.Grows.refl _, fun _ => rfl⟩
  | hold held vacant =>
      left
      rw [Custody.host_put, boundary_hold]
      exact ⟨World.Grows.refl _, fun _ => rfl⟩
  | take found stream added =>
      exact Or.inl ⟨added.world, fun id => added.contexts_of_ne (stream.context_ne id)⟩
  | free found removed keeps =>
      have stream := sound.stream _ _ (Custody.owns_of_claim found)
      exact Or.inl ⟨keeps.grows, fun id => removed.contexts_of_ne (stream.context_ne id)⟩
  | leave found shared more => exact Or.inl ⟨World.Grows.refl _, fun _ => rfl⟩
  | last found shared only live => exact Or.inr ⟨_, _, live, rfl, rfl⟩

/-- Sessions have a temporary home just if they are ephemeral; it is settled, and no two sessions
have the same. -/
structure Homed (boundary : Boundary) : Prop where
  temporary : ∀ id record, boundary.contexts.get? id = some record →
    record.temporary = if record.ephemeral then some record.home else none
  settled : ∀ id record, boundary.contexts.get? id = some record → record.ephemeral = true →
    ∃ number, record.home = boundary.world.temporaryPath number ∧ boundary.world.Settled number
  apart : ∀ one two first second, boundary.contexts.get? one = some first →
    boundary.contexts.get? two = some second → first.ephemeral = true → second.ephemeral = true →
      first.home = second.home → one = two

namespace Homed

variable {boundary after : Boundary} {id : Nat} {record : Engine.Session}

theorem grows (homed : Homed boundary) (grows : boundary.world.Grows after.world)
    (same : ∀ id, after.contexts.get? id = boundary.contexts.get? id) : Homed after := by
  refine ⟨?_, ?_, ?_⟩
  · intro id record live
    rw [same] at live
    exact homed.temporary id record live
  · intro id record live brief
    rw [same] at live
    obtain ⟨number, home, settled⟩ := homed.settled id record live brief
    refine ⟨number, ?_, settled.grows grows⟩
    rw [home, grows.temporaryPath]
  · intro one two first second oneLive twoLive
    rw [same] at oneLive twoLive
    exact homed.apart one two first second oneLive twoLive

/-- The home of an ephemeral session goes with it, all else stays. -/
theorem close_of_ephemeral (homed : Homed boundary) (live : boundary.contexts.get? id = some record)
    (brief : record.ephemeral = true) :
    ∃ number, record.home = boundary.world.temporaryPath number ∧ boundary.world.Settled number ∧
      record.close boundary.world = { boundary.world with
        tree := boundary.world.tree.cut (boundary.world.temporaryPlace number) } := by
  obtain ⟨number, home, settled⟩ := homed.settled id record live brief
  have temporary := homed.temporary id record live
  rw [if_pos brief, home] at temporary
  exact ⟨number, home, settled, World.close_of_settled settled temporary⟩

theorem close_of_lasting (homed : Homed boundary) (live : boundary.contexts.get? id = some record)
    (lasting : ¬ record.ephemeral = true) : record.close boundary.world = boundary.world := by
  have temporary := homed.temporary id record live
  rw [if_neg lasting] at temporary
  simp only [Engine.Session.close, temporary]

theorem close (homed : Homed boundary) (live : boundary.contexts.get? id = some record)
    (contexts : after.contexts = boundary.contexts.release id)
    (world : after.world = record.close boundary.world) : Homed after := by
  have earlier (other : Nat) (found : Engine.Session)
      (there : after.contexts.get? other = some found) :
      other ≠ id ∧ boundary.contexts.get? other = some found := by
    rw [contexts, Arena.get?_release] at there
    by_cases here : other = id
    · rw [if_pos here] at there
      cases there
    · rw [if_neg here] at there
      exact ⟨here, there⟩
  refine ⟨?_, ?_, ?_⟩
  · intro other found there
    exact homed.temporary other found (earlier other found there).2
  · intro other found there short
    obtain ⟨apart, before⟩ := earlier other found there
    obtain ⟨number, home, settled⟩ := homed.settled other found before short
    refine ⟨number, ?_⟩
    by_cases brief : record.ephemeral = true
    · obtain ⟨gone, known, closing, closed⟩ := homed.close_of_ephemeral live brief
      rw [world, closed]
      refine ⟨home, settled.cut closing ?_⟩
      rw [← home, ← known]
      intro same
      exact apart (homed.apart id other record found live before brief short same).symm
    · rw [world, homed.close_of_lasting live brief]
      exact ⟨home, settled⟩
  · intro one two first second oneThere twoThere
    exact homed.apart one two first second (earlier one first oneThere).2
      (earlier two second twoThere).2

theorem began (homed : Homed boundary) {settings : Engine.Settings}
    (added : Added (.context id) boundary after) (live : after.contexts.get? id = some record)
    (built : settings.build boundary.world = (.ok record, after.world)) : Homed after := by
  have earlier (other : Nat) (found : Engine.Session)
      (there : after.contexts.get? other = some found) :
      (other = id ∧ found = record) ∨ boundary.contexts.get? other = some found := by
    have alive : after.Alive (.context other) := by
      rw [Boundary.Alive, there]
      rfl
    rcases (added.alive _).mp alive with same | before
    · cases same
      rw [live] at there
      exact Or.inl ⟨rfl, (Option.some.inj there).symm⟩
    · obtain ⟨old, known⟩ := Option.isSome_iff_exists.mp before
      have still := added.contexts other old known
      rw [there] at still
      cases still
      exact Or.inr known
  -- A directory that was just made is not the home of a session that was there before.
  have new (other : Nat) (found : Engine.Session)
      (there : boundary.contexts.get? other = some found) (short : found.ephemeral = true)
      (brief : record.ephemeral = true) : found.home ≠ record.home := by
    intro same
    rcases Engine.Settings.build_spec built with ⟨-, -, made, -⟩ | ⟨-, lasting, -⟩
    · obtain ⟨number, home, -, vacant⟩ := World.settled_of_makeTemporary made
      obtain ⟨old, known, settled⟩ := homed.settled other found there short
      have directory := settled.directory
      rw [← World.place_temporaryPath, ← known, same, home, World.place_temporaryPath,
        vacant] at directory
      cases directory
    · rw [lasting] at brief
      cases brief
  refine ⟨?_, ?_, ?_⟩
  · intro other found there
    rcases earlier other found there with ⟨-, rfl⟩ | before
    · rcases Engine.Settings.build_spec built with ⟨-, brief, -, given⟩ | ⟨-, lasting, -, -, homeless⟩
      · rw [brief, given, if_pos rfl]
      · rw [lasting, homeless, if_neg Bool.false_ne_true]
    · exact homed.temporary other found before
  · intro other found there short
    rcases earlier other found there with ⟨-, rfl⟩ | before
    · rcases Engine.Settings.build_spec built with ⟨-, -, made, -⟩ | ⟨-, lasting, -⟩
      · obtain ⟨number, home, settled, -⟩ := World.settled_of_makeTemporary made
        refine ⟨number, ?_, settled⟩
        rw [home, (World.grows_makeTemporary made).temporaryPath]
      · rw [lasting] at short
        cases short
    · obtain ⟨number, home, settled⟩ := homed.settled other found before short
      refine ⟨number, ?_, settled.grows added.world⟩
      rw [home, added.world.temporaryPath]
  · intro one two first second oneThere twoThere brief short same
    rcases earlier one first oneThere with ⟨rfl, rfl⟩ | oneBefore
    · rcases earlier two second twoThere with ⟨rfl, -⟩ | twoBefore
      · rfl
      · exact absurd same.symm (new two second twoBefore short brief)
    · rcases earlier two second twoThere with ⟨rfl, rfl⟩ | twoBefore
      · exact absurd same (new one first oneBefore brief short)
      · exact homed.apart one two first second oneBefore twoBefore brief short same

/-- The home of an ephemeral session is there. -/
theorem standing (homed : Homed boundary) (live : boundary.contexts.get? id = some record)
    (brief : record.ephemeral = true) : boundary.world.standing? record.home = some .directory := by
  obtain ⟨number, home, settled⟩ := homed.settled id record live brief
  rw [World.standing?, home, World.place_temporaryPath]
  exact settled.directory

end Homed

theorem kept_homed : Kept fun custody => Homed custody.host.boundary := by
  refine ⟨?_, ?_⟩
  · intro before after move sound homed
    rcases move.sessions sound with ⟨grows, same⟩ | ⟨id, record, live, contexts, world⟩
    · exact homed.grows grows same
    · exact homed.close live contexts world
  · intro settings address before after began sound homed
    cases began with
    | intro vacant added live built => exact homed.began added live built

theorem Holdings.homed_start (world : World) : Homed (start world).host.boundary := by
  refine ⟨?_, ?_, ?_⟩
  · intro id record live
    cases live
  · intro id record live
    cases live
  · intro one two first second live
    cases live

section

variable {before after : Custody} {id : Nat} {record : Engine.Session}

theorem Move.place (move : Move before after) (sound : Sound before) (path : Path) :
    after.host.boundary.world.place path = before.host.boundary.world.place path := by
  rcases move.sessions sound with ⟨grows, -⟩ | ⟨id, record, -, -, world⟩
  · exact grows.place path
  · rw [world]
    simp only [World.place, World.fromRoot, (World.settings_close record _).1]

theorem Moves.place (moves : Moves before after) (sound : Sound before) (path : Path) :
    after.host.boundary.world.place path = before.host.boundary.world.place path := by
  induction moves with
  | refl => rfl
  | tail earlier move ih => rw [move.place (Moves.sound earlier sound), ih]

/-- No session begins by a move. -/
theorem Move.session (move : Move before after) (sound : Sound before)
    (live : after.host.boundary.contexts.get? id = some record) :
    before.host.boundary.contexts.get? id = some record := by
  rcases move.sessions sound with ⟨-, same⟩ | ⟨ended, last, -, contexts, -⟩
  · rw [← same]
    exact live
  · rw [contexts, Arena.get?_release] at live
    split at live
    · cases live
    · exact live

theorem Moves.session (moves : Moves before after) (sound : Sound before)
    (live : after.host.boundary.contexts.get? id = some record) :
    before.host.boundary.contexts.get? id = some record := by
  induction moves with
  | refl => exact live
  | tail earlier move ih => exact ih (move.session (Moves.sound earlier sound) live)

/-- No share comes to stand for another session by a move. -/
theorem Move.share (move : Move before after) (sound : Sound before) {share : Nat} {state : Share}
    (shared : after.host.shares.get? share = some state) :
    ∃ earlier, before.host.shares.get? share = some earlier ∧
      earlier.session = state.session := by
  cases move with
  | hold held vacant =>
      obtain ⟨old, there⟩ := sound.exists_share held
      rw [Custody.host_put, Sound.hold_eq there, Arena.get?_set] at shared
      split at shared
      · rename_i same
        cases shared
        exact ⟨old, same.1 ▸ there, rfl⟩
      · exact ⟨state, shared, rfl⟩
  | leave found there more =>
      rw [Custody.host_put, Arena.get?_set] at shared
      split at shared
      · rename_i same
        obtain ⟨rfl, -⟩ := same
        obtain rfl := Option.some.inj shared
        exact ⟨_, there, rfl⟩
      · exact ⟨state, shared, rfl⟩
  | last found there only live =>
      rw [Custody.host_put] at shared
      simp only [Host.note, Arena.get?_release] at shared
      split at shared
      · cases shared
      · exact ⟨state, shared, rfl⟩
  | _ => exact ⟨state, shared, rfl⟩

theorem Moves.share (moves : Moves before after) (sound : Sound before) {share : Nat}
    {state : Share} (shared : after.host.shares.get? share = some state) :
    ∃ earlier, before.host.shares.get? share = some earlier ∧
      earlier.session = state.session := by
  induction moves generalizing state with
  | refl => exact ⟨state, shared, rfl⟩
  | tail earlier move ih =>
      obtain ⟨middle, there, same⟩ := move.share (Moves.sound earlier sound) shared
      obtain ⟨first, found, also⟩ := ih there
      exact ⟨first, found, also.trans same⟩

/-- What stands outside all temporary homes keeps standing. -/
theorem stands_of_moves {path : Path} {node : Node} (moves : Moves before after)
    (sound : Sound before) (homed : Homed before.host.boundary)
    (outside : ∀ id record, before.host.boundary.contexts.get? id = some record →
      record.ephemeral = true → ¬ before.host.boundary.world.place record.home <+:
        before.host.boundary.world.place path)
    (stands : before.host.boundary.world.standing? path = some node) :
    after.host.boundary.world.standing? path = some node := by
  induction moves with
  | refl => exact stands
  | tail earlier move ih =>
      have still := Moves.sound earlier sound
      have kept := kept_homed.moves earlier sound homed
      rw [World.standing?, move.place still]
      rcases move.sessions still with ⟨grows, -⟩ | ⟨id, record, live, -, world⟩
      · exact grows.node _ _ ih
      · rw [world, World.node?_close_of_outside]
        · exact ih
        · intro home temporary
          have known := kept.temporary id record live
          rw [temporary] at known
          split at known
          · next brief =>
              cases known
              rw [Moves.place earlier sound, Moves.place earlier sound]
              exact outside id record (Moves.session earlier sound live) brief
          · cases known

/-- An ephemeral session that is gone has left nothing in the place of its home. -/
theorem removed_of_ebbs (ebbs : Ebbs before after) (sound : Sound before)
    (homed : Homed before.host.boundary)
    (live : before.host.boundary.contexts.get? id = some record)
    (brief : record.ephemeral = true) :
    after.host.boundary.contexts.get? id = some record ∨
      after.host.boundary.world.standing? record.home = none := by
  induction ebbs with
  | refl => exact Or.inl live
  | tail earlier ebb ih =>
      have still := Moves.sound (Ebbs.moves earlier) sound
      have kept := kept_homed.moves (Ebbs.moves earlier) sound homed
      rw [World.standing?, ebb.1.place still]
      rcases ih with there | gone
      · rcases ebb.1.sessions still with ⟨-, same⟩ | ⟨ended, last, known, contexts, world⟩
        · left
          rw [same]
          exact there
        · by_cases here : id = ended
          · subst here
            rw [known] at there
            cases there
            obtain ⟨number, home, settled, closed⟩ := kept.close_of_ephemeral known brief
            right
            rw [world, closed, home, World.place_temporaryPath,
              Tree.node?_cut _ (World.temporaryPlace_ne_nil _ _), if_pos List.prefix_rfl]
          · left
            rw [contexts, Arena.get?_release, if_neg here]
            exact there
      · exact Or.inr (ebb.2 _ gone)

end

end Host

end SessionStreams
