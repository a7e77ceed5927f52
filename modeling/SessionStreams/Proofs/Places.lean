import SessionStreams.World.Basic

set_option autoImplicit false

/- Places that paths lead to. Where a walk ends depends on the names alone (`place_walk`); whether
it gets there depends on what stands at the places that it comes past (`exists_walk_iff`). -/

namespace SessionStreams

namespace Location

/-- Where a name leads from a place. -/
def step (place : Location) (name : Name) : Location :=
  if name = Path.dot then place
  else if name = Path.dotDot then place.dropLast
  else place ++ [name]

/-- Where a walk leads, whatever stands on its way. -/
def along (place : Location) (names : List Name) : Location := names.foldl step place

/-- The places that a walk comes past, from its start to its end. -/
def visited (place : Location) : List Name → List Location
  | [] => [place]
  | name :: rest => place :: visited (place.step name) rest

theorem along_append (place : Location) (names further : List Name) :
    place.along (names ++ further) = (place.along names).along further :=
  List.foldl_append

theorem along_singleton (place : Location) (name : Name) : place.along [name] = place.step name :=
  rfl

theorem mem_visited_start (place : Location) (names : List Name) : place ∈ place.visited names := by
  cases names <;> exact List.mem_cons_self

theorem step_of_proper {name : Name} (notDot : name ≠ Path.dot) (notUp : name ≠ Path.dotDot)
    (place : Location) : place.step name = place ++ [name] := by
  rw [step, if_neg notDot, if_neg notUp]

end Location

namespace Tree

theorem node?_of_ancestor {tree : Tree} {place further : Location} {node : Node}
    (stands : tree.node? (place ++ further) = some node) (below : further ≠ []) :
    tree.node? place = some .directory := by
  induction place generalizing tree with
  | nil => exact node?_root tree
  | cons first rest ih =>
      rw [List.cons_append, node?_cons] at stands
      rw [node?_cons]
      cases entry : tree.find? first with
      | none => simp [entry] at stands
      | some item =>
          cases item with
          | leaf stored =>
              have more : rest ++ further ≠ [] := List.append_ne_nil_of_right_ne_nil rest below
              simp [entry, more] at stands
          | directory inside =>
              simp only [entry] at stands ⊢
              exact ih stands

theorem isSome_of_descendant {tree : Tree} {place other : Location} (under : place <+: other)
    (stands : (tree.node? other).isSome) : (tree.node? place).isSome := by
  obtain ⟨further, rfl⟩ := under
  obtain ⟨node, found⟩ := Option.isSome_iff_exists.mp stands
  by_cases here : further = []
  · rw [here, List.append_nil] at stands
    exact stands
  · rw [node?_of_ancestor found here]
    rfl

/-- What was not there is not there after a cut. -/
theorem node?_cut_of_none {tree : Tree} {other : Location} (vacant : tree.node? other = none)
    (place : Location) : (tree.cut place).node? other = none := by
  by_cases root : place = []
  · subst root
    cases other with
    | nil =>
        rw [node?_root] at vacant
        cases vacant
    | cons first further => cases tree <;> rfl
  · rw [node?_cut tree root, vacant, ite_self]

/-- A walk gets through if each name is entered from a directory and leads to something. -/
def Passable (tree : Tree) : Location → List Name → Prop
  | _, [] => True
  | place, name :: rest =>
      tree.node? place = some .directory ∧
        (name ≠ Path.dot → name ≠ Path.dotDot → name.length ≤ nameLimit) ∧
        (tree.node? (place.step name)).isSome ∧ Passable tree (place.step name) rest

theorem Passable.isSome_of_visited {tree : Tree} {place : Location} {names : List Name}
    (passable : tree.Passable place names) (start : (tree.node? place).isSome) :
    ∀ other ∈ place.visited names, (tree.node? other).isSome := by
  induction names generalizing place with
  | nil =>
      intro other member
      rw [List.mem_singleton.mp member]
      exact start
  | cons name rest ih =>
      intro other member
      obtain ⟨-, -, next, further⟩ := passable
      rcases List.mem_cons.mp member with rfl | later
      · exact start
      · exact ih further next other later

/-- A walk still gets through while all places that it comes past keep what stands there. -/
theorem Passable.mono {before after : Tree} {place : Location} {names : List Name}
    (passable : before.Passable place names)
    (kept : ∀ other ∈ place.visited names, ∀ node, before.node? other = some node →
      after.node? other = some node) :
    after.Passable place names := by
  induction names generalizing place with
  | nil => trivial
  | cons name rest ih =>
      obtain ⟨directory, short, next, further⟩ := passable
      have later (other : Location) (member : other ∈ (place.step name).visited rest) :=
        kept other (List.mem_cons_of_mem _ member)
      obtain ⟨node, found⟩ := Option.isSome_iff_exists.mp next
      refine ⟨kept place List.mem_cons_self _ directory, short, ?_, ih further later⟩
      rw [later _ (Location.mem_visited_start _ rest) node found]
      rfl

theorem passable_append (tree : Tree) (place : Location) (names further : List Name) :
    tree.Passable place (names ++ further) ↔
      tree.Passable place names ∧ tree.Passable (place.along names) further := by
  induction names generalizing place with
  | nil => simp [Passable, Location.along]
  | cons name rest ih =>
      simp only [List.cons_append, Passable, ih, and_assoc, Location.along, List.foldl_cons]

end Tree

namespace Trail

theorem inside?_isSome_iff {trail : Trail} (sound : trail.Sound) :
    trail.inside?.isSome ↔ trail.root.node? trail.place = some .directory := by
  rw [Tree.node?_eq_directory_iff, below?_place sound]

theorem place_enter {trail next : Trail} {name : Name} (entered : trail.enter name = .ok next) :
    next.place = trail.place.step name ∧ next.root = trail.root := by
  unfold enter at entered
  cases reached : trail.inside? with
  | none => simp [reached] at entered
  | some inside =>
      simp only [reached] at entered
      split at entered
      · next here =>
          cases entered
          rw [Location.step, if_pos here]
          exact ⟨rfl, rfl⟩
      split at entered
      · next notHere up =>
          cases entered
          rw [Location.step, if_neg notHere, if_pos up]
          simp [place, List.map_tail]
      split at entered
      · cases entered
      · next notHere notUp _ =>
          cases found : inside.find? name with
          | none => simp [found] at entered
          | some item =>
              simp only [found] at entered
              cases entered
              rw [Location.step_of_proper notHere notUp]
              simp [place]

theorem place_walk {trail reached : Trail} {names : List Name}
    (walked : trail.walk names = .ok reached) :
    reached.place = trail.place.along names ∧ reached.root = trail.root := by
  induction names generalizing trail with
  | nil =>
      cases walked
      exact ⟨rfl, rfl⟩
  | cons name rest ih =>
      unfold walk at walked
      cases entered : trail.enter name with
      | error code => simp [entered] at walked
      | ok next =>
          simp only [entered] at walked
          obtain ⟨place, root⟩ := place_enter entered
          obtain ⟨final, same⟩ := ih walked
          rw [final, place, same, root]
          exact ⟨rfl, rfl⟩

theorem exists_enter_iff {trail : Trail} (sound : trail.Sound) (name : Name) :
    (∃ next, trail.enter name = .ok next) ↔
      trail.root.node? trail.place = some .directory ∧
        (name ≠ Path.dot → name ≠ Path.dotDot → name.length ≤ Tree.nameLimit) ∧
        (trail.root.node? (trail.place.step name)).isSome := by
  constructor
  · rintro ⟨next, entered⟩
    have further := sound_enter sound entered
    obtain ⟨place, root⟩ := place_enter entered
    have stands := node?_place further
    rw [place, root] at stands
    rw [← inside?_isSome_iff sound, stands]
    unfold enter at entered
    cases reached : trail.inside? with
    | none => simp [reached] at entered
    | some inside =>
        refine ⟨rfl, ?_, rfl⟩
        intro notDot notUp
        simp only [reached, if_neg notDot, if_neg notUp] at entered
        split at entered
        · cases entered
        · omega
  · rintro ⟨directory, short, stands⟩
    have enters := (inside?_isSome_iff sound).mpr directory
    obtain ⟨inside, reached⟩ := Option.isSome_iff_exists.mp enters
    unfold enter
    simp only [reached]
    by_cases here : name = Path.dot
    · exact ⟨_, if_pos here⟩
    by_cases up : name = Path.dotDot
    · exact ⟨_, by rw [if_neg here, if_pos up]⟩
    have fits : ¬ Tree.nameLimit < name.length := Nat.not_lt.mpr (short here up)
    rw [if_neg here, if_neg up, if_neg fits]
    have below : trail.root.below? trail.place = some inside := by rw [below?_place sound, reached]
    rw [Location.step_of_proper here up, Tree.node?_append_place below, Tree.node?_cons] at stands
    cases found : inside.find? name with
    | none => simp [found] at stands
    | some item => exact ⟨_, rfl⟩

theorem exists_walk_iff {trail : Trail} (sound : trail.Sound) (names : List Name) :
    (∃ reached, trail.walk names = .ok reached) ↔ trail.root.Passable trail.place names := by
  induction names generalizing trail with
  | nil => exact ⟨fun _ => trivial, fun _ => ⟨trail, rfl⟩⟩
  | cons name rest ih =>
      constructor
      · rintro ⟨reached, walked⟩
        unfold walk at walked
        cases entered : trail.enter name with
        | error code => simp [entered] at walked
        | ok next =>
            simp only [entered] at walked
            obtain ⟨place, root⟩ := place_enter entered
            obtain ⟨directory, short, stands⟩ := (exists_enter_iff sound name).mp ⟨next, entered⟩
            have further := (ih (sound_enter sound entered)).mp ⟨reached, walked⟩
            rw [place, root] at further
            exact ⟨directory, short, stands, further⟩
      · rintro ⟨directory, short, stands, further⟩
        obtain ⟨next, entered⟩ := (exists_enter_iff sound name).mpr ⟨directory, short, stands⟩
        obtain ⟨place, root⟩ := place_enter entered
        rw [← place, ← root] at further
        obtain ⟨reached, walked⟩ := (ih (sound_enter sound entered)).mpr further
        exact ⟨reached, by rw [walk, entered]; exact walked⟩

end Trail

namespace World

/-- The place that a path leads to, whatever stands on the way. -/
def place (world : World) (path : Path) : Location :=
  Location.along [] (world.fromRoot path path.names)

/-- A path that is reached was walked along. -/
theorem walked_of_reach {world : World} {path : Path} {trail : Trail}
    (reached : world.reach path = .ok trail) :
    checkPath path = .ok () ∧
      ({ root := world.tree } : Trail).walk (world.fromRoot path path.names) = .ok trail := by
  unfold reach at reached
  cases checked : checkPath path with
  | error failure => simp [checked] at reached
  | ok _ =>
      refine ⟨rfl, ?_⟩
      simp only [checked] at reached
      split at reached
      · unfold Trail.walkDirectory at reached
        cases walked : Trail.walk { root := world.tree } (world.fromRoot path path.names) with
        | error code => simp [walked] at reached
        | ok found =>
            simp only [walked] at reached
            split at reached
            · simpa using reached
            · simp at reached
      · cases walked : Trail.walk { root := world.tree } (world.fromRoot path path.names) with
        | error code => simp [walked] at reached
        | ok found => simpa [walked] using reached

theorem place_of_reach {world : World} {path : Path} {trail : Trail}
    (reached : world.reach path = .ok trail) :
    trail.Sound ∧ trail.root = world.tree ∧ trail.place = world.place path := by
  have walked := (walked_of_reach reached).2
  obtain ⟨place, root⟩ := Trail.place_walk walked
  exact ⟨Trail.sound_walk (Trail.sound_start _) walked, root, place⟩

end World

end SessionStreams
