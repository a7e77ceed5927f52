import Mathlib.Data.List.Nodup
import Mathlib.Data.List.Perm.Subperm
import SessionStreams.Proofs.Sessions

set_option autoImplicit false

/- Random names do not matter. Different draws give different names of one length, so a directory
that can take one new name can take any that is not in use, and one of the names that are tried is
not. Main statements: making a temporary directory comes to the same for every draw, up to the name
(`makeTemporary_redrawn`), and making a given directory does not draw at all
(`makeDirectories_redrawn`). -/

namespace SessionStreams

namespace Tree

/-- The names of a directory's own entries. -/
def names : Tree → List Name
  | .empty => []
  | .leaf name _ rest => name :: rest.names
  | .branch name _ rest => name :: rest.names

theorem length_names_le (tree : Tree) : tree.names.length ≤ tree.size := by
  induction tree with
  | empty => exact Nat.le_refl _
  | leaf name stored rest ih =>
      simp only [names, size, List.length_cons]
      omega
  | branch name inside rest _ ih =>
      simp only [names, size, List.length_cons]
      omega

theorem mem_names_of_isSome {tree : Tree} {wanted : Name} (found : (tree.find? wanted).isSome) :
    wanted ∈ tree.names := by
  induction tree with
  | empty => cases found
  | leaf name stored rest ih =>
      by_cases same : name = wanted
      · exact List.mem_cons.mpr (Or.inl same.symm)
      · rw [find?, if_neg same] at found
        exact List.mem_cons_of_mem _ (ih found)
  | branch name inside rest _ ih =>
      by_cases same : name = wanted
      · exact List.mem_cons.mpr (Or.inl same.symm)
      · rw [find?, if_neg same] at found
        exact List.mem_cons_of_mem _ (ih found)

theorem size_le_of_find? {tree inside : Tree} {name : Name}
    (found : tree.find? name = some (.directory inside)) : inside.size ≤ tree.size := by
  induction tree with
  | empty => cases found
  | leaf other stored rest ih =>
      rw [find?] at found
      split at found
      · cases found
      · have smaller := ih found
        simp only [size]
        omega
  | branch other deeper rest _ ih =>
      rw [find?] at found
      split at found
      · cases found
        simp only [size]
        omega
      · have smaller := ih found
        simp only [size]
        omega

theorem size_le_of_below? {tree inside : Tree} {place : Location}
    (found : tree.below? place = some inside) : inside.size ≤ tree.size := by
  induction place generalizing tree with
  | nil =>
      cases found
      exact Nat.le_refl _
  | cons first further ih =>
      rw [below?] at found
      cases entry : tree.find? first with
      | none => simp [entry] at found
      | some item =>
          cases item with
          | leaf stored => simp [entry] at found
          | directory deeper =>
              rw [entry] at found
              exact Nat.le_trans (ih found) (size_le_of_find? entry)

/-- Of more different names than there are entries, one is not in use. -/
theorem exists_vacant {name : Nat → Name} (distinct : Function.Injective name) (tree : Tree)
    (start : Nat) : ∃ further, further ≤ tree.size ∧ tree.find? (name (start + further)) = none := by
  by_contra taken
  have used (further : Nat) (few : further ≤ tree.size) : name (start + further) ∈ tree.names := by
    apply mem_names_of_isSome
    rw [Option.isSome_iff_ne_none]
    exact fun vacant => taken ⟨further, few, vacant⟩
  -- Otherwise the entries have more names than there are entries.
  let tried := (List.range (tree.size + 1)).map fun further => name (start + further)
  have apart : tried.Nodup := by
    apply List.Nodup.map _ List.nodup_range
    intro one two same
    have sum := distinct same
    omega
  have inside : tried ⊆ tree.names := by
    intro each member
    obtain ⟨further, small, rfl⟩ := List.mem_map.mp member
    have few := List.mem_range.mp small
    exact used further (by omega)
  have few := (apart.subperm inside).length_le
  have most := tree.length_names_le
  simp only [tried, List.length_map, List.length_range] at few
  omega

end Tree

theorem Text.length_encode_of_ascii {text : String} (ascii : ∀ c ∈ text.toList, c.toNat < 0x80) :
    (encode text).length = text.toList.length := by
  unfold encode
  generalize text.toList = chars at ascii ⊢
  induction chars with
  | nil => rfl
  | cons c rest ih =>
      have one : encodeCode c.toNat = [UInt8.ofNat c.toNat] := by
        rw [encodeCode, if_pos (ascii c List.mem_cons_self)]
      rw [List.flatMap_cons, List.length_append, one,
        ih fun other member => ascii other (List.mem_cons_of_mem _ member)]
      simp only [List.length_cons, List.length_nil]
      omega

theorem Trail.walk_ne_alreadyExists {trail : Trail} {names : List Name} {code : OsCode}
    (stopped : trail.walk names = .error code) : code ≠ .alreadyExists := by
  induction names generalizing trail with
  | nil => cases stopped
  | cons name rest ih =>
      rw [walk] at stopped
      split at stopped
      · next refused =>
          cases stopped
          unfold enter at refused
          split at refused
          · cases refused
            decide
          split at refused
          · cases refused
          split at refused
          · cases refused
          split at refused
          · cases refused
            decide
          split at refused <;> cases refused
          decide
      · exact ih stopped

namespace World

theorem ofDigitChars_sixDigits (number : Nat) : Nat.ofDigitChars 10 (sixDigits number) 0 = number := by
  simp only [sixDigits, Nat.ofDigitChars_append, Nat.ofDigitChars_replicate_zero, Nat.mul_zero,
    Nat.ofDigitChars_ten_toDigits]

theorem temporaryName_injective : Function.Injective temporaryName := by
  intro one two same
  rw [temporaryName, temporaryName] at same
  have text := congrArg Text.decode? same
  rw [Text.decode?_encode, Text.decode?_encode, Option.some.injEq] at text
  have chars := congrArg String.toList text
  rw [String.toList_append, String.toList_append, List.append_cancel_left_eq, String.toList_ofList,
    String.toList_ofList] at chars
  have digits := congrArg (Nat.ofDigitChars 10 · 0) chars
  simpa only [ofDigitChars_sixDigits] using digits

/-- The draws whose names have six digits. -/
def drawLimit : Nat := 1000000

theorem length_sixDigits {number : Nat} (small : number < drawLimit) :
    (sixDigits number).length = 6 := by
  have few := (Nat.length_toDigits_le_iff (by decide : 1 < 10) (by decide : 0 < 6)).mpr small
  simp only [sixDigits, List.length_append, List.length_replicate]
  omega

theorem length_temporaryName {number : Nat} (small : number < drawLimit) :
    (temporaryName number).length = 13 := by
  have digits : (String.ofList (sixDigits number)).toList = sixDigits number := String.toList_ofList
  have letters := List.all_eq_true.mp (by decide : "sequoia".toList.all (·.toNat < 0x80) = true)
  have seven : "sequoia".toList.length = 7 := by decide
  rw [temporaryName, Text.length_encode_of_ascii]
  · rw [String.toList_append, digits, List.length_append, seven, length_sixDigits small]
  · intro c member
    rw [String.toList_append, digits] at member
    rcases List.mem_append.mp member with letter | digit
    · exact of_decide_eq_true (letters c letter)
    · have numeral := isDigit_of_mem_sixDigits digit
      simp only [Char.isDigit, Bool.and_eq_true, decide_eq_true_eq] at numeral
      have most := UInt32.le_iff_toNat_le.mp numeral.2
      have nine : '9'.val.toNat = 57 := by decide
      have same : c.toNat = c.val.toNat := rfl
      omega

theorem exists_temporaryPath_eq_append (world : World) :
    ∃ front, ∀ number, world.temporaryPath number = front ++ temporaryName number := by
  have plain (number : Nat) := Path.not_rooted_of_simple (slash_notMem_temporaryName number)
  by_cases closed : world.temporaryBase = [] ∨ world.temporaryBase.endsInSlash
  · refine ⟨world.temporaryBase, fun number => ?_⟩
    rw [temporaryPath, Path.join, plain, if_neg Bool.false_ne_true, if_pos closed]
  · refine ⟨world.temporaryBase ++ [Path.slash], fun number => ?_⟩
    rw [temporaryPath, Path.join, plain, if_neg Bool.false_ne_true, if_neg closed,
      List.append_assoc, List.singleton_append]

theorem checkPath_temporaryPath (world : World) {one two : Nat} (oneSmall : one < drawLimit)
    (twoSmall : two < drawLimit) :
    checkPath (world.temporaryPath one) = checkPath (world.temporaryPath two) := by
  obtain ⟨front, spelled⟩ := world.exists_temporaryPath_eq_append
  have nul (number : Nat) : 0 ∈ world.temporaryPath number ↔ 0 ∈ front := by
    rw [spelled, List.mem_append, or_iff_left (zero_notMem_temporaryName number)]
  have long {number : Nat} (small : number < drawLimit) :
      (world.temporaryPath number).length = front.length + 13 := by
    rw [spelled, List.length_append, length_temporaryName small]
  have filled {number : Nat} (small : number < drawLimit) : world.temporaryPath number ≠ [] := by
    intro empty
    have length := long small
    rw [empty, List.length_nil] at length
    omega
  simp only [checkPath, nul, filled oneSmall, filled twoSmall, long oneSmall, long twoSmall]

/-- The directory for temporary ones and what is in it, if the way there is open. -/
def entrance (world : World) : Except IoFailure (Location × Tree) :=
  match checkPath (world.temporaryPath 0) with
  | .error failure => .error failure
  | .ok _ =>
      match Trail.walk { root := world.tree } world.temporarySteps with
      | .error code => .error (.os code)
      | .ok trail =>
          match trail.inside? with
          | none => .error (.os .notDirectory)
          | some siblings => .ok (trail.place, siblings)

theorem position_temporaryPath (world : World) {number : Nat} (small : number < drawLimit) :
    world.position (world.temporaryPath number) = world.entrance.map fun found =>
      { parent := found.1, siblings := found.2, name := some (temporaryName number) } := by
  have proper : temporaryName number ≠ Path.dot ∧ temporaryName number ≠ Path.dotDot := by
    have thirteen := length_temporaryName small
    constructor
    · rintro same
      rw [same] at thirteen
      exact absurd thirteen (by decide)
    · rintro same
      rw [same] at thirteen
      exact absurd thirteen (by decide)
  unfold position entrance
  rw [world.checkPath_temporaryPath small (by decide : 0 < drawLimit)]
  cases checkPath (world.temporaryPath 0) with
  | error failure => rfl
  | ok checked =>
      dsimp only
      rw [fromRoot_temporaryPath, names_temporaryPath, List.dropLast_concat, List.getLast?_concat,
        ← temporarySteps]
      cases Trail.walk { root := world.tree } world.temporarySteps with
      | error code => rfl
      | ok trail =>
          dsimp only
          cases trail.inside? with
          | none => rfl
          | some siblings =>
              simp only [Except.map, Option.filter, decide_eq_true proper, if_true]

variable {world : World}

theorem below?_of_entrance {parent : Location} {siblings : Tree}
    (opened : world.entrance = .ok (parent, siblings)) :
    world.tree.below? parent = some siblings := by
  have found := world.position_temporaryPath (by decide : 0 < drawLimit)
  rw [opened] at found
  exact (position_spec found).2.1

theorem entrance_ne_alreadyExists : world.entrance ≠ .error (.os .alreadyExists) := by
  intro closed
  unfold entrance at closed
  split at closed
  · next refused =>
      cases closed
      unfold checkPath at refused
      split at refused
      · cases refused
      split at refused
      · cases refused
      split at refused <;> cases refused
  · split at closed
    · next stopped =>
        cases closed
        exact Trail.walk_ne_alreadyExists stopped rfl
    · split at closed <;> cases closed

theorem makeDirectory_of_open {parent : Location} {siblings : Tree} {number : Nat}
    (opened : world.entrance = .ok (parent, siblings)) (small : number < drawLimit) :
    world.makeDirectory (world.temporaryPath number) =
      if (siblings.find? (temporaryName number)).isSome then .error (.os .alreadyExists)
      else .ok { world with
        tree := world.tree.add parent (temporaryName number) (.directory .empty) } := by
  have short : ¬ Tree.nameLimit < (temporaryName number).length := by
    rw [length_temporaryName small]
    decide
  have found := world.position_temporaryPath small
  rw [opened] at found
  rw [makeDirectory, found]
  simp only [Except.map, if_neg short]

/-- The first of the names that is not in use is taken. -/
theorem tryTemporary_of_open {parent : Location} {siblings : Tree}
    (opened : world.entrance = .ok (parent, siblings)) {attempts number further : Nat}
    (small : number + attempts ≤ drawLimit) (enough : further < attempts)
    (vacant : siblings.find? (temporaryName (number + further)) = none) :
    ∃ taken, world.tryTemporary world.temporaryBase attempts number =
      .ok (world.temporaryPath taken, { world with
        tree := world.tree.add parent (temporaryName taken) (.directory .empty)
        drawn := taken + 1 }) := by
  -- The vacant name comes one step nearer with each name that is in use.
  induction attempts generalizing number further with
  | zero => omega
  | succ attempts ih =>
      have made := makeDirectory_of_open opened (by omega : number < drawLimit)
      rw [temporaryPath] at made
      simp only [tryTemporary, made]
      by_cases used : (siblings.find? (temporaryName number)).isSome
      · have more : further ≠ 0 := by
          rintro rfl
          rw [Nat.add_zero] at vacant
          rw [vacant] at used
          cases used
        have rest : number + further = number + 1 + (further - 1) := by omega
        rw [rest] at vacant
        obtain ⟨taken, tried⟩ := ih (by omega) (by omega) vacant
        refine ⟨taken, ?_⟩
        rw [if_pos used]
        exact tried
      · refine ⟨number, ?_⟩
        rw [if_neg used]
        rfl

/-- An open directory for temporary ones takes one more, whatever is drawn. -/
theorem makeTemporary_of_open {parent : Location} {siblings : Tree}
    (opened : world.entrance = .ok (parent, siblings))
    (small : world.drawn + world.tree.size < drawLimit) :
    ∃ taken, world.makeTemporary =
      .ok (world.temporaryPath taken, { world with
        tree := world.tree.add parent (temporaryName taken) (.directory .empty)
        drawn := taken + 1 }) := by
  obtain ⟨further, few, vacant⟩ := siblings.exists_vacant temporaryName_injective world.drawn
  have fits := Tree.size_le_of_below? (below?_of_entrance opened)
  exact tryTemporary_of_open opened (by omega) (by omega) vacant

/-- Without a way to the directory for temporary ones, the first attempt fails. -/
theorem makeTemporary_of_closed {failure : IoFailure} (closed : world.entrance = .error failure)
    (small : world.drawn < drawLimit) :
    world.makeTemporary = .error (.located failure (world.temporaryPath world.drawn)) := by
  have refused : world.makeDirectory (world.temporaryPath world.drawn) = .error failure := by
    have found := world.position_temporaryPath small
    rw [closed] at found
    rw [makeDirectory, found]
    rfl
  have other : failure ≠ .os .alreadyExists := by
    rintro rfl
    exact entrance_ne_alreadyExists closed
  rw [temporaryPath] at refused
  rw [makeTemporary, ← temporaryBase]
  simp only [tryTemporary, refused, if_neg other, temporaryPath]

/-- The world with another random name to come. -/
def redrawn (world : World) (draw : Nat) : World := { world with drawn := draw }

/-- Whether a temporary directory is made, and where, is the same for all draws. -/
theorem makeTemporary_redrawn (world : World) :
    (∃ failure, ∀ draw, draw + world.tree.size < drawLimit →
      (world.redrawn draw).makeTemporary =
        .error (.located failure (world.temporaryPath draw))) ∨
    ∃ parent, ∀ draw, draw + world.tree.size < drawLimit →
      ∃ taken, (world.redrawn draw).makeTemporary =
        .ok (world.temporaryPath taken, { world with
          tree := world.tree.add parent (temporaryName taken) (.directory .empty)
          drawn := taken + 1 }) := by
  cases way : world.entrance with
  | error failure =>
      refine Or.inl ⟨failure, fun draw small => ?_⟩
      have closed : (world.redrawn draw).entrance = .error failure := way
      have drawn : draw < drawLimit := by omega
      exact makeTemporary_of_closed closed drawn
  | ok found =>
      obtain ⟨parent, siblings⟩ := found
      refine Or.inr ⟨parent, fun draw small => ?_⟩
      have opened : (world.redrawn draw).entrance = .ok (parent, siblings) := way
      exact makeTemporary_of_open opened small

theorem makeDirectory_redrawn (world : World) (draw : Nat) (path : Path) :
    (world.redrawn draw).makeDirectory path = (world.makeDirectory path).map (·.redrawn draw) := by
  have same : (world.redrawn draw).position path = world.position path := rfl
  unfold makeDirectory
  rw [same]
  split
  · rfl
  · rfl
  · split
    · rfl
    split
    · rfl
    · rfl

theorem ensureDirectory_redrawn (world : World) (draw : Nat) (path : Path) :
    (world.redrawn draw).ensureDirectory path =
      (world.ensureDirectory path).map (·.redrawn draw) := by
  have same : (world.redrawn draw).isDirectory path = world.isDirectory path := rfl
  unfold ensureDirectory
  rw [makeDirectory_redrawn, same]
  cases world.makeDirectory path with
  | ok after => rfl
  | error failure =>
      simp only [Except.map]
      split <;> rfl

theorem makeDirectories_of_orphan {path : Path} (orphan : path.parent? = none) :
    world.makeDirectories path = (.ok (), world) := by
  rw [makeDirectories]
  split
  · rfl
  · next parent found =>
      rw [orphan] at found
      cases found

theorem makeDirectories_of_parent {path parent : Path} (found : path.parent? = some parent) :
    world.makeDirectories path =
      match world.ensureDirectory path with
      | .ok after => (.ok (), after)
      | .error failure =>
          if failure = .os .noEntry then
            match world.makeDirectories parent with
            | (.error above, after) => (.error above, after)
            | (.ok _, after) =>
                match after.ensureDirectory path with
                | .ok final => (.ok (), final)
                | .error failure => (.error failure, after)
          else (.error failure, world) := by
  rw [makeDirectories]
  split
  · next orphan =>
      rw [found] at orphan
      cases orphan
  · next other same =>
      rw [found] at same
      cases same
      rfl

theorem makeDirectories_redrawn (world : World) (draw : Nat) (path : Path) :
    (world.redrawn draw).makeDirectories path =
      ((world.makeDirectories path).1, (world.makeDirectories path).2.redrawn draw) := by
  fun_induction makeDirectories world path with
  | case1 path orphan => rw [makeDirectories_of_orphan orphan]
  | case2 path parent found after ensured =>
      simp only [makeDirectories_of_parent found, ensureDirectory_redrawn, ensured, Except.map]
  | case3 path parent found failure after above refused ih =>
      simp only [above] at ih
      simp only [makeDirectories_of_parent found, ensureDirectory_redrawn, refused, Except.map, ih,
        if_true]
  | case4 path parent found _ middle above final ensured refused ih =>
      simp only [above] at ih
      simp only [makeDirectories_of_parent found, ensureDirectory_redrawn, refused, Except.map, ih,
        if_true, ensured]
  | case5 path parent found _ middle above failure again refused ih =>
      simp only [above] at ih
      simp only [makeDirectories_of_parent found, ensureDirectory_redrawn, refused, Except.map, ih,
        if_true, again]
  | case6 path parent found failure refused other =>
      simp only [makeDirectories_of_parent found, ensureDirectory_redrawn, refused, Except.map,
        if_neg other]

end World

end SessionStreams
