import SessionStreams.World.Basic

set_option autoImplicit false

/- Making and removing directories: one at a time, with all missing parents, and under a fresh name
for temporary use. -/

namespace SessionStreams.World

def makeDirectory (world : World) (path : Path) : Except IoFailure World :=
  match world.position path with
  | .error failure => .error failure
  | .ok { name := none, .. } => .error (.os .alreadyExists)
  | .ok { parent, siblings, name := some name } =>
      if Tree.nameLimit < name.length then .error (.os .nameTooLong)
      else if (siblings.find? name).isSome then .error (.os .alreadyExists)
      else .ok { world with tree := world.tree.add parent name (.directory .empty) }

/-- A directory that was there before counts as made. -/
def ensureDirectory (world : World) (path : Path) : Except IoFailure World :=
  match world.makeDirectory path with
  | .ok after => .ok after
  | .error failure =>
      if failure = .os .alreadyExists ∧ world.isDirectory path then .ok world else .error failure

/-- Makes a directory and all of its missing parents. A path without a parent is there already. -/
def makeDirectories (world : World) (path : Path) : Except IoFailure Unit × World :=
  match _found : path.parent? with
  | none => (.ok (), world)
  | some parent =>
      match world.ensureDirectory path with
      | .ok after => (.ok (), after)
      | .error failure =>
          if failure = .os .noEntry then
            match makeDirectories world parent with
            | (.error above, after) => (.error above, after)
            | (.ok _, after) =>
                match after.ensureDirectory path with
                | .ok final => (.ok (), final)
                | .error failure => (.error failure, after)
          else (.error failure, world)
termination_by path.length
decreasing_by exact Path.length_parent?_lt _found

def sixDigits (number : Nat) : List Char :=
  let digits := Nat.toDigits 10 number
  List.replicate (6 - digits.length) '0' ++ digits

/-- The random name that is drawn for the `number`-th time. -/
@[irreducible]
def temporaryName (number : Nat) : Name :=
  Text.encode ("sequoia" ++ String.ofList (sixDigits number))

/-- Tries one name after the other until one is not in use. -/
def tryTemporary (world : World) (base : Path) : Nat → Nat → Except IoFailure (Path × World)
  | 0, _ => .error (.located (.reported "too many temporary files exist") base)
  | attempts + 1, number =>
      let path := base.join (temporaryName number)
      match world.makeDirectory path with
      | .ok after => .ok (path, { after with drawn := number + 1 })
      | .error failure =>
          if failure = .os .alreadyExists then tryTemporary world base attempts (number + 1)
          else .error (.located failure path)

/-- Makes an empty directory with a fresh name in the directory for temporary files. -/
def makeTemporary (world : World) : Except IoFailure (Path × World) :=
  let base :=
    if world.temporaryVariable.rooted then world.temporaryVariable
    else (Location.text world.workingDirectory).join world.temporaryVariable
  world.tryTemporary base (world.tree.size + 1) world.drawn

/-- Removes the directory that `path` names, with all that is below it. -/
def removeDirectory (world : World) (path : Path) : Except IoFailure World :=
  match world.reach path with
  | .error failure => .error failure
  | .ok trail =>
      if trail.node = .directory then .ok { world with tree := world.tree.cut trail.place }
      else .error (.os .notDirectory)

/-- Removes a file, or a directory with all that is below it, and tells if that worked. A directory
is emptied first. That may take away the path to it, which counts as removed; one whose path does
not end in its own name stays behind empty. -/
def remove (world : World) (path : Path) : Bool × World :=
  match world.reach path with
  | .error _ => (false, world)
  | .ok trail =>
      if trail.node = .directory then
        let emptied := { world with tree := world.tree.clear trail.place }
        match emptied.position path with
        | .error _ => (true, emptied)
        | .ok { name := none, .. } => (false, emptied)
        | .ok { parent, name := some name, .. } =>
            (true, { emptied with tree := emptied.tree.cut (parent ++ [name]) })
      else (true, { world with tree := world.tree.cut trail.place })

end SessionStreams.World
