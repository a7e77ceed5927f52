import SessionStreams.Script.BoundarySteps
import SessionStreams.Script.WorldSteps

set_option autoImplicit false

/- Running a script: a fresh world with some files, the answers to the steps in order, and the tree
that is left when every object has ended. -/

namespace SessionStreams.Script

inductive Step where
  | world (step : WorldStep)
  | engine (step : EngineStep)
  | boundary (step : BoundaryStep)
  | host (step : HostStep)

def Step.effect (machine : Machine) : Step → Effect
  | .world step => step.effect machine
  | .engine step => step.effect machine
  | .boundary step => step.effect machine
  | .host step => step.effect machine

def perform (machine : Machine) (step : Step) : Answer × Machine :=
  settle machine (step.effect machine)

def performAll (machine : Machine) : List Step → List Answer × Machine
  | [] => ([], machine)
  | step :: rest =>
      let (answer, machine) := perform machine step
      let (answers, machine) := performAll machine rest
      (answer :: answers, machine)

/-- A file to start with, or a directory where no data is given. -/
def place (machine : Machine) (file : Data × Option Data) : Machine :=
  match file.1.eval machine with
  | none => machine
  | some path =>
      match file.2 with
      | none => machine.withWorld (machine.world.makeDirectories path).2
      | some data =>
          match data.eval machine with
          | none => machine
          | some bytes => machine.withWorld (machine.world.placeFile path bytes)

/-- The files are there before the program starts, which opens its first descriptor itself. -/
def start (name : Name) (files : List (Data × Option Data)) : Machine :=
  let initial := World.initial name
  let placed := files.foldl place { held := { host := { boundary := { world := initial } } } }
  placed.withWorld { placed.world with descriptors := initial.descriptors }

/-- The answers, and the tree at the end. -/
def run (name : Name) (files : List (Data × Option Data)) (steps : List Step) :
    List Answer × List (Path × Option Bytes) :=
  let (answers, machine) := performAll (start name files) steps
  match machine.finish with
  | .done machine => (answers, machine.world.listing)
  | _ => (answers, machine.world.listing)

end SessionStreams.Script
