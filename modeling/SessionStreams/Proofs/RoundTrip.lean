import SessionStreams.Proofs.Answers
import SessionStreams.Proofs.Filling
import SessionStreams.Proofs.Refinement

set_option autoImplicit false

namespace SessionStreams.Host

open Boundary (Collects Medium Outcome Request)

/-- The bytes of a request. -/
def requested : Request → Bytes
  | .write data => data
  | .flush => []

/-- All bytes that a program writes. -/
def written (requests : List Request) : Bytes := requests.flatMap requested

namespace Writer

/-- Writes each piece as a whole, and flushes in between, up to the first failure. -/
def fill (writer : Writer) : List Request → Host → Outcome (Except StreamError Unit × Host)
  | [], host => .done (.ok (), host)
  | .write data :: rest, host => do
      let (answer, host) ← writer.writeAll data host
      match answer with
      | .error error => .done (.error error, host)
      | .ok _ => writer.fill rest host
  | .flush :: rest, host => do
      let (answer, host) ← writer.flush host
      match answer with
      | .error error => .done (.error (.host error), host)
      | .ok _ => writer.fill rest host

end Writer

namespace Reader

/-- Reads of these sizes, one after the other, up to the first failure. -/
def reads (reader : Reader) : List Nat → Host → Outcome (Except Error (List Bytes) × Host)
  | [], host => .done (.ok [], host)
  | size :: sizes, host => do
      let (answer, host) ← reader.read size host
      match answer with
      | .error error => .done (.error error, host)
      | .ok data => do
          let (others, host) ← reader.reads sizes host
          .done (others.map (data :: ·), host)

end Reader

/-- Reads that return a string from its front on, and nothing once all of it was returned. -/
structure Exhausts (data : Bytes) (sizes : List Nat) (reads : List Bytes) : Prop where
  sized : List.Forall₂ (fun read size => read.length ≤ size) reads sizes
  front : reads.flatten <+: data
  /-- A read is empty just if those before it have returned all. -/
  empty_iff : ∀ earlier read later, reads = earlier ++ read :: later →
    (read = [] ↔ earlier.flatten = data)
  /-- No more reads are needed than there are bytes. -/
  enough : data.length ≤ reads.length → reads.flatten = data

theorem exhausts_nil (data : Bytes) : Exhausts data [] [] := by
  refine ⟨.nil, List.nil_prefix, ?_, ?_⟩
  · intro earlier read later split
    cases earlier <;> cases split
  · intro enough
    exact (List.eq_nil_of_length_eq_zero (Nat.le_zero.mp enough)).symm

theorem exhausts_cons {data : Bytes} {size : Nat} {sizes : List Nat} {reads : List Bytes}
    (positive : 0 < size) (exhausts : Exhausts (data.drop size) sizes reads) :
    Exhausts data (size :: sizes) (data.take size :: reads) := by
  have split : data.take size ++ data.drop size = data := List.take_append_drop size data
  refine ⟨.cons (List.length_take_le _ _) exhausts.sized, ?_, ?_, ?_⟩
  · obtain ⟨rest, same⟩ := exhausts.front
    refine ⟨rest, ?_⟩
    rw [List.flatten_cons, List.append_assoc, same, split]
  · intro earlier read later here
    cases earlier with
    | nil =>
        cases here
        rw [List.flatten_nil, List.take_eq_nil_iff]
        constructor
        · rintro (zero | empty)
          · omega
          · exact empty.symm
        · intro empty
          exact Or.inr empty.symm
    | cons first before =>
        cases here
        rw [exhausts.empty_iff before read later rfl, List.flatten_cons]
        constructor
        · intro same
          rw [same, split]
        · intro same
          exact List.append_cancel_left (same.trans split.symm)
  · intro many
    have fewer : (data.drop size).length ≤ reads.length := by
      simp only [List.length_drop, List.length_cons] at many ⊢
      omega
    rw [List.flatten_cons, exhausts.enough fewer, split]

/-- At least so many hold a share. -/
def HeldBy (host : Host) (share least : Nat) : Prop :=
  ∃ state, host.shares.get? share = some state ∧ least ≤ state.holders

/-- Sessions that were held still are, and the tree is the same. -/
structure Follows (before after : Host) : Prop where
  held : ∀ share, HeldBy before share 1 → HeldBy after share 1
  keeps : before.boundary.world.Keeps after.boundary.world

theorem Follows.trans {first second third : Host} (one : Follows first second)
    (two : Follows second third) : Follows first third :=
  ⟨fun share held => two.held share (one.held share held), one.keeps.trans two.keeps⟩

section

variable {host : Host} {share : Nat}

theorem HeldBy.hold {other least : Nat} (held : HeldBy host other least) :
    HeldBy (host.hold share) other least := by
  obtain ⟨state, there, enough⟩ := held
  unfold Host.hold
  split
  · exact ⟨state, there, enough⟩
  · next known found =>
      by_cases same : other = share
      · subst same
        rw [there] at found
        cases found
        exact ⟨_, Arena.get?_set_self _ there, Nat.le_succ_of_le enough⟩
      · exact ⟨state, (Arena.get?_set_ne _ _ same).trans there, enough⟩

theorem heldBy_hold (held : HeldBy host share 1) : HeldBy (host.hold share) share 2 := by
  obtain ⟨state, there, enough⟩ := held
  rw [Sound.hold_eq there]
  exact ⟨_, Arena.get?_set_self _ there, Nat.succ_le_succ enough⟩

/-- A share that another holds, too, is let go without an effect. -/
theorem letGo_of_heldBy (held : HeldBy host share 2) :
    ∃ after, host.letGo share = .done after ∧ after.boundary = host.boundary ∧
      ∀ other, HeldBy host other 1 → HeldBy after other 1 := by
  obtain ⟨state, there, enough⟩ := held
  have more : ¬ state.holders ≤ 1 := by omega
  refine ⟨{ host with
    shares := host.shares.set share { state with holders := state.holders - 1 } }, ?_, rfl, ?_⟩
  · simp only [Host.letGo, there, Outcome.live, Outcome.done_bind, more, if_false]
  · rintro other ⟨known, found, positive⟩
    by_cases same : other = share
    · subst same
      have more : 1 ≤ state.holders - 1 := by omega
      exact ⟨_, Arena.get?_set_self _ there, more⟩
    · exact ⟨known, (Arena.get?_set_ne _ _ same).trans found, positive⟩

end

/-- A writer is open and has collected these bytes, and its session is held by another, too. -/
structure Fills (writer : Writer) (host : Host) (medium : Medium) (data : Bytes) : Prop where
  opened : writer.closed = false
  target : ∃ target, host.boundary.writers.get? writer.handle = some target ∧
    Collects host.boundary.world target medium data
  shared : HeldBy host writer.share 2

namespace Fills

variable {writer : Writer} {host : Host} {medium : Medium} {data : Bytes}

theorem write (fills : Fills writer host medium data) (more : Bytes)
    (room : medium.Fits (data.length + more.length)) :
    ∃ after, writer.write more host = .done (.ok more.length, after) ∧
      Fills writer after medium (data ++ more) ∧ Follows host after := by
  obtain ⟨target, live, collects⟩ := fills.target
  obtain ⟨next, world, taken, further⟩ := collects.write more room
  have keeps := target.keeps_write more host.boundary.world
  have done := Writer.write_eq fills.opened live more
  rw [taken] at keeps
  simp only [Boundary.tryWrite, Boundary.Loan.view, taken] at done
  refine ⟨_, done, ⟨fills.opened, ⟨next, Arena.get?_set_self next live, further⟩, fills.shared⟩,
    ⟨fun _ held => held, keeps⟩⟩

theorem flushOpen (fills : Fills writer host medium data) :
    ∃ after, writer.flushOpen host = .done (.ok (), after) ∧
      Fills writer after medium data ∧ Follows host after := by
  obtain ⟨target, live, collects⟩ := fills.target
  obtain ⟨next, world, flushed, further⟩ := collects.flush
  have keeps := target.keeps_flush host.boundary.world
  have done := Writer.flushOpen_eq live
  rw [flushed] at keeps
  simp only [Boundary.tryFlush, flushed] at done
  refine ⟨_, done, ⟨fills.opened, ⟨next, Arena.get?_set_self next live, further⟩, fills.shared⟩,
    ⟨fun _ held => held, keeps⟩⟩

/-- A piece is taken at the first attempt. -/
theorem writeAll (fills : Fills writer host medium data) (more : Bytes)
    (room : medium.Fits (data.length + more.length)) :
    ∃ after, writer.writeAll more host = .done (.ok (), after) ∧
      Fills writer after medium (data ++ more) ∧ Follows host after := by
  cases more with
  | nil =>
      refine ⟨host, ?_, ?_, fun _ held => held, World.Keeps.refl _⟩
      · rw [Writer.writeAll]
      · rw [List.append_nil]
        exact fills
  | cons byte rest =>
      obtain ⟨after, taken, further, follows⟩ := fills.write (byte :: rest) room
      refine ⟨after, ?_, further, follows⟩
      rw [Writer.writeAll, taken, Outcome.done_bind]
      simp only [List.length_cons, List.drop_length]
      rw [Writer.writeAll]

theorem fill (fills : Fills writer host medium data) (requests : List Request)
    (room : medium.Fits (data.length + (written requests).length)) :
    ∃ after, writer.fill requests host = .done (.ok (), after) ∧
      Fills writer after medium (data ++ written requests) ∧ Follows host after := by
  induction requests generalizing host data with
  | nil =>
      refine ⟨host, rfl, ?_, fun _ held => held, World.Keeps.refl _⟩
      rw [written, List.flatMap_nil, List.append_nil]
      exact fills
  | cons request rest ih =>
      cases request with
      | write more =>
          have all : written (.write more :: rest) = more ++ written rest := rfl
          rw [all, List.length_append, ← Nat.add_assoc] at room
          have now : medium.Fits (data.length + more.length) := by
            intro id length same
            have fits := room id length same
            omega
          obtain ⟨middle, first, still, one⟩ := fills.writeAll more now
          rw [← List.length_append] at room
          obtain ⟨after, others, final, two⟩ := ih still room
          refine ⟨after, ?_, ?_, one.trans two⟩
          · simp only [Writer.fill, first, Outcome.done_bind, others]
          · rw [all, ← List.append_assoc]
            exact final
      | flush =>
          have all : written (.flush :: rest) = written rest := rfl
          rw [all] at room
          obtain ⟨middle, first, still, one⟩ := fills.flushOpen
          obtain ⟨after, others, final, two⟩ := ih still room
          refine ⟨after, ?_, final, one.trans two⟩
          simp only [Writer.fill, Writer.flush, fills.opened, Bool.false_eq_true, if_false, first,
            Outcome.done_bind, others]

/-- Once it is closed, the medium holds what was collected, if that is all that it has room for. -/
theorem close (fills : Fills writer host medium data)
    (full : ∀ id length, medium = .memory id length → length ≤ data.length) :
    ∃ after, writer.close host = .done ({ writer with closed := true }, after) ∧
      medium.content? after.boundary.world = some data ∧ Follows host after := by
  obtain ⟨middle, flushed, still, one⟩ := fills.flushOpen
  obtain ⟨target, live, collects⟩ := still.target
  have keeps := target.keeps_finish middle.boundary.world
  have content := collects.finish full
  have shared : HeldBy ({ middle with boundary := { middle.boundary with
      world := target.finish middle.boundary.world
      writers := middle.boundary.writers.release writer.handle } }.note
        (.freed (.writer writer.handle))) writer.share 2 := still.shared
  obtain ⟨after, gone, same, held⟩ := letGo_of_heldBy shared
  refine ⟨after, ?_, ?_, one.trans ⟨held, ?_⟩⟩
  · simp only [Writer.close, fills.opened, Bool.false_eq_true, if_false, flushed, Outcome.done_bind,
      Boundary.freeWriter, live, Outcome.live, gone]
  · rw [same]
    exact content
  · rw [same]
    exact keeps

/-- A writer without a sink is dropped as it is closed. -/
theorem drop (plain : writer.sink = none) {closed : Writer} {after : Host}
    (done : writer.close host = .done (closed, after)) : writer.drop host = .done after := by
  simp only [Writer.drop, done, Outcome.done_bind, plain]

theorem harvest {sink : Nat} (collecting : writer.sink = some sink)
    (fills : Fills writer host (.sink sink) data) :
    ∃ after, writer.harvest host = .done (.ok data, after) ∧ Follows host after := by
  obtain ⟨middle, closed, content, follows⟩ := fills.close fun _ _ same => nomatch same
  have bytes : Writer.collected middle sink = data := by
    rw [Medium.content?] at content
    obtain ⟨state, there, same⟩ := Option.map_eq_some_iff.mp content
    rw [Writer.collected, there]
    exact same
  refine ⟨middle.mapWorld fun world => { world with sinks := world.sinks.release sink }, ?_,
    ⟨follows.held, follows.keeps.trans ⟨rfl, rfl, rfl, rfl, rfl, rfl⟩⟩⟩
  have again : Writer.close { writer with closed := true } middle =
      .done ({ writer with closed := true }, middle) := by
    simp only [Writer.close, if_true]
  simp only [collecting] at closed again
  simp only [Writer.harvest, collecting, closed, Outcome.done_bind, Writer.drop, again, bytes]

end Fills

/-- A reader is open and still has these bytes to give. -/
structure Gives (reader : Reader) (host : Host) (rest : Bytes) : Prop where
  opened : reader.closed = false
  source : ∃ source, host.boundary.readers.get? reader.handle = some source ∧
    source.Has host.boundary.world rest

namespace Gives

variable {reader : Reader} {host : Host} {rest : Bytes}

theorem read (gives : Gives reader host rest) (count : Nat) :
    ∃ after, reader.read count host = .done (.ok (rest.take count), after) ∧
      Gives reader after (rest.drop count) := by
  obtain ⟨source, live, has⟩ := gives.source
  obtain ⟨next, world, finished, further⟩ := Boundary.Reader.read_of_has has count
  have done := Reader.read_eq gives.opened live count
  simp only [Boundary.tryRead, Boundary.Room.view, finished] at done
  exact ⟨_, done, gives.opened, next, Arena.get?_set_self next live, further⟩

theorem reads (gives : Gives reader host rest) {sizes : List Nat}
    (positive : ∀ size ∈ sizes, 0 < size) :
    ∃ reads after, reader.reads sizes host = .done (.ok reads, after) ∧
      Exhausts rest sizes reads := by
  induction sizes generalizing host rest with
  | nil => exact ⟨[], host, rfl, exhausts_nil rest⟩
  | cons size sizes ih =>
      have later (other : Nat) (member : other ∈ sizes) : 0 < other :=
        positive other (List.mem_cons_of_mem size member)
      obtain ⟨middle, first, still⟩ := gives.read size
      obtain ⟨others, after, done, exhausts⟩ := ih still later
      refine ⟨rest.take size :: others, after, ?_,
        exhausts_cons (positive size List.mem_cons_self) exhausts⟩
      simp only [Reader.reads, first, Outcome.done_bind, done]
      rfl

end Gives

/-- A context that has not been released, and whose session is held. -/
structure Usable (context : Context) (host : Host) : Prop where
  unreleased : context.released = false
  held : HeldBy host context.share 1

section

variable {context : Context} {host : Host} (usable : Usable context host)

include usable

/-- A writer that could be made behind the boundary is adopted. -/
theorem fills_adopt {world : World} {target : Boundary.Writer} {medium : Medium}
    (collects : Collects world target medium []) {boundary : Boundary}
    (added : boundary = (Boundary.addWriter { host.boundary with world } target).2) :
    ∃ writer opened, Writer.adopt (host.hold context.share) context.share
        (Boundary.concludeHandle .empty (.ok host.boundary.writers.fresh, boundary)) =
          .done (.ok writer, opened) ∧
      writer.sink = none ∧ Fills writer opened medium [] ∧ opened.boundary.world = world ∧
      ∀ share, HeldBy host share 1 → HeldBy opened share 1 := by
  subst added
  refine ⟨_, _, adopt_ok _ _ _ _ _ _, rfl, ⟨rfl, ⟨target, ?_, collects⟩, ?_⟩, rfl,
    fun share held => held.hold⟩
  · exact Arena.get?_alloc_self _ _
  · exact heldBy_hold usable.held

theorem fills_ofPath {path : Path} (creatable : host.boundary.world.Creatable path) :
    ∃ writer opened contents, Writer.ofPath context path host = .done (.ok writer, opened) ∧
      writer.sink = none ∧ Fills writer opened (.file contents) [] ∧
      opened.boundary.world.stat path = .ok (.leaf (.file contents)) ∧
      ∀ share, HeldBy host share 1 → HeldBy opened share 1 := by
  obtain ⟨text, given, rfl⟩ := pathArgument_of_clean creatable.zero_notMem
  obtain ⟨world, contents, made, stands, atEnd⟩ := World.openForWriting_of_creatable creatable
  have collects : Collects world (.buffered host.boundary.world.descriptors.fresh [])
      (.file contents) [] := .buffered atEnd
  obtain ⟨writer, opened, adopted, plain, fills, same, held⟩ := fills_adopt usable collects rfl
  have holding := holding_of_held usable.unreleased host
  refine ⟨writer, opened, contents, ?_, plain, fills, ?_, held⟩
  · simp only [Writer.ofPath, given, holding, Boundary.openWriter, Outcome.require,
      Outcome.done_bind, boundary_hold, Boundary.tryOpenWriter, made]
    exact adopted
  · rw [same]
    exact stands

theorem fills_ofMemory {id : Nat} {content : Bytes}
    (there : host.boundary.world.memory.get? id = some content) :
    ∃ writer opened,
      Writer.ofMemory context (.memory id content.length) host = .done (.ok writer, opened) ∧
        writer.sink = none ∧ Fills writer opened (.memory id content.length) [] ∧
        ∀ share, HeldBy host share 1 → HeldBy opened share 1 := by
  have collects : Collects host.boundary.world (.fixed (some id) content.length ([] : Bytes).length)
      (.memory id content.length) [] := .fixed there rfl List.take_zero
  obtain ⟨writer, opened, adopted, plain, fills, -, held⟩ := fills_adopt usable collects rfl
  have holding := holding_of_held usable.unreleased host
  refine ⟨writer, opened, ?_, plain, fills, held⟩
  simp only [Writer.ofMemory, holding, Boundary.writerOverMemory, Outcome.done_bind, boundary_hold]
  exact adopted

theorem fills_allocating :
    ∃ writer opened sink, Writer.allocating context host = .done (.ok writer, opened) ∧
      writer.sink = some sink ∧ Fills writer opened (.sink sink) [] ∧
      ∀ share, HeldBy host share 1 → HeldBy opened share 1 := by
  have holding := holding_of_held usable.unreleased host
  have live := Arena.get?_alloc_self host.boundary.writers
    (.growing host.boundary.world.sinks.fresh)
  have there := Arena.get?_alloc_self host.boundary.world.sinks .missing
  refine ⟨⟨host.boundary.writers.fresh, context.share, false,
    some host.boundary.world.sinks.fresh⟩, { host.hold context.share with
      boundary := (Boundary.Destination.growing.attempt host.boundary).2 }.note
        (.acquired (.writer host.boundary.writers.fresh) context.share), _, ?_, rfl,
    ⟨rfl, ⟨_, live, .growing there rfl⟩, heldBy_hold usable.held⟩, fun share held => held.hold⟩
  simp only [Writer.allocating, holding, mapWorld, boundary_hold, Boundary.growingWriter,
    Outcome.require, Outcome.done_bind]
  rfl

omit usable in
theorem gives_adopt {world : World} {source : Boundary.Reader} {rest : Bytes}
    (has : source.Has world rest) {boundary : Boundary}
    (added : boundary = (Boundary.addReader { host.boundary with world } source).2) :
    ∃ reader opened, Reader.adopt (host.hold context.share) context.share
        (Boundary.concludeHandle .empty (.ok host.boundary.readers.fresh, boundary)) =
          .done (.ok reader, opened) ∧ Gives reader opened rest := by
  subst added
  exact ⟨_, _, adopt_ok _ _ _ _ _ _, rfl, source, Arena.get?_alloc_self _ _, has⟩

theorem gives_ofPath {path : Path} {contents : Nat}
    (stands : host.boundary.world.stat path = .ok (.leaf (.file contents))) (clean : 0 ∉ path) :
    ∃ reader opened, Reader.ofPath context path host = .done (.ok reader, opened) ∧
      Gives reader opened (host.boundary.world.fileBytes contents) := by
  obtain ⟨text, given, rfl⟩ := pathArgument_of_clean clean
  obtain ⟨world, made, remains⟩ := World.openForReading_of_stat stands
  have has : (Boundary.Reader.descriptor host.boundary.world.descriptors.fresh).Has world
      (host.boundary.world.fileBytes contents) := remains
  obtain ⟨reader, opened, adopted, gives⟩ := gives_adopt has rfl
  have holding := holding_of_held usable.unreleased host
  refine ⟨reader, opened, ?_, gives⟩
  simp only [Reader.ofPath, given, holding, Boundary.openReader, Outcome.require,
    Outcome.done_bind, boundary_hold, Boundary.tryOpenReader, made]
  exact adopted

theorem gives_ofBytes (data : Bytes) :
    ∃ reader opened, Reader.ofBytes context data host = .done (.ok reader, opened) ∧
      Gives reader opened data := by
  have has : (Boundary.Reader.bytes data).Has host.boundary.world data := rfl
  obtain ⟨reader, opened, adopted, gives⟩ := gives_adopt has rfl
  have holding := holding_of_held usable.unreleased host
  refine ⟨reader, opened, ?_, gives⟩
  simp only [Reader.ofBytes, holding, Boundary.readerOverBytes, Outcome.done_bind, boundary_hold,
    Boundary.Loan.view]
  exact adopted

end

/-- All reads of sizes that are not zero go through, and return the data up to its end. -/
def ReadsBack (reader : Reader) (host : Host) (data : Bytes) : Prop :=
  ∀ sizes : List Nat, (∀ size ∈ sizes, 0 < size) →
    ∃ reads after, reader.reads sizes host = .done (.ok reads, after) ∧ Exhausts data sizes reads

/-- A file is written, by a writer that is then closed or dropped, and read. -/
def ThroughFile (writing reading : Context) (path : Path) (requests : List Request) (host : Host) :
    Prop :=
  ∃ writer opened filled closed ended reader ready,
    Writer.ofPath writing path host = .done (.ok writer, opened) ∧
    writer.fill requests opened = .done (.ok (), filled) ∧
    writer.close filled = .done (closed, ended) ∧ writer.drop filled = .done ended ∧
    Reader.ofPath reading path ended = .done (.ok reader, ready) ∧
    ReadsBack reader ready (written requests)

/-- Data is collected, harvested and read. -/
def ThroughSink (writing reading : Context) (requests : List Request) (host : Host) : Prop :=
  ∃ writer opened filled data ended reader ready,
    Writer.allocating writing host = .done (.ok writer, opened) ∧
    writer.fill requests opened = .done (.ok (), filled) ∧
    writer.harvest filled = .done (.ok data, ended) ∧
    Reader.ofBytes reading data ended = .done (.ok reader, ready) ∧
    ReadsBack reader ready (written requests)

/-- Memory is filled from end to end, by a writer that is then closed or dropped, and read. -/
def ThroughMemory (writing reading : Context) (id : Nat) (requests : List Request) (host : Host) :
    Prop :=
  ∃ writer opened filled closed ended data reader ready,
    Writer.ofMemory writing (.memory id (written requests).length) host =
      .done (.ok writer, opened) ∧
    writer.fill requests opened = .done (.ok (), filled) ∧
    writer.close filled = .done (closed, ended) ∧ writer.drop filled = .done ended ∧
    ended.boundary.world.memory.get? id = some data ∧
    Reader.ofBytes reading data ended = .done (.ok reader, ready) ∧
    ReadsBack reader ready (written requests)

section

variable {writing reading : Context} {host : Host} (one : Usable writing host)
  (two : Usable reading host)

include one two

theorem throughFile {path : Path} (creatable : host.boundary.world.Creatable path)
    (requests : List Request) : ThroughFile writing reading path requests host := by
  obtain ⟨writer, opened, contents, made, plain, fills, stands, held⟩ := fills_ofPath one creatable
  have endless (id length : Nat) : Medium.file contents ≠ .memory id length := Medium.noConfusion
  obtain ⟨filled, wrote, final, first⟩ :=
    fills.fill requests fun id length same => absurd same (endless id length)
  obtain ⟨ended, closed, content, second⟩ :=
    final.close fun id length same => absurd same (endless id length)
  have follows := first.trans second
  have usable : Usable reading ended :=
    ⟨two.unreleased, follows.held reading.share (held reading.share two.held)⟩
  rw [← follows.keeps.stat path] at stands
  obtain ⟨reader, ready, read, gives⟩ := gives_ofPath usable stands creatable.zero_notMem
  rw [Boundary.fileBytes_of_content? content, List.nil_append] at gives
  exact ⟨writer, opened, filled, _, ended, reader, ready, made, wrote, closed,
    Fills.drop plain closed, read, fun sizes positive => gives.reads positive⟩

theorem throughSink (requests : List Request) : ThroughSink writing reading requests host := by
  obtain ⟨writer, opened, sink, made, collecting, fills, held⟩ := fills_allocating one
  have endless (id length : Nat) : Medium.sink sink ≠ .memory id length := Medium.noConfusion
  obtain ⟨filled, wrote, final, first⟩ :=
    fills.fill requests fun id length same => absurd same (endless id length)
  obtain ⟨ended, harvested, second⟩ := Fills.harvest collecting final
  have usable : Usable reading ended :=
    ⟨two.unreleased, (first.trans second).held reading.share (held reading.share two.held)⟩
  obtain ⟨reader, ready, read, gives⟩ := gives_ofBytes usable (written requests)
  exact ⟨writer, opened, filled, written requests, ended, reader, ready, made, wrote, harvested,
    read, fun sizes positive => gives.reads positive⟩

theorem throughMemory {id : Nat} {content : Bytes}
    (there : host.boundary.world.memory.get? id = some content) {requests : List Request}
    (fits : content.length = (written requests).length) :
    ThroughMemory writing reading id requests host := by
  obtain ⟨writer, opened, made, plain, fills, held⟩ := fills_ofMemory one there
  obtain ⟨filled, wrote, final, first⟩ := fills.fill requests (by
    rintro _ _ ⟨⟩
    exact Nat.le_of_eq (by rw [fits, List.length_nil, Nat.zero_add]))
  obtain ⟨ended, closed, content, second⟩ := final.close (by
    rintro _ _ ⟨⟩
    exact Nat.le_of_eq fits)
  have usable : Usable reading ended :=
    ⟨two.unreleased, (first.trans second).held reading.share (held reading.share two.held)⟩
  obtain ⟨reader, ready, read, gives⟩ := gives_ofBytes usable (written requests)
  rw [fits] at made
  exact ⟨writer, opened, filled, _, ended, written requests, reader, ready, made, wrote, closed,
    Fills.drop plain closed, content, read, fun sizes positive => gives.reads positive⟩

end

theorem usable_of_sound {held : Holdings} (sound : Sound held.custody) {id : Nat}
    {context : Context} (found : held.contexts.get? id = some context)
    (unreleased : context.released = false) : Usable context held.host := by
  have paired := Paired.of_context sound found unreleased rfl
  obtain ⟨state, shared⟩ := sound.exists_share (Custody.holds_of_claim paired.live)
  exact ⟨unreleased, state, shared, (sound.counted context.share state shared).1⟩

/-- Whatever a program did before: with contexts that it has not released, what it writes comes back
to it. -/
theorem round_trip (world : World) (earlier : List Action) :
    ∃ answers held, (Holdings.start world).run earlier = .done (answers, held) ∧
      ∀ first second writing reading,
        held.contexts.get? first = some writing → writing.released = false →
        held.contexts.get? second = some reading → reading.released = false →
        ∀ requests : List Request,
          (∀ path, held.host.boundary.world.Creatable path →
            ThroughFile writing reading path requests held.host) ∧
          ThroughSink writing reading requests held.host ∧
          ∀ id content, held.host.boundary.world.memory.get? id = some content →
            content.length = (written requests).length →
              ThroughMemory writing reading id requests held.host := by
  obtain ⟨answers, held, ran, sound⟩ := Holdings.run_sound world earlier
  refine ⟨answers, held, ran, ?_⟩
  intro first second writing reading found unreleased also kept requests
  have one := usable_of_sound sound found unreleased
  have two := usable_of_sound sound also kept
  refine ⟨?_, throughSink one two requests, ?_⟩
  · intro path creatable
    exact throughFile one two creatable requests
  · intro id content there fits
    exact throughMemory one two there fits

theorem round_trip_two_bytes :
    ∃ held, (Holdings.start { World.empty with memory := ⟨[some [7, 7]]⟩ }).run
        [.build { home := some [Path.slash] }] = .done ([.made 0], held) ∧
      ThroughFile { share := 0 } { share := 0 } (Text.encode "f") [.write [1], .flush, .write [2]]
        held.host ∧
      ThroughSink { share := 0 } { share := 0 } [.write [1], .flush, .write [2]] held.host ∧
      ThroughMemory { share := 0 } { share := 0 } 0 [.write [1], .flush, .write [2]] held.host := by
  obtain ⟨held, ran, found, same⟩ :=
    Holdings.run_build_root { World.empty with memory := ⟨[some [7, 7]]⟩ }
  obtain ⟨_, _, also, through⟩ := round_trip { World.empty with memory := ⟨[some [7, 7]]⟩ }
    [.build { home := some [Path.slash] }]
  cases ran.symm.trans also
  obtain ⟨file, sink, memory⟩ :=
    through 0 0 _ _ found rfl found rfl [.write [1], .flush, .write [2]]
  rw [same] at file memory
  refine ⟨held, ran, ?_, sink, memory 0 [7, 7] rfl rfl⟩
  exact file _ ⟨[], .empty, Text.encode "f", rfl, rfl, by decide, nofun⟩

end SessionStreams.Host
