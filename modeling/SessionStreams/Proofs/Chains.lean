import SessionStreams.Proofs.Replies

set_option autoImplicit false

namespace SessionStreams.Boundary

/-- The status of an error of the engine. -/
def Status.ofEngine : Engine.Error → Status
  | .invalidArgument _ => .invalidArgument
  | .invalidOperation _ => .invalidOperation

namespace Layer

/-- No error of the engine. One that an input/output failure was made from is inside, not a layer.
-/
def Outside (layer : Layer) : Prop := ∀ error, layer ≠ .engine error

/-- An input/output failure, whatever it was made from. -/
inductive InputOutput : Layer → Prop where
  | plain (failure : IoFailure) : InputOutput (.io failure)
  | around (error : Engine.Error) : InputOutput (.ioAround error)

end Layer

/-- What a chain of layers, of which the outermost comes first, is reported as. -/
inductive Classified : List Layer → Status → Prop where
  | engine {outer : List Layer} (error : Engine.Error) (inner : List Layer)
      (hidden : ∀ layer ∈ outer, layer.Outside) :
      Classified (outer ++ .engine error :: inner) (.ofEngine error)
  | inputOutput {layers : List Layer} {layer : Layer} (hidden : ∀ layer ∈ layers, layer.Outside)
      (found : layer ∈ layers) (failed : layer.InputOutput) : Classified layers .ioError
  | unknown {layers : List Layer} (hidden : ∀ layer ∈ layers, layer.Outside)
      (other : ∀ layer ∈ layers, ¬ layer.InputOutput) : Classified layers .unknownError

namespace Fault

theorem engineError?_eq_some_iff {layer : Layer} {error : Engine.Error} :
    engineError? layer = some error ↔ layer = .engine error := by
  cases layer <;> simp [engineError?]

theorem engineError?_eq_none_iff {layer : Layer} : engineError? layer = none ↔ layer.Outside := by
  cases layer <;> simp [engineError?, Layer.Outside]

theorem isIo_iff {layer : Layer} : isIo layer = true ↔ layer.InputOutput := by
  cases layer with
  | io failure => exact iff_of_true rfl (.plain failure)
  | ioAround error => exact iff_of_true rfl (.around error)
  | _ => exact iff_of_false Bool.false_ne_true nofun

/-- The search for an engine error finds none just if no layer is one. -/
theorem findSome?_engineError?_eq_none_iff {layers : List Layer} :
    layers.findSome? engineError? = none ↔ ∀ layer ∈ layers, layer.Outside := by
  simp only [List.findSome?_eq_none_iff, engineError?_eq_none_iff]

theorem status_of_engine {fault : Fault} {error : Engine.Error}
    (found : fault.layers.findSome? engineError? = some error) :
    fault.status = .ofEngine error := by
  cases error <;> simp only [status, found, Status.ofEngine]

theorem status_of_outside {fault : Fault} (hidden : ∀ layer ∈ fault.layers, layer.Outside) :
    fault.status = if fault.layers.any isIo then .ioError else .unknownError := by
  simp only [status, findSome?_engineError?_eq_none_iff.mpr hidden]

theorem classified_status (fault : Fault) : Classified fault.layers fault.status := by
  cases found : fault.layers.findSome? engineError? with
  | some error =>
      obtain ⟨outer, layer, inner, split, shown, hidden⟩ := List.findSome?_eq_some_iff.mp found
      rw [status_of_engine found, split, engineError?_eq_some_iff.mp shown]
      exact .engine error inner fun layer inside => engineError?_eq_none_iff.mp (hidden layer inside)
  | none =>
      have hidden := findSome?_engineError?_eq_none_iff.mp found
      rw [status_of_outside hidden]
      by_cases failed : fault.layers.any isIo = true
      · obtain ⟨layer, inside, io⟩ := List.any_eq_true.mp failed
        rw [if_pos failed]
        exact .inputOutput hidden inside (isIo_iff.mp io)
      · rw [if_neg failed]
        refine .unknown hidden fun layer inside io => failed ?_
        exact List.any_eq_true.mpr ⟨layer, inside, isIo_iff.mpr io⟩

theorem status_of_classified {fault : Fault} {status : Status}
    (classified : Classified fault.layers status) : fault.status = status := by
  generalize chain : fault.layers = layers at classified
  cases classified with
  | engine error inner hidden =>
      refine status_of_engine (List.findSome?_eq_some_iff.mpr ?_)
      exact ⟨_, .engine error, inner, chain, rfl, fun layer inside =>
        engineError?_eq_none_iff.mpr (hidden layer inside)⟩
  | inputOutput hidden found failed =>
      subst chain
      have io := List.any_eq_true.mpr ⟨_, found, isIo_iff.mpr failed⟩
      rw [status_of_outside hidden, if_pos io]
  | unknown hidden other =>
      subst chain
      have silent : ¬ fault.layers.any isIo = true := by
        intro failed
        obtain ⟨layer, inside, io⟩ := List.any_eq_true.mp failed
        exact other layer inside (isIo_iff.mp io)
      rw [status_of_outside hidden, if_neg silent]

theorem status_eq_iff {fault : Fault} {status : Status} :
    fault.status = status ↔ Classified fault.layers status :=
  ⟨fun same => same ▸ fault.classified_status, status_of_classified⟩

theorem status_congr {fault other : Fault}
    (engine : fault.layers.findSome? engineError? = other.layers.findSome? engineError?)
    (io : fault.layers.any isIo = other.layers.any isIo) : fault.status = other.status := by
  simp only [status, engine, io]

theorem layers_foldl_wrap (fault : Fault) (further : List Layer) :
    (further.foldl wrap fault).layers = further.reverse ++ fault.layers := by
  induction further generalizing fault with
  | nil => rfl
  | cons layer rest ih =>
      rw [List.foldl_cons, ih, List.reverse_cons, List.append_assoc]
      rfl

theorem layers_ofLayers (cause : Layer) (further : List Layer) :
    (ofLayers cause further).layers = further.reverse ++ [cause] :=
  layers_foldl_wrap { outermost := cause } further

theorem outermost_ofLayers (cause : Layer) (further : List Layer) :
    (ofLayers cause further).outermost = further.getLast?.getD cause := by
  rcases List.eq_nil_or_concat further with rfl | ⟨inner, last, rfl⟩
  · rfl
  · simp only [ofLayers, List.concat_eq_append, List.foldl_append, List.foldl_cons, List.foldl_nil,
      wrap, List.getLast?_concat, Option.getD_some]

/-- A message may be added anywhere above the cause. -/
theorem status_ofLayers_note (cause : Layer) (before after : List Layer) (text : String) :
    (ofLayers cause (before ++ .note text :: after)).status =
      (ofLayers cause (before ++ after)).status := by
  have hidden : engineError? (.note text) = none := rfl
  have apart : isIo (.note text) = false := rfl
  apply status_congr
  · simp only [layers_ofLayers, List.reverse_append, List.reverse_cons, List.append_assoc,
      List.findSome?_append, List.findSome?_cons, List.findSome?_nil, hidden, Option.none_or]
  · simp only [layers_ofLayers, List.reverse_append, List.reverse_cons, List.append_assoc,
      List.any_append, List.any_cons, List.any_nil, apart, Bool.false_or]

theorem errorStatus_eq (fault : Fault) : errorStatus (some fault) = .done fault.status := rfl

/-- The text of an error is its message up to the terminator. -/
theorem bytes_errorText (fault : Fault) :
    ∃ text, errorText (some fault) = .done text ∧ text.bytes = Text.encode fault.message := by
  obtain ⟨text, copied, same⟩ := copyOut_of_clean "message" fault.zero_notMem_message
  exact ⟨text, by simp only [errorText, Outcome.require, Outcome.done_bind, copied], same⟩

end Fault

end SessionStreams.Boundary

namespace SessionStreams.Host

open Boundary (Classified Fault Layer Reply Terminated)

/-- A failed call whose error was stored is answered with the host's copy of that error. -/
theorem examine_of_stored {α β : Type} (name : String) {check : α → Option β} {reply : Reply α}
    {fault : Fault} (refused : check reply.result = none)
    (stored : reply.slot.stored = some fault) :
    examine name check reply = .done (.error (.reporting fault)) := by
  simp only [examine, refused, stored, Error.ofFault_eq, Boundary.Outcome.done_bind]

/-- An error has one status, which its layers classify it as and which no message changes. Its text,
and the host's copy of it, is the message of the outermost layer without its NUL characters. -/
theorem chain_reported_exactly (cause : Layer) (further : List Layer) :
    ∃ (status : Boundary.Status) (shown : String) (text : Terminated),
      (∀ other, Classified (further.reverse ++ [cause]) other ↔ other = status) ∧
      status ≠ .success ∧
      Boundary.errorStatus (some (.ofLayers cause further)) = .done status ∧
      (∀ before after note, before ++ after = further →
        Boundary.errorStatus (some (.ofLayers cause (before ++ .note note :: after))) =
          .done status) ∧
      shown.toList = (further.getLast?.getD cause).message.toList.filter (· ≠ '\x00') ∧
      Boundary.errorText (some (.ofLayers cause further)) = .done text ∧
      text.bytes = Text.encode shown ∧
      Error.ofFault (.ofLayers cause further) = .done ⟨.ofStatus status, shown⟩ ∧
      ∀ (α β : Type) (name : String) (check : α → Option β) (reply : Reply α),
        check reply.result = none → reply.slot.stored = some (.ofLayers cause further) →
        examine name check reply = .done (.error ⟨.ofStatus status, shown⟩) := by
  obtain ⟨text, given, bytes⟩ := (Fault.ofLayers cause further).bytes_errorText
  refine ⟨(Fault.ofLayers cause further).status, (Fault.ofLayers cause further).message, text,
    ?_, Fault.status_ne_success _, rfl, ?_, ?_, given, bytes, Error.ofFault_eq _, ?_⟩
  · intro other
    rw [← Fault.layers_ofLayers, ← Fault.status_eq_iff, eq_comm]
  · rintro before after note rfl
    rw [Fault.errorStatus_eq, Fault.status_ofLayers_note]
  · rw [Fault.message, String.toList_ofList, Fault.outermost_ofLayers]
  · intro α β name check reply refused stored
    exact examine_of_stored name refused stored

end SessionStreams.Host
