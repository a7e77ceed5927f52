import SessionStreams.Boundary.Fault
import SessionStreams.World.Path

set_option autoImplicit false

/- Strings as they cross the boundary: bytes up to a terminating NUL. Main statement: what can be
encoded comes back unchanged, and exactly the byte strings without a NUL can be. -/

namespace SessionStreams.Boundary

/-- Memory with a terminator in it. -/
structure Terminated where
  memory : Bytes
  terminated : 0 ∈ memory
deriving DecidableEq

namespace Terminated

/-- The bytes before the terminator. -/
def bytes (text : Terminated) : Bytes := text.memory.takeWhile (· ≠ 0)

/-- Adds the terminator, unless a NUL inside would end the string early. -/
def ofBytes? (bytes : Bytes) : Option Terminated :=
  if 0 ∈ bytes then none else some ⟨bytes ++ [0], by simp⟩

/-- The string that memory holds when a terminator is put after it. -/
def ofMemory (memory : Bytes) : Terminated := ⟨memory ++ [0], by simp⟩

theorem takeWhile_terminated {bytes : Bytes} (clean : 0 ∉ bytes) :
    (bytes ++ [0]).takeWhile (· ≠ 0) = bytes := by
  induction bytes with
  | nil => rfl
  | cons byte rest ih =>
      have apart : byte ≠ 0 := fun same => clean (by simp [same])
      have restClean : 0 ∉ rest := fun inside => clean (List.mem_cons_of_mem _ inside)
      simp only [List.cons_append, List.takeWhile_cons, ne_eq, apart, not_false_eq_true,
        decide_true, ↓reduceIte]
      rw [ih restClean]

theorem ofBytes?_eq_none_iff (source : Bytes) : ofBytes? source = none ↔ 0 ∈ source := by
  simp [ofBytes?]

theorem bytes_ofBytes? {source : Bytes} {text : Terminated} (encoded : ofBytes? source = some text) :
    text.bytes = source := by
  unfold ofBytes? at encoded
  split at encoded
  · cases encoded
  · next clean =>
      cases encoded
      exact takeWhile_terminated clean

theorem bytes_clean (text : Terminated) : 0 ∉ text.bytes := by
  intro inside
  unfold bytes at inside
  have kept := List.all_eq_true.mp List.all_takeWhile 0 inside
  simp at kept

theorem ofBytes?_bytes (text : Terminated) : ∃ copy, ofBytes? text.bytes = some copy ∧
    copy.bytes = text.bytes := by
  have clean := text.bytes_clean
  exact ⟨⟨text.bytes ++ [0], by simp⟩, by rw [ofBytes?, if_neg clean], takeWhile_terminated clean⟩

/-- A path, byte for byte. -/
def path (text : Terminated) : Path := text.bytes

/-- The text of a message; malformed bytes are substituted. -/
def text (source : Terminated) : String := Text.decodeLossy source.bytes

end Terminated

/-- A copy of `bytes` for the caller, which aborts if a NUL is in it. -/
def copyOut (name : String) (bytes : Bytes) : Outcome Terminated :=
  match Terminated.ofBytes? bytes with
  | some text => .done text
  | none => .aborted ("Returned string " ++ name ++ " contains a 0 byte.")

end SessionStreams.Boundary
