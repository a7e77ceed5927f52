set_option autoImplicit false

/- Byte lists, and writing over a part of one. Main statements: writing at the end appends
(`overlay_end`), and writing inside replaces just the bytes under it (`overlay_inside`). -/

namespace SessionStreams

/-- The contents of files, buffers, paths and environment variables. -/
abbrev Bytes := List UInt8

namespace Bytes

/-- Writes `data` over `content` from `offset` on; a gap before `offset` is filled with zeros. -/
def overlay (content : Bytes) (offset : Nat) (data : Bytes) : Bytes :=
  content.take offset ++ List.replicate (offset - content.length) 0 ++ data ++
    content.drop (offset + data.length)

@[simp] theorem overlay_end (content data : Bytes) :
    overlay content content.length data = content ++ data := by
  simp [overlay]

theorem length_overlay (content : Bytes) (offset : Nat) (data : Bytes) :
    (overlay content offset data).length = max content.length (offset + data.length) := by
  simp only [overlay, List.length_append, List.length_take, List.length_replicate, List.length_drop]
  omega

theorem overlay_inside (front old back data : Bytes) (same : old.length = data.length) :
    overlay (front ++ old ++ back) front.length data = front ++ data ++ back := by
  simp [overlay, ← same, List.drop_append]

/-- A chunk of another size that starts with the old one, as far as that goes. -/
def resize (chunk : Bytes) (size : Nat) : Bytes :=
  chunk.take size ++ List.replicate (size - chunk.length) 0

theorem length_resize (chunk : Bytes) (size : Nat) : (chunk.resize size).length = size := by
  simp only [resize, List.length_append, List.length_take, List.length_replicate]
  omega

/-- What is put at the end of a resized chunk stands behind the bytes before it. -/
theorem overlay_resize {chunk : Bytes} {offset : Nat} (inside : offset ≤ chunk.length)
    (data : Bytes) :
    overlay (chunk.resize (offset + data.length)) offset data = chunk.take offset ++ data := by
  have size := length_resize chunk (offset + data.length)
  have front : (chunk.resize (offset + data.length)).take offset = chunk.take offset := by
    rw [resize, List.take_append_of_le_length (by rw [List.length_take]; omega), List.take_take,
      Nat.min_eq_left (Nat.le_add_right _ _)]
  rw [overlay, front, size, Nat.sub_eq_zero_of_le (Nat.le_add_right _ _), List.replicate_zero,
    List.append_nil, List.drop_eq_nil_of_le (Nat.le_of_eq size), List.append_nil]

/-- `overlay` on contents that are kept in an array. -/
def patch (content : Array UInt8) (offset : Nat) (data : Bytes) : Array UInt8 :=
  content.extract 0 offset ++ Array.replicate (offset - content.size) 0 ++ data ++
    content.extract (offset + data.length) content.size

theorem toList_patch (content : Array UInt8) (offset : Nat) (data : Bytes) :
    (patch content offset data).toList = overlay content.toList offset data := by
  have rest : (content.toList.drop (offset + data.length)).length ≤
      content.size - (offset + data.length) := by
    simp
  simp [patch, overlay, List.extract_eq_take_drop, List.take_of_length_le rest]

end Bytes

end SessionStreams
