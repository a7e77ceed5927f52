import SessionStreams.Bytes

set_option autoImplicit false

/- UTF-8 over byte lists: encoding, strict decoding, and decoding that keeps or substitutes
malformed bytes. Main statements: scanning the encoding of a text gives its characters back
(`scan_encode`), so both decoders invert `encode`. -/

namespace SessionStreams.Text

/-- The one to four bytes of a code point. -/
def encodeCode (code : Nat) : Bytes :=
  if code < 0x80 then [UInt8.ofNat code]
  else if code < 0x800 then [UInt8.ofNat (0xC0 + code / 64), UInt8.ofNat (0x80 + code % 64)]
  else if code < 0x10000 then
    [UInt8.ofNat (0xE0 + code / 4096), UInt8.ofNat (0x80 + code / 64 % 64),
      UInt8.ofNat (0x80 + code % 64)]
  else
    [UInt8.ofNat (0xF0 + code / 262144), UInt8.ofNat (0x80 + code / 4096 % 64),
      UInt8.ofNat (0x80 + code / 64 % 64), UInt8.ofNat (0x80 + code % 64)]

def encode (text : String) : Bytes := text.toList.flatMap fun c => encodeCode c.toNat

/-- A well-formed character, or a run of bytes that no well-formed character continues. -/
inductive Piece where
  | char (c : Char)
  | stray (bytes : Bytes)
deriving DecidableEq

/-- A character of which some bytes have been seen: their bits, the bytes themselves, the bounds
on the next byte, and how many bytes follow that one. -/
structure Unfinished where
  bits : Nat
  seen : Bytes
  lowest : Nat
  highest : Nat
  further : Nat
deriving DecidableEq

/-- Starts a character. The bounds on the second byte exclude overlong forms, surrogates and code
points above U+10FFFF. -/
def start (byte : UInt8) : List Piece × Option Unfinished :=
  let value := byte.toNat
  if value < 0x80 then ([.char (Char.ofNat value)], none)
  else if value < 0xC2 then ([.stray [byte]], none)
  else if value < 0xE0 then ([], some ⟨value - 0xC0, [byte], 0x80, 0xBF, 0⟩)
  else if value = 0xE0 then ([], some ⟨0, [byte], 0xA0, 0xBF, 1⟩)
  else if value = 0xED then ([], some ⟨0xD, [byte], 0x80, 0x9F, 1⟩)
  else if value < 0xF0 then ([], some ⟨value - 0xE0, [byte], 0x80, 0xBF, 1⟩)
  else if value = 0xF0 then ([], some ⟨0, [byte], 0x90, 0xBF, 2⟩)
  else if value < 0xF4 then ([], some ⟨value - 0xF0, [byte], 0x80, 0xBF, 2⟩)
  else if value = 0xF4 then ([], some ⟨4, [byte], 0x80, 0x8F, 2⟩)
  else ([.stray [byte]], none)

/-- Takes one byte: the pieces it completes, and the character it leaves unfinished. -/
def advance : Option Unfinished → UInt8 → List Piece × Option Unfinished
  | none, byte => start byte
  | some part, byte =>
      let value := byte.toNat
      if part.lowest ≤ value ∧ value ≤ part.highest then
        let bits := part.bits * 64 + (value - 0x80)
        match part.further with
        | 0 => ([.char (Char.ofNat bits)], none)
        | further + 1 => ([], some ⟨bits, part.seen ++ [byte], 0x80, 0xBF, further⟩)
      else
        let (pieces, next) := start byte
        (.stray part.seen :: pieces, next)

def scan : Option Unfinished → Bytes → List Piece
  | none, [] => []
  | some part, [] => [.stray part.seen]
  | state, byte :: rest =>
      let (pieces, next) := advance state byte
      pieces ++ scan next rest

def pieces (bytes : Bytes) : List Piece := scan none bytes

/-- The characters, if every piece is one. -/
def chars? : List Piece → Option (List Char)
  | [] => some []
  | .char c :: rest => (chars? rest).map (c :: ·)
  | .stray _ :: _ => none

/-- The text that the bytes encode, if they are well formed. -/
def decode? (bytes : Bytes) : Option String := (chars? (pieces bytes)).map String.ofList

def Piece.substituted : Piece → Char
  | .char c => c
  | .stray _ => '\uFFFD'

/-- Like `decode?`, with U+FFFD for every malformed run. -/
def decodeLossy (bytes : Bytes) : String := String.ofList ((pieces bytes).map Piece.substituted)

theorem scan_cons (state : Option Unfinished) (byte : UInt8) (rest : Bytes) :
    scan state (byte :: rest) = (advance state byte).1 ++ scan (advance state byte).2 rest := by
  cases state <;> rfl

theorem toNat_ofNat_small {value : Nat} (small : value < 256) : (UInt8.ofNat value).toNat = value := by
  simp [Nat.mod_eq_of_lt small]

theorem start_one {value : Nat} (ascii : value < 0x80) :
    start (UInt8.ofNat value) = ([.char (Char.ofNat value)], none) := by
  simp only [start, toNat_ofNat_small (show value < 256 by omega), ascii, ↓reduceIte]

theorem advance_last {part : Unfinished} {value : Nat} (small : value < 256)
    (above : part.lowest ≤ value) (below : value ≤ part.highest) (last : part.further = 0) :
    advance (some part) (UInt8.ofNat value) =
      ([.char (Char.ofNat (part.bits * 64 + (value - 0x80)))], none) := by
  simp only [advance, toNat_ofNat_small small, above, below, and_self, ↓reduceIte, last]

theorem advance_more {part : Unfinished} {value further : Nat} (small : value < 256)
    (above : part.lowest ≤ value) (below : value ≤ part.highest)
    (more : part.further = further + 1) :
    advance (some part) (UInt8.ofNat value) =
      ([], some ⟨part.bits * 64 + (value - 0x80), part.seen ++ [UInt8.ofNat value],
        0x80, 0xBF, further⟩) := by
  simp only [advance, toNat_ofNat_small small, above, below, and_self, ↓reduceIte, more]

/-- The bounds that a lead byte of three sets on the second byte. -/
theorem start_three {high : Nat} (bound : high < 16) :
    ∃ lowest highest, start (UInt8.ofNat (0xE0 + high)) =
      ([], some ⟨high, [UInt8.ofNat (0xE0 + high)], lowest, highest, 1⟩) ∧
      (∀ middle, middle < 64 → 32 ≤ high * 64 + middle →
        high * 64 + middle < 0x360 ∨ 0x380 ≤ high * 64 + middle →
        lowest ≤ 0x80 + middle ∧ 0x80 + middle ≤ highest) := by
  have value : (UInt8.ofNat (0xE0 + high)).toNat = 0xE0 + high :=
    toNat_ofNat_small (by omega)
  rcases Nat.eq_zero_or_pos high with zero | positive
  · subst zero
    exact ⟨0xA0, 0xBF, rfl, by omega⟩
  by_cases surrogates : high = 0xD
  · subst surrogates
    exact ⟨0x80, 0x9F, rfl, by omega⟩
  · refine ⟨0x80, 0xBF, ?_, by omega⟩
    simp only [start, value, show ¬ 0xE0 + high < 0x80 by omega, show ¬ 0xE0 + high < 0xC2 by omega,
      show ¬ 0xE0 + high < 0xE0 by omega, show ¬ 0xE0 + high = 0xE0 by omega,
      show ¬ 0xE0 + high = 0xED by omega, show 0xE0 + high < 0xF0 by omega, ↓reduceIte,
      Nat.add_sub_cancel_left]

theorem start_four {high : Nat} (bound : high < 5) :
    ∃ lowest highest, start (UInt8.ofNat (0xF0 + high)) =
      ([], some ⟨high, [UInt8.ofNat (0xF0 + high)], lowest, highest, 2⟩) ∧
      (∀ middle, middle < 64 → 16 ≤ high * 64 + middle → high * 64 + middle < 0x110 →
        lowest ≤ 0x80 + middle ∧ 0x80 + middle ≤ highest) := by
  rcases high with _ | _ | _ | _ | _ | high
  · exact ⟨0x90, 0xBF, rfl, by omega⟩
  · exact ⟨0x80, 0xBF, rfl, by omega⟩
  · exact ⟨0x80, 0xBF, rfl, by omega⟩
  · exact ⟨0x80, 0xBF, rfl, by omega⟩
  · exact ⟨0x80, 0x8F, rfl, by omega⟩
  · omega

theorem start_two {high : Nat} (above : 2 ≤ high) (below : high < 32) :
    start (UInt8.ofNat (0xC0 + high)) =
      ([], some ⟨high, [UInt8.ofNat (0xC0 + high)], 0x80, 0xBF, 0⟩) := by
  have value : (UInt8.ofNat (0xC0 + high)).toNat = 0xC0 + high :=
    toNat_ofNat_small (by omega)
  simp only [start, value, show ¬ 0xC0 + high < 0x80 by omega, show ¬ 0xC0 + high < 0xC2 by omega,
    show 0xC0 + high < 0xE0 by omega, ↓reduceIte, Nat.add_sub_cancel_left]

theorem scan_encodeCode {code : Nat}
    (scalar : code < 0xD800 ∨ (0xDFFF < code ∧ code < 0x110000)) (rest : Bytes) :
    scan none (encodeCode code ++ rest) = .char (Char.ofNat code) :: scan none rest := by
  unfold encodeCode
  split
  · next one => simp [scan_cons, advance, start_one one]
  split
  · next two =>
      simp only [List.cons_append, List.nil_append, scan_cons, advance.eq_1,
        start_two (show 2 ≤ code / 64 by omega) (show code / 64 < 32 by omega)]
      rw [advance_last (by omega) (by dsimp only; omega) (by dsimp only; omega) rfl]
      dsimp only [List.cons_append, List.nil_append]
      rw [show code / 64 * 64 + (0x80 + code % 64 - 0x80) = code by omega]
  split
  · next three =>
      obtain ⟨lowest, highest, opened, bounds⟩ :=
        start_three (show code / 4096 < 16 by omega)
      have second := bounds (code / 64 % 64) (by omega) (by omega) (by omega)
      simp only [List.cons_append, List.nil_append, scan_cons, advance.eq_1, opened]
      rw [advance_more (by omega) second.1 second.2 rfl]
      dsimp only [List.nil_append]
      rw [advance_last (by omega) (by dsimp only; omega) (by dsimp only; omega) rfl]
      dsimp only [List.cons_append, List.nil_append]
      rw [show (code / 4096 * 64 + (0x80 + code / 64 % 64 - 0x80)) * 64 +
        (0x80 + code % 64 - 0x80) = code by omega]
  · obtain ⟨lowest, highest, opened, bounds⟩ :=
      start_four (show code / 262144 < 5 by omega)
    have second := bounds (code / 4096 % 64) (by omega) (by omega) (by omega)
    simp only [List.cons_append, List.nil_append, scan_cons, advance.eq_1, opened]
    rw [advance_more (by omega) second.1 second.2 rfl]
    dsimp only [List.nil_append]
    rw [advance_more (by omega) (by dsimp only; omega) (by dsimp only; omega) rfl]
    dsimp only [List.nil_append]
    rw [advance_last (by omega) (by dsimp only; omega) (by dsimp only; omega) rfl]
    dsimp only [List.cons_append, List.nil_append]
    rw [show ((code / 262144 * 64 + (0x80 + code / 4096 % 64 - 0x80)) * 64 +
      (0x80 + code / 64 % 64 - 0x80)) * 64 + (0x80 + code % 64 - 0x80) = code by omega]

theorem scan_encode (text : List Char) :
    scan none (text.flatMap fun c => encodeCode c.toNat) = text.map Piece.char := by
  induction text with
  | nil => rfl
  | cons c rest ih =>
      have scalar : c.toNat < 0xD800 ∨ (0xDFFF < c.toNat ∧ c.toNat < 0x110000) := c.valid
      rw [List.flatMap_cons, scan_encodeCode scalar, ih, Char.ofNat_toNat, List.map_cons]

theorem pieces_encode (text : String) : pieces (encode text) = text.toList.map Piece.char :=
  scan_encode text.toList

theorem chars?_map_char (text : List Char) : chars? (text.map Piece.char) = some text := by
  induction text with
  | nil => rfl
  | cons c rest ih => simp [chars?, ih]

theorem decode?_encode (text : String) : decode? (encode text) = some text := by
  simp [decode?, pieces_encode, chars?_map_char]

theorem decodeLossy_encode (text : String) : decodeLossy (encode text) = text := by
  have kept : (Piece.substituted ∘ Piece.char) = id := rfl
  simp [decodeLossy, pieces_encode, kept]

/-- A byte below 128 encodes just the character with that number. -/
theorem eq_of_mem_encodeCode {byte : UInt8} {code : Nat} (scalar : code < 0x110000)
    (ascii : byte.toNat < 0x80) (inside : byte ∈ encodeCode code) : byte.toNat = code := by
  have high {value : Nat} (small : value < 256) (large : 0x80 ≤ value) :
      byte ≠ UInt8.ofNat value := by
    rintro rfl
    rw [toNat_ofNat_small small] at ascii
    omega
  have follow (value : Nat) : byte ≠ UInt8.ofNat (0x80 + value % 64) :=
    high (by omega) (by omega)
  unfold encodeCode at inside
  split at inside
  · next one => rw [List.mem_singleton.mp inside, toNat_ofNat_small (by omega)]
  split at inside
  · next two =>
      have lead := high (show 0xC0 + code / 64 < 256 by omega) (by omega)
      simp only [List.mem_cons, List.not_mem_nil, lead, follow, or_self] at inside
  split at inside
  · next three =>
      have lead := high (show 0xE0 + code / 4096 < 256 by omega) (by omega)
      simp only [List.mem_cons, List.not_mem_nil, lead, follow, or_self] at inside
  · have lead := high (show 0xF0 + code / 262144 < 256 by omega) (by omega)
    simp only [List.mem_cons, List.not_mem_nil, lead, follow, or_self] at inside

theorem mem_of_mem_encode {byte : UInt8} {text : String} (ascii : byte.toNat < 0x80)
    (inside : byte ∈ encode text) : Char.ofNat byte.toNat ∈ text.toList := by
  obtain ⟨c, member, found⟩ := List.mem_flatMap.mp inside
  have scalar : c.toNat < 0xD800 ∨ (0xDFFF < c.toNat ∧ c.toNat < 0x110000) := c.valid
  rw [eq_of_mem_encodeCode (by omega) ascii found, Char.ofNat_toNat]
  exact member

end SessionStreams.Text
