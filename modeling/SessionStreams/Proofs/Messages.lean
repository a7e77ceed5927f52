import SessionStreams.Boundary.Fault
import SessionStreams.Engine.Session

set_option autoImplicit false

/- Messages that cross the boundary whole. A NUL in a message would be left out there, but no
failure to start a session has one (`clean_of_build`): the numbers of the operating system are
described without a NUL, and a quoted path shows its NULs escaped (`nulFree_quotedBytes`). -/

namespace SessionStreams

namespace Text

/-- A text that a terminator does not end early. -/
def NulFree (text : String) : Prop := '\x00' ∉ text.toList

instance (text : String) : Decidable (NulFree text) :=
  inferInstanceAs (Decidable ('\x00' ∉ text.toList))

theorem nulFree_ofList {chars : List Char} (free : '\x00' ∉ chars) :
    NulFree (String.ofList chars) := by
  rw [NulFree, String.toList_ofList]
  exact free

theorem nulFree_append_iff (front back : String) :
    NulFree (front ++ back) ↔ NulFree front ∧ NulFree back := by
  simp only [NulFree, String.toList_append, List.mem_append, not_or]

theorem nulFree_join {parts : List String} (free : ∀ part ∈ parts, NulFree part) :
    NulFree (String.join parts) := by
  intro inside
  rw [String.toList_join] at inside
  obtain ⟨part, member, found⟩ := List.mem_flatMap.mp inside
  exact free part member found

theorem exists_digitChar_of_mem_toDigits {base value : Nat} (bound : 1 < base) {c : Char}
    (digit : c ∈ Nat.toDigits base value) : ∃ part, c = Nat.digitChar part := by
  induction value using Nat.strongRecOn with
  | ind value ih =>
      rw [Nat.toDigits_eq_if bound] at digit
      split at digit
      · exact ⟨value, List.mem_singleton.mp digit⟩
      · next large =>
          rcases List.mem_append.mp digit with earlier | last
          · exact ih (value / base) (Nat.div_lt_self (by omega) bound) earlier
          · exact ⟨value % base, List.mem_singleton.mp last⟩

theorem nulFree_toDigits {base : Nat} (bound : 1 < base) (value : Nat) :
    NulFree (String.ofList (Nat.toDigits base value)) := by
  apply nulFree_ofList
  intro inside
  obtain ⟨part, same⟩ := exists_digitChar_of_mem_toDigits bound inside
  exact Nat.digitChar_ne '\x00' (by decide) same.symm

theorem nulFree_natString (value : Nat) : NulFree (toString value) := by
  rw [Nat.toString_eq_ofList_toDigits]
  exact nulFree_toDigits (by decide) value

theorem nulFree_intString (value : Int) : NulFree (toString value) := by
  cases value with
  | ofNat size => exact nulFree_natString size
  | negSucc less =>
      have spelled : toString (Int.negSucc less) = "-" ++ toString (less + 1) := rfl
      rw [spelled, nulFree_append_iff]
      exact ⟨by decide, nulFree_natString _⟩

theorem nulFree_escapeChar (c : Char) : NulFree (escapeChar c) := by
  unfold escapeChar
  split
  case h_7 notNul _ _ _ _ _ =>
    split
    · rw [nulFree_append_iff, nulFree_append_iff]
      exact ⟨⟨by decide, nulFree_toDigits (by decide) _⟩, by decide⟩
    · intro inside
      rw [String.toList_singleton] at inside
      exact notNul (List.mem_singleton.mp inside).symm
  all_goals decide

theorem toUpper_ne_nul {c : Char} (other : c ≠ '\x00') : c.toUpper ≠ '\x00' := by
  unfold Char.toUpper
  split
  · next lower =>
      intro same
      have atLeast := UInt32.le_iff_toNat_le.mp lower.1
      -- Going up to the capitals is done by adding 2 ^ 32 - 32, which wraps.
      have sum := congrArg Char.toNat same
      simp only [Char.toNat, UInt32.toNat_add] at sum
      have first : 'a'.val.toNat = 97 := by decide
      have shift : ('A'.val - 'a'.val).toNat = 2 ^ 32 - 32 := by decide
      have zero : '\x00'.val.toNat = 0 := by decide
      have bound : c.val.toNat < 2 ^ 32 := c.val.toNat_lt
      rw [shift, zero] at sum
      omega
  · exact other

theorem nulFree_escapeByte (byte : UInt8) : NulFree (escapeByte byte) := by
  have digits : NulFree (hexDigits byte.toNat).toUpper := by
    intro inside
    rw [String.toUpper, String.toList_map] at inside
    obtain ⟨c, member, raised⟩ := List.mem_map.mp inside
    apply toUpper_ne_nul _ raised
    rintro rfl
    exact nulFree_toDigits (by decide) byte.toNat member
  simp only [escapeByte, nulFree_append_iff]
  refine ⟨by decide, ?_⟩
  split
  · exact (nulFree_append_iff _ _).mpr ⟨by decide, digits⟩
  · exact digits

theorem nulFree_escapePiece (piece : Piece) : NulFree (escapePiece piece) := by
  cases piece with
  | char c => exact nulFree_escapeChar c
  | stray bytes =>
      apply nulFree_join
      intro part member
      obtain ⟨byte, -, rfl⟩ := List.mem_map.mp member
      exact nulFree_escapeByte byte

theorem nulFree_quotedBytes (bytes : Bytes) : NulFree (quotedBytes bytes) := by
  have inner : NulFree (String.join ((pieces bytes).map escapePiece)) := by
    apply nulFree_join
    intro part member
    obtain ⟨piece, -, rfl⟩ := List.mem_map.mp member
    exact nulFree_escapePiece piece
  simp only [quotedBytes, nulFree_append_iff]
  exact ⟨⟨by decide, inner⟩, by decide⟩

end Text

open Text (NulFree nulFree_append_iff)

namespace OsCode

theorem description_cases (code : OsCode) :
    code.description = "Unknown error " ++ toString code.number ∨
      code.description ∈ descriptions := by
  unfold description
  by_cases negative : code.number < 0
  · exact Or.inl (by simp only [if_pos negative, if_true])
  · rw [if_neg negative]
    dsimp only
    split
    · exact Or.inl rfl
    · next known =>
        right
        rw [List.getD_eq_getElem?_getD] at known ⊢
        cases listed : descriptions[code.number.toNat]? with
        | none => exact absurd (by rw [listed]; rfl) known
        | some text => exact List.mem_of_getElem? listed

/-- Letter by letter, since reading the texts back from memory takes long. -/
theorem nulFree_descriptions : ∀ text ∈ descriptions, NulFree text := by
  unfold descriptions
  repeat
    refine List.forall_mem_cons.mpr ⟨Text.nulFree_ofList (by decide), ?_⟩
  intro text member
  cases member

theorem nulFree_message (code : OsCode) : NulFree code.message := by
  have number := Text.nulFree_intString code.number
  have described : NulFree code.description := by
    rcases code.description_cases with unknown | listed
    · rw [unknown, nulFree_append_iff]
      exact ⟨by decide, number⟩
    · exact nulFree_descriptions _ listed
  simp only [message, nulFree_append_iff]
  exact ⟨⟨⟨described, by decide⟩, number⟩, by decide⟩

end OsCode

namespace IoFailure

/-- What was reported in words has no NUL. -/
def Clean : IoFailure → Prop
  | .reported text => NulFree text
  | .located cause _ => cause.Clean
  | .os _ => True
  | .nulInPath => True
  | .nothingAccepted => True

theorem nulFree_message {failure : IoFailure} (clean : failure.Clean) : NulFree failure.message := by
  induction failure with
  | os code => exact code.nulFree_message
  | nulInPath => decide
  | nothingAccepted => decide
  | reported text => exact clean
  | located cause path ih =>
      simp only [message, nulFree_append_iff]
      exact ⟨⟨ih clean, by decide⟩, Text.nulFree_quotedBytes path⟩

end IoFailure

/-- A message without a NUL crosses the boundary unchanged. -/
theorem Boundary.Fault.message_of_nulFree {fault : Fault} (free : NulFree fault.outermost.message) :
    fault.message = fault.outermost.message := by
  have kept : fault.outermost.message.toList.filter (· ≠ '\x00') =
      fault.outermost.message.toList := by
    rw [List.filter_eq_self]
    intro c member
    have other : c ≠ '\x00' := by
      rintro rfl
      exact free member
    exact decide_eq_true other
  rw [message, kept, String.ofList_toList]

theorem Boundary.Fault.message_ofIo {failure : IoFailure} (clean : failure.Clean) :
    (ofIo failure).message = failure.message :=
  message_of_nulFree (IoFailure.nulFree_message clean)

namespace World

variable {world : World} {failure : IoFailure}

theorem clean_of_checkPath {path : Path} (refused : checkPath path = .error failure) :
    failure.Clean := by
  unfold checkPath at refused
  split at refused
  · cases refused
    trivial
  split at refused
  · cases refused
    trivial
  split at refused
  · cases refused
    trivial
  · cases refused

theorem clean_of_position {path : Path} (failed : world.position path = .error failure) :
    failure.Clean := by
  unfold position at failed
  split at failed
  · next refused =>
      cases failed
      exact clean_of_checkPath refused
  · dsimp only at failed
    split at failed
    · cases failed
      trivial
    · split at failed <;> cases failed
      trivial

theorem clean_of_makeDirectory {path : Path} (failed : world.makeDirectory path = .error failure) :
    failure.Clean := by
  unfold makeDirectory at failed
  split at failed
  · next lost =>
      cases failed
      exact clean_of_position lost
  · cases failed
    trivial
  · split at failed
    · cases failed
      trivial
    split at failed <;> cases failed
    trivial

theorem clean_of_ensureDirectory {path : Path}
    (failed : world.ensureDirectory path = .error failure) : failure.Clean := by
  unfold ensureDirectory at failed
  split at failed
  · cases failed
  · next refused =>
      split at failed <;> cases failed
      exact clean_of_makeDirectory refused

theorem clean_of_makeDirectories {path : Path} {after : World}
    (failed : world.makeDirectories path = (.error failure, after)) : failure.Clean := by
  fun_induction makeDirectories world path generalizing after with
  | case1 => cases failed
  | case2 => cases failed
  | case3 path parent found above stopped earlier deeper ih =>
      cases failed
      exact ih earlier
  | case4 => cases failed
  | case5 path parent found above late refused =>
      cases failed
      exact clean_of_ensureDirectory (by assumption)
  | case6 =>
      cases failed
      exact clean_of_ensureDirectory (by assumption)

theorem clean_of_tryTemporary {base : Path} {attempts number : Nat}
    (failed : world.tryTemporary base attempts number = .error failure) : failure.Clean := by
  induction attempts generalizing number with
  | zero =>
      have words : NulFree "too many temporary files exist" := by decide
      cases failed
      exact words
  | succ attempts ih =>
      simp only [tryTemporary] at failed
      split at failed
      · cases failed
      · next refused =>
          have clean := clean_of_makeDirectory refused
          split at failed
          · exact ih failed
          · cases failed
            exact clean

end World

theorem Engine.Settings.clean_of_build {settings : Settings} {world after : World}
    {failure : IoFailure} (failed : settings.build world = (.error failure, after)) :
    failure.Clean := by
  unfold build at failed
  split at failed
  · split at failed
    · next refused =>
        cases failed
        exact World.clean_of_tryTemporary refused
    · cases failed
  · split at failed
    · next refused =>
        cases failed
        exact World.clean_of_makeDirectories refused
    · cases failed

end SessionStreams
