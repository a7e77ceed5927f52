import SessionStreams.Proofs.Sessions

set_option autoImplicit false

/- Plain paths: relative ones without a NUL, of names that go down all the way. Main statement: the
parent of a plain path is plain, and has all its names but the last (`Plain.parent_spec`). -/

namespace SessionStreams.Path

/-- It does not start at the root, and no name in it stands for the same directory or the one above.
-/
structure Plain (path : Path) : Prop where
  relative : path.rooted = false
  clean : 0 ∉ path
  proper : ∀ name ∈ path.names, name ≠ dot ∧ name ≠ dotDot

instance (path : Path) : Decidable path.Plain :=
  decidable_of_iff
    (path.rooted = false ∧ 0 ∉ path ∧ ∀ name ∈ path.names, name ≠ dot ∧ name ≠ dotDot)
    ⟨fun ⟨relative, clean, proper⟩ => ⟨relative, clean, proper⟩,
      fun plain => ⟨plain.relative, plain.clean, plain.proper⟩⟩

/-- Parts are made of the bytes of the path that are no slashes. -/
theorem mem_of_mem_parts {path : Path} {part : Name} {byte : UInt8} (member : part ∈ path.parts)
    (inside : byte ∈ part) : byte ∈ path ∧ byte ≠ slash := by
  induction path generalizing part with
  | nil =>
      rw [parts_nil, List.mem_singleton] at member
      rw [member] at inside
      cases inside
  | cons first rest ih =>
      rw [parts_cons] at member
      unfold before at member
      split at member
      · rcases List.mem_cons.mp member with rfl | later
        · cases inside
        · obtain ⟨found, apart⟩ := ih later inside
          exact ⟨List.mem_cons_of_mem _ found, apart⟩
      · next apart =>
          obtain ⟨front, others, cut⟩ := List.exists_cons_of_ne_nil (parts_ne_nil rest)
          rw [cut] at member ih
          rcases List.mem_cons.mp member with rfl | later
          · rcases List.mem_cons.mp inside with rfl | further
            · exact ⟨List.mem_cons_self, apart⟩
            · obtain ⟨found, other⟩ := ih List.mem_cons_self further
              exact ⟨List.mem_cons_of_mem _ found, other⟩
          · obtain ⟨found, other⟩ := ih (List.mem_cons_of_mem _ later) inside
            exact ⟨List.mem_cons_of_mem _ found, other⟩

theorem slash_notMem_of_mem_parts {path : Path} {part : Name} (member : part ∈ path.parts) :
    slash ∉ part :=
  fun inside => (mem_of_mem_parts member inside).2 rfl

/-- Parts without a slash come back as names, but for the empty ones. -/
theorem names_ofParts {parts : List Name} (simple : ∀ part ∈ parts, slash ∉ part) :
    (ofParts parts).names = parts.filter (· ≠ []) := by
  have alone {part : Name} (simple : slash ∉ part) : Path.names part = [part].filter (· ≠ []) := by
    by_cases empty : part = []
    · rw [empty]
      rfl
    · rw [names_of_simple empty simple]
      simp [empty]
  induction parts with
  | nil => rfl
  | cons first rest ih =>
      have here := alone (simple first List.mem_cons_self)
      by_cases last : rest = []
      · rw [last, ofParts_singleton, here]
      · have later := ih fun part member => simple part (List.mem_cons_of_mem _ member)
        rw [ofParts_cons first last, names_append_slash, here, later, ← List.filter_append,
          List.singleton_append]

theorem rooted_ofParts {first : Name} (filled : first ≠ []) (simple : slash ∉ first)
    (rest : List Name) : (ofParts (first :: rest)).rooted = false := by
  have relative := not_rooted_of_simple simple
  obtain ⟨byte, further, rfl⟩ := List.exists_cons_of_ne_nil filled
  rw [ofParts_extend]
  exact relative

theorem ne_nil_of_parent? {path above : Path} (found : path.parent? = some above) : path ≠ [] := by
  rintro rfl
  cases found

namespace Plain

variable {path above : Path}

/-- The empty path is the only plain one without a first name. -/
theorem first_part (plain : path.Plain) (filled : path ≠ []) :
    ∃ first body, path.parts = first :: body ∧ first ≠ [] ∧ first ≠ dot := by
  obtain ⟨first, body, cut⟩ := List.exists_cons_of_ne_nil (parts_ne_nil path)
  have nonempty : first ≠ [] := by
    rintro rfl
    have whole := ofParts_parts path
    rw [cut] at whole
    cases body with
    | nil => exact filled whole.symm
    | cons second more =>
        rw [ofParts_cons [] (List.cons_ne_nil _ _), List.nil_append] at whole
        have rooted := plain.relative
        rw [← whole] at rooted
        cases rooted
  have named : first ∈ path.names := by
    rw [names, cut]
    exact List.mem_filter.mpr ⟨List.mem_cons_self, decide_eq_true nonempty⟩
  exact ⟨first, body, cut, nonempty, (plain.proper first named).1⟩

theorem anatomy_eq (plain : path.Plain) (filled : path ≠ []) :
    path.anatomy = (.none, path.parts) := by
  obtain ⟨first, body, cut, nonempty, notDot⟩ := plain.first_part filled
  rw [anatomy, cut]
  cases body with
  | nil => simp only [if_neg notDot]
  | cons second more => simp only [if_neg nonempty, if_neg notDot]

/-- In a plain path just the empty parts are idle. -/
theorem idle_iff (plain : path.Plain) {part : Name} (member : part ∈ path.parts) :
    idle part = true ↔ part = [] := by
  unfold idle
  refine ⟨fun quiet => ?_, fun empty => by simp [empty]⟩
  rcases of_decide_eq_true quiet with empty | rfl
  · exact empty
  · have named : dot ∈ path.names :=
      List.mem_filter.mpr ⟨member, decide_eq_true (List.cons_ne_nil _ _)⟩
    exact absurd rfl (plain.proper dot named).1

theorem filter_dropWhile_idle (plain : path.Plain) {parts : List Name}
    (among : ∀ part ∈ parts, part ∈ path.parts) :
    (parts.dropWhile idle).filter (· ≠ []) = parts.filter (· ≠ []) := by
  induction parts with
  | nil => rfl
  | cons part rest ih =>
      rw [List.dropWhile_cons]
      split
      · next quiet =>
          have empty := (plain.idle_iff (among part List.mem_cons_self)).mp quiet
          rw [ih fun other member => among other (List.mem_cons_of_mem _ member)]
          simp [empty]
      · rfl

/-- Without its last step a plain path has all parts up to some place, the last name left out. -/
theorem exists_kept (plain : path.Plain) (found : path.parent? = some above) :
    ∃ kept last, above = ofParts kept ∧ kept <+: path.parts ∧
      path.names = kept.filter (· ≠ []) ++ [last] := by
  have anatomy := plain.anatomy_eq (ne_nil_of_parent? found)
  unfold parent? at found
  rw [anatomy] at found
  dsimp only at found
  split at found
  · simp only [reduceCtorEq, if_false] at found
  · next last further stripped =>
      cases found
      have suffix : last :: further <:+ path.parts.reverse := stripped ▸ List.dropWhile_suffix idle
      have rest : further <:+ path.parts.reverse := (List.suffix_cons last further).trans suffix
      have dropped : further.dropWhile idle <:+ path.parts.reverse :=
        (List.dropWhile_suffix idle).trans rest
      have busy : last ≠ [] := by
        have kept := List.head?_dropWhile_not idle path.parts.reverse
        rw [stripped] at kept
        rintro rfl
        simp [idle] at kept
      have among (part : Name) (member : part ∈ path.parts.reverse) : part ∈ path.parts :=
        List.mem_reverse.mp member
      -- The parts that are stripped are idle, and in a plain path these have no names.
      refine ⟨(further.dropWhile idle).reverse, last, rfl, ?_, ?_⟩
      · rw [← List.reverse_suffix, List.reverse_reverse]
        exact dropped
      · have whole := plain.filter_dropWhile_idle among
        have inner := plain.filter_dropWhile_idle fun part member => among part (rest.subset member)
        rw [stripped, List.filter_cons, if_pos (decide_eq_true busy), List.filter_reverse] at whole
        rw [List.filter_reverse, inner, ← List.reverse_cons, whole, List.reverse_reverse, names]

/-- The parent of a plain path is plain, and has all its names but the last. -/
theorem parent_spec (plain : path.Plain) (found : path.parent? = some above) :
    above.Plain ∧ ∃ last, path.names = above.names ++ [last] := by
  obtain ⟨kept, last, rfl, front, whole⟩ := plain.exists_kept found
  have simple (part : Name) (member : part ∈ kept) : slash ∉ part :=
    slash_notMem_of_mem_parts (front.subset member)
  have names := names_ofParts simple
  rw [← names] at whole
  refine ⟨⟨?_, fun inside => ?_, fun name member => ?_⟩, last, whole⟩
  · cases kept with
    | nil => rfl
    | cons part rest =>
        obtain ⟨first, body, cut, nonempty, -⟩ := plain.first_part (ne_nil_of_parent? found)
        rw [cut] at front
        obtain ⟨rfl, -⟩ := List.cons_prefix_cons.mp front
        exact rooted_ofParts nonempty (simple part List.mem_cons_self) rest
  · rcases mem_of_mem_ofParts inside with separator | ⟨part, member, here⟩
    · cases separator
    · exact plain.clean (mem_of_mem_parts (front.subset member) here).1
  · exact plain.proper name (whole ▸ List.mem_append_left _ member)

end Plain

end SessionStreams.Path
