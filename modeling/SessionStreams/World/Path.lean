import SessionStreams.Bytes

set_option autoImplicit false

/- Paths as bytes: their parts, how two are joined, and the parent of a path. Main statements: the
parts of a path make up the path (`ofParts_parts`), and a parent is shorter (`length_parent?_lt`).
-/

namespace SessionStreams

abbrev Path := Bytes

/-- One part of a path, between two slashes. -/
abbrev Name := Bytes

namespace Path

def slash : UInt8 := 0x2F

def dot : Name := [0x2E]

def dotDot : Name := [0x2E, 0x2E]

/-- Puts a byte before the parts of what follows it. -/
def before (byte : UInt8) (parts : List Name) : List Name :=
  if byte = slash then [] :: parts
  else match parts with
    | [] => [[byte]]
    | first :: others => (byte :: first) :: others

/-- What stands between the slashes, empty parts included. -/
def parts (path : Path) : List Name := path.foldr before [[]]

def ofParts (parts : List Name) : Path := List.intercalate [slash] parts

@[simp] theorem parts_nil : parts [] = [[]] := rfl

@[simp] theorem parts_cons (byte : UInt8) (rest : Path) :
    parts (byte :: rest) = before byte (parts rest) := rfl

theorem parts_ne_nil (path : Path) : parts path ≠ [] := by
  cases path with
  | nil => exact List.cons_ne_nil _ _
  | cons byte rest =>
      rw [parts_cons]
      unfold before
      split
      · exact List.cons_ne_nil _ _
      · split <;> exact List.cons_ne_nil _ _

@[simp] theorem ofParts_nil : ofParts [] = [] := rfl

@[simp] theorem ofParts_singleton (last : Name) : ofParts [last] = last := by
  simp [ofParts, List.intercalate]

theorem ofParts_cons (first : Name) {rest : List Name} (more : rest ≠ []) :
    ofParts (first :: rest) = first ++ slash :: ofParts rest := by
  cases rest with
  | nil => exact absurd rfl more
  | cons second others => simp [ofParts, List.intercalate]

theorem ofParts_extend (byte : UInt8) (first : Name) (others : List Name) :
    ofParts ((byte :: first) :: others) = byte :: ofParts (first :: others) := by
  cases others with
  | nil => simp
  | cons second more => simp [ofParts_cons]

theorem ofParts_parts (path : Path) : ofParts (parts path) = path := by
  induction path with
  | nil => rfl
  | cons byte rest ih =>
      have found := parts_ne_nil rest
      rw [parts_cons]
      unfold before
      by_cases separator : byte = slash
      · rw [if_pos separator, ofParts_cons _ found, ih, separator, List.nil_append]
      · rw [if_neg separator]
        cases cut : parts rest with
        | nil => exact absurd cut found
        | cons first others =>
            rw [cut] at ih
            simp only [ofParts_extend, ih]

/-- The names to walk through. -/
def names (path : Path) : List Name := path.parts.filter (· ≠ [])

def rooted (path : Path) : Bool := path.head? = some slash

def endsInSlash (path : Path) : Bool := path.getLast? = some slash

/-- `rest` seen from `base`: itself if it is rooted, else below `base`. -/
def join (base rest : Path) : Path :=
  if rest.rooted then rest
  else if base = [] ∨ base.endsInSlash then base ++ rest
  else base ++ slash :: rest

/-- Where a path starts: at the root, at a leading dot, or at its first name. -/
inductive Anchor where
  | root
  | here
  | none
deriving DecidableEq

def Anchor.text : Anchor → List Name → Path
  | .root, body => slash :: ofParts body
  | .here, [] => dot
  | .here, body => dot ++ slash :: ofParts body
  | .none, body => ofParts body

/-- The anchor of a path and its further parts. -/
def anatomy (path : Path) : Anchor × List Name :=
  match path.parts with
  | [] => (.none, [])
  | [first] => if first = dot then (.here, []) else (.none, [first])
  | first :: body =>
      if first = [] then (.root, body)
      else if first = dot then (.here, body)
      else (.none, first :: body)

/-- Empty parts and dots name no step. -/
def idle (part : Name) : Bool := part = [] ∨ part = dot

/-- What is left of a path without its last step. The root and the empty path have no parent, and
the parent of a path of one name is the empty path. -/
def parent? (path : Path) : Option Path :=
  match path.anatomy with
  | (anchor, body) =>
      match body.reverse.dropWhile idle with
      | [] => if anchor = .here then some [] else none
      | _ :: further => some (anchor.text (further.dropWhile idle).reverse)

/-- The bytes of some parts with a slash for each. -/
def weight : List Name → Nat
  | [] => 0
  | first :: rest => first.length + 1 + weight rest

theorem weight_cons (first : Name) (rest : List Name) :
    weight (first :: rest) = first.length + 1 + weight rest := rfl

theorem weight_append (front back : List Name) :
    weight (front ++ back) = weight front + weight back := by
  induction front with
  | nil => exact (Nat.zero_add _).symm
  | cons first rest ih =>
      rw [List.cons_append, weight_cons, weight_cons, ih]
      omega

theorem weight_reverse (parts : List Name) : weight parts.reverse = weight parts := by
  induction parts with
  | nil => rfl
  | cons first rest ih =>
      rw [List.reverse_cons, weight_append, ih, weight_cons]
      simp only [weight]
      omega

theorem weight_dropWhile_le (test : Name → Bool) (parts : List Name) :
    weight (parts.dropWhile test) ≤ weight parts := by
  induction parts with
  | nil => exact Nat.le_refl _
  | cons first rest ih =>
      rw [List.dropWhile_cons]
      split
      · rw [weight_cons]
        omega
      · exact Nat.le_refl _

theorem length_ofParts {parts : List Name} (nonempty : parts ≠ []) :
    (ofParts parts).length + 1 = weight parts := by
  induction parts with
  | nil => exact absurd rfl nonempty
  | cons first rest ih =>
      by_cases last : rest = []
      · simp [last, weight]
      · rw [ofParts_cons first last, weight_cons, ← ih last]
        simp only [List.length_append, List.length_cons]
        omega

theorem length_ofParts_le (parts : List Name) : (ofParts parts).length ≤ weight parts := by
  by_cases empty : parts = []
  · simp [empty]
  · have := length_ofParts empty
    omega

/-- What an anchor adds to the bytes of the parts after it. -/
def Anchor.weight : Anchor → Nat
  | .root => 1
  | .here => 2
  | .none => 0

theorem length_text_le (anchor : Anchor) (body : List Name) :
    (anchor.text body).length ≤ anchor.weight + weight body := by
  have := length_ofParts_le body
  cases anchor with
  | root =>
      simp only [Anchor.text, Anchor.weight, List.length_cons]
      omega
  | here =>
      cases body with
      | nil =>
          simp only [Anchor.text, Anchor.weight, dot, List.length_cons, List.length_nil]
          omega
      | cons first rest =>
          simp only [Anchor.text, Anchor.weight, dot, List.length_append, List.length_cons,
            List.length_nil]
          omega
  | none =>
      simp only [Anchor.text, Anchor.weight]
      omega

theorem length_of_anatomy {path : Path} {anchor : Anchor} {body : List Name}
    (cut : path.anatomy = (anchor, body)) : path.length + 1 = anchor.weight + weight body := by
  have whole := length_ofParts (parts_ne_nil path)
  rw [ofParts_parts] at whole
  rw [whole]
  unfold anatomy at cut
  split at cut
  · exact absurd ‹path.parts = []› (parts_ne_nil path)
  · rename_i first single
    split at cut <;> cases cut <;> simp_all [weight, Anchor.weight, dot]
  · rename_i first rest _ split_off
    rw [split_off, weight_cons]
    split at cut
    · cases cut
      simp_all [Anchor.weight]
    split at cut
    · cases cut
      simp_all [Anchor.weight, dot]
    · cases cut
      simp [Anchor.weight, weight_cons]

theorem length_parent?_lt {path parent : Path} (found : path.parent? = some parent) :
    parent.length < path.length := by
  unfold parent? at found
  cases cut : path.anatomy with
  | mk anchor body =>
      have size := length_of_anatomy cut
      simp only [cut] at found
      split at found
      · split at found
        · cases found
          simp_all only [Anchor.weight, List.length_nil]
          omega
        · cases found
      · rename_i part further stripped
        cases found
        have busy : idle part = false := by
          have kept := List.head?_dropWhile_not idle body.reverse
          rw [stripped] at kept
          simpa using kept
        have long : 1 ≤ part.length := by
          cases part with
          | nil => simp [idle] at busy
          | cons byte rest => simp
        have least := weight_dropWhile_le idle body.reverse
        rw [stripped, weight_cons, weight_reverse] at least
        have kept := weight_dropWhile_le idle further
        have text := length_text_le anchor (further.dropWhile idle).reverse
        rw [weight_reverse] at text
        omega

end Path

end SessionStreams
