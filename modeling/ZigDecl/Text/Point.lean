/-! # Texts as code points

A text is a sequence of code points. Most of them are characters, but a document can also spell half
of a surrogate pair without the other half, and that is a code point of its own. Strings are the
texts without such halves. What is read from a document does not depend on which texts may be in it,
so it is written for every type that is `TextLike`. -/

namespace ZigDecl

/-- A code point of a text. -/
inductive Point where
  | char (c : Char)
  /-- The code point `0xD800 + n`, which is half of a surrogate pair. -/
  | half (n : Fin 2048)
  deriving DecidableEq, Repr

namespace Point

/-- The half of a surrogate pair with a given number. -/
def ofHalf (number : Nat) : Point := .half (Fin.ofNat 2048 (number - 0xD800))

/-- The characters that code points are, if they have no halves. -/
def chars? : List Point → Option (List Char)
  | [] => some []
  | .char c :: ps => (chars? ps).map (c :: ·)
  | .half _ :: _ => none

theorem chars?_eq_some_iff {ps : List Point} {cs : List Char} :
    chars? ps = some cs ↔ cs.map .char = ps := by
  induction ps generalizing cs with
  | nil => cases cs <;> simp [chars?]
  | cons p ps ih =>
    cases p with
    | half n => cases cs <;> simp [chars?]
    | char c =>
      cases cs with
      | nil => simp [chars?]
      | cons d cs => simp [chars?, ih, and_comm, and_assoc, eq_comm (a := c)]

end Point

/-- A text of any code points. -/
structure RawText where
  points : List Point
  deriving DecidableEq, Repr

/-- A type of texts that the strings are among. -/
class TextLike (τ : Type) extends Append τ where
  /-- A string as a text. -/
  lit : String → τ
  points : τ → List Point
  /-- The text with given code points, if the type has it. -/
  ofPoints? : List Point → Option τ
  points_lit (s : String) : points (lit s) = s.toList.map .char
  points_append (s t : τ) : points (s ++ t) = points s ++ points t
  ofPoints?_eq_some_iff {ps : List Point} {t : τ} : ofPoints? ps = some t ↔ points t = ps

namespace TextLike

instance : TextLike String where
  lit s := s
  points s := s.toList.map .char
  ofPoints? ps := (Point.chars? ps).map String.ofList
  points_lit _ := rfl
  points_append s t := by simp
  ofPoints?_eq_some_iff {ps t} := by
    rw [Option.map_eq_some_iff]
    constructor
    · rintro ⟨cs, hcs, rfl⟩
      rw [String.toList_ofList]
      exact Point.chars?_eq_some_iff.mp hcs
    · intro h
      exact ⟨t.toList, Point.chars?_eq_some_iff.mpr h, String.ofList_toList⟩

instance : TextLike RawText where
  append s t := ⟨s.points ++ t.points⟩
  lit s := ⟨s.toList.map .char⟩
  points := RawText.points
  ofPoints? ps := some ⟨ps⟩
  points_lit _ := rfl
  points_append _ _ := rfl
  ofPoints?_eq_some_iff {ps t} := by
    cases t
    simp [eq_comm]

/-- At the type of strings, a string is itself. -/
@[simp] theorem lit_string (s : String) : (lit s : String) = s := rfl

variable {τ : Type} [TextLike τ]

theorem ofPoints?_points (t : τ) : ofPoints? (points t) = some t := ofPoints?_eq_some_iff.mpr rfl

theorem points_injective : Function.Injective (points : τ → List Point) := by
  intro s t h
  have hs : ofPoints? (points s) = some s := ofPoints?_points s
  rw [h, ofPoints?_points] at hs
  exact (Option.some.inj hs).symm

theorem lit_injective : Function.Injective (lit : String → τ) := by
  intro s t h
  have hpoints := congrArg points h
  rw [points_lit, points_lit] at hpoints
  exact points_injective hpoints

@[simp] theorem lit_inj {s t : String} : (lit s : τ) = lit t ↔ s = t := lit_injective.eq_iff

/-- The string that a text is, if it is one. -/
def string? (t : τ) : Option String := ofPoints? (points t)

end TextLike

end ZigDecl
