import Mathlib.Data.List.Basic
import ZigDecl.Proofs.Zig.Decode

/-! # The form of string literals

A literal is printable ASCII, and a quotation mark inside it is always escaped. Main statement: the
literal of a text has that form and stands for the text, so different texts have different
literals. -/

namespace ZigDecl.Zig

/-- The printable characters of ASCII. -/
def IsPrintable (c : Char) : Prop := 0x20 ≤ c.toNat ∧ c.toNat ≤ 0x7E

instance : DecidablePred IsPrintable := fun c =>
  inferInstanceAs (Decidable (0x20 ≤ c.toNat ∧ c.toNat ≤ 0x7E))

/-- Whether the character behind a text is escaped: the text ends with a backslash that is not
escaped itself. -/
def escapesNext (front : List Char) : Bool :=
  front.foldl (fun escaped c => c == '\\' && !escaped) false

/-- What may stand between the quotation marks of a literal: the quotation marks in it are escaped,
and the one behind it is not. -/
structure IsEscaped (body : List Char) : Prop where
  quotes : ∀ front back, body = front ++ '"' :: back → escapesNext front = true
  ends : escapesNext body = false

/-- The form of a literal. -/
structure IsLiteral (text : List Char) : Prop where
  printable : ∀ c ∈ text, IsPrintable c
  quoted : ∃ body, text = '"' :: body ++ ['"'] ∧ IsEscaped body

/-! ## Escaped texts -/

theorem escapesNext_concat (front : List Char) (c : Char) :
    escapesNext (front ++ [c]) = (c == '\\' && !escapesNext front) := by
  rw [escapesNext, List.foldl_append]
  rfl

/-- Behind a text that leaves nothing escaped, escapes are as at the start. -/
theorem escapesNext_append {front : List Char} (h : escapesNext front = false)
    (more : List Char) : escapesNext (front ++ more) = escapesNext more := by
  rw [escapesNext, List.foldl_append, show front.foldl _ false = false from h, escapesNext]

namespace IsEscaped

theorem nil : IsEscaped [] where
  quotes front back h := by simp at h
  ends := rfl

theorem append {xs ys : List Char} (h : IsEscaped xs) (h' : IsEscaped ys) :
    IsEscaped (xs ++ ys) where
  quotes front back heq := by
    rcases List.append_eq_append_iff.mp heq with ⟨more, rfl, hys⟩ | ⟨more, hxs, hback⟩
    · rw [escapesNext_append h.ends]
      exact h'.quotes more back hys
    · cases more with
      | nil =>
        rw [List.append_nil] at hxs
        rw [← hxs, ← List.append_nil xs, escapesNext_append h.ends]
        exact h'.quotes [] back hback.symm
      | cons c more =>
        obtain ⟨rfl, rfl⟩ := List.cons.inj hback
        exact h.quotes front more hxs
  ends := by rw [escapesNext_append h.ends, h'.ends]

/-- Any character may stand behind a backslash. -/
theorem escape (c : Char) : IsEscaped ['\\', c] where
  quotes front back h := by
    match front with
    | [] => cases h
    | [d] => cases h; rfl
    | [_, _] | _ :: _ :: _ :: _ => simp at h
  ends := by simp [escapesNext]

/-- A text without backslashes and quotation marks. -/
theorem plain {cs : List Char} (h : ∀ c ∈ cs, c ≠ '\\' ∧ c ≠ '"') : IsEscaped cs where
  quotes front back heq := absurd rfl (h '"' (by simp [heq])).2
  ends := by
    rcases cs.eq_nil_or_concat' with rfl | ⟨front, c, rfl⟩
    · rfl
    · have hc : (c == '\\') = false := beq_eq_false_iff_ne.mpr (h c (by simp)).1
      rw [escapesNext_concat, hc, Bool.false_and]

end IsEscaped

/-! ## Digits -/

/-- A hexadecimal digit needs no escape. -/
theorem digitChar_facts : ∀ n < 16,
    IsPrintable n.digitChar ∧ n.digitChar ≠ '\\' ∧ n.digitChar ≠ '"' := by decide

theorem digits_facts (n : Nat) :
    ∀ c ∈ Nat.toDigits 16 n, IsPrintable c ∧ c ≠ '\\' ∧ c ≠ '"' := by
  induction n using Nat.strongRecOn with
  | _ n ih =>
    by_cases h : n < 16
    · rw [Nat.toDigits_of_lt_base h]
      simpa using digitChar_facts n h
    · have hlast := digitChar_facts (n % 16) (Nat.mod_lt _ (by omega))
      rw [Nat.toDigits_of_base_le (by omega) (by omega)]
      intro c hc
      rcases List.mem_append.mp hc with hc | hc
      · exact ih (n / 16) (by omega) c hc
      · rwa [List.mem_singleton.mp hc]

theorem hexPadded_facts (width n : Nat) :
    ∀ c ∈ Text.hexPadded width n, IsPrintable c ∧ c ≠ '\\' ∧ c ≠ '"' := by
  intro c hc
  rcases List.mem_append.mp hc with hc | hc
  · rw [List.eq_of_mem_replicate hc]
    decide
  · exact digits_facts n c hc

/-! ## Literals -/

/-- What a literal is made of: printable characters, in which all is escaped that has to be. -/
structure IsPart (cs : List Char) : Prop where
  printable : ∀ c ∈ cs, IsPrintable c
  escaped : IsEscaped cs

namespace IsPart

theorem nil : IsPart [] := ⟨List.forall_mem_nil _, .nil⟩

theorem append {xs ys : List Char} (h : IsPart xs) (h' : IsPart ys) : IsPart (xs ++ ys) :=
  ⟨List.forall_mem_append.mpr ⟨h.printable, h'.printable⟩, h.escaped.append h'.escaped⟩

theorem escape {c : Char} (h : IsPrintable c) : IsPart ['\\', c] :=
  ⟨List.forall_mem_cons.mpr ⟨by decide, List.forall_mem_singleton.mpr h⟩, .escape c⟩

theorem plain {cs : List Char} (h : ∀ c ∈ cs, IsPrintable c ∧ c ≠ '\\' ∧ c ≠ '"') : IsPart cs :=
  ⟨fun c hc => (h c hc).1, .plain fun c hc => (h c hc).2⟩

end IsPart

theorem isPart_literalChar (c : Char) : IsPart (literalChar c) := by
  unfold literalChar
  -- Five characters are written as one character behind a backslash.
  iterate 5
    split
    · exact .escape (by decide)
  split
  · have hletter : IsPart ['\\', 'x'] := .escape (by decide)
    exact hletter.append (.plain (hexPadded_facts 2 c.toNat))
  split
  · have hletter : IsPart ['\\', 'u'] := .escape (by decide)
    have hbraced : IsPart ('\x7b' :: Nat.toDigits 16 c.toNat ++ ['\x7d']) := by
      apply IsPart.plain
      simp only [List.forall_mem_append, List.forall_mem_cons]
      exact ⟨⟨by decide, digits_facts c.toNat⟩, by decide, List.forall_mem_nil _⟩
    exact hletter.append hbraced
  · next hbackslash hquote _ _ _ hcontrol hwide =>
    simp only [beq_iff_eq, Bool.or_eq_true, decide_eq_true_eq] at hbackslash hquote hcontrol hwide
    have hprintable : IsPrintable c := ⟨by omega, by omega⟩
    exact .plain (List.forall_mem_singleton.mpr ⟨hprintable, hbackslash, hquote⟩)

theorem isPart_flatMap (cs : List Char) : IsPart (cs.flatMap literalChar) := by
  induction cs with
  | nil => exact .nil
  | cons c cs ih =>
    rw [List.flatMap_cons]
    exact (isPart_literalChar c).append ih

theorem isLiteral_literalChars (cs : List Char) : IsLiteral (literalChars cs) where
  printable := by
    rw [literalChars, List.forall_mem_append, List.forall_mem_cons]
    exact ⟨⟨by decide, (isPart_flatMap cs).printable⟩, List.forall_mem_singleton.mpr (by decide)⟩
  quoted := ⟨_, rfl, (isPart_flatMap cs).escaped⟩

/-- The literal of a text is printable ASCII between two quotation marks, with all others in it
escaped, and it stands for the text; so no two texts have the same literal. -/
theorem stringLiteral_represents :
    (∀ s : String, IsLiteral (stringLiteral s).toList ∧
      decode? (stringLiteral s).toList = some s.toList) ∧
    ∀ s t : String, stringLiteral s = stringLiteral t → s = t := by
  have htext : ∀ s : String, (stringLiteral s).toList = literalChars s.toList :=
    fun s => String.toList_ofList
  refine ⟨fun s => ?_, fun s t h => ?_⟩
  · rw [htext]
    exact ⟨isLiteral_literalChars _, decode?_literalChars _⟩
  · have hs := decode?_literalChars s.toList
    rw [← htext, h, htext, decode?_literalChars] at hs
    exact (String.toList_inj.mp (Option.some.inj hs)).symm

end ZigDecl.Zig
