import ZigDecl.Zig.Literal

/-! # What string literals stand for

`decode?` reads a literal as the language does: escapes by letter, bytes by two hexadecimal digits,
and characters by any number of them between braces. Main statement: the literal of a text stands
for that text. -/

namespace ZigDecl.Zig

/-- The value of a hexadecimal digit. -/
def hexValue? (c : Char) : Option Nat :=
  let n := c.toNat
  if 48 ≤ n && n ≤ 57 then some (n - 48)
  else if 97 ≤ n && n ≤ 102 then some (n - 87)
  else if 65 ≤ n && n ≤ 70 then some (n - 55)
  else none

/-- The character that is escaped by a letter. -/
def escaped? : Char → Option Char
  | 'n' => some '\n'
  | 'r' => some '\r'
  | 't' => some '\t'
  | '\\' => some '\\'
  | '"' => some '"'
  | '\'' => some '\''
  | _ => none

/-- Where the reader of a literal is: between characters, behind a backslash, in the digits of a
byte, or in those of a character. -/
inductive LiteralState where
  | plain | escape
  | byte (high : Option Nat)
  | brace
  | scalar (value : Option Nat)

/-- What the rest of a literal stands for, from the state on that the reader is in. A byte outside
ASCII is no character of its own, and a line feed ends no literal. -/
def decodeFrom : LiteralState → List Char → Option (List Char)
  | _, [] => none
  | .plain, c :: cs =>
    if c == '"' then if cs.isEmpty then some [] else none
    else if c == '\\' then decodeFrom .escape cs
    else if c == '\n' then none
    else (decodeFrom .plain cs).map (c :: ·)
  | .escape, c :: cs =>
    if c == 'x' then decodeFrom (.byte none) cs
    else if c == 'u' then decodeFrom .brace cs
    else (escaped? c).bind fun d => (decodeFrom .plain cs).map (d :: ·)
  | .byte none, c :: cs => (hexValue? c).bind fun n => decodeFrom (.byte (some n)) cs
  | .byte (some high), c :: cs => (hexValue? c).bind fun n =>
    if 16 * high + n < 128 then
      (decodeFrom .plain cs).map (Char.ofNat (16 * high + n) :: ·)
    else none
  | .brace, c :: cs => if c == '\x7b' then decodeFrom (.scalar none) cs else none
  | .scalar value, c :: cs =>
    if c == '\x7d' then value.bind fun n =>
      if n.isValidChar then (decodeFrom .plain cs).map (Char.ofNat n :: ·) else none
    else (hexValue? c).bind fun n => decodeFrom (.scalar (some (16 * value.getD 0 + n))) cs

/-- The text that a literal stands for. -/
def decode? : List Char → Option (List Char)
  | c :: cs => if c == '"' then decodeFrom .plain cs else none
  | [] => none

/-! ## Digits -/

theorem hexValue?_digitChar : ∀ n < 16, hexValue? n.digitChar = some n := by decide

theorem digitChar_ne_brace : ∀ n < 16, (n.digitChar == '\x7d') = false := by decide

/-- Digits in braces add up to the number that they are the digits of. -/
theorem decodeFrom_toDigits (n : Nat) (value : Option Nat) (cs : List Char) :
    ∃ before, decodeFrom (.scalar value) (Nat.toDigits 16 n ++ cs) =
        decodeFrom (.scalar (some (before * value.getD 0 + n))) cs := by
  induction n using Nat.strongRecOn generalizing value cs with
  | _ n ih =>
    by_cases h : n < 16
    · refine ⟨16, ?_⟩
      rw [Nat.toDigits_of_lt_base h, List.singleton_append, decodeFrom,
        if_neg (by simp [digitChar_ne_brace n h]), hexValue?_digitChar n h, Option.bind_some]
    · obtain ⟨before, hbefore⟩ := ih (n / 16) (by omega) value ((n % 16).digitChar :: cs)
      have hlt : n % 16 < 16 := Nat.mod_lt _ (by omega)
      refine ⟨16 * before, ?_⟩
      rw [Nat.toDigits_of_base_le (by omega) (by omega), List.append_assoc, List.singleton_append,
        hbefore, decodeFrom, if_neg (by simp [digitChar_ne_brace _ hlt]),
        hexValue?_digitChar _ hlt, Option.bind_some, Option.getD_some]
      congr 3
      have := Nat.div_add_mod n 16
      grind

/-- A byte in ASCII is written with two digits. -/
theorem hexPadded_two : ∀ n < 128,
    Text.hexPadded 2 n = [(n / 16).digitChar, (n % 16).digitChar] := by decide

/-! ## Characters -/

/-- What a character is written as stands for it. -/
theorem decodeFrom_literalChar (c : Char) (cs : List Char) :
    decodeFrom .plain (literalChar c ++ cs) = (decodeFrom .plain cs).map (c :: ·) := by
  unfold literalChar
  split
  · next h => rw [beq_iff_eq.mp h]; rfl
  split
  · next h => rw [beq_iff_eq.mp h]; rfl
  split
  · next h => rw [beq_iff_eq.mp h]; rfl
  split
  · next h => rw [beq_iff_eq.mp h]; rfl
  split
  · next h => rw [beq_iff_eq.mp h]; rfl
  split
  · next h =>
    have hlt : c.toNat < 128 := by
      simp only [Bool.or_eq_true, decide_eq_true_eq, beq_iff_eq] at h
      omega
    have hsum : 16 * (c.toNat / 16) + c.toNat % 16 = c.toNat := Nat.div_add_mod _ _
    rw [hexPadded_two _ hlt]
    show (hexValue? _).bind (fun n => decodeFrom (.byte (some n)) _) = _
    rw [hexValue?_digitChar _ (by omega), Option.bind_some]
    show (hexValue? _).bind _ = _
    rw [hexValue?_digitChar _ (by omega), Option.bind_some, hsum, if_pos hlt, Char.ofNat_toNat]
    rfl
  split
  · obtain ⟨before, hdigits⟩ := decodeFrom_toDigits c.toNat none ('\x7d' :: cs)
    have hvalid : c.toNat.isValidChar := c.valid
    show decodeFrom (.scalar none) (Nat.toDigits 16 c.toNat ++ ['\x7d'] ++ cs) = _
    rw [List.append_assoc, List.singleton_append, hdigits]
    simp only [Option.getD_none, Nat.mul_zero, Nat.zero_add, decodeFrom, beq_self_eq_true, if_true,
      Option.bind_some, hvalid, Char.ofNat_toNat]
  · simp_all [decodeFrom]

/-- The literal of a text stands for it. -/
theorem decode?_literalChars (cs : List Char) : decode? (literalChars cs) = some cs := by
  have hrest : ∀ cs, decodeFrom .plain (cs.flatMap literalChar ++ ['"']) = some cs := by
    intro cs
    induction cs with
    | nil => rfl
    | cons c cs ih =>
      rw [List.flatMap_cons, List.append_assoc, decodeFrom_literalChar, ih]
      rfl
  exact hrest cs

/-- A literal stays on its line. -/
theorem not_mem_of_decodeFrom {cs : List Char} : ∀ {s : LiteralState} {ds : List Char},
    decodeFrom s cs = some ds → '\n' ∉ cs := by
  induction cs with
  | nil => exact fun _ => List.not_mem_nil
  | cons c cs ih =>
    intro s ds h
    have hne : c ≠ '\n' := by
      rintro rfl
      match s with
      | .plain | .escape | .byte none | .byte (some _) | .brace | .scalar _ => cases h
    suffices cs = [] ∨ ∃ s ds, decodeFrom s cs = some ds by
      rcases this with rfl | ⟨s, ds, hrest⟩
      · simpa using hne.symm
      · simpa [hne.symm] using ih hrest
    match s with
    | .plain | .escape | .byte none | .byte (some _) | .brace | .scalar _ =>
      simp only [decodeFrom] at h
      grind [Option.map_eq_some_iff, Option.bind_eq_some_iff, List.isEmpty_iff]

theorem not_mem_literalChars (cs : List Char) : '\n' ∉ literalChars cs := by
  have h := decode?_literalChars cs
  simp only [literalChars, List.cons_append, decode?, beq_self_eq_true, if_true] at h
  rw [literalChars, List.cons_append, List.mem_cons, not_or]
  exact ⟨by decide, not_mem_of_decodeFrom h⟩

end ZigDecl.Zig
