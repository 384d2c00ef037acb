import ZigDecl.Log
import ZigDecl.Proofs.Value.Members
import ZigDecl.Proofs.Value.Raw
import ZigDecl.Value.Printer
import ZigDecl.Value.Reader

/-! # JSON text that is read again

Main statement: a value is read back from the text it is written as, with or without an indentation.
Numbers that are not whole are left out, because their digits are those of the machine. -/

namespace ZigDecl.Value

section

variable {τ : Type}

/-- A value that a text can hold exactly: whole numbers of no more digits than are converted, no
other numbers, and members with keys of their own. -/
inductive IsExact : Value τ → Prop
  | null : IsExact .null
  | bool (b : Bool) : IsExact (.bool b)
  | int {n : Int} (h : (Nat.toDigits 10 n.natAbs).length ≤ maxDigits) : IsExact (.int n)
  | str (s : τ) : IsExact (.str s)
  | arr {items : List (Value τ)} (h : ∀ v ∈ items, IsExact v) : IsExact (.arr items)
  | obj {members : List (τ × Value τ)} (hkeys : (members.map (·.1)).Nodup)
      (h : ∀ m ∈ members, IsExact m.2) : IsExact (.obj members)

variable [TextLike τ]

/-- Keys of their own have code points of their own. -/
theorem nodup_rawMembers_iff {members : List (τ × Value τ)} :
    ((rawMembers members).map (·.1)).Nodup ↔ (members.map (·.1)).Nodup := by
  have hkeys : (rawMembers members).map (·.1) =
      (members.map (·.1)).map fun key => RawText.mk (TextLike.points key) := by
    simp [rawMembers_eq_map]
  rw [hkeys]
  exact List.nodup_map_iff fun _ _ heq => TextLike.points_injective (RawText.mk.inj heq)

mutual

/-- Whether a value is exact does not depend on what its texts are like. -/
theorem isExact_raw_iff : ∀ {v : Value τ}, v.raw.IsExact ↔ v.IsExact
  | .null => ⟨fun _ => .null, fun _ => .null⟩
  | .bool b => ⟨fun _ => .bool b, fun _ => .bool b⟩
  | .int _ => ⟨fun | .int h => .int h, fun | .int h => .int h⟩
  | .float _ => ⟨nofun, nofun⟩
  | .str s => ⟨fun _ => .str s, fun _ => .str _⟩
  | .arr items => ⟨fun | .arr h => .arr ((isExact_rawItems_iff items).mp h),
      fun | .arr h => .arr ((isExact_rawItems_iff items).mpr h)⟩
  | .obj members => ⟨
      fun | .obj hkeys h => .obj (nodup_rawMembers_iff.mp hkeys)
              ((isExact_rawMembers_iff members).mp h),
      fun | .obj hkeys h => .obj (nodup_rawMembers_iff.mpr hkeys)
              ((isExact_rawMembers_iff members).mpr h)⟩

theorem isExact_rawItems_iff : ∀ items : List (Value τ),
    (∀ r ∈ rawItems items, r.IsExact) ↔ ∀ v ∈ items, v.IsExact
  | [] => ⟨nofun, nofun⟩
  | v :: rest => by
    rw [rawItems, List.forall_mem_cons, List.forall_mem_cons, isExact_raw_iff,
      isExact_rawItems_iff rest]

theorem isExact_rawMembers_iff : ∀ members : List (τ × Value τ),
    (∀ m ∈ rawMembers members, m.2.IsExact) ↔ ∀ m ∈ members, m.2.IsExact
  | [] => ⟨nofun, nofun⟩
  | (k, v) :: rest => by
    rw [rawMembers, List.forall_mem_cons, List.forall_mem_cons, isExact_raw_iff,
      isExact_rawMembers_iff rest]

end

end

/-! ## Texts -/

theorem hex4?_hexPadded : ∀ n < 32, ∃ a b c d,
    Text.hexPadded 4 n = [a, b, c, d] ∧ hex4? a b c d = some n := by
  intro n hn
  refine ⟨'0', '0', (n / 16).digitChar, (n % 16).digitChar, ?_, ?_⟩ <;> revert n <;> decide

/-- A character is read from what it is written as. -/
theorem readText_jsonChar (c : Char) (cs : List Char) : readText none (jsonChar c ++ cs) = (do
    let (text, rest) ← readText none cs
    return (.char c :: text, rest)) := by
  rw [jsonChar]
  -- the escapes of one letter, that of four digits, and all other characters
  iterate 7
    split
    · next h => rw [beq_iff_eq.mp h]; rfl
  split
  · next hlow =>
    obtain ⟨a, b, c₁, d, hpadded, hhex⟩ := hex4?_hexPadded c.toNat hlow
    have hpair : (decide (0xD800 ≤ c.toNat) && decide (c.toNat < 0xDC00)) = false := by
      simp only [Bool.and_eq_false_iff, decide_eq_false_iff_not]
      omega
    have hlate : (decide (0xDC00 ≤ c.toNat) && decide (c.toNat < 0xE000)) = false := by
      simp only [Bool.and_eq_false_iff, decide_eq_false_iff_not]
      omega
    rw [hpadded]
    simp only [List.cons_append, List.nil_append, readText, hhex]
    simp [hpair, hlate, alone, Char.ofNat_toNat]
  · next hquote hback _ _ _ _ _ hlow =>
    rw [List.singleton_append, readText.eq_def]
    split
    · next heq => cases heq
    · next heq => simp [(List.cons.inj heq).1] at hquote
    · next heq => simp [(List.cons.inj heq).1] at hback
    · next heq => simp [(List.cons.inj heq).1] at hback
    · next heq =>
      obtain ⟨rfl, rfl⟩ := List.cons.inj heq
      simp [hlow, hback, alone]

theorem readText_jsonChars (cs rest : List Char) :
    readText none (cs.flatMap jsonChar ++ '"' :: rest) = .ok (cs.map .char, rest) := by
  induction cs with
  | nil => rfl
  | cons c cs ih =>
    rw [List.flatMap_cons, List.append_assoc, readText_jsonChar, ih]
    rfl

theorem toList_jsonText_append (s : String) (rest : List Char) :
    (jsonText s).toList ++ rest = '"' :: (s.toList.flatMap jsonChar ++ '"' :: rest) := by
  simp [jsonText]

/-! ## Numbers -/

/-- Nothing but a number starts with a digit. -/
theorem readValue_digit {d : Char} (hd : d.isDigit = true) (fuel : Nat) (cs : List Char) :
    readValue (fuel + 1) (d :: cs) = readNumber false (d :: cs) := by
  rw [readValue]
  all_goals
    rintro tail ⟨⟩
    cases hd

theorem readValue_minus {d : Char} (hd : d.isDigit = true) (fuel : Nat) (cs : List Char) :
    readValue (fuel + 1) ('-' :: d :: cs) = readNumber true (d :: cs) := by
  rw [readValue]
  rintro tail ⟨⟩
  cases hd

/-- Whether a number has come to its end: what follows it does not go on with it. -/
def Ends (cs : List Char) : Prop :=
  ∀ c ∈ cs.head?, c.isDigit = false ∧ c ≠ '.' ∧ c ≠ 'e' ∧ c ≠ 'E'

theorem readDigits_append {ds rest : List Char} (hds : ∀ d ∈ ds, d.isDigit = true)
    (hrest : Ends rest) : readDigits (ds ++ rest) = (ds, rest) := by
  have hnone : rest.takeWhile Char.isDigit = [] ∧ rest.dropWhile Char.isDigit = rest := by
    cases rest with
    | nil => exact ⟨rfl, rfl⟩
    | cons c rest => simp [(hrest c rfl).1]
  rw [readDigits, List.takeWhile_append_of_pos hds, List.dropWhile_append_of_pos hds, hnone.1,
    hnone.2, List.append_nil]

theorem readFraction_of_ends {cs : List Char} (h : Ends cs) : readFraction cs = (none, cs) := by
  rw [readFraction.eq_def]
  split
  · exact absurd rfl (h '.' rfl).2.1
  · rfl

theorem readPower_of_ends {cs : List Char} (h : Ends cs) : readPower cs = (none, cs) := by
  rw [readPower.eq_def]
  split
  · next e rest =>
    obtain ⟨_, _, hlower, hupper⟩ := h e rfl
    rw [if_neg (by simp [hlower, hupper])]
  · rfl

theorem isDigit_of_mem_toDigits {n : Nat} {d : Char} (hd : d ∈ Nat.toDigits 10 n) :
    d.isDigit = true := Nat.isDigit_of_mem_toDigits (by decide) (by decide) hd

theorem exists_toDigits_eq_cons (n : Nat) :
    ∃ d ds, Nat.toDigits 10 n = d :: ds ∧ d.isDigit = true := by
  obtain ⟨d, ds, h⟩ := List.exists_cons_of_ne_nil (Nat.toDigits_ne_nil (b := 10) (n := n))
  exact ⟨d, ds, h, isDigit_of_mem_toDigits (h ▸ List.mem_cons_self)⟩

theorem ofDigits_toDigits (n : Nat) : ofDigits (Nat.toDigits 10 n) = n := by
  have hfold : ∀ (ds : List Char) (k : Nat),
      ds.foldl (fun n c => n * 10 + (c.toNat - 48)) k = Nat.ofDigitChars 10 ds k := by
    intro ds k
    rw [Nat.ofDigitChars_eq_foldl]
    simp only [Nat.mul_comm 10]
    rfl
  rw [ofDigits, hfold, Nat.ofDigitChars_toDigits (by decide) (by decide)]

theorem head?_toDigits {n : Nat} (hn : n ≠ 0) : (Nat.toDigits 10 n).head? ≠ some '0' := by
  induction n using Nat.strongRecOn with
  | ind n ih =>
    by_cases hlt : n < 10
    · rw [Nat.toDigits_of_lt_base hlt]
      have hchar : ∀ k < 10, k ≠ 0 → [Nat.digitChar k].head? ≠ some '0' := by decide
      exact hchar n hlt hn
    · rw [Nat.toDigits_of_base_le (by decide) (by omega),
        List.head?_append_of_ne_nil _ Nat.toDigits_ne_nil]
      exact ih (n / 10) (by omega) (by omega)

/-- The digits of a number are read as that number. -/
theorem readNumber_toDigits (negative : Bool) {n : Nat} {rest : List Char}
    (hlen : (Nat.toDigits 10 n).length ≤ maxDigits) (hrest : Ends rest) :
    readNumber negative (Nat.toDigits 10 n ++ rest) =
      .ok (.int (if negative then -(n : Int) else n), rest) := by
  have hread := readDigits_append (fun _ => isDigit_of_mem_toDigits (n := n)) hrest
  have hvalue := ofDigits_toDigits n
  have hhead := head?_toDigits (n := n)
  obtain ⟨d, ds, hds, _⟩ := exists_toDigits_eq_cons n
  rw [hds] at hread hvalue hhead hlen ⊢
  by_cases hd : d = '0'
  · obtain rfl : n = 0 := by
      by_contra hn
      exact hhead hn (congrArg some hd)
    cases (show Nat.toDigits 10 0 = ['0'] from rfl).symm.trans hds
    simp only [List.cons_append, List.nil_append, readNumber, pure_bind,
      readFraction_of_ends hrest, readPower_of_ends hrest, Option.isNone_none, Bool.and_self,
      if_true, if_neg (Nat.not_lt.mpr hlen), hvalue]
    rfl
  · rw [readNumber]
    · simp only [hread, pure_bind, readFraction_of_ends hrest, readPower_of_ends hrest,
        Option.isNone_none, Bool.and_self, if_true, if_neg (Nat.not_lt.mpr hlen), hvalue]
      rfl
    · exact fun _ heq => hd (List.cons.inj heq).1

/-! ## Lists and objects -/

/-- Characters that are skipped between values. -/
def Blank (cs : List Char) : Prop := ∀ c ∈ cs, isSpace c = true

theorem Blank.skip {cs : List Char} (h : Blank cs) (rest : List Char) :
    skipSpaces (cs ++ rest) = skipSpaces rest := List.dropWhile_append_of_pos h

theorem blank_line (width : Nat) : Blank ('\n' :: List.replicate width ' ') := by
  intro c hc
  rcases List.mem_cons.mp hc with rfl | hc
  · rfl
  · rw [(List.mem_replicate.mp hc).2]
    rfl

/-- Pieces one after the other, with a comma and a gap in front of each. -/
def listed (gap : List Char) (pieces : List String) : List Char :=
  pieces.flatMap fun p => ',' :: (gap ++ p.toList)

theorem toList_intercalate_cons (gap : String) (p : String) (pieces : List String) :
    (("," ++ gap).intercalate (p :: pieces)).toList = p.toList ++ listed gap.toList pieces := by
  induction pieces generalizing p with
  | nil => simp [listed]
  | cons q pieces ih =>
    rw [String.intercalate_cons_cons, String.toList_append, String.toList_append, ih]
    simp [listed]

/-- Brackets around pieces: blanks before the first one and after the last one, and a comma and
blanks between them. -/
theorem exists_toList_enclose (indent : Option Nat) (depth : Nat) :
    ∃ opening gap closing, Blank opening ∧ Blank gap ∧ Blank closing ∧
      ∀ (left right : Char) (p : String) (pieces : List String) (rest : List Char),
        (enclose indent depth left.toString right.toString (p :: pieces)).toList ++ rest =
          left :: (opening ++ (p.toList ++ (listed gap pieces ++ (closing ++ right :: rest)))) := by
  cases indent with
  | none =>
    refine ⟨[], [' '], [], ?_, ?_, ?_, fun left right p pieces rest => ?_⟩
    · simp [Blank]
    · simp [Blank, isSpace]
    · simp [Blank]
    · have hcomma : ", " = "," ++ " " := rfl
      simp only [enclose, hcomma, String.toList_append, toList_intercalate_cons]
      simp
  | some step =>
    refine ⟨_, _, _, blank_line ((depth + 1) * step), blank_line ((depth + 1) * step),
      blank_line (depth * step), fun left right p pieces rest => ?_⟩
    simp only [enclose, String.toList_append, toList_intercalate_cons, String.toList_ofList]
    simp

/-- What is inside of brackets is shorter than the whole by both of them. -/
theorem length_inside {text opening first more closing : List Char} {left right : Char}
    (h : text ++ [] = left :: (opening ++ (first ++ (more ++ (closing ++ [right]))))) :
    (first ++ more).length + 1 < text.length := by
  have hlength := congrArg List.length h
  simp only [List.length_append, List.length_cons, List.length_nil] at hlength ⊢
  omega

theorem ends_cons {c : Char} (hc : c = ',' ∨ c = ']' ∨ c = '\x7d' ∨ isSpace c = true)
    (cs : List Char) : Ends (c :: cs) := by
  rintro _ ⟨⟩
  rcases hc with rfl | rfl | rfl | hc
  · decide
  · decide
  · decide
  · simp only [isSpace, Bool.or_eq_true, beq_iff_eq, or_assoc] at hc
    rcases hc with rfl | rfl | rfl | rfl <;> decide

theorem Blank.ends {cs : List Char} (h : Blank cs) {rest : List Char} (hrest : Ends rest) :
    Ends (cs ++ rest) := by
  cases cs with
  | nil => exact hrest
  | cons c cs => exact ends_cons (.inr (.inr (.inr (h c (by simp))))) _

/-- After an item comes the next one or the end of the list. -/
theorem ends_listed (gap : List Char) (pieces : List String) {rest : List Char}
    (hrest : Ends rest) : Ends (listed gap pieces ++ rest) := by
  cases pieces with
  | nil => exact hrest
  | cons p pieces => exact ends_cons (.inl rfl) _

theorem listed_cons_append (gap : List Char) (p : String) (pieces : List String)
    (rest : List Char) : listed gap (p :: pieces) ++ rest =
      ',' :: (gap ++ (p.toList ++ (listed gap pieces ++ rest))) := by
  simp [listed]

/-- Whether a text starts with neither a blank nor the end of a list. -/
def Starts (cs : List Char) : Prop := ∃ c rest, cs = c :: rest ∧ isSpace c = false ∧ c ≠ ']'

theorem Starts.skip {cs : List Char} (h : Starts cs) (rest : List Char) :
    skipSpaces (cs ++ rest) = cs ++ rest := by
  obtain ⟨c, cs, rfl, hc, _⟩ := h
  exact List.dropWhile_cons_of_neg (by simp [hc])

theorem toList_toString (n : Int) : (toString n).toList =
    (if n < 0 then ['-'] else []) ++ Nat.toDigits 10 n.natAbs := by
  cases n with
  | ofNat n =>
    rw [if_neg (by simp)]
    exact (congrArg String.toList Nat.toString_eq_ofList_toDigits).trans String.toList_ofList
  | negSucc n =>
    rw [if_pos (Int.negSucc_lt_zero n)]
    show ("-" ++ toString (n + 1)).toList = _
    rw [String.toList_append, Nat.toString_eq_ofList_toDigits, Int.natAbs_negSucc]
    exact congrArg (['-'] ++ ·) String.toList_ofList

theorem starts_toDigits (n : Nat) : Starts (Nat.toDigits 10 n) := by
  obtain ⟨d, ds, hds, hd⟩ := exists_toDigits_eq_cons n
  refine ⟨d, ds, hds, ?_, ?_⟩
  · by_contra hspace
    simp only [isSpace, Bool.not_eq_false, Bool.or_eq_true, beq_iff_eq, or_assoc] at hspace
    rcases hspace with rfl | rfl | rfl | rfl <;> cases hd
  · rintro rfl
    cases hd

theorem starts_enclose (indent : Option Nat) (depth : Nat) (left right : Char)
    (h : isSpace left = false ∧ left ≠ ']') (pieces : List String) :
    Starts (enclose indent depth left.toString right.toString pieces).toList := by
  cases pieces with
  | nil => exact ⟨left, [right], by simp [enclose], h⟩
  | cons p pieces =>
    obtain ⟨_, _, _, _, _, _, htext⟩ := exists_toList_enclose indent depth
    have htext := htext left right p pieces []
    rw [List.append_nil] at htext
    exact ⟨left, _, htext, h⟩

/-- What a value is written as starts with neither a blank nor the end of a list. -/
theorem IsExact.starts {v : Value} (h : v.IsExact) (indent : Option Nat) (depth : Nat) :
    Starts (toJsonAt indent depth v).toList := by
  cases h with
  | null => exact ⟨'n', ['u', 'l', 'l'], by simp [toJsonAt], rfl, by decide⟩
  | bool b =>
    cases b
    · exact ⟨'f', ['a', 'l', 's', 'e'], by simp [toJsonAt], rfl, by decide⟩
    · exact ⟨'t', ['r', 'u', 'e'], by simp [toJsonAt], rfl, by decide⟩
  | @int n h =>
    rw [toJsonAt, toList_toString]
    by_cases hn : n < 0
    · rw [if_pos hn]
      exact ⟨'-', _, rfl, rfl, by decide⟩
    · rw [if_neg hn]
      exact starts_toDigits _
  | str s =>
    have htext := toList_jsonText_append s []
    rw [List.append_nil] at htext
    rw [toJsonAt, htext]
    exact ⟨'"', _, rfl, rfl, by decide⟩
  | @arr items h =>
    rw [toJsonAt]
    exact starts_enclose indent depth '[' ']' (by decide) _
  | @obj members hkeys h =>
    rw [toJsonAt]
    exact starts_enclose indent depth '\x7b' '\x7d' (by decide) _

/-- Whether a value is read from what it is written as, however the text goes on. The reader takes
no more steps than there are characters. -/
def Reads (indent : Option Nat) (depth : Nat) (v : Value) : Prop :=
  ∀ (fuel : Nat) (rest : List Char), (toJsonAt indent depth v).toList.length ≤ fuel → Ends rest →
    readValue fuel ((toJsonAt indent depth v).toList ++ rest) = .ok (v.raw, rest)

section Lists

variable {indent : Option Nat} {depth : Nat} {gap closing : List Char} (hgap : Blank gap)
  (hclosing : Blank closing)
include hgap hclosing

/-- Items that are read one by one are read as a list. -/
theorem readItems_listed {v : Value} {items : List Value}
    (h : ∀ w ∈ v :: items, w.IsExact ∧ Reads indent depth w) {fuel : Nat} (rest : List Char)
    (hfuel : ((toJsonAt indent depth v).toList ++
      listed gap (jsonItems indent depth items)).length < fuel) :
    readItems fuel ((toJsonAt indent depth v).toList ++
      (listed gap (jsonItems indent depth items) ++ (closing ++ ']' :: rest))) =
        .ok (rawItems (v :: items), rest) := by
  induction items generalizing v fuel with
  | nil =>
    obtain _ | fuel := fuel
    · omega
    rw [List.length_append] at hfuel
    rw [readItems, (h v (by simp)).2 fuel _ (by omega)
      (ends_listed _ _ (hclosing.ends (ends_cons (by simp) rest))), ok_bind]
    simp only [jsonItems, listed, List.flatMap_nil, List.nil_append, hclosing.skip]
    rfl
  | cons w items ih =>
    obtain _ | fuel := fuel
    · omega
    have hw := h w (by simp)
    rw [jsonItems, List.length_append, ← List.append_nil (listed _ _), listed_cons_append] at hfuel
    simp only [List.length_cons, List.length_append, List.append_nil] at hfuel
    rw [readItems, (h v (by simp)).2 fuel _ (by omega)
      (ends_listed _ _ (hclosing.ends (ends_cons (by simp) rest))), ok_bind, jsonItems,
      listed_cons_append]
    show (readItems fuel (skipSpaces (gap ++ _))).bind _ = _
    rw [hgap.skip, (hw.1.starts indent depth).skip,
      ih (fun x hx => h x (List.mem_cons_of_mem v hx)) (by rw [List.length_append]; omega)]
    rfl

omit hgap hclosing in
/-- What a member is written as, in front of something else. -/
theorem toList_member_append (key : String) (v : Value) (rest : List Char) :
    (jsonText key ++ ": " ++ toJsonAt indent depth v).toList ++ rest =
      '"' :: (key.toList.flatMap jsonChar ++
        '"' :: ':' :: ' ' :: ((toJsonAt indent depth v).toList ++ rest)) := by
  rw [String.toList_append, String.toList_append, List.append_assoc, List.append_assoc,
    toList_jsonText_append]
  simp

omit hgap hclosing in
/-- The first member is read, and then what follows it is looked at. -/
theorem readMembers_member {m : String × Value} (hstarts : m.2.IsExact)
    (hreads : Reads indent depth m.2) {fuel : Nat} {rest : List Char}
    (hfuel : (toJsonAt indent depth m.2).toList.length ≤ fuel) (hrest : Ends rest) :
    readMembers (fuel + 1)
      ((jsonText m.1 ++ ": " ++ toJsonAt indent depth m.2).toList ++ rest) =
        match skipSpaces rest with
        | '\x7d' :: rest => .ok (rawMembers [m], rest)
        | ',' :: rest => do
          let (members, rest) ← readMembers fuel (skipSpaces rest)
          return (rawMembers [m] ++ members, rest)
        | _ => .error .malformed := by
  have hspace : ∀ cs, skipSpaces (' ' :: cs) = skipSpaces cs := fun _ => rfl
  have hcolon : ∀ cs, skipSpaces (':' :: cs) = ':' :: cs := fun _ => rfl
  rw [toList_member_append, readMembers]
  simp only [readText_jsonChars, ok_bind, hcolon, hspace, (hstarts.starts indent depth).skip,
    hreads fuel rest hfuel hrest]
  rfl

/-- Members whose values are read one by one are read as an object. -/
theorem readMembers_listed {m : String × Value} {members : List (String × Value)}
    (h : ∀ w ∈ m :: members, w.2.IsExact ∧ Reads indent depth w.2) {fuel : Nat} (rest : List Char)
    (hfuel : ((jsonText m.1 ++ ": " ++ toJsonAt indent depth m.2).toList ++
      listed gap (jsonMembers indent depth members)).length < fuel) :
    readMembers fuel ((jsonText m.1 ++ ": " ++ toJsonAt indent depth m.2).toList ++
      (listed gap (jsonMembers indent depth members) ++ (closing ++ '\x7d' :: rest))) =
        .ok (rawMembers (m :: members), rest) := by
  induction members generalizing m fuel with
  | nil =>
    obtain _ | fuel := fuel
    · omega
    have hm := h m (by simp)
    rw [String.toList_append, List.length_append, List.length_append] at hfuel
    rw [readMembers_member hm.1 hm.2 (by omega)
      (ends_listed _ _ (hclosing.ends (ends_cons (by simp) rest)))]
    simp only [jsonMembers, listed, List.flatMap_nil, List.nil_append, hclosing.skip]
    rfl
  | cons w members ih =>
    obtain _ | fuel := fuel
    · omega
    have hm := h m (by simp)
    rw [jsonMembers, String.toList_append, ← List.append_nil (listed _ _), listed_cons_append]
      at hfuel
    simp only [List.length_cons, List.length_append, List.append_nil] at hfuel
    have hlength : ((jsonText w.1 ++ ": " ++ toJsonAt indent depth w.2).toList ++
        listed gap (jsonMembers indent depth members)).length < fuel := by
      rw [List.length_append]
      omega
    have hrest := ih (fun x hx => h x (List.mem_cons_of_mem m hx)) hlength
    rw [readMembers_member hm.1 hm.2 (by omega)
      (ends_listed _ _ (hclosing.ends (ends_cons (by simp) rest))), jsonMembers,
      listed_cons_append]
    show (readMembers fuel (skipSpaces (gap ++ _))).bind _ = _
    rw [hgap.skip, toList_member_append]
    show (readMembers fuel ('"' :: _)).bind _ = _
    rw [← toList_member_append, hrest]
    rfl

end Lists

/-! ## Values -/

theorem expect_append (word : String) (rest : List Char) :
    expect word (word.toList ++ rest) = .ok rest := by
  rw [expect, if_pos (List.isPrefixOf_iff_prefix.mpr (List.prefix_append _ _)),
    ← String.length_toList, List.drop_left]

theorem reads_int {n : Int} (h : (Nat.toDigits 10 n.natAbs).length ≤ maxDigits)
    (indent : Option Nat) (depth : Nat) : Reads indent depth (.int n) := by
  intro fuel rest hfuel hrest
  have hvalue := fun negative => readNumber_toDigits negative h hrest
  obtain ⟨d, ds, hds, hd⟩ := exists_toDigits_eq_cons n.natAbs
  rw [toJsonAt, toList_toString, hds] at hfuel ⊢
  rw [hds] at hvalue
  obtain _ | fuel := fuel
  · simp at hfuel
  by_cases hn : n < 0
  · rw [if_pos hn]
    show readValue (fuel + 1) ('-' :: d :: (ds ++ rest)) = _
    rw [readValue_minus hd]
    refine (hvalue true).trans ?_
    rw [if_pos rfl, show -(n.natAbs : Int) = n by omega, raw]
  · rw [if_neg hn]
    show readValue (fuel + 1) (d :: (ds ++ rest)) = _
    rw [readValue_digit hd]
    refine (hvalue false).trans ?_
    rw [if_neg Bool.false_ne_true, show (n.natAbs : Int) = n by omega, raw]

/-- A list that does not end at once is read item by item. -/
theorem readValue_items {opening cs : List Char} (hopening : Blank opening) (hcs : Starts cs)
    (fuel : Nat) (rest : List Char) :
    readValue (fuel + 1) ('[' :: (opening ++ (cs ++ rest))) = (do
      let (items, rest) ← readItems fuel (cs ++ rest)
      return (.arr items, rest)) := by
  rw [readValue, hopening.skip, hcs.skip]
  obtain ⟨c, cs, rfl, _, hc⟩ := hcs
  split
  · next heq => exact absurd (List.cons.inj heq).1 hc
  · rfl

theorem readValue_members {opening : List Char} (hopening : Blank opening) (fuel : Nat)
    (cs : List Char) : readValue (fuel + 1) ('\x7b' :: (opening ++ '"' :: cs)) = (do
      let (members, rest) ← readMembers fuel ('"' :: cs)
      return (.obj (putAll members []), rest)) := by
  rw [readValue, hopening.skip]
  rfl

section Nested

variable {indent : Option Nat} {depth : Nat}

/-- A list of values that are read is read. -/
theorem reads_arr {items : List Value}
    (h : ∀ v ∈ items, v.IsExact ∧ Reads indent (depth + 1) v) :
    Reads indent depth (.arr items) := by
  intro fuel rest hfuel _
  rw [toJsonAt] at hfuel ⊢
  cases items with
  | nil =>
    obtain _ | fuel := fuel
    · simp [jsonItems, enclose] at hfuel
    · simp [jsonItems, enclose, readValue, skipSpaces, isSpace, raw, rawItems]
  | cons v items =>
    obtain ⟨opening, gap, closing, hopening, hgap, hclosing, htext⟩ :=
      exists_toList_enclose indent depth
    have htext := htext '[' ']' (toJsonAt indent (depth + 1) v) (jsonItems indent (depth + 1) items)
    have hlength := Nat.lt_of_lt_of_le (length_inside (htext [])) hfuel
    obtain _ | fuel := fuel
    · omega
    refine (congrArg _ (htext rest)).trans ?_
    rw [readValue_items hopening ((h v (by simp)).1.starts indent (depth + 1)),
      readItems_listed hgap hclosing h rest (by omega)]
    rfl

/-- An object whose values are read is read, if its keys are its own. -/
theorem reads_obj {members : List (String × Value)} (hkeys : (members.map (·.1)).Nodup)
    (h : ∀ m ∈ members, m.2.IsExact ∧ Reads indent (depth + 1) m.2) :
    Reads indent depth (.obj members) := by
  intro fuel rest hfuel _
  rw [toJsonAt] at hfuel ⊢
  cases members with
  | nil =>
    obtain _ | fuel := fuel
    · simp [jsonMembers, enclose] at hfuel
    · simp [jsonMembers, enclose, readValue, skipSpaces, isSpace, raw, rawMembers]
  | cons m members =>
    obtain ⟨opening, gap, closing, hopening, hgap, hclosing, htext⟩ :=
      exists_toList_enclose indent depth
    have htext := htext '\x7b' '\x7d' (jsonText m.1 ++ ": " ++ toJsonAt indent (depth + 1) m.2)
      (jsonMembers indent (depth + 1) members)
    have hlength := Nat.lt_of_lt_of_le (length_inside (htext [])) hfuel
    obtain _ | fuel := fuel
    · omega
    refine (congrArg _ (htext rest)).trans ?_
    rw [toList_member_append, readValue_members hopening, ← toList_member_append,
      readMembers_listed hgap hclosing h rest (by omega)]
    show Except.ok (Value.obj (putAll (rawMembers (m :: members)) []), rest) = _
    rw [putAll_of_new (nodup_rawMembers_iff.mpr hkeys)]
    rfl

end Nested

theorem IsExact.reads {v : Value} (h : v.IsExact) (indent : Option Nat) (depth : Nat) :
    Reads indent depth v := by
  induction h generalizing depth with
  | null =>
    intro fuel rest hfuel _
    have hword : expect "null" ('n' :: 'u' :: 'l' :: 'l' :: rest) = .ok rest := by
      simpa using expect_append "null" rest
    obtain _ | fuel := fuel
    · simp [toJsonAt] at hfuel
    · simp [toJsonAt, readValue, hword, raw]
  | bool b =>
    intro fuel rest hfuel _
    have htrue : expect "true" ('t' :: 'r' :: 'u' :: 'e' :: rest) = .ok rest := by
      simpa using expect_append "true" rest
    have hfalse : expect "false" ('f' :: 'a' :: 'l' :: 's' :: 'e' :: rest) = .ok rest := by
      simpa using expect_append "false" rest
    obtain _ | fuel := fuel
    · cases b <;> simp [toJsonAt] at hfuel
    · cases b <;> simp [toJsonAt, readValue, htrue, hfalse, raw]
  | int h => exact reads_int h indent depth
  | str s =>
    intro fuel rest hfuel _
    rw [toJsonAt, ← List.append_nil (jsonText s).toList, toList_jsonText_append] at hfuel
    obtain _ | fuel := fuel
    · cases hfuel
    · rw [toJsonAt, toList_jsonText_append, readValue, readText_jsonChars]
      rfl
  | arr h ih => exact reads_arr fun v hv => ⟨h v hv, ih v hv (depth + 1)⟩
  | obj hkeys h ih => exact reads_obj hkeys fun m hm => ⟨h m hm, ih m hm (depth + 1)⟩

/-- A value is read back from the text it is written as. -/
theorem ofJson_toJson {v : Value} (h : v.IsExact) (indent : Option Nat) :
    ofJson (toJson indent v) = .ok v.raw := by
  have hskip := (h.starts indent 0).skip []
  have hread := h.reads indent 0 (2 * (toJsonAt indent 0 v).toList.length + 2) [] (by omega)
    (fun c hc => by cases hc)
  rw [List.append_nil] at hskip hread
  simp only [ofJson, toJson, hskip, hread, ok_bind]
  rfl

end ZigDecl.Value
