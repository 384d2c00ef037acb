import ZigDecl.Proofs.Output.Blocks

/-! # Line endings

A finished text is made of lines that hold no line feed. Main statement: the text with carriage
returns in its line endings is the other one with a carriage return put in front of every line feed,
whatever carriage returns are on the lines. -/

namespace ZigDecl

open Text (Clean ended splitLines stripLineFeeds)

namespace Output

/-- A character with a carriage return in front of it if it is a line feed. -/
def withReturn (c : Char) : List Char := if c = '\n' then ['\r', '\n'] else [c]

/-- A text with a carriage return in front of every line feed. -/
def toCrlf (s : String) : String := String.ofList (s.toList.flatMap withReturn)

theorem toList_toCrlf (s : String) : (toCrlf s).toList = s.toList.flatMap withReturn :=
  String.toList_ofList

theorem toCrlf_append (s t : String) : toCrlf (s ++ t) = toCrlf s ++ toCrlf t := by
  rw [← String.toList_inj]
  simp [toList_toCrlf]

theorem toCrlf_join (texts : List String) :
    toCrlf (String.join texts) = String.join (texts.map toCrlf) := by
  induction texts with
  | nil => rfl
  | cons text texts ih => rw [String.join_cons, toCrlf_append, ih, List.map_cons, String.join_cons]

theorem flatMap_withReturn {l : List Char} (h : '\n' ∉ l) : l.flatMap withReturn = l := by
  have hsame : ∀ c ∈ l, withReturn c = [c] := fun c hc => if_neg (by rintro rfl; exact h hc)
  rw [List.flatMap_congr hsame, List.flatMap_singleton']

theorem flatMap_ended {ls : List (List Char)} (h : Clean ls) :
    (ended ['\n'] ls).flatMap withReturn = ended ['\r', '\n'] ls := by
  induction ls with
  | nil => rfl
  | cons l ls ih =>
    rw [Text.ended_cons, Text.ended_cons, List.flatMap_append, List.flatMap_append,
      flatMap_withReturn (h l (by simp)), ih h.tail]
    rfl

theorem toCrlf_tidyText {ls : List (List Char)} (h : Clean ls) :
    toCrlf (tidyText "\n" ls) = tidyText "\r\n" ls := by
  have hlf : (tidyText "\n" ls).toList = ended ['\n'] (tidyLines false ls) := String.toList_ofList
  rw [toCrlf, hlf, flatMap_ended (clean_tidyLines h false)]
  rfl

theorem toCrlf_block (text : String) : toCrlf (block "\n" text) = block "\r\n" text :=
  toCrlf_tidyText (Buffer.clean_splitLines (stripLineFeeds text))

theorem toCrlf_spaced (first : String) (blocks : List String) :
    toCrlf (spaced "\n" first blocks) = spaced "\r\n" (toCrlf first) (blocks.map toCrlf) := by
  have hblock : ∀ b : String, toCrlf ("\n" ++ b) = "\r\n" ++ toCrlf b := toCrlf_append "\n"
  rw [spaced, toCrlf_append, toCrlf_join, spaced, List.map_map, List.map_map]
  exact congrArg (toCrlf first ++ String.join ·) (List.map_congr_left fun b _ => hblock b)

/-- A file with a carriage return in front of every line feed. -/
def File.toCrlf (file : File) : File := { file with text := Output.toCrlf file.text }

end Output

end ZigDecl
