import ZigDecl.Log
import ZigDecl.Proofs.Config.Loading
import ZigDecl.Proofs.Value.Json
import ZigDecl.Proofs.Value.Members

/-! # The last word on a setting

The defaults of a language, a file and overrides are put over each other. Main statement: a generic
field has the value of the last layer that has its name at the top level, and a custom setting that
of the last layer that mentions it, be it under `custom` or under a key of its own; and these
settings are refused just if they are not valid. -/

namespace ZigDecl.Config

open Value (last?)
open TextLike (lit)

variable {τ : Type} [DecidableEq τ] [TextLike τ]

/-! ## What the layers are -/

/-- The defaults of a language. -/
def baseOf (defaults : Defaults τ) (language : String) : Except Fault (List (τ × Value τ)) :=
  layerOf ((Value.lookup (lit (Text.lower language)) defaults).getD (.obj []))

/-- What is read for a file; a value that does not count as true stands for no file. -/
def layerOfFile (d : Directory) : Value → Option (Except ConfigError (List (τ × Value τ)))
  | .str name => if name == "" then none else some (readFile d name)
  | v => if v.isTruthy then some (.error (.fault .wrongType)) else none

/-- The settings of a file, none if there is no file. -/
def settingsOf (d : Directory) (file : Value) : Except ConfigError (List (τ × Value τ)) :=
  (layerOfFile d file).getD (.ok [])

/-- The overriding settings; a value that does not count as true stands for none. -/
def overridesOf (v : Value τ) : Except Fault (List (τ × Value τ)) :=
  if v.isTruthy then layerOf v else .ok []

theorem overridesOf_obj (overrides : List (τ × Value τ)) :
    overridesOf (.obj overrides) = .ok overrides := by
  cases overrides <;> rfl

/-- The custom settings that a setting stands for: itself, if it is under a key of its own, and the
members of an object under `custom`. -/
def writesOf (s : τ × Value τ) : List (τ × Value τ) :=
  if s.1 = lit "custom" then
    match s.2 with
    | .obj members => members
    | _ => []
  else if s.1 ∈ fieldNames then [] else [s]

/-- The custom settings of a layer, in the order in which they are made. -/
def customWrites (layer : List (τ × Value τ)) : List (τ × Value τ) := layer.flatMap writesOf

theorem writesOf_custom (members : List (τ × Value τ)) :
    writesOf (lit "custom", .obj members) = members := by
  simp [writesOf]

theorem customWrites_append (layer more : List (τ × Value τ)) :
    customWrites (layer ++ more) = customWrites layer ++ customWrites more := List.flatMap_append

/-! ## Putting settings over each other -/

/-- Settings hold what was put over each other so far: under the name of a field the last value that
was given for it, and under `custom` what was made of the custom settings one after the other. -/
structure Tracks (done settings : List (τ × Value τ)) : Prop where
  fields : ∀ key ∈ fieldNames, key ≠ lit "custom" → Value.lookup key settings = last? key done
  custom : Value.lookup (lit "custom") settings = some (.obj (Value.putAll (customWrites done) []))

theorem tracks_noSettings : Tracks ([] : List (τ × Value τ)) noSettings where
  fields key _ hkey := by simp [noSettings, Value.lookup, Ne.symm hkey, last?]
  custom := by simp [noSettings, Value.lookup, customWrites, Value.putAll]

variable {done settings : List (τ × Value τ)}

/-- Custom settings that are made by one more setting. -/
theorem Tracks.putCustom (h : Tracks done settings) {s : τ × Value τ}
    (hs : s.1 = lit "custom" ∨ s.1 ∉ fieldNames) :
    Tracks (done ++ [s]) (Value.put (lit "custom")
      (.obj (Value.putAll (writesOf s) (Value.putAll (customWrites done) []))) settings) where
  fields key hfield hkey := by
    have hne : s.1 ≠ key := by
      rintro rfl
      exact hs.elim hkey (absurd hfield)
    rw [Value.lookup_put_ne hkey, h.fields key hfield hkey, Value.last?_append,
      Value.last?_singleton, if_neg hne]
    rfl
  custom := by
    rw [Value.lookup_put_self, customWrites_append, Value.putAll_append, customWrites, customWrites,
      List.flatMap_singleton]

/-- A generic field is set. -/
theorem Tracks.putField (h : Tracks done settings) {key : τ} (hfield : key ∈ fieldNames)
    (hkey : key ≠ lit "custom") (value : Value τ) :
    Tracks (done ++ [(key, value)]) (Value.put key value settings) where
  fields other hother hne := by
    rw [Value.last?_append, Value.last?_singleton]
    by_cases heq : key = other
    · rw [if_pos heq, ← heq, Value.lookup_put_self]
      rfl
    · rw [if_neg heq, Value.lookup_put_ne (Ne.symm heq), h.fields other hother hne]
      rfl
  custom := by
    have hnone : customWrites [(key, value)] = [] := by simp [customWrites, writesOf, hkey, hfield]
    rw [Value.lookup_put_ne (Ne.symm hkey), h.custom, customWrites_append, hnone, List.append_nil]

/-- One setting, as long as it leaves an object for the custom settings. -/
theorem Tracks.step (h : Tracks done settings) {s : τ × Value τ} (hs : displaces s = false) :
    ∃ changed, applySetting settings s.1 s.2 = .ok changed ∧ Tracks (done ++ [s]) changed := by
  obtain ⟨key, value⟩ := s
  by_cases hkey : key = lit "custom"
  · subst hkey
    cases value with
    | obj members =>
      refine ⟨_, ?_, h.putCustom (.inl rfl)⟩
      rw [applySetting_merge, h.custom, writesOf_custom]
      rfl
    | _ =>
      rw [displaces_custom] at hs
      cases hs
  · by_cases hfield : key ∈ fieldNames
    · exact ⟨_, applySetting_field hfield (absurd · hkey) settings, h.putField hfield hkey value⟩
    · have hwrites : writesOf (key, value) = [(key, value)] := by simp [writesOf, hkey, hfield]
      have htracks := h.putCustom (s := (key, value)) (.inr hfield)
      rw [hwrites] at htracks
      refine ⟨_, ?_, htracks⟩
      rw [applySetting_other hfield, h.custom]
      rfl

/-- A whole layer. -/
theorem Tracks.layer {layer : List (τ × Value τ)} (hlayer : ∀ s ∈ layer, displaces s = false)
    (h : Tracks done settings) :
    ∃ changed, applyLayer settings layer = .ok changed ∧ Tracks (done ++ layer) changed := by
  induction layer generalizing done settings with
  | nil => exact ⟨settings, rfl, by rwa [List.append_nil]⟩
  | cons s rest ih =>
    obtain ⟨hs, hrest⟩ := List.forall_mem_cons.mp hlayer
    obtain ⟨next, hnext, htracks⟩ := h.step hs
    obtain ⟨changed, hchanged, htracks⟩ := ih hrest htracks
    refine ⟨changed, ?_, by rwa [List.append_assoc] at htracks⟩
    rw [applyLayer_cons, hnext]
    exact hchanged

theorem Tracks.custom_eq (h : Tracks done settings) :
    (ofFields settings).custom = .obj (Value.putAll (customWrites done) []) := by
  rw [ofFields, h.custom]
  rfl

/-- Every field is found under its name. -/
theorem lookup_fields (c : Config τ) :
    Value.lookup (lit "public") c.fields = some c.isPublic ∧
    Value.lookup (lit "split_files") c.fields = some c.splitFiles ∧
    Value.lookup (lit "leading_comments") c.fields = some c.leadingComments ∧
    Value.lookup (lit "add_comments") c.fields = some c.addComments ∧
    Value.lookup (lit "line_ending") c.fields = some c.lineEnding ∧
    Value.lookup (lit "custom") c.fields = some c.custom := by
  simp [fields, fieldNames, Value.lookup]

/-- A field that is not set has its default. -/
theorem lookup_fields_ofFields {key : τ} (hfield : key ∈ fieldNames)
    (settings : List (τ × Value τ)) :
    Value.lookup key (ofFields settings).fields =
      (Value.lookup key settings).or (Value.lookup key default.fields) := by
  have hor : ∀ (given : Option (Value τ)) (v : Value τ),
      some (given.getD v) = given.or (some v) := by
    rintro (_ | _) v <;> rfl
  rcases mem_fieldNames.mp hfield with rfl | rfl | rfl | rfl | rfl | rfl <;>
    simp only [lookup_fields, ofFields, hor]

/-! ## Whole configurations -/

variable {defaults : Defaults τ} {d : Directory} {language : String} {overrides : Value τ}
  {file : Value}

/-- Loading a configuration layer by layer. -/
theorem load_eq_layers (defaults : Defaults τ) (d : Directory) (language : String)
    (overrides : Value τ) (file : Value) : load defaults d language overrides file = (do
      let withBase ← ((baseOf defaults language).bind (applyLayer noSettings)).mapError .fault
      let members ← settingsOf d file
      let withFile ← (applyLayer withBase members).mapError .fault
      let settings ← ((overridesOf overrides).bind (applyLayer withFile)).mapError .fault
      accept language (ofFields settings)) := by
  have hchanges : ∀ withFile, (if overrides.isTruthy then
      ((layerOf overrides).bind (applyLayer withFile)).mapError ConfigError.fault
      else return withFile) =
        ((overridesOf overrides).bind (applyLayer withFile)).mapError .fault := by
    intro withFile
    rw [overridesOf]
    split <;> rfl
  have hlayer : load defaults d language overrides file =
      ofLayers defaults language (layerOfFile d file) overrides := rfl
  rw [hlayer, ofLayers, settingsOfLayers, settingsOf]
  simp only [hchanges, bind_assoc]
  refine congrArg _ (funext fun withBase => ?_)
  cases layerOfFile (τ := τ) d file with
  | none => rfl
  | some read => simp only [Option.getD_some, bind_assoc]

/-- The layers of a configuration: what the defaults, the file and the overrides hold. -/
structure Layers (defaults : Defaults τ) (d : Directory) (language : String)
    (overrides : Value τ) (file : Value) (base members changes : List (τ × Value τ)) : Prop where
  base : baseOf defaults language = .ok base
  file : settingsOf d file = .ok members
  overrides : overridesOf overrides = .ok changes

variable {base members changes : List (τ × Value τ)}

/-- Layers that can be put over each other are a configuration if there is nothing wrong with it. -/
theorem Layers.load_eq (h : Layers defaults d language overrides file base members changes)
    (hall : applyLayer noSettings (base ++ members ++ changes) = .ok settings) :
    load defaults d language overrides file = accept language (ofFields settings) := by
  rw [applyLayer_append, applyLayer_append] at hall
  obtain ⟨withFile, hfile, hchanges⟩ := exists_of_bind_eq_ok hall
  obtain ⟨withBase, hbase, hmembers⟩ := exists_of_bind_eq_ok hfile
  simp only [load_eq_layers, h.base, h.file, h.overrides, Except.bind, hbase, hmembers, hchanges,
    mapError_ok, ok_bind]

/-- A configuration that is loaded was made by putting layers over each other. -/
theorem exists_layers_of_load {config : Config τ}
    (h : load defaults d language overrides file = .ok config) :
    ∃ base members changes settings,
      Layers defaults d language overrides file base members changes ∧
      applyLayer noSettings (base ++ members ++ changes) = .ok settings ∧
      accept language (ofFields settings) = .ok config := by
  rw [load_eq_layers] at h
  obtain ⟨withBase, hwithBase, h⟩ := exists_of_bind_eq_ok h
  obtain ⟨members, hmembers, h⟩ := exists_of_bind_eq_ok h
  obtain ⟨withFile, hwithFile, h⟩ := exists_of_bind_eq_ok h
  obtain ⟨settings, hsettings, h⟩ := exists_of_bind_eq_ok h
  obtain ⟨base, hbase, hwithBase⟩ := exists_of_bind_eq_ok (eq_ok_of_mapError_eq_ok hwithBase)
  obtain ⟨changes, hchanges, hsettings⟩ :=
    exists_of_bind_eq_ok (eq_ok_of_mapError_eq_ok hsettings)
  refine ⟨base, members, changes, settings, ⟨hbase, hmembers, hchanges⟩, ?_, h⟩
  rw [applyLayer_append, applyLayer_append, hwithBase]
  show (applyLayer withBase members).bind _ = _
  rw [eq_ok_of_mapError_eq_ok hwithFile]
  exact hsettings

/-- Where `custom` is an object in every layer that has it, the configuration that is loaded has for
every generic field the value of the last layer with its name, or else the default, and for every
custom setting the value of the last layer that mentions it; and there is one just if that is
valid. -/
theorem load_merged (h : Layers defaults d language overrides file base members changes)
    (hkeeps : ∀ s ∈ base ++ members ++ changes, displaces s = false) :
    ∃ merged custom,
      (∀ key ∈ fieldNames, key ≠ lit "custom" → Value.lookup key merged.fields =
        (((last? key changes).or (last? key members)).or (last? key base)).or
          (Value.lookup key default.fields)) ∧
      merged.custom = .obj custom ∧ (custom.map (·.1)).Nodup ∧
      (∀ key, Value.lookup key custom =
        ((last? key (customWrites changes)).or (last? key (customWrites members))).or
          (last? key (customWrites base))) ∧
      (merged.IsValid → load defaults d language overrides file = .ok merged) ∧
      (¬ merged.IsValid → load defaults d language overrides file =
        .error (.invalid language merged.problems)) := by
  obtain ⟨settings, hsettings, htracks⟩ := tracks_noSettings.layer hkeeps
  rw [List.nil_append] at htracks
  have hload := h.load_eq hsettings
  refine ⟨ofFields settings, _, fun key hfield hkey => ?_, htracks.custom_eq,
    Value.nodup_putAll_nil _, fun key => ?_, fun hvalid => ?_, fun hnot => ?_⟩
  · rw [lookup_fields_ofFields hfield, htracks.fields key hfield hkey, Value.last?_append,
      Value.last?_append, ← Option.or_assoc]
  · rw [Value.lookup_putAll, customWrites_append, customWrites_append, Value.last?_append,
      Value.last?_append, ← Option.or_assoc]
    exact Option.or_none
  · rw [hload, accept, (problems_eq_nil_iff _).mpr hvalid]
  · rw [hload, accept]
    split
    · next hproblems => exact absurd ((problems_eq_nil_iff _).mp hproblems) hnot
    · rfl

/-- The text of a file that sets one type under both spellings. -/
def spellingsText : String :=
  "\x7b\"int_type\": \"i32\", \"custom\": \x7b\"int_type\": \"u8\", \"tag\": 1\x7d, " ++
    "\"public\": false\x7d"

def spellings : List (String × Value) :=
  [("int_type", .str "i32"), ("custom", .obj [("int_type", .str "u8"), ("tag", .int 1)]),
    ("public", .bool false)]

theorem isExact_spellings : (Value.obj spellings).IsExact := by
  have hone : (Value.int 1 : Value).IsExact := .int (by decide)
  have hcustom : (Value.obj [("int_type", .str "u8"), ("tag", .int 1)] : Value).IsExact :=
    .obj (by decide) (by simp [Value.IsExact.str, hone])
  exact .obj (by decide) (by simp [spellings, Value.IsExact.str, Value.IsExact.bool, hcustom])

theorem load_merged_spellings : ∃ merged custom,
    load languageDefaults (.single spellingsText.toUTF8) "zig" (.obj [("tag", .int 2)])
      (.str "a.json") = .ok merged ∧ merged.isPublic = .bool false ∧ merged.custom = .obj custom ∧
    Value.lookup "int_type" custom = some (.str "u8") ∧
    Value.lookup "any_type" custom = some (.str "std.json.Value") ∧
    Value.lookup "tag" custom = some (.int 2) := by
  have hjson : Value.ofJson spellingsText = .ok (Value.obj spellings).raw := by
    have htext : spellingsText = Value.toJson none (.obj spellings) := by with_unfolding_all rfl
    rw [htext, Value.ofJson_toJson isExact_spellings]
  have hsuffix : Text.lower (Path.ofText "a.json").suffix = ".json" := by
    rw [Path.ofText_single]
    rfl
  have hfile : readFile (.single spellingsText.toUTF8) "a.json" = .ok spellings := by
    rw [readFile_eq (Directory.read_single _) hsuffix, Value.ofBytes_toUTF8 rfl, hjson]
    dsimp only
    rw [Value.ofRaw?_eq_some_iff.mpr rfl]
  have hbase : baseOf languageDefaults "zig" = .ok [("custom", .obj [("int_type", .str "i64"),
      ("float_type", .str "f64"), ("string_type", .str "[]u8"),
      ("any_type", .str "std.json.Value")])] := by rfl
  have hlayers : Layers languageDefaults (.single spellingsText.toUTF8) "zig"
      (.obj [("tag", .int 2)]) (.str "a.json") _ spellings [("tag", .int 2)] :=
    ⟨hbase, hfile, overridesOf_obj _⟩
  obtain ⟨merged, custom, hfields, hcustom, _, hlookup, hok, _⟩ := load_merged hlayers (by decide)
  have hpublic : some merged.isPublic = some (.bool false) :=
    hfields "public" (by decide) (by decide)
  have hsplit : some merged.splitFiles = some (.bool false) :=
    hfields "split_files" (by decide) (by decide)
  have hcomments : some merged.leadingComments = some .null :=
    hfields "leading_comments" (by decide) (by decide)
  have hadd : some merged.addComments = some (.bool true) :=
    hfields "add_comments" (by decide) (by decide)
  have hending : some merged.lineEnding = some (.str "\n") :=
    hfields "line_ending" (by decide) (by decide)
  have hvalid : merged.IsValid := by
    rw [Option.some.injEq] at hpublic hsplit hcomments hadd hending
    simp [IsValid, hpublic, hsplit, hcomments, hadd, hending, isLineEnding, areComments, isFlag]
  exact ⟨merged, custom, hok hvalid, Option.some.inj hpublic, hcustom, hlookup "int_type",
    hlookup "any_type", hlookup "tag"⟩

end ZigDecl.Config
