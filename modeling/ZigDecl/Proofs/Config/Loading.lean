import ZigDecl.Config.Saved
import ZigDecl.Proofs.Steps
import ZigDecl.Proofs.Value.Bytes
import ZigDecl.Proofs.Value.Raw

/-! # Configurations that are loaded

The custom settings start out as an object, and a layer can put any other value in their place. The
settings behind it that need an object there then end in a fault, and without such settings the
other value stays. Main statement: which faults there are when a configuration is loaded, and that
otherwise a configuration that is returned is valid and has an object for its custom settings,
unless something else was put there. -/

namespace ZigDecl.Config

open TextLike (lit)

variable {τ : Type} [TextLike τ]

/-! ## What is read -/

/-- What is read from the bytes of a configuration file. -/
theorem readFile_eq {d : Directory} {name : String} {bytes : ByteArray}
    (hread : d.read (Path.ofText name) = .ok bytes)
    (hsuffix : Text.lower (Path.ofText name).suffix = ".json") :
    readFile (τ := τ) d name = match Value.ofBytes bytes with
      | .ok document =>
        match Value.ofRaw? document with
        | some (.obj members) => .ok members
        | some _ => .error (.notAnObject (Path.ofText name).toText)
        | none => .error (.fault .noString)
      | .error (some f) => .error (.fault f)
      | .error none => .error (.invalidJson (Path.ofText name).toText) := by
  have hjson : (Text.lower (Path.ofText name).suffix != ".json") = false := by
    rw [hsuffix]
    rfl
  unfold readFile Value.ofBytes
  simp only [hread, hjson, Bool.false_eq_true, if_false]
  cases String.fromUTF8? bytes with
  | none => rfl
  | some text =>
    dsimp only
    rcases Value.ofJson text with ⟨_ | _⟩ | v <;> rfl

/-- Any texts that a file spells are read. -/
theorem readFile_rawText {d : Directory} {name : String} {bytes : ByteArray}
    (hread : d.read (Path.ofText name) = .ok bytes)
    (hsuffix : Text.lower (Path.ofText name).suffix = ".json") :
    readFile d name = match Value.ofBytes bytes with
      | .ok (.obj members) => .ok members
      | .ok _ => .error (.notAnObject (Path.ofText name).toText)
      | .error (some f) => .error (.fault f)
      | .error none => .error (.invalidJson (Path.ofText name).toText) := by
  rw [readFile_eq hread hsuffix]
  rcases Value.ofBytes bytes with ⟨_ | f⟩ | v
  · rfl
  · rfl
  · dsimp only
    rw [Value.ofRaw?_rawText]
    cases v <;> rfl

/-! ## The names of fields -/

theorem mem_fieldNames {key : τ} : key ∈ fieldNames ↔
    key = lit "public" ∨ key = lit "split_files" ∨ key = lit "leading_comments" ∨
      key = lit "add_comments" ∨ key = lit "line_ending" ∨ key = lit "custom" := by
  simp [fieldNames]

theorem custom_mem_fieldNames : (lit "custom" : τ) ∈ fieldNames := by simp [fieldNames]

theorem nodup_fieldNames : (fieldNames : List τ).Nodup := by simp [fieldNames]

/-- All fields but the custom settings are generic. -/
theorem mem_genericNames {key : τ} :
    key ∈ fieldNames.take 5 ↔ key ∈ fieldNames ∧ key ≠ lit "custom" := by
  rw [mem_fieldNames]
  simp only [fieldNames, List.map_cons, List.take_succ_cons, List.take_zero, List.mem_cons,
    List.not_mem_nil, or_false]
  constructor
  · rintro (rfl | rfl | rfl | rfl | rfl) <;> simp
  · rintro ⟨rfl | rfl | rfl | rfl | rfl | rfl, hne⟩ <;> simp at hne ⊢

theorem keys_generic (config : Config τ) :
    (config.fields.take 5).map (·.1) = fieldNames.take 5 := rfl

/-- The default settings of Zig. -/
def zigSettings : List (τ × Value τ) :=
  [(lit "int_type", .str (lit "i64")), (lit "float_type", .str (lit "f64")),
    (lit "string_type", .str (lit "[]u8")), (lit "any_type", .str (lit "std.json.Value"))]

/-- No default setting has the name of a field. -/
theorem not_mem_zigSettings (key : τ) (hfield : key ∈ fieldNames) :
    key ∉ (zigSettings : List (τ × Value τ)).map (·.1) := by
  rcases mem_fieldNames.mp hfield with rfl | rfl | rfl | rfl | rfl | rfl <;> simp [zigSettings]

theorem nodup_zigSettings : ((zigSettings : List (τ × Value τ)).map (·.1)).Nodup := by
  simp [zigSettings]

variable [DecidableEq τ]

/-! ## Settings that displace others -/

/-- Whether a value is an object. -/
def isObject : Value τ → Bool
  | .obj _ => true
  | _ => false

/-- Whether a setting puts anything but an object in the place of the custom settings. -/
def displaces (setting : τ × Value τ) : Bool := setting.1 == lit "custom" && !isObject setting.2

/-- The fault of a setting that needs the custom settings, if they are no object. -/
def needed? (setting : τ × Value τ) : Option Fault :=
  if setting.1 == lit "custom" then if isObject setting.2 then some .missingOperation else none
  else if setting.1 ∈ fieldNames then none else some .wrongType

theorem displaces_custom (value : Value τ) : displaces (lit "custom", value) = !isObject value := by
  simp [displaces]

theorem needed?_custom (value : Value τ) : needed? (lit "custom", value) =
    if isObject value then some .missingOperation else none := by
  simp [needed?]

theorem needed?_of_displaces {s : τ × Value τ} (h : displaces s = true) : needed? s = none := by
  obtain ⟨hkey, hvalue⟩ : s.1 = lit "custom" ∧ isObject s.2 = false := by simpa [displaces] using h
  simp [needed?, hkey, hvalue]

/-- The fault that settings one over the other end in: that of the first one that needs the custom
settings after they were displaced. -/
def clash? (settings : List (τ × Value τ)) : Option Fault :=
  (settings.dropWhile fun s => !displaces s).findSome? needed?

/-- Whether the custom settings are an object. -/
def HasCustom (settings : List (τ × Value τ)) (whole : Bool) : Prop :=
  ∃ custom, Value.lookup (lit "custom") settings = some custom ∧ isObject custom = whole

theorem hasCustom_noSettings : HasCustom (noSettings : List (τ × Value τ)) true :=
  ⟨.obj [], by simp [noSettings, Value.lookup], rfl⟩

theorem hasCustom_put_self {custom : Value τ} (settings : List (τ × Value τ)) :
    HasCustom (Value.put (lit "custom") custom settings) (isObject custom) :=
  ⟨custom, Value.lookup_put_self .., rfl⟩

theorem HasCustom.put {settings : List (τ × Value τ)} {whole : Bool}
    (h : HasCustom settings whole) {key : τ} (hkey : lit "custom" ≠ key) (value : Value τ) :
    HasCustom (Value.put key value settings) whole := by
  obtain ⟨custom, hcustom, hwhole⟩ := h
  exact ⟨custom, (Value.lookup_put_ne hkey value settings).trans hcustom, hwhole⟩

/-! ## One setting -/

/-- Settings under `custom` are merged into those that are there. -/
theorem applySetting_merge (settings members : List (τ × Value τ)) :
    applySetting settings (lit "custom") (.obj members) =
      match (Value.lookup (lit "custom") settings).getD .null with
      | .obj present =>
        .ok (Value.put (lit "custom") (.obj (Value.putAll members present)) settings)
      | _ => .error .missingOperation := by
  cases hcustom : (Value.lookup (lit "custom") settings).getD .null <;>
    simp [applySetting, hcustom]

/-- A setting that is not merged and has the name of a field takes the place of what was there. -/
theorem applySetting_field {key : τ} (hfield : key ∈ fieldNames) {value : Value τ}
    (hmerge : key = lit "custom" → isObject value = false) (settings : List (τ × Value τ)) :
    applySetting settings key value = .ok (Value.put key value settings) := by
  unfold applySetting
  split
  · next members hkey => cases hmerge (by simpa using hkey)
  · rw [if_pos (by simpa using hfield)]

/-- Any other setting is put into the custom settings. -/
theorem applySetting_other {key : τ} (hfield : key ∉ fieldNames) (value : Value τ)
    (settings : List (τ × Value τ)) :
    applySetting settings key value =
      match (Value.lookup (lit "custom") settings).getD .null with
      | .obj present => .ok (Value.put (lit "custom") (.obj (Value.put key value present)) settings)
      | _ => .error .wrongType := by
  unfold applySetting
  split
  · next members hkey =>
    obtain rfl : key = lit "custom" := by simpa using hkey
    exact (hfield custom_mem_fieldNames).elim
  · exact if_neg (by simpa using hfield)

/-- As long as the custom settings are an object, no setting is refused. -/
theorem applySetting_of_object {settings : List (τ × Value τ)} (h : HasCustom settings true)
    (s : τ × Value τ) : ∃ changed, applySetting settings s.1 s.2 = .ok changed ∧
      HasCustom changed !displaces s := by
  obtain ⟨key, value⟩ := s
  obtain ⟨custom, hcustom, hwhole⟩ := id h
  cases custom with
  | obj present =>
    by_cases hfield : key ∈ fieldNames
    · by_cases hkey : key = lit "custom"
      · subst hkey
        rw [displaces_custom, Bool.not_not]
        cases value with
        | obj members =>
          refine ⟨Value.put (lit "custom") (.obj (Value.putAll members present)) settings, ?_,
            hasCustom_put_self settings⟩
          rw [applySetting_merge, hcustom]
          rfl
        | _ =>
          exact ⟨_, applySetting_field hfield (fun _ => rfl) settings, hasCustom_put_self settings⟩
      · have hkept : displaces (key, value) = false := by simp [displaces, hkey]
        rw [hkept]
        exact ⟨_, applySetting_field hfield (absurd · hkey) settings, h.put (Ne.symm hkey) value⟩
    · have hkept : displaces (key, value) = false := by
        have hkey : key ≠ lit "custom" := fun heq => hfield (heq ▸ custom_mem_fieldNames)
        simp [displaces, hkey]
      rw [hkept]
      refine ⟨Value.put (lit "custom") (.obj (Value.put key value present)) settings, ?_,
        hasCustom_put_self settings⟩
      rw [applySetting_other hfield, hcustom]
      rfl
  | _ => cases hwhole

/-- Without such an object, a setting that needs it ends in a fault. -/
theorem applySetting_of_displaced {settings : List (τ × Value τ)} (h : HasCustom settings false)
    (s : τ × Value τ) :
    match needed? s with
    | some f => applySetting settings s.1 s.2 = .error f
    | none => ∃ changed, applySetting settings s.1 s.2 = .ok changed ∧ HasCustom changed false := by
  obtain ⟨key, value⟩ := s
  obtain ⟨custom, hcustom, hwhole⟩ := id h
  by_cases hkey : key = lit "custom"
  · subst hkey
    rw [needed?_custom]
    cases value with
    | obj members =>
      show applySetting settings (lit "custom") (.obj members) = .error .missingOperation
      rw [applySetting_merge, hcustom]
      cases custom with
      | obj present => cases hwhole
      | _ => rfl
    | _ =>
      exact ⟨_, applySetting_field custom_mem_fieldNames (fun _ => rfl) settings,
        hasCustom_put_self settings⟩
  · by_cases hfield : key ∈ fieldNames
    · have hneeded : needed? (key, value) = none := by simp [needed?, hkey, hfield]
      rw [hneeded]
      exact ⟨_, applySetting_field hfield (absurd · hkey) settings, h.put (Ne.symm hkey) value⟩
    · have hneeded : needed? (key, value) = some .wrongType := by simp [needed?, hkey, hfield]
      rw [hneeded]
      show applySetting settings key value = .error .wrongType
      rw [applySetting_other hfield, hcustom]
      cases custom with
      | obj present => cases hwhole
      | _ => rfl

/-! ## A layer of settings -/

theorem clash?_cons_of_displaces {s : τ × Value τ} (h : displaces s = true)
    (rest : List (τ × Value τ)) : clash? (s :: rest) = rest.findSome? needed? := by
  rw [clash?, List.dropWhile_cons_of_neg (by simp [h]), List.findSome?_cons,
    needed?_of_displaces h]

theorem clash?_cons_of_not {s : τ × Value τ} (h : displaces s = false)
    (rest : List (τ × Value τ)) : clash? (s :: rest) = clash? rest := by
  rw [clash?, List.dropWhile_cons_of_pos (by simp [h]), clash?]

theorem applyLayer_cons (settings : List (τ × Value τ)) (s : τ × Value τ)
    (rest : List (τ × Value τ)) :
    applyLayer settings (s :: rest) = (applySetting settings s.1 s.2).bind (applyLayer · rest) :=
  List.foldlM_cons

/-- Once the custom settings were displaced they are never an object again: a setting that would
make them one needs them to be one. -/
theorem applyLayer_of_displaced {layer settings : List (τ × Value τ)}
    (h : HasCustom settings false) :
    match layer.findSome? needed? with
    | some f => applyLayer settings layer = .error f
    | none => ∃ changed, applyLayer settings layer = .ok changed ∧ HasCustom changed false := by
  induction layer generalizing settings with
  | nil => exact ⟨settings, rfl, h⟩
  | cons s rest ih =>
    have hs := applySetting_of_displaced h s
    rw [List.findSome?_cons]
    cases hneeded : needed? s with
    | some f =>
      rw [hneeded] at hs
      show applyLayer settings (s :: rest) = .error f
      rw [applyLayer_cons, hs]
      rfl
    | none =>
      rw [hneeded] at hs
      obtain ⟨changed, hchanged, hcustom⟩ := hs
      rw [applyLayer_cons, hchanged]
      exact ih hcustom

/-- Settings are put over each other unless one of them needs the custom settings after they were
displaced, and the custom settings stay an object unless they are displaced. -/
theorem applyLayer_of_object {settings : List (τ × Value τ)} (h : HasCustom settings true)
    (layer : List (τ × Value τ)) :
    match clash? layer with
    | some f => applyLayer settings layer = .error f
    | none => ∃ changed, applyLayer settings layer = .ok changed ∧
        HasCustom changed (layer.all fun s => !displaces s) := by
  induction layer generalizing settings with
  | nil => exact ⟨settings, rfl, h⟩
  | cons s rest ih =>
    obtain ⟨changed, hchanged, hcustom⟩ := applySetting_of_object h s
    rw [applyLayer_cons, hchanged, List.all_cons]
    cases hs : displaces s with
    | true =>
      rw [clash?_cons_of_displaces hs]
      rw [hs] at hcustom
      exact applyLayer_of_displaced hcustom
    | false =>
      rw [clash?_cons_of_not hs, Bool.not_false, Bool.true_and]
      rw [hs] at hcustom
      exact ih hcustom

theorem applyLayer_append {settings first : List (τ × Value τ)} (second : List (τ × Value τ)) :
    applyLayer settings (first ++ second) =
      (applyLayer settings first).bind (applyLayer · second) :=
  List.foldlM_append

/-! ## Whole configurations -/

theorem lookup_zig : Value.lookup (lit "zig") languageDefaults =
    some (.obj [(lit "custom", .obj (zigSettings : List (τ × Value τ)))]) := by
  simp [languageDefaults, Value.lookup, zigSettings]

/-- The defaults of a language leave an object for its custom settings. -/
def KeepsCustom (defaults : Defaults τ) (language : String) : Prop :=
  ∃ base, layerOf ((Value.lookup (lit (Text.lower language)) defaults).getD (.obj [])) = .ok base ∧
    ∀ s ∈ base, displaces s = false

theorem keepsCustom_languageDefaults (language : String) :
    KeepsCustom (τ := τ) languageDefaults language := by
  by_cases hzig : Text.lower language = "zig"
  · refine ⟨[(lit "custom", .obj zigSettings)], by rw [hzig, lookup_zig]; rfl, ?_⟩
    simp [displaces_custom, isObject]
  · refine ⟨[], ?_, nofun⟩
    simp [languageDefaults, Value.lookup, Ne.symm hzig, layerOf]

theorem clash?_eq_none {layer : List (τ × Value τ)} (h : ∀ s ∈ layer, displaces s = false) :
    clash? layer = none := by
  induction layer with
  | nil => rfl
  | cons s rest ih =>
    obtain ⟨hs, hrest⟩ := List.forall_mem_cons.mp h
    rw [clash?_cons_of_not hs, ih hrest]

variable {defaults : Defaults τ} {language : String}

/-- What a file and overrides make of the defaults of a language. -/
theorem settingsOfLayers_eq (h : KeepsCustom defaults language)
    (overrides : List (τ × Value τ)) :
    ∃ base, HasCustom base true ∧ ∀ read,
      settingsOfLayers defaults language (some read) (.obj overrides) =
        read.bind fun members => (applyLayer base (members ++ overrides)).mapError .fault := by
  obtain ⟨layer, hlayer, hkeeps⟩ := h
  have happly := applyLayer_of_object hasCustom_noSettings layer
  rw [clash?_eq_none hkeeps] at happly
  obtain ⟨base, hbase, hcustom⟩ := happly
  rw [List.all_eq_true.mpr (by simpa using hkeeps)] at hcustom
  refine ⟨base, hcustom, fun read => ?_⟩
  rw [settingsOfLayers, hlayer, Except.bind, hbase]
  cases read with
  | error e => rfl
  | ok members =>
    show (do
      let withFile ← (applyLayer base members).mapError .fault
      if (Value.obj overrides).isTruthy then
        ((layerOf (.obj overrides)).bind (applyLayer withFile)).mapError .fault
      else return withFile) = (applyLayer base (members ++ overrides)).mapError ConfigError.fault
    rw [applyLayer_append]
    cases applyLayer base members with
    | error f => rfl
    | ok settings =>
      -- Empty overrides do not count, and putting them over the settings would change nothing.
      cases overrides <;> rfl

/-! ## Configurations from files -/

variable {defaults : Defaults RawText} {d : Directory} {name : String} {bytes : ByteArray}

theorem ne_empty_of_suffix (hsuffix : Text.lower (Path.ofText name).suffix = ".json") :
    name ≠ "" := by
  rintro rfl
  have hempty : Text.lower (Path.ofText "").suffix = "" := by
    rw [Path.ofText_empty]
    rfl
  rw [hempty] at hsuffix
  exact absurd hsuffix (by decide)

/-- The ways in which loading a configuration ends in a fault: the bytes of the file are garbled, or
a setting of the file or of the overrides needs the custom settings after they were displaced. -/
inductive Escapes (bytes : ByteArray) (overrides : List (RawText × Value RawText)) : Fault → Prop
  | garbled {f : Fault} (h : Value.Garbled bytes f) : Escapes bytes overrides f
  | clash {members : List (RawText × Value RawText)} {f : Fault}
      (hbytes : (Value.obj members).SpelledBy bytes) (h : clash? (members ++ overrides) = some f) :
      Escapes bytes overrides f

theorem load_eq (h : KeepsCustom defaults language) (hread : d.read (Path.ofText name) = .ok bytes)
    (hsuffix : Text.lower (Path.ofText name).suffix = ".json")
    (overrides : List (RawText × Value RawText)) :
    let outcome := load defaults d language (.obj overrides) (.str name)
    match Value.ofBytes bytes with
    | .ok (.obj members) =>
      match clash? (members ++ overrides) with
      | some f => outcome = .error (.fault f)
      | none => ∃ settings, outcome = accept language (ofFields settings) ∧
          HasCustom settings ((members ++ overrides).all fun s => !displaces s)
    | .ok _ => outcome = .error (.notAnObject (Path.ofText name).toText)
    | .error (some f) => outcome = .error (.fault f)
    | .error none => outcome = .error (.invalidJson (Path.ofText name).toText) := by
  obtain ⟨base, hcustom, hlayers⟩ := settingsOfLayers_eq h overrides
  have hname : name ≠ "" := ne_empty_of_suffix hsuffix
  have houtcome : load defaults d language (.obj overrides) (.str name) =
      ((readFile d name).bind fun members => (applyLayer base (members ++ overrides)).mapError
        ConfigError.fault).bind fun settings => accept language (ofFields settings) := by
    rw [← hlayers]
    simp only [load, beq_iff_eq, hname, if_false]
    rfl
  rw [houtcome, readFile_rawText hread hsuffix]
  rcases Value.ofBytes bytes with ⟨_ | f⟩ | v
  · rfl
  · rfl
  · cases v with
    | obj members =>
      have happly := applyLayer_of_object hcustom (members ++ overrides)
      cases hclash : clash? (members ++ overrides) with
      | some f =>
        rw [hclash] at happly
        simp only [Except.bind, happly, hclash]
        rfl
      | none =>
        rw [hclash] at happly
        obtain ⟨settings, hsettings, hcustom⟩ := happly
        simp only [Except.bind, hsettings, hclash]
        exact ⟨settings, rfl, hcustom⟩
    | _ => rfl

theorem escapes_iff {overrides : List (RawText × Value RawText)} {f : Fault} :
    Escapes bytes overrides f ↔ Value.ofBytes bytes = .error (some f) ∨
      ∃ members, Value.ofBytes bytes = .ok (.obj members) ∧
        clash? (members ++ overrides) = some f := by
  constructor
  · intro h
    cases h with
    | garbled h => exact .inl (Value.garbled_iff.mp h)
    | clash hbytes h => exact .inr ⟨_, Value.spelledBy_iff.mp hbytes, h⟩
  · rintro (h | ⟨members, hbytes, h⟩)
    · exact .garbled (Value.garbled_iff.mpr h)
    · exact .clash (Value.spelledBy_iff.mpr hbytes) h

/-- Settings are accepted just if there is nothing wrong with them. -/
theorem accept_cases (language : String) {settings : List (RawText × Value RawText)} {whole : Bool}
    (h : HasCustom settings whole) :
    (∃ problems, problems ≠ [] ∧
      accept language (ofFields settings) = .error (.invalid language problems)) ∨
    ∃ config, accept language (ofFields settings) = .ok config ∧ config.problems = [] ∧
      isObject config.custom = whole := by
  obtain ⟨custom, hcustom, hwhole⟩ := h
  rw [accept]
  split
  · next hproblems =>
    refine .inr ⟨_, rfl, hproblems, ?_⟩
    rw [ofFields, hcustom]
    exact hwhole
  · next hproblems => exact .inl ⟨_, hproblems, rfl⟩

theorem load_eq_fault_iff (h : KeepsCustom defaults language)
    (hread : d.read (Path.ofText name) = .ok bytes)
    (hsuffix : Text.lower (Path.ofText name).suffix = ".json")
    {overrides : List (RawText × Value RawText)} {f : Fault} :
    load defaults d language (.obj overrides) (.str name) = .error (.fault f) ↔
      Escapes bytes overrides f := by
  have heq := load_eq h hread hsuffix overrides
  rw [escapes_iff]
  rcases hbytes : Value.ofBytes bytes with ⟨_ | f'⟩ | v
  · simp only [hbytes] at heq
    simp [heq]
  · simp only [hbytes] at heq
    simp [heq]
  · cases v with
    | obj members =>
      cases hclash : clash? (members ++ overrides) with
      | some f' =>
        simp only [hbytes, hclash] at heq
        simp [heq, hclash]
      | none =>
        simp only [hbytes, hclash] at heq
        obtain ⟨settings, hsettings, hcustom⟩ := heq
        rcases accept_cases language hcustom with ⟨_, _, haccept⟩ | ⟨_, haccept, _⟩
          <;> simp [hsettings, haccept, hclash]
    | _ =>
      simp only [hbytes] at heq
      simp [heq]

/-- Without a fault, the text of a file is refused, or the settings are, or there is a valid
configuration. -/
theorem load_cases (h : KeepsCustom defaults language)
    (hread : d.read (Path.ofText name) = .ok bytes)
    (hsuffix : Text.lower (Path.ofText name).suffix = ".json")
    {overrides : List (RawText × Value RawText)} (hnone : ∀ f, ¬ Escapes bytes overrides f) :
    let path := (Path.ofText name).toText
    let outcome := load defaults d language (.obj overrides) (.str name)
    outcome = .error (.invalidJson path) ∨ outcome = .error (.notAnObject path) ∨
      ∃ members, (Value.obj members).SpelledBy bytes ∧
        ((∃ problems, problems ≠ [] ∧ outcome = .error (.invalid language problems)) ∨
          ∃ config, outcome = .ok config ∧ config.problems = [] ∧
            (isObject config.custom = true ↔ ∀ s ∈ members ++ overrides, displaces s = false)) := by
  have heq := load_eq h hread hsuffix overrides
  have hfault := fun f => mt (load_eq_fault_iff h hread hsuffix).mp (hnone f)
  intro path outcome
  cases hbytes : Value.ofBytes bytes with
  | error reason =>
    rw [hbytes] at heq
    cases reason with
    | none => exact .inl heq
    | some f => exact (hfault f heq).elim
  | ok v =>
    rw [hbytes] at heq
    cases v with
    | obj members =>
      cases hclash : clash? (members ++ overrides) with
      | some f =>
        simp only [hclash] at heq
        exact (hfault f heq).elim
      | none =>
        simp only [hclash] at heq
        obtain ⟨settings, hsettings, hcustom⟩ := heq
        refine .inr (.inr ⟨members, Value.spelledBy_iff.mpr hbytes, ?_⟩)
        rcases accept_cases language hcustom with
          ⟨problems, hproblems, hrefused⟩ | ⟨config, hok, hvalid, hwhole⟩
        · exact .inl ⟨problems, hproblems, hsettings.trans hrefused⟩
        · refine .inr ⟨config, hsettings.trans hok, hvalid, ?_⟩
          simp only [hwhole, List.all_eq_true, Bool.not_eq_true']
    | _ => exact .inr (.inl heq)

/-- Loading a configuration from a file ends in a fault just if `Escapes` says so. Otherwise the
text of the file is refused, or the settings are, or the configuration is valid; and then its custom
settings are an object unless they were displaced. -/
theorem load_outcome (h : KeepsCustom defaults language)
    (hread : d.read (Path.ofText name) = .ok bytes)
    (hsuffix : Text.lower (Path.ofText name).suffix = ".json")
    (overrides : List (RawText × Value RawText)) :
    let path := (Path.ofText name).toText
    let outcome := load defaults d language (.obj overrides) (.str name)
    (∀ f, outcome = .error (.fault f) ↔ Escapes bytes overrides f) ∧
    ((∀ f, ¬ Escapes bytes overrides f) →
      outcome = .error (.invalidJson path) ∨ outcome = .error (.notAnObject path) ∨
      ∃ members, (Value.obj members).SpelledBy bytes ∧
        ((∃ problems, problems ≠ [] ∧ outcome = .error (.invalid language problems)) ∨
          ∃ config, outcome = .ok config ∧ config.problems = [] ∧
            (isObject config.custom = true ↔ ∀ s ∈ members ++ overrides, displaces s = false))) :=
  ⟨fun _ => load_eq_fault_iff h hread hsuffix, load_cases h hread hsuffix⟩

/-- The text of a file with two keys that are halves of surrogate pairs, the second one behind a
number for the custom settings. -/
def halvesText : String := "\x7b\"\\ud800\": 1, \"custom\": 5, \"\\ud801\": 2\x7d"

/-- A test for settings that end in a fault. -/
def isClash : Value RawText → Bool
  | .obj members => clash? members = some .wrongType
  | _ => false

/-- Bytes that are no text end in a fault, and so does a setting behind something else for the
custom settings, be it in the overrides or in the file. -/
theorem load_outcome_garbled :
    load (languageDefaults : Defaults RawText) (.single ⟨#[0x7b, 0x22, 0xff, 0x22, 0x7d]⟩) "zig"
      (.obj []) (.str "a.json") = .error (.fault .badEncoding) ∧
    load (languageDefaults : Defaults RawText) (.single "\x7b\x7d".toUTF8) "zig"
      (.obj [(lit "custom", .null), (lit "indent", .int 2)]) (.str "a.json") =
        .error (.fault .wrongType) ∧
    load (languageDefaults : Defaults RawText) (.single halvesText.toUTF8) "zig" (.obj [])
      (.str "a.json") = .error (.fault .wrongType) := by
  have hkeeps : KeepsCustom (languageDefaults : Defaults RawText) "zig" :=
    keepsCustom_languageDefaults "zig"
  have hsuffix : Text.lower (Path.ofText "a.json").suffix = ".json" := by
    rw [Path.ofText_single]
    rfl
  refine ⟨?_, ?_, ?_⟩
  · have hgarbled : String.fromUTF8? ⟨#[0x7b, 0x22, 0xff, 0x22, 0x7d]⟩ = none := by
      with_unfolding_all rfl
    refine ((load_outcome hkeeps (Directory.read_single _) hsuffix []).1 _).mpr ?_
    exact .garbled (.encoding (Value.fromUTF8?_eq_none_iff.mp hgarbled))
  · have hempty : Value.ofJson "\x7b\x7d" = .ok (.obj []) := by rfl
    refine ((load_outcome hkeeps (Directory.read_single _) hsuffix _).1 _).mpr ?_
    exact .clash ⟨_, rfl, hempty⟩ rfl
  · obtain ⟨v, hhalves, hclash⟩ : ∃ v, Value.ofJson halvesText = .ok v ∧ isClash v = true :=
      exists_of_any (by decide +kernel)
    refine ((load_outcome hkeeps (Directory.read_single _) hsuffix _).1 _).mpr ?_
    cases v with
    | obj members =>
      have hmembers : clash? members = some .wrongType := of_decide_eq_true hclash
      exact .clash ⟨_, rfl, hhalves⟩ (by rwa [List.append_nil])
    | _ => cases hclash

end ZigDecl.Config
